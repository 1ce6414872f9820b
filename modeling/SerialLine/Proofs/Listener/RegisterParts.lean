import SerialLine.Proofs.Listener.FailedRegister
import SerialLine.Proofs.Listener.FailedLaunch

/-!
# SerialLine.Proofs.Listener.RegisterParts — a registration and its parts

A registration takes a seat for a descriptor in one go, on a slot that it makes if there is none. A
client can do the same in three calls: acquire a slot, start the listener on it, and give the slot
back if that has failed. `Parts` is such a client. Each of the two has its own rule for finding and
making slots, and `Registry.reserveFor_eq` says that the rules agree.

`Parts.Stands` and `Parts.Follows` say where the one stands while the other goes on, each way round,
and `Scene.Reachable.register_parts` that the two come to the same.
-/

namespace SerialLine

/-- Where a client stands that registers a listener in three calls of its own. -/
inductive Parts where
  /-- About to acquire a slot. -/
  | acquiring (fd : Fd) (l : Listener)
  /-- At the start of the listener on the slot. -/
  | starting (s : SlotId) (p : Call.Position)
  /-- About to give the slot back, since the start has failed. -/
  | releasing (s : SlotId) (e : Error)
  | finished (result : Outcome SlotId)

namespace Call.Position

/-- Where a start stands that does the same as a registration. -/
def asStart : Position → Position
  | .spawning s l _ => .spawning s l false
  | .hearing s k t _ => .hearing s k t false
  | .dismissing s k t e _ => .dismissing s k t e false
  | .freeing s k e _ => .freeing s k e false
  | .givingBack _ e => .finished (.error e)
  | p => p

/-- Whether a registration stands where it keeps a seat on a slot. -/
def Registers (s : SlotId) (p : Position) : Prop :=
  (∃ k t?, p.holding? = some ⟨s, k, .starting, t?⟩) ∧ p.givesBack = true

end Call.Position

namespace Call

variable {p p' : Position} {w w' : Listening} {s : SlotId}

/-- A registration and a start take the same steps while they keep their seat. -/
theorem step_asStart (hp : p.Registers s) (w : Listening) :
    step p.asStart w = (step p w).map fun (p, w) => (p.asStart, w) := by
  obtain ⟨⟨k, t?, hhold⟩, hgive⟩ := hp
  cases p with
  | spawning s l giveBack =>
    simp only [Position.asStart, step]
    rcases w.crew.spawn (l.thread (w.registry.fdOf s) w.registry.settings) with ⟨_ | _, _⟩ <;> rfl
  | hearing s k t giveBack =>
    simp only [Position.asStart, step]
    rcases w.crew.report? t with _ | _ | _ <;> rfl
  | dismissing s k t e giveBack =>
    simp only [Position.asStart, step]
    split <;> rfl
  | recording => rfl
  | freeing s k e giveBack =>
    obtain rfl : giveBack = true := hgive
    rfl
  | _ => cases hhold

/-- A registration that keeps its seat goes on so, gives its slot back, or succeeds. -/
theorem Edge.registers (he : Edge w p p' w') (hp : p.Registers s) :
    p'.Registers s ∨ (∃ e, p' = .givingBack s e) ∨ p' = .finished (.ok s) := by
  obtain ⟨⟨k, t?, hhold⟩, hgive⟩ := hp
  have hgive' := he.givesBack hgive
  cases he with
  | spawned | unspawned | heard | misheard | dismissed =>
    cases hhold
    exact .inl ⟨⟨_, _, rfl⟩, hgive'⟩
  | recorded =>
    cases hhold
    exact .inr (.inr rfl)
  | freed =>
    cases hhold
    obtain rfl : _ = true := hgive
    exact .inr (.inl ⟨_, rfl⟩)
  | _ => cases hhold

theorem Position.Registers.result? (hp : p.Registers s) : p.asStart.result? = none := by
  obtain ⟨⟨k, t?, hhold⟩, -⟩ := hp
  cases p with
  | spawning | hearing | dismissing | recording | freeing => rfl
  | _ => cases hhold

end Call

namespace Parts

/-- The next step of such a client. -/
def step : Parts → Listening → Option (Parts × Listening)
  | acquiring fd l, w =>
    match w.registry.acquire fd with
    | (.ok s, r) => some (starting s (.starting s l), { w with registry := r })
    | (.error e, r) => some (finished (.error e), { w with registry := r })
  | starting s p, w =>
    match p.result? with
    | some (.ok s) => some (finished (.ok s), w)
    | some (.error e) => some (releasing s e, w)
    | none => (Call.step p w).map fun (p, w) => (starting s p, w)
  | releasing s e, w => some (finished (.error e), { w with registry := w.registry.release s })
  | finished _, _ => none

/-- Where such a client may stand, and what it may have made of the registry and its threads, as
long as nobody else goes to the registry. -/
inductive Alone (q : Parts) (w : Listening) : Parts → Listening → Prop where
  | refl : Alone q w q w
  | own {q' q'' : Parts} {w' w'' : Listening} (h : Alone q w q' w')
    (hstep : q'.step w' = some (q'', w'')) : Alone q w q'' w''
  | thread {q' : Parts} {w' : Listening} {crew : Crew} (e : Crew.Event) (h : Alone q w q' w')
    (hevent : w'.crew.after? e = some crew) : Alone q w q' { w' with crew }
  | outside {q' : Parts} {w' : Listening} (host : Host) (gates : List (Fd × Gate))
    (h : Alone q w q' w') : Alone q w q' (w'.mapCrew fun c => { c with host, gates })

variable {q q' q'' : Parts} {w w' w'' : Listening} {p p' : Call.Position} {r : Registry}
  {fd : Fd} {l : Listener}

theorem step_starting {s : SlotId} (hp : p.Registers s) (hstep : Call.step p w = some (p', w')) :
    (starting s p.asStart).step w = some (starting s p'.asStart, w') := by
  simp only [step, hp.result?, Call.step_asStart hp, hstep, Option.map_some]

/-! ## What a registration does its parts do -/

/-- Where its parts stand when a registration stands somewhere. -/
inductive Stands : Call.Position → Parts → Prop where
  | asking (fd : Fd) (l : Listener) : Stands (.registering fd l) (.acquiring fd l)
  | keeping {s : SlotId} {p : Call.Position} (hp : p.Registers s) :
    Stands p (.starting s p.asStart)
  | leaving (s : SlotId) (e : Error) : Stands (.givingBack s e) (.releasing s e)
  | answered (result : Outcome SlotId) : Stands (.finished result) (.finished result)

/-- A slot that was acquired is in the table, so a start on it is not refused for another reason
than its seat. -/
theorem reserveOn_acquired {s : SlotId} (hr : w.registry.Sound)
    (hacq : w.registry.acquire fd = (.ok s, r)) (k : ListenerKind) :
    r.reserveOn s k = r.reserve s k := by
  rw [Registry.reserveOn, if_pos (Registry.acquired_current hr hacq).1]

/-- Every step of a registration is one or more steps of its parts. -/
theorem Stands.step {q₀ : Parts} {w₀ : Listening} (hp : Stands p q) (hr : w.registry.Sound)
    (hstep : Call.step p w = some (p', w')) (h : Alone q₀ w₀ q w) :
    ∃ q', Alone q₀ w₀ q' w' ∧ Stands p' q' := by
  cases hp with
  | asking fd l =>
    cases Call.step_edge hstep with
    | @taken _ _ s r hacq hidle =>
      have hacquire : (acquiring fd l).step w =
          some (starting s (.starting s l), { w with registry := r }) := by
        simp only [Parts.step, hacq]
      have hreserve : r.reserveOn s l.kind = .ok (r.setSeat s l.kind .starting) := by
        rw [reserveOn_acquired hr hacq, Registry.reserve, if_pos hidle]
      have hstart : (starting s (.starting s l)).step { w with registry := r } =
          some (starting s (.spawning s l false),
            { w with registry := r.setSeat s l.kind .starting }) := by
        simp only [Parts.step, Call.Position.result?, Call.step, hreserve]
        rfl
      have hkeeps : (Call.Position.spawning s l true).Registers s := ⟨⟨_, _, rfl⟩, rfl⟩
      exact ⟨_, (h.own hacquire).own hstart, .keeping hkeeps⟩
    | @occupied _ _ s hslot hbusy =>
      have hacq : w.registry.acquire fd = (.ok s, w.registry) := by
        simp [Registry.acquire, hslot]
      have hacquire : (acquiring fd l).step w = some (starting s (.starting s l), w) := by
        simp only [Parts.step, hacq]
      have hreserve : w.registry.reserveOn s l.kind =
          .error (.alreadyRegistered (l.kind.key (w.registry.fdOf s))) := by
        rw [reserveOn_acquired hr hacq, Registry.reserve, if_neg hbusy]
      have hstart : (starting s (.starting s l)).step w = some (starting s
          (.finished (.error (.alreadyRegistered (l.kind.key (w.registry.fdOf s))))), w) := by
        simp only [Parts.step, Call.Position.result?, Call.step, hreserve]
        rfl
      exact ⟨_, ((h.own hacquire).own hstart).own rfl, .leaving _ _⟩
    | full hnone hroom =>
      have hacquire : (acquiring fd l).step w =
          some (finished (.error (.capacityExceeded w.registry.capacity)), w) := by
        simp [Parts.step, Registry.acquire, hnone, hroom]
      exact ⟨_, h.own hacquire, .answered _⟩
  | keeping hp =>
    have hnext := h.own (step_starting hp hstep)
    rcases (Call.step_edge hstep).registers hp with hp' | ⟨e, rfl⟩ | rfl
    · exact ⟨_, hnext, .keeping hp'⟩
    · exact ⟨_, hnext.own rfl, .leaving _ e⟩
    · exact ⟨_, hnext.own rfl, .answered _⟩
  | leaving s e =>
    obtain ⟨rfl, rfl⟩ := Prod.mk.inj (Option.some.inj hstep)
    exact ⟨_, h.own rfl, .answered _⟩
  | answered result => cases hstep

/-! ## What its parts do a registration does -/

/-- Where a registration stands when its parts stand somewhere, and the registries of both. It may
still have to take its first step when they have acquired the slot. -/
inductive Follows : Parts → Registry → Call.Position → Registry → Prop where
  | asking (fd : Fd) (l : Listener) (r : Registry) :
    Follows (.acquiring fd l) r (.registering fd l) r
  | acquired {fd : Fd} {l : Listener} {s : SlotId} {r r' : Registry} (hr : r.Sound)
    (hacq : r.acquire fd = (.ok s, r')) :
    Follows (.starting s (.starting s l)) r' (.registering fd l) r
  | keeping {s : SlotId} {p : Call.Position} (hp : p.Registers s) (r : Registry) :
    Follows (.starting s p.asStart) r p r
  | failed (s : SlotId) (e : Error) (r : Registry) :
    Follows (.starting s (.finished (.error e))) r (.givingBack s e) r
  | leaving (s : SlotId) (e : Error) (r : Registry) : Follows (.releasing s e) r (.givingBack s e) r
  | succeeded (s : SlotId) (r : Registry) :
    Follows (.starting s (.finished (.ok s))) r (.finished (.ok s)) r
  | answered (result : Outcome SlotId) (r : Registry) :
    Follows (.finished result) r (.finished result) r

/-- Every step of its parts is one step of a registration or none. -/
theorem Follows.step {p₀ : Call.Position} {w₀ : Listening} {crew : Crew} {r' : Registry}
    (hq : Follows q r p r') (hr : r'.Sound) (hstep : q.step ⟨crew, r⟩ = some (q', w'))
    (h : Call.Alone p₀ w₀ p ⟨crew, r'⟩) :
    ∃ p' w₁, Call.Alone p₀ w₀ p' w₁ ∧ w₁.crew = w'.crew ∧
      Follows q' w'.registry p' w₁.registry := by
  cases hq with
  | asking fd l =>
    simp only [Parts.step] at hstep
    rcases hacq : r.acquire fd with ⟨e | s, r₁⟩
    · rw [hacq] at hstep
      obtain ⟨rfl, rfl⟩ := Prod.mk.inj (Option.some.inj hstep)
      have hfull : Call.step (.registering fd l) ⟨crew, r⟩ =
          some (.finished (.error e), ⟨crew, r₁⟩) := by
        simp only [Call.step, Registry.reserveFor_eq, hacq]
        rfl
      exact ⟨_, _, h.own hfull, rfl, .answered _ _⟩
    · rw [hacq] at hstep
      obtain ⟨rfl, rfl⟩ := Prod.mk.inj (Option.some.inj hstep)
      exact ⟨_, _, h, rfl, .acquired hr hacq⟩
  | @acquired fd l s _ _ _ hacq =>
    have hreserve := reserveOn_acquired (w := ⟨crew, r'⟩) hr hacq l.kind
    simp only [Parts.step, Call.Position.result?, Call.step, hreserve] at hstep
    cases hseat : r.reserve s l.kind with
    | ok r₁ =>
      rw [hseat] at hstep
      obtain ⟨rfl, rfl⟩ := Prod.mk.inj (Option.some.inj hstep)
      have htaken : Call.step (.registering fd l) ⟨crew, r'⟩ =
          some (.spawning s l true, ⟨crew, r₁⟩) := by
        simp only [Call.step, Registry.reserveFor_eq, Registry.seatOn, hacq, hseat]
        rfl
      have hkeeps : (Call.Position.spawning s l true).Registers s := ⟨⟨_, _, rfl⟩, rfl⟩
      exact ⟨_, _, h.own htaken, rfl, .keeping hkeeps _⟩
    | error e =>
      rw [hseat] at hstep
      obtain ⟨rfl, rfl⟩ := Prod.mk.inj (Option.some.inj hstep)
      have hoccupied : Call.step (.registering fd l) ⟨crew, r'⟩ =
          some (.givingBack s e, ⟨crew, r⟩) := by
        simp only [Call.step, Registry.reserveFor_eq, Registry.seatOn, hacq, hseat]
        rfl
      exact ⟨_, _, h.own hoccupied, rfl, .failed s e _⟩
  | keeping hp =>
    simp only [Parts.step, hp.result?, Call.step_asStart hp, Option.map_map] at hstep
    obtain ⟨⟨p', w₁⟩, hcall, hmoved⟩ := Option.map_eq_some_iff.mp hstep
    obtain ⟨rfl, rfl⟩ := Prod.mk.inj hmoved
    refine ⟨p', w₁, h.own hcall, rfl, ?_⟩
    rcases (Call.step_edge hcall).registers hp with hp' | ⟨e, rfl⟩ | rfl
    · exact .keeping hp' _
    · exact .failed _ e _
    · exact .succeeded _ _
  | failed s e =>
    obtain ⟨rfl, rfl⟩ := Prod.mk.inj (Option.some.inj hstep)
    exact ⟨_, _, h, rfl, .leaving s e _⟩
  | leaving s e =>
    obtain ⟨rfl, rfl⟩ := Prod.mk.inj (Option.some.inj hstep)
    exact ⟨_, _, h.own rfl, rfl, .answered _ _⟩
  | succeeded s =>
    obtain ⟨rfl, rfl⟩ := Prod.mk.inj (Option.some.inj hstep)
    exact ⟨_, _, h, rfl, .answered _ _⟩
  | answered result => cases hstep

/-! ## Courses -/

theorem Alone.of_call {w₀ : Listening} {p₀ : Call.Position} {q₀ : Parts} (h₀ : Stands p₀ q₀)
    (hsound : ∀ {p w}, Call.Alone p₀ w₀ p w → w.registry.Sound) (ha : Call.Alone p₀ w₀ p w) :
    ∃ q, Alone q₀ w₀ q w ∧ Stands p q := by
  induction ha with
  | refl => exact ⟨q₀, .refl, h₀⟩
  | own h hstep ih =>
    obtain ⟨q, hq, hp⟩ := ih
    exact hp.step (hsound h) hstep hq
  | thread e _ hevent ih =>
    obtain ⟨q, hq, hp⟩ := ih
    exact ⟨q, hq.thread e hevent, hp⟩
  | outside host gates _ ih =>
    obtain ⟨q, hq, hp⟩ := ih
    exact ⟨q, hq.outside host gates, hp⟩

theorem Alone.to_call {w₀ : Listening} {p₀ : Call.Position} {q₀ : Parts}
    (h₀ : Follows q₀ w₀.registry p₀ w₀.registry)
    (hsound : ∀ {p w}, Call.Alone p₀ w₀ p w → w.registry.Sound) (ha : Alone q₀ w₀ q w) :
    ∃ p w₁, Call.Alone p₀ w₀ p w₁ ∧ w₁.crew = w.crew ∧ Follows q w.registry p w₁.registry := by
  induction ha with
  | refl => exact ⟨p₀, w₀, .refl, rfl, h₀⟩
  | @own _ _ w' _ _ hstep ih =>
    obtain ⟨p, w₁, hp, hcrew, hq⟩ := ih
    obtain ⟨crew, r⟩ := w'
    obtain ⟨_, r'⟩ := w₁
    obtain rfl : _ = crew := hcrew
    exact hq.step (hsound hp) hstep hp
  | thread e _ hevent ih =>
    obtain ⟨p, w₁, hp, hcrew, hq⟩ := ih
    exact ⟨p, _, hp.thread e (hcrew ▸ hevent), rfl, hq⟩
  | outside host gates _ ih =>
    obtain ⟨p, w₁, hp, hcrew, hq⟩ := ih
    refine ⟨p, _, hp.outside host gates, ?_, hq⟩
    simp only [Listening.mapCrew, hcrew]

end Parts

/-! ## Why a registration fails -/

namespace Call

/-- What a call has failed with. -/
def Position.error? : Position → Option Error
  | .dismissing _ _ _ e _ | .freeing _ _ e _ | .givingBack _ e | .finished (.error e) => some e
  | _ => none

/-- Why a registration may fail that finds a slot or room for one. -/
inductive Refusal (fd : Fd) (l : Listener) (settings : ListenerSettings) : Error → Prop where
  | occupied : Refusal fd l settings (.alreadyRegistered (l.kind.key fd))
  | uncreated : Refusal fd l settings (.lifecycle "spawn")
  | unstarted {e : Error} (h : (l.thread fd settings).MayFail e) : Refusal fd l settings e

/-- Where a registration stands that has found a slot or room for one, and why it has failed if it
has. -/
inductive Registered (fd : Fd) (l : Listener) (settings : ListenerSettings) (c : Crew) :
    Position → Prop where
  | asking : Registered fd l settings c (.registering fd l)
  | spawning (s : SlotId) : Registered fd l settings c (.spawning s l true)
  | hearing {s : SlotId} {t : ThreadId} {th : Thread} {fault? : Option Error}
    (h : Crew.Launched t (l.thread fd settings) c fault? th) :
    Registered fd l settings c (.hearing s l.kind t true)
  | failing {p : Position} {e : Error} (he : p.error? = some e) (h : Refusal fd l settings e) :
    Registered fd l settings c p
  | recording (s : SlotId) (k : ListenerKind) (t : ThreadId) :
    Registered fd l settings c (.recording s k t)
  | succeeded (s : SlotId) : Registered fd l settings c (.finished (.ok s))

variable {fd : Fd} {l : Listener} {settings : ListenerSettings} {c c' : Crew} {p p' : Position}
  {w w' : Listening}

/-- Threads and the host may go on meanwhile. -/
theorem Registered.onCrew (h : Registered fd l settings c p)
    (hlater : ∀ {t new fault? th}, Crew.Launched t new c fault? th → new.body.kind? = some l.kind →
      ∃ fault? th', Crew.Launched t new c' fault? th') : Registered fd l settings c' p := by
  cases h with
  | asking => exact .asking
  | spawning s => exact .spawning s
  | hearing h =>
    obtain ⟨_, _, h'⟩ := hlater h (l.thread_spec fd settings).2
    exact .hearing h'
  | failing he h => exact .failing he h
  | recording s k t => exact .recording s k t
  | succeeded s => exact .succeeded s

/-- A registration creates its thread, or is refused it. -/
theorem Registered.spawned {slot : SlotId} (hfd : w.registry.fdOf slot = fd)
    (hset : w.registry.settings = settings) (hfits : w.crew.Fits settings.chunk)
    (hstep : step (.spawning slot l true) w = some (p', w')) :
    Registered fd l settings w'.crew p' := by
  simp only [step, hfd, hset] at hstep
  rcases Crew.spawn_spec (l.thread fd settings) w.crew with
    ⟨code, host, -, hspawn⟩ | ⟨host, -, hspawn⟩
  · rw [hspawn] at hstep
    obtain ⟨rfl, rfl⟩ := Prod.mk.inj (Option.some.inj hstep)
    exact .failing rfl .uncreated
  · rw [hspawn] at hstep
    obtain ⟨rfl, rfl⟩ := Prod.mk.inj (Option.some.inj hstep)
    exact .hearing (Crew.launched_new l List.getElem?_concat_length hfits.itemsOf_new)

/-- What a call has failed with it goes on with. -/
theorem Edge.error? (he : Edge w p p' w') {e : Error} (h : p.error? = some e) :
    p'.error? = some e := by
  cases he with
  | dismissed | givenBack => exact h
  | @freed _ _ _ giveBack =>
    cases giveBack with
    | true => exact h
    | false => exact h
  | _ => cases h

end Call

namespace Scene

variable {s : Scene} {capacity : Nat} {settings : ListenerSettings} {fd : Fd} {l : Listener}
  {p p' : Call.Position} {w : Listening}

/-- What comes of a call that is alone may come of it in a scene. -/
theorem Reachable.during (h : s.Reachable capacity settings) (hentry : p.isEntry = true)
    (ha : Call.Alone p s.listening p' w) :
    ∃ s', Reachable capacity settings s' ∧ s'.listening = w := by
  have hbegin : s.act? (.begin p) = some { s with tasks := s.tasks ++ [.call p] } := if_pos hentry
  have hat : ({ s with tasks := s.tasks ++ [.call p] } : Scene).tasks[s.tasks.length]? =
      some (.call p) := List.getElem?_concat_length
  obtain ⟨s', hs', hw, -⟩ := (h.act _ hbegin).alone hat ha
  exact ⟨s', hs', hw⟩

/-- A step of a registration that has found a slot or room for one. -/
theorem Reachable.registered_step (h : s.Reachable capacity settings)
    (hroom : s.registry.slotOf? fd = none → s.registry.table.length < s.registry.capacity)
    {s₁ : Scene} (hs₁ : s₁.Reachable capacity settings)
    (hstands : Call.Registering s.registry fd l.kind p s₁.listening.registry)
    (hp : Call.Registered fd l settings s₁.crew p)
    (hstep : Call.step p s₁.listening = some (p', w)) :
    Call.Registered fd l settings w.crew p' := by
  have hedge := Call.step_edge hstep
  cases hp with
  | asking =>
    generalize hreg : s₁.listening.registry = r at hstands
    cases hstands with
    | begun =>
      cases hedge with
      | taken => exact .spawning _
      | @occupied _ _ slot hslot =>
        rw [hreg] at hslot ⊢
        obtain ⟨-, hfd⟩ := h.inv.sound.stored _ (Registry.mem_table_of_slotOf? hslot)
        have hfd' : s.registry.fdOf slot = fd := hfd
        rw [hfd']
        exact .failing rfl .occupied
      | full hnone hfull =>
        rw [hreg] at hnone hfull
        exact absurd hfull (Nat.not_le_of_lt (hroom hnone))
    | holding _ _ hhold => cases hhold
  | spawning slot =>
    generalize hreg : s₁.listening.registry = r at hstands
    cases hstands with
    | holding hacq _ hhold =>
      cases hhold
      have hfd : s₁.listening.registry.fdOf slot = fd := by
        rw [hreg, Registry.fdOf_setSeat]
        exact (Registry.acquired_current h.inv.sound hacq).2
      exact Call.Registered.spawned hfd hs₁.limits.2 hs₁.fits hstep
  | hearing hth =>
    cases hedge with
    | heard => exact .recording _ _ _
    | misheard hreport =>
      rcases hth.report?_eq hreport with ⟨he, -⟩ | ⟨e, he, hfault⟩
      · cases he
      · obtain rfl := Except.error.inj he
        exact .failing rfl (.unstarted (hth.cause _ hfault))
  | failing he hcause => exact .failing (hedge.error? he) hcause
  | recording =>
    cases hedge
    exact .succeeded _
  | succeeded => cases hstep

theorem Reachable.registered (h : s.Reachable capacity settings)
    (hroom : s.registry.slotOf? fd = none → s.registry.table.length < s.registry.capacity)
    (ha : Call.Alone (.registering fd l) s.listening p w) :
    Call.Registered fd l settings w.crew p := by
  induction ha with
  | refl => exact .asking
  | own hbefore hstep ih =>
    obtain ⟨s₁, hs₁, rfl⟩ := h.during rfl hbefore
    have hstands := hbefore.keeps (.begun rfl) fun hr he => he.registering hr
    exact h.registered_step hroom hs₁ hstands ih hstep
  | thread e _ hevent ih => exact ih.onCrew fun hth hkind => ⟨_, hth.event hkind hevent⟩
  | outside host gates _ ih =>
    exact ih.onCrew fun hth _ => ⟨_, _, hth.rests hth.thread (.refl _) rfl⟩

/-- What a source samples depends on its script alone. -/
theorem sampleSource_congr {source source' : LineSource} (h : source.script? = source'.script?)
    (fd : Fd) (host : Host) :
    (Crew.sampleSource fd source host).1 = (Crew.sampleSource fd source' host).1 := by
  unfold Crew.sampleSource
  rw [h]
  cases source'.script? <;> rfl

/-- A registration that finds a slot or room for one fails for lack of room only if the listener's
own source says so. -/
theorem Refusal.of_capacity {n : Nat} (h : Call.Refusal fd l settings (.capacityExceeded n)) :
    ∃ callback source host, l = .event callback source ∧
      (Crew.sampleSource fd source host).1 = .error (.capacityExceeded n) := by
  cases h with
  | unstarted h =>
    cases h with
    | @sample source host _ hscript hsample =>
      cases l with
      | data => cases hscript
      | event callback source₀ =>
        refine ⟨callback, source₀, host, rfl, ?_⟩
        rw [sampleSource_congr (Option.some.inj hscript)]
        exact hsample

/-- A registration without a slot and without room for one fails, and changes nothing. -/
theorem full_register (hnone : s.registry.slotOf? fd = none)
    (hfull : s.registry.capacity ≤ s.registry.table.length) {result : Outcome SlotId}
    (ha : Call.Alone (.registering fd l) s.listening (.finished result) w) :
    result = .error (.capacityExceeded s.registry.capacity) ∧ w.registry = s.registry := by
  have hends := ha.keeps (P := fun p r => r = s.registry ∧ (p = .registering fd l ∨
    p = .finished (.error (.capacityExceeded s.registry.capacity)))) ⟨rfl, .inl rfl⟩ ?_
  · obtain ⟨hreg, hp | hp⟩ := hends
    · cases hp
    · exact ⟨Call.Position.finished.inj hp, hreg⟩
  · rintro p w p' w' ⟨hreg, rfl | rfl⟩ he
    · have hroom : s.registry.slotOf? fd = none ∧ s.registry.capacity ≤ s.registry.table.length :=
        ⟨hnone, hfull⟩
      rw [← hreg] at hroom ⊢
      cases he with
      | @taken _ _ slot r hacq =>
        simp [Registry.acquire, hroom.1, hroom.2] at hacq
      | occupied hslot =>
        rw [hroom.1] at hslot
        cases hslot
      | full => exact ⟨rfl, .inr rfl⟩
    · cases he

/-- A registration answers the same, and makes the same of the registry and the threads, as its
parts one after another: a slot is acquired, the listener started on it, and the slot given back if
that has failed. Both fail for lack of room at once, and change nothing, where the descriptor has no
slot and the table is full; and nowhere else, whatever they fail for, unless the listener's own
source says so. -/
theorem Reachable.register_parts (h : s.Reachable capacity settings) (fd : Fd) (l : Listener) :
    (∀ result w, Call.Alone (.registering fd l) s.listening (.finished result) w ↔
      Parts.Alone (.acquiring fd l) s.listening (.finished result) w) ∧
    (s.registry.slotOf? fd = none → capacity ≤ s.registry.table.length →
      Call.step (.registering fd l) s.listening =
        some (.finished (.error (.capacityExceeded capacity)), s.listening) ∧
      Parts.step (.acquiring fd l) s.listening =
        some (.finished (.error (.capacityExceeded capacity)), s.listening) ∧
      ∀ result w, Call.Alone (.registering fd l) s.listening (.finished result) w →
        result = .error (.capacityExceeded capacity) ∧ w.registry = s.registry) ∧
    (s.registry.slotOf? fd ≠ none ∨ s.registry.table.length < capacity →
      ∀ n w, Call.Alone (.registering fd l) s.listening
        (.finished (.error (.capacityExceeded n))) w →
        ∃ callback source host, l = .event callback source ∧
          (Crew.sampleSource fd source host).1 = .error (.capacityExceeded n)) := by
  have hsound : ∀ {p w}, Call.Alone (.registering fd l) s.listening p w → w.registry.Sound := by
    intro p w ha
    obtain ⟨s', hs', rfl⟩ := h.during rfl ha
    exact hs'.inv.sound
  have hcap : s.registry.capacity = capacity := h.limits.1
  refine ⟨fun result w => ⟨fun ha => ?_, fun ha => ?_⟩, fun hnone hfull => ⟨?_, ?_, ?_⟩, ?_⟩
  · obtain ⟨q, hq, hstands⟩ := Parts.Alone.of_call (.asking fd l) hsound ha
    cases hstands with
    | answered => exact hq
    | keeping hp =>
      obtain ⟨⟨_, _, hhold⟩, -⟩ := hp
      cases hhold
  · obtain ⟨p, ⟨crew, r⟩, hp, rfl, hfollows⟩ := ha.to_call (.asking fd l _) hsound
    obtain ⟨crew, r'⟩ := w
    cases hfollows
    exact hp
  · have hreserve : s.registry.reserveFor fd l.kind =
        (.full (.capacityExceeded capacity), s.registry) := by
      simp [Registry.reserveFor, hnone, hcap, hfull]
    have hreserve' : s.listening.registry.reserveFor fd l.kind = _ := hreserve
    simp only [Call.step, hreserve']
    rfl
  · have hacq : s.registry.acquire fd = (.error (.capacityExceeded capacity), s.registry) := by
      simp [Registry.acquire, hnone, hcap, hfull]
    have hacq' : s.listening.registry.acquire fd = _ := hacq
    simp only [Parts.step, hacq']
    rfl
  · intro result w ha
    have hends := full_register hnone (hcap ▸ hfull) ha
    rwa [hcap] at hends
  · intro hroom n w ha
    have hroom' : s.registry.slotOf? fd = none → s.registry.table.length < s.registry.capacity := by
      intro hnone
      rcases hroom with hslot | hroom
      · exact absurd hnone hslot
      · rwa [hcap]
    cases h.registered hroom' ha with
    | failing he hcause =>
      obtain rfl := Option.some.inj he
      exact Refusal.of_capacity hcause

/-- Beside a data listener, in a registry with room for one slot, the parts of a registration fail
with the first sample as the registration does, and on another descriptor for lack of room. -/
theorem occupied_register_parts :
    ∃ s w, (start 1 {} {} []).run? occupied = some s ∧
      Call.Alone (.registering 3 unsampled) s.listening
        (.finished (.error (.unsupported "modem lines"))) w ∧
      Parts.Alone (.acquiring 3 unsampled) s.listening
        (.finished (.error (.unsupported "modem lines"))) w ∧
      w.registry.table = [(3, 0)] ∧
      Parts.step (.acquiring 4 unsampled) s.listening =
        some (.finished (.error (.capacityExceeded 1)), s.listening) := by
  obtain ⟨s, hrun, hdrive, htable, hnone, hfull⟩ :
      ∃ s, (start 1 {} {} []).run? occupied = some s ∧
        (s.listening.drive (.registering 3 unsampled)).1 =
          .finished (.error (.unsupported "modem lines")) ∧
        (s.listening.drive (.registering 3 unsampled)).2.registry.table = [(3, 0)] ∧
        s.registry.slotOf? 4 = none ∧ 1 ≤ s.registry.table.length :=
    ⟨_, rfl, rfl, rfl, rfl, Nat.le_refl 1⟩
  have hreach := Reachable.run (.start {} []) hrun
  have ha := s.listening.drive_alone (.registering 3 unsampled)
  rw [hdrive] at ha
  have hparts := ((hreach.register_parts 3 unsampled).1 _ _).mp ha
  have hrefused := (hreach.register_parts 4 unsampled).2.1 hnone hfull
  exact ⟨s, _, hrun, ha, hparts, htable, hrefused.2.1⟩

end Scene

end SerialLine
