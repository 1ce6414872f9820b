import SerialLine.Proofs.Listener.Reclaim

/-!
# SerialLine.Proofs.Listener.FailedStart — a start that fails while the other listener is stopped

A slot has a running listener of one kind. One client starts a listener of the other kind on it,
another one stops the listener that runs, and nobody else calls the registry. A `Contest` is what
any order of their steps leads to.

The stop gives the slot back with its last step, if both seats are free by then. A start on a
slot gives nothing back. So a start that fails leaves the slot in the table exactly if it still
kept its seat when the stop looked at the slot, and then nobody is left to take it out.
-/

namespace SerialLine

/-! ## The two calls -/

namespace Call.Position

/-- Whether a call is a start of a listener of a kind on a slot. -/
def StartsOn (s : SlotId) (k : ListenerKind) : Position → Prop
  | .starting s' l => s' = s ∧ l.kind = k
  | .spawning s' l giveBack => s' = s ∧ l.kind = k ∧ giveBack = false
  | .hearing s' k' _ giveBack | .dismissing s' k' _ _ giveBack | .freeing s' k' _ giveBack =>
    s' = s ∧ k' = k ∧ giveBack = false
  | .recording s' k' _ => s' = s ∧ k' = k
  | .finished _ => True
  | _ => False

/-- Whether a call is a stop of the listener of a kind on a slot. -/
def StopsOn (s : SlotId) (k : ListenerKind) : Position → Prop
  | .stopping s' k' | .cancelling s' k' _ | .waking s' k' _ | .restoring s' k' _ _
  | .joining s' k' _ | .clearing s' k' _ => s' = s ∧ k' = k
  | .reclaiming s' _ => s' = s
  | .finished _ => True
  | _ => False

/-- Whether a start has taken its seat and not freed it again. -/
def occupies : Position → Bool
  | .finished result => result.isOk
  | p => p.holding?.isSome

end Call.Position

namespace Call.Edge

variable {w w' : Listening} {p p' : Position} {s : SlotId} {k : ListenerKind}

/-- A start changes nothing but its seat, which is taken while the start occupies it. -/
theorem of_start (he : Edge w p p' w') (hp : p.StartsOn s k) (hlt : s < w.registry.slots.length)
    (hseat : w.registry.seat s k ≠ .idle ↔ p.occupies = true) :
    p'.StartsOn s k ∧ (w'.registry = w.registry ∨ ∃ x, w'.registry = w.registry.setSeat s k x) ∧
      (w'.registry.seat s k ≠ .idle ↔ p'.occupies = true) := by
  cases he with
  | reserved =>
    obtain ⟨rfl, rfl⟩ := hp
    refine ⟨⟨rfl, rfl, rfl⟩, .inr ⟨_, rfl⟩, ?_⟩
    simp [Registry.seat_setSeat_self _ _ _ hlt, Position.occupies, Position.holding?]
  | refused => exact ⟨trivial, .inl rfl, hseat⟩
  | spawned | unspawned =>
    obtain ⟨rfl, rfl, rfl⟩ := hp
    exact ⟨⟨rfl, rfl, rfl⟩, .inl rfl, hseat⟩
  | heard =>
    obtain ⟨rfl, rfl, rfl⟩ := hp
    exact ⟨⟨rfl, rfl⟩, .inl rfl, hseat⟩
  | misheard | dismissed => exact ⟨hp, .inl rfl, hseat⟩
  | recorded =>
    obtain ⟨rfl, rfl⟩ := hp
    refine ⟨trivial, .inr ⟨_, rfl⟩, ?_⟩
    simp [Registry.seat_setSeat_self _ _ _ hlt, Position.occupies, Except.isOk, Except.toBool]
  | freed =>
    obtain ⟨rfl, rfl, rfl⟩ := hp
    refine ⟨trivial, .inr ⟨_, rfl⟩, ?_⟩
    simp [Registry.seat_setSeat_self _ _ _ hlt, Position.occupies, Except.isOk, Except.toBool]
  | _ => cases hp

/-- Until a stop looks at the slot, it changes nothing but its seat, and does not succeed. -/
theorem of_stop (he : Edge w p p' w') (hp : p.StopsOn s k) (hlt : s < w.registry.slots.length)
    (hlook : p.reclaims? = none) :
    p'.StopsOn s k ∧ (w'.registry = w.registry ∨ ∃ x, w'.registry = w.registry.setSeat s k x) ∧
      (p'.reclaims?.isSome = true → w'.registry.seat s k = .idle) ∧
      ∀ s', p' ≠ .finished (.ok s') := by
  cases he with
  | lifted =>
    obtain ⟨rfl, rfl⟩ := hp
    exact ⟨⟨rfl, rfl⟩, .inr ⟨_, rfl⟩, nofun, nofun⟩
  | unlifted => exact ⟨trivial, .inl rfl, nofun, nofun⟩
  | cancelled | woken | unwoken | joined => exact ⟨hp, .inl rfl, nofun, nofun⟩
  | restored =>
    obtain ⟨rfl, rfl⟩ := hp
    exact ⟨trivial, .inr ⟨_, rfl⟩, nofun, nofun⟩
  | cleared =>
    obtain ⟨rfl, rfl⟩ := hp
    exact ⟨rfl, .inr ⟨_, rfl⟩, fun _ => Registry.seat_setSeat_self _ _ _ hlt, nofun⟩
  | reclaimed => cases hlook
  | _ => cases hp

/-- The look of a stop at the slot is its last step. -/
theorem of_look (he : Edge w p p' w') (hp : p.StopsOn s k) (hlook : p.reclaims?.isSome = true) :
    p'.result?.isSome = true ∧ w'.registry = w.registry.release s := by
  cases he with
  | reclaimed =>
    obtain rfl := hp
    exact ⟨rfl, rfl⟩
  | givenBack => cases hp
  | _ => cases hlook

end Call.Edge

/-- There are two kinds. -/
theorem ListenerKind.eq_or_eq {k k' : ListenerKind} (hne : k ≠ k') (k'' : ListenerKind) :
    k'' = k ∨ k'' = k' := by
  cases k <;> cases k' <;> cases k'' <;> simp at hne ⊢

/-- A slot with one free seat stays in the table exactly if the other seat is taken. -/
theorem Registry.isCurrent_release {r : Registry} {s : SlotId} {k k' : ListenerKind}
    (hcur : r.isCurrent s = true) (hne : k ≠ k') (hidle : r.seat s k = .idle) :
    (r.release s).isCurrent s = true ↔ r.seat s k' ≠ .idle := by
  constructor
  · intro hstays hidle'
    have hvacant : (r.release s).IsVacant s := by
      refine ⟨hstays, ?_⟩
      intro k''
      rw [seat_release]
      rcases ListenerKind.eq_or_eq hne k'' with rfl | rfl
      · exact hidle
      · exact hidle'
    exact hvacant.of_release.1 rfl
  · intro hbusy
    rcases release_cases s r with hsame | ⟨-, hdata, hevent, -⟩
    · rw [hsame]
      exact hcur
    · cases k'
      · exact absurd hdata hbusy
      · exact absurd hevent hbusy

/-! ## The system -/

/-- A start and a stop of the two kinds on one slot, with nobody else at the registry. -/
structure Contest where
  listening : Listening
  start : Call.Position
  stop : Call.Position
  /-- Where the start stood when the stop looked whether to give the slot back. -/
  looked? : Option Call.Position := none

namespace Contest

/-- A step of somebody. -/
inductive Turn where
  /-- The start goes on. -/
  | start
  /-- The stop goes on. -/
  | stop
  /-- Something happens to a thread. -/
  | thread (e : Crew.Event)
  /-- Something else happens on the host. -/
  | outside (host : Host) (gates : List (Fd × Gate))

/-- Two clients about to call: one starts a listener on a slot, the other stops the listener of
a kind. -/
def meet (w : Listening) (s : SlotId) (l : Listener) (k : ListenerKind) : Contest where
  listening := w
  start := .starting s l
  stop := .stopping s k

/-- What there is after a step; `none` if the step cannot be taken. -/
def act? (c : Contest) : Turn → Option Contest
  | .start => (Call.step c.start c.listening).map fun (start, listening) =>
    { c with listening, start }
  | .stop => (Call.step c.stop c.listening).map fun (stop, listening) =>
    { c with listening, stop, looked? := c.stop.reclaims?.map fun _ => c.start }
  | .thread e => (c.listening.crew.after? e).map fun crew =>
    { c with listening := { c.listening with crew } }
  | .outside host gates =>
    some { c with listening := c.listening.mapCrew fun crew => { crew with host, gates } }

/-- What there is after several steps. -/
def run? (c : Contest) (turns : List Turn) : Option Contest := turns.foldlM act? c

/-- What any order of steps leads to. -/
inductive Steps (c : Contest) : Contest → Prop where
  | refl : Steps c c
  | act {c₁ c₂ : Contest} (a : Turn) (h : Steps c c₁) (ha : c₁.act? a = some c₂) : Steps c c₂

theorem Steps.run {c c₁ c₂ : Contest} {turns : List Turn} (h : Steps c c₁)
    (hrun : c₁.run? turns = some c₂) : Steps c c₂ :=
  run_keeps (fun a _ _ _ hs ha => hs.act a ha) h hrun

/-! ## Who takes the slot out -/

/-- What holds at any time. The slot is in the table until the stop looks at it, and stays there
if the start occupied its seat at that time. -/
structure Inv (s : SlotId) (k k' : ListenerKind) (c : Contest) : Prop where
  starts : c.start.StartsOn s k
  stops : c.stop.StopsOn s k'
  made : s < c.listening.registry.slots.length
  /-- The seat of the start is taken while it is occupied. -/
  occupied : c.listening.registry.seat s k ≠ .idle ↔ c.start.occupies = true
  /-- The seat of the stop is free when the stop looks, and from then on. -/
  freed : c.stop.reclaims?.isSome = true ∨ c.looked?.isSome = true →
    c.listening.registry.seat s k' = .idle
  current : c.listening.registry.isCurrent s = true ↔ ∀ p ∈ c.looked?, p.occupies = true
  /-- A start that had answered when the stop looked has not moved since. -/
  answered : ∀ p ∈ c.looked?, p.result?.isSome = true → c.start = p
  /-- A stop is over once it has looked. -/
  ended : c.looked?.isSome = true → c.stop.result?.isSome = true
  /-- A stop that succeeds has looked. -/
  succeeded : ∀ s', c.stop = .finished (.ok s') → c.looked?.isSome = true

variable {c c' : Contest} {w : Listening} {s : SlotId} {l : Listener} {k k' : ListenerKind}

theorem meet_inv (hcur : w.registry.isCurrent s = true) (hidle : w.registry.seat s l.kind = .idle)
    (k' : ListenerKind) : (meet w s l k').Inv s l.kind k' where
  starts := ⟨rfl, rfl⟩
  stops := ⟨rfl, rfl⟩
  made := (Registry.isCurrent_iff.mp hcur).1
  occupied := by simp [meet, hidle, Call.Position.occupies, Call.Position.holding?]
  freed := by simp [meet, Call.Position.reclaims?]
  current := by simp [meet, hcur]
  answered := by
    intro p hp
    cases hp
  ended := by
    intro hlooked
    cases hlooked
  succeeded := by
    intro s' hs'
    cases hs'

/-- A call that has answered takes no step. -/
theorem no_step {p p' : Call.Position} {w w' : Listening} (hp : p.result?.isSome = true)
    (h : Call.step p w = some (p', w')) : False := by
  cases p with
  | finished => cases h
  | _ => cases hp

/-- A change of one seat leaves the table and the other seat as they are. -/
theorem kept_of_setSeat {r r' : Registry} (hne : k ≠ k')
    (h : r' = r ∨ ∃ x, r' = r.setSeat s k x) :
    r'.slots.length = r.slots.length ∧ r'.isCurrent s = r.isCurrent s ∧
      r'.seat s k' = r.seat s k' := by
  rcases h with rfl | ⟨x, rfl⟩
  · exact ⟨rfl, rfl, rfl⟩
  · exact ⟨Registry.length_setSeat .., Registry.isCurrent_setSeat ..,
      Registry.seat_setSeat_ne _ _ fun _ => hne.symm⟩

/-- The start goes on. -/
theorem Inv.start (h : c.Inv s k k') (hne : k ≠ k') {p : Call.Position} {w : Listening}
    (hstep : Call.step c.start c.listening = some (p, w)) :
    Inv s k k' { c with listening := w, start := p } := by
  rcases (Call.step_edge hstep).of_start h.starts h.made h.occupied with ⟨hstarts, hreg, hseat⟩
  rcases kept_of_setSeat hne hreg with ⟨hlen, hcur, hother⟩
  refine ⟨hstarts, h.stops, ?_, hseat, ?_, ?_, ?_, h.ended, h.succeeded⟩
  · rw [hlen]
    exact h.made
  · rw [hother]
    exact h.freed
  · rw [hcur]
    exact h.current
  · intro q hq hres
    obtain rfl := h.answered q hq hres
    exact (no_step hres hstep).elim

/-- The stop goes on. -/
theorem Inv.stop (h : c.Inv s k k') (hne : k ≠ k') {p : Call.Position} {w : Listening}
    (hstep : Call.step c.stop c.listening = some (p, w)) :
    Inv s k k'
      { c with listening := w, stop := p, looked? := c.stop.reclaims?.map fun _ => c.start } := by
  have he := Call.step_edge hstep
  have hnone : c.looked? = none := by
    rw [← Option.not_isSome_iff_eq_none]
    intro hsome
    exact no_step (h.ended hsome) hstep
  have hcur : c.listening.registry.isCurrent s = true := h.current.mpr (by simp [hnone])
  cases hlook : c.stop.reclaims? with
  | none =>
    rcases he.of_stop h.stops h.made hlook with ⟨hstops, hreg, hfree, hfail⟩
    rcases kept_of_setSeat hne.symm hreg with ⟨hlen, hcur', hother⟩
    refine ⟨h.starts, hstops, ?_, ?_, ?_, ?_, ?_, ?_, ?_⟩
    · rw [hlen]
      exact h.made
    · rw [hother]
      exact h.occupied
    · simpa using hfree
    · simp [hcur', hcur]
    · intro q hq
      cases hq
    · intro hlooked
      cases hlooked
    · intro s' hs'
      exact absurd hs' (hfail s')
  | some s₀ =>
    rcases he.of_look h.stops (by rw [hlook]; rfl) with ⟨hover, hreg⟩
    have hidle := h.freed (.inl (by rw [hlook]; rfl))
    have hstays := Registry.isCurrent_release hcur hne.symm hidle
    refine ⟨h.starts, ?_, ?_, ?_, ?_, ?_, ?_, fun _ => hover, fun _ _ => rfl⟩
    · cases p with
      | finished => trivial
      | _ => cases hover
    · simpa [hreg] using h.made
    · simpa [hreg] using h.occupied
    · intro _
      simpa [hreg] using hidle
    · simpa [hreg, hstays] using h.occupied
    · intro q hq _
      exact Option.some.inj hq

theorem step_inv {a : Turn} (h : c.Inv s k k') (hne : k ≠ k') (ha : c.act? a = some c') :
    c'.Inv s k k' := by
  cases a with
  | start =>
    rcases Option.map_eq_some_iff.mp ha with ⟨⟨p, w⟩, hstep, rfl⟩
    exact h.start hne hstep
  | stop =>
    rcases Option.map_eq_some_iff.mp ha with ⟨⟨p, w⟩, hstep, rfl⟩
    exact h.stop hne hstep
  | thread e =>
    rcases Option.map_eq_some_iff.mp ha with ⟨crew, -, rfl⟩
    exact { h with }
  | outside host gates =>
    obtain rfl := Option.some.inj ha
    exact { h with }

theorem Steps.inv (h : Steps (meet w s l k') c) (hcur : w.registry.isCurrent s = true)
    (hidle : w.registry.seat s l.kind = .idle) (hne : l.kind ≠ k') : c.Inv s l.kind k' := by
  induction h with
  | refl => exact meet_inv hcur hidle k'
  | act a _ ha ih => exact step_inv ih hne ha

/-- Once a start on a slot has failed and a stop of the other kind has succeeded, both seats of
the slot are free. The slot has left the table, unless the start still kept its seat when the stop
looked. -/
theorem Steps.failed_start (h : Steps (meet w s l k') c) (hcur : w.registry.isCurrent s = true)
    (hidle : w.registry.seat s l.kind = .idle) (hne : l.kind ≠ k') {e : Error}
    (hstart : c.start = .finished (.error e)) (hstop : c.stop = .finished (.ok s)) :
    (∀ k, c.listening.registry.seat s k = .idle) ∧
      ∃ p, c.looked? = some p ∧
        (c.listening.registry.isCurrent s = true ↔ p.holding?.isSome = true) := by
  have hinv := h.inv hcur hidle hne
  have hlooked := hinv.succeeded s hstop
  obtain ⟨p, hp⟩ := Option.isSome_iff_exists.mp hlooked
  constructor
  · intro k
    have hfree : c.listening.registry.seat s l.kind = .idle := by
      by_contra hbusy
      have hoccupied := hinv.occupied.mp hbusy
      rw [hstart] at hoccupied
      cases hoccupied
    rcases ListenerKind.eq_or_eq hne k with rfl | rfl
    · exact hfree
    · exact hinv.freed (.inr hlooked)
  · refine ⟨p, hp, ?_⟩
    have hcur' := hinv.current
    simp only [hp, Option.mem_some_iff, forall_eq'] at hcur'
    rw [hcur']
    -- a start that had answered by then has failed
    cases p with
    | finished result =>
      have hsame := hinv.answered _ hp rfl
      rw [hstart] at hsame
      cases hsame
      simp [Call.Position.occupies, Call.Position.holding?, Except.isOk, Except.toBool]
    | _ => rfl

/-- A client registers a data listener on descriptor 3, in a registry with room for one slot. -/
def registered : List Action :=
  [.begin (.registering 3 (.data {} false)), .proceed 0, .proceed 0, .thread (.step 0),
    .thread (.step 0), .proceed 0, .proceed 0]

/-- What there is when one client then starts an event listener on the slot and another one stops
the data listener. -/
def afterRegistered (turns : List Turn) : Option Contest :=
  ((Scene.start 1 {} {} []).run? registered).bind fun scene =>
    (meet scene.listening 0 (.event {} {}) .data).run? turns

/-- The slot is in the table, its data listener runs, and it has no event listener. -/
theorem registered_running :
    ∃ scene, (Scene.start 1 {} {} []).run? registered = some scene ∧
      scene.registry.isCurrent 0 = true ∧ scene.registry.seat 0 .data = .running 0 ∧
      scene.registry.seat 0 .event = .idle :=
  ⟨_, rfl, rfl, rfl, rfl⟩

/-- The thread of the event listener cannot be created, and its start frees the seat before the
stop looks at the slot. -/
def failsEarly : List Turn :=
  [.outside { faults := [(.thread, .EAGAIN)] } [], .start, .stop, .stop, .stop, .start, .start,
    .thread (.step 0), .thread (.step 0), .stop, .stop, .stop]

theorem failsEarly_reclaimed :
    ∃ c, afterRegistered failsEarly = some c ∧ c.stop = .finished (.ok 0) ∧
      c.listening.registry.isCurrent 0 = false ∧ ∀ k, c.listening.registry.seat 0 k = .idle := by
  obtain ⟨c, hc, hstart, hstop, hlooked⟩ : ∃ c, afterRegistered failsEarly = some c ∧
      c.start = .finished (.error (.lifecycle "spawn")) ∧ c.stop = .finished (.ok 0) ∧
      c.looked? = some c.start :=
    ⟨_, rfl, rfl, rfl, rfl⟩
  obtain ⟨scene, hscene, hrun⟩ := Option.bind_eq_some_iff.mp hc
  obtain ⟨scene', hscene', hcur, -, hidle⟩ := registered_running
  obtain rfl := Option.some.inj (hscene.symm.trans hscene')
  have hsteps : Steps (meet scene.listening 0 (.event {} {}) .data) c := .run .refl hrun
  obtain ⟨hfree, p, hp, hstays⟩ := hsteps.failed_start hcur hidle (by decide) hstart hstop
  obtain rfl := Option.some.inj (hlooked.symm.trans hp)
  refine ⟨c, hc, hstop, ?_, hfree⟩
  simpa [hstart, Call.Position.holding?] using hstays

/-- The thread cannot be created, but the stop looks at the slot before the start frees its
seat. -/
def failsLate : List Turn :=
  [.start, .stop, .stop, .stop, .thread (.step 0), .thread (.step 0), .stop, .stop, .stop,
    .outside { faults := [(.thread, .EAGAIN)] } [], .start, .start]

/-- Both calls are over, nothing runs on the slot, and it still takes up the only room there is. -/
theorem failsLate_stranded :
    ∃ c, afterRegistered failsLate = some c ∧
      c.start = .finished (.error (.lifecycle "spawn")) ∧ c.stop = .finished (.ok 0) ∧
      c.listening.registry.table = [(3, 0)] ∧ ∀ k, c.listening.registry.seat 0 k = .idle :=
  ⟨_, rfl, rfl, rfl, rfl, by rintro (_ | _) <;> rfl⟩

end Contest

end SerialLine
