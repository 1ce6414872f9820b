import SerialLine.Proofs.Listener.Interleaving
import SerialLine.Proofs.Listener.Pending

/-!
# SerialLine.Proofs.Listener.Gate — threads at the gate of a port

A gated data listener joins the readers at the gate of its descriptor before it reads and leaves
them when its read is over; interruptions do not count as an end. No other thread touches a gate.
`Crew.after?_passes` says this once for everything that can happen to a thread: `Gate.Pass` relates
whether the thread is one of the readers, before and after, to what becomes of the gate.
-/

namespace SerialLine

/-- Whether a thread is one of the readers at the gate of a descriptor. -/
def Thread.drains (th : Thread) (fd : Fd) : Bool :=
  th.fd == fd &&
    match th.body with
    | .data point _ gated => gated && point.holdsGate
    | _ => false

/-- Whether a point of a data listener is one at which it comes to the gate or stands in it. -/
def DataLoop.Point.isAtGate : DataLoop.Point → Bool
  | .gating _ | .reading _ => true
  | _ => false

/-- What becomes of a gate when somebody who is a reader there, or is none, does something. -/
inductive Gate.Pass : Gate → Bool → Bool → Gate → Prop where
  | stayed {g : Gate} {inside : Bool} : Pass g inside inside g
  | joined {g : Gate} (h : g.admitsReader = true) :
    Pass g false true { g with readers := g.readers + 1 }
  | left {g : Gate} : Pass g true false { g with readers := g.readers - 1 }

/-- Only the two points at the gate lead to where the gate is held. -/
theorem DataLoop.Edge.not_holding {th : Thread} {chunk : Nat} {h h' : Host} {p q : DataLoop.Point}
    {w : Waker} {handed : List Bytes} (e : DataLoop.Edge th chunk h p q w h' handed)
    (hp : p.isAtGate = false) : p.holdsGate = false ∧ q.holdsGate = false := by
  cases e with
  | created _ hq | handed _ hq => rcases hq with rfl | rfl <;> exact ⟨rfl, rfl⟩
  | admitted | read | unread => cases hp
  | looked => exact ⟨rfl, by unfold afterHead; split <;> rfl⟩
  | entered _ fault? => exact ⟨rfl, by cases fault? <;> grind [afterPoll, Point.holdsGate]⟩
  | reported => exact ⟨rfl, by grind [afterReport, serve, Point.holdsGate]⟩
  | interrupted => exact ⟨rfl, by grind [afterPoll, Point.holdsGate]⟩
  | rechecked => exact ⟨rfl, by grind [afterRecheck, serve, Point.holdsGate]⟩
  | _ => exact ⟨rfl, rfl⟩

namespace Gate.Pass

variable {g g' : Gate} {inside inside' : Bool}

/-- Who passes is counted. -/
theorem readers_eq (h : Pass g inside inside' g') {n n' : Nat} (hn : n = g.readers)
    (hcount : n' + inside.toNat = n + inside'.toNat) : n' = g'.readers := by
  cases h with
  | stayed => omega
  | joined =>
    rw [Bool.toNat_false, Bool.toNat_true] at hcount
    show n' = g.readers + 1
    omega
  | left =>
    rw [Bool.toNat_false, Bool.toNat_true] at hcount
    show n' = g.readers - 1
    omega

/-- No reader comes by the gate as somebody who has it alone. -/
theorem writer_eq (h : Pass g inside inside' g') : g'.writer = g.writer := by
  cases h <;> rfl

/-- Nobody joins somebody who has the gate alone. -/
theorem alone (h : Pass g inside inside' g') (halone : g.writer = true → g.readers = 0) :
    g'.writer = true → g'.readers = 0 := by
  intro hwriter
  have hnone := halone (h.writer_eq ▸ hwriter)
  cases h with
  | stayed => exact hnone
  | joined hadmits =>
    have hclosed : g.writer = true := hwriter
    rw [Gate.admitsReader, hclosed] at hadmits
    cases hadmits
  | left =>
    show g.readers - 1 = 0
    rw [hnone]

end Gate.Pass

namespace Crew

variable {c c' : Crew} {t : ThreadId} {th : Thread}

/-- Whether a thread, if there is one, is one of the readers at the gate of a descriptor. -/
def drains (c : Crew) (t : ThreadId) (fd : Fd) : Bool := (c.thread? t).any (·.drains fd)

/-- What becomes of all gates when something happens to one thread. -/
def PassesAt (t : ThreadId) (c c' : Crew) : Prop :=
  ∃ th th', c.thread? t = some th ∧ c'.threads = c.threads.set t th' ∧
    ∀ fd, Gate.Pass (c.gate fd) (th.drains fd) (th'.drains fd) (c'.gate fd)

/-- Calling a callback changes no gate. -/
theorem deliver_gates (t : ThreadId) (th : Thread) (item : Item) (returned panicked : Body)
    (c : Crew) : (c.deliver t th item returned panicked).gates = c.gates := by
  obtain ⟨th', hdel, -⟩ := deliver_spec t th item returned panicked c
  rw [hdel]

/-- A step of a thread that is not at its gate leaves all gates alone, if it does not change
them. -/
theorem StepsAt.passes (h : StepsAt t c c') (hgates : c'.gates = c.gates)
    (hpoint : ∀ th p chunk gated, c.thread? t = some th → th.body = .data p chunk gated →
      p.isAtGate = false) : PassesAt t c c' := by
  rcases h with ⟨th, th', items, ht, hstep, hset, -⟩
  refine ⟨th, th', ht, hset, ?_⟩
  intro fd
  have hdrains : th'.drains fd = th.drains fd := by
    unfold Thread.drains
    generalize c'.host = host at hstep
    cases hstep with
    | data hb e hb' hw hfd =>
      obtain ⟨hp, hq⟩ := e.not_holding (hpoint th _ _ _ ht hb)
      rw [hb, hb', hfd]
      simp [hp, hq]
    | event hb e hh hb' hw hfd => rw [hb, hb', hfd]
    | watch hb e hh hb' hw hfd => rw [hb, hb', hfd]
    | poked | letGo => rfl
  have hgate : c'.gate fd = c.gate fd := by
    unfold gate
    rw [hgates]
  rw [hdrains, hgate]
  exact .stayed

@[simp] theorem gate_setGate_self (fd : Fd) (g : Gate) (c : Crew) :
    (c.setGate fd g).gate fd = g := by
  simp [gate, setGate, Host.lookup_assign_self]

theorem gate_setGate_ne {fd fd' : Fd} (hne : fd' ≠ fd) (g : Gate) (c : Crew) :
    (c.setGate fd g).gate fd' = c.gate fd' := by
  simp [gate, setGate, Host.lookup_assign_ne hne]

/-- A data listener that changes its point passes its own gate, if it is a gated one, and no
other. -/
theorem passesAt_point {p q : DataLoop.Point} {chunk : Nat} {gated : Bool}
    (ht : c.thread? t = some th) (hb : th.body = .data p chunk gated)
    (hset : c'.threads = c.threads.set t { th with body := .data q chunk gated })
    (hother : ∀ fd, (gated = true → fd ≠ th.fd) → c'.gate fd = c.gate fd)
    (hpass : gated = true → Gate.Pass (c.gate th.fd) p.holdsGate q.holdsGate (c'.gate th.fd)) :
    PassesAt t c c' := by
  refine ⟨th, _, ht, hset, ?_⟩
  intro fd
  unfold Thread.drains
  rw [hb]
  by_cases hown : gated = true ∧ fd = th.fd
  · obtain ⟨rfl, rfl⟩ := hown
    simpa using hpass rfl
  · have hgate := hother fd fun hgated hfd => hown ⟨hgated, hfd⟩
    have hout : ∀ q : DataLoop.Point, (th.fd == fd && (gated && q.holdsGate)) = false := by
      intro q
      cases gated with
      | false => simp
      | true =>
        have hne : th.fd ≠ fd := fun hfd => hown ⟨rfl, hfd.symm⟩
        simp [hne]
    rw [hgate, hout, hout]
    exact .stayed

/-- The end of a read is the end of holding the gate, unless the read was interrupted. -/
theorem endRead_passes {hungUp : Bool} {chunk : Nat} {gated : Bool} {host : Host}
    {outcome : CallOutcome Bytes} (ht : c.thread? t = some th)
    (hb : th.body = .data (.reading hungUp) chunk gated) :
    PassesAt t c ({ c with host }.endRead t th chunk gated hungUp outcome) := by
  unfold endRead
  by_cases hleaves : (gated && !(DataLoop.afterRead hungUp outcome).holdsGate) = true
  · simp only [hleaves, if_true]
    obtain ⟨rfl, hout⟩ : gated = true ∧ (DataLoop.afterRead hungUp outcome).holdsGate = false := by
      simpa using hleaves
    refine passesAt_point (q := DataLoop.afterRead hungUp outcome) ht hb rfl ?_ ?_
    · intro fd hne
      exact gate_setGate_ne (hne rfl) _ { c with host }
    · intro _
      rw [hout]
      show Gate.Pass _ _ _ (({ c with host }.setGate th.fd _).gate th.fd)
      rw [gate_setGate_self]
      exact .left
  · simp only [hleaves]
    refine passesAt_point (q := DataLoop.afterRead hungUp outcome) ht hb rfl (fun _ _ => rfl) ?_
    rintro rfl
    have hin : (DataLoop.afterRead hungUp outcome).holdsGate = true := by simpa using hleaves
    rw [hin]
    exact .stayed

/-- Only the two points at the gate change gates. -/
theorem stepData_gates {p : DataLoop.Point} {chunk : Nat} {gated : Bool}
    (hpoint : p.isAtGate = false) (h : c.stepData t th p chunk gated = some c') :
    c'.gates = c.gates := by
  cases p with
  | creating =>
    simp only [stepData] at h
    split at h
    · obtain rfl := Option.some.inj h
      rfl
    · obtain rfl := Option.some.inj h
      rfl
  | parked =>
    simp only [stepData] at h
    split at h
    · obtain rfl := Option.some.inj h
      rfl
    · cases h
  | delivering bytes =>
    obtain rfl := Option.some.inj h
    exact deliver_gates ..
  | announcing | head | polling | resetting | rechecking | leaving =>
    obtain rfl := Option.some.inj h
    rfl
  | gating | reading => cases hpoint
  | gone | dead => cases h

theorem stepData_passes {p : DataLoop.Point} {chunk : Nat} {gated : Bool}
    (ht : c.thread? t = some th) (hb : th.body = .data p chunk gated)
    (h : c.stepData t th p chunk gated = some c') : PassesAt t c c' := by
  cases hpoint : p.isAtGate with
  | false =>
    refine (stepData_edge ht hb h).passes (stepData_gates hpoint h) ?_
    intro th' p' chunk' gated' ht' hb'
    obtain rfl := Option.some.inj (ht.symm.trans ht')
    obtain ⟨rfl, -, -⟩ := Body.data.inj (hb.symm.trans hb')
    exact hpoint
  | true =>
    cases p with
    | gating hungUp =>
      simp only [stepData] at h
      split at h
      · rename_i hopen
        obtain rfl := Option.some.inj h
        obtain rfl : gated = false := by simpa using hopen
        refine passesAt_point ht hb rfl (fun _ _ => rfl) ?_
        exact fun hgated => absurd hgated Bool.false_ne_true
      · split at h
        · rename_i hgated hadmits
          obtain rfl := Option.some.inj h
          obtain rfl : gated = true := by simpa using hgated
          refine passesAt_point ht hb rfl ?_ ?_
          · intro fd hne
            exact gate_setGate_ne (hne rfl) _ c
          · intro _
            show Gate.Pass _ _ _ ((c.setGate th.fd _).gate th.fd)
            rw [gate_setGate_self]
            exact .joined hadmits
        · cases h
    | reading hungUp =>
      obtain rfl := Option.some.inj h
      exact endRead_passes ht hb
    | _ => cases hpoint

/-! ## Sampling threads -/

/-- Sampling threads change no gate. -/
theorem stepSampler_gates {α : Type} [DecidableEq α] {p : SampleLoop.Point α} {rechecks : Bool}
    {item : α → Item} {sample : Host → Outcome α × (SampleLoop.Point α → Body) × Host}
    {body : SampleLoop.Point α → Body}
    (h : c.stepSampler t th p rechecks item sample body = some c') : c'.gates = c.gates := by
  cases p with
  | creating =>
    simp only [stepSampler] at h
    split at h
    · obtain rfl := Option.some.inj h
      rfl
    · obtain rfl := Option.some.inj h
      rfl
  | parked last =>
    simp only [stepSampler] at h
    split at h
    · obtain rfl := Option.some.inj h
      rfl
    · cases h
  | reporting now =>
    obtain rfl := Option.some.inj h
    exact deliver_gates ..
  | firstSample | announcing | head | waiting | resetting | rechecking | sampling | leaving =>
    obtain rfl := Option.some.inj h
    rfl
  | gone | dead => cases h

/-- A step of a thread that does not read data leaves all gates alone. -/
theorem StepsAt.passes_other (h : StepsAt t c c') (hgates : c'.gates = c.gates)
    (ht : c.thread? t = some th) (hb : ∀ p chunk gated, th.body ≠ .data p chunk gated) :
    PassesAt t c c' := by
  refine h.passes hgates ?_
  intro th' p chunk gated ht' hb'
  obtain rfl := Option.some.inj (ht.symm.trans ht')
  exact absurd hb' (hb p chunk gated)

theorem step_passes (h : c.step t = some c') : PassesAt t c c' := by
  have hedge := step_edge h
  simp only [step] at h
  rcases Option.bind_eq_some_iff.mp h with ⟨th, ht, hrest⟩
  split at hrest
  · cases hrest
  · split at hrest
    · rename_i hb
      exact stepData_passes ht hb hrest
    · rename_i point source hb
      refine hedge.passes_other ?_ ht (by simp [hb])
      unfold stepEvent at hrest
      split at hrest
      · obtain rfl := Option.some.inj hrest
        rfl
      · obtain rfl := Option.some.inj hrest
        rfl
      · exact stepSampler_gates hrest
    · rename_i point path hb
      exact hedge.passes_other (stepSampler_gates hrest) ht (by simp [hb])

theorem elapse_passes (h : c.elapse t = some c') : PassesAt t c c' := by
  have hedge := elapse_edge h
  simp only [elapse] at h
  rcases Option.bind_eq_some_iff.mp h with ⟨th, ht, hrest⟩
  split at hrest
  · rename_i hb
    obtain rfl := Option.some.inj hrest
    exact hedge.passes_other rfl ht (by simp [hb])
  · rename_i hb
    obtain rfl := Option.some.inj hrest
    exact hedge.passes_other rfl ht (by simp [hb])
  · cases hrest

theorem fail_passes {code : Errno} (h : c.fail t code = some c') : PassesAt t c c' := by
  have hedge := fail_edge h
  simp only [fail] at h
  rcases Option.bind_eq_some_iff.mp h with ⟨th, ht, hrest⟩
  split at hrest
  · rename_i chunk gated hb
    obtain rfl := Option.some.inj hrest
    refine hedge.passes rfl ?_
    intro th' p' chunk' gated' ht' hb'
    obtain rfl := Option.some.inj (ht.symm.trans ht')
    obtain ⟨rfl, -, -⟩ := Body.data.inj (hb.symm.trans hb')
    rfl
  · rename_i hungUp chunk gated hb
    obtain rfl := Option.some.inj hrest
    exact endRead_passes ht hb
  · rename_i hb
    obtain rfl := Option.some.inj hrest
    exact hedge.passes_other rfl ht (by simp [hb])
  · rename_i hb
    obtain rfl := Option.some.inj hrest
    exact hedge.passes_other rfl ht (by simp [hb])
  · cases hrest

/-! ## Everything that happens -/

/-- A thread that changes, but not what it runs on which descriptor, stays where it is. -/
theorem passesAt_edit (edit : Thread → Thread) (hfd : ∀ th, (edit th).fd = th.fd)
    (hbody : ∀ th, (edit th).body = th.body) (t : ThreadId) (c : Crew) :
    c.editThread t edit = c ∨ PassesAt t c (c.editThread t edit) := by
  rcases editThread_cases edit t c with hsame | ⟨th, ht, hedit⟩
  · exact Or.inl hsame
  · right
    rw [hedit]
    refine ⟨th, edit th, ht, rfl, ?_⟩
    intro fd
    have hdrains : (edit th).drains fd = th.drains fd := by
      unfold Thread.drains
      rw [hfd, hbody]
    rw [hdrains]
    exact .stayed

/-- The thread that an event happens to. -/
def Event.thread : Event → ThreadId
  | step t | elapse t | fail t _ | poke t | letGo t => t

/-- Whether an event lets a thread do something, or lets it fail to. -/
def Event.isStep : Event → Bool
  | step _ | fail _ _ => true
  | _ => false

/-- Whatever happens to a crew without a client, one thread passes the gates at most. -/
theorem after?_passes {e : Event} (h : c.after? e = some c') : c' = c ∨ PassesAt e.thread c c' := by
  cases e with
  | step t => exact Or.inr (step_passes h)
  | elapse t => exact Or.inr (elapse_passes h)
  | fail t code => exact Or.inr (fail_passes h)
  | poke t =>
    obtain rfl := Option.some.inj h
    let edit (th : Thread) : Thread := { th with waker := (th.waker.add 1).2 }
    exact passesAt_edit edit (fun _ => rfl) (fun _ => rfl) t c
  | letGo t =>
    obtain rfl := Option.some.inj h
    let edit (th : Thread) : Thread := { th with held := false }
    exact passesAt_edit edit (fun _ => rfl) (fun _ => rfl) t c

/-! ## What clients do to threads -/

/-- Threads that keep what they run stay where they are. -/
theorem Keeps.drains (h : c.Keeps c') (fd : Fd) :
    c'.threads.map (·.drains fd) = c.threads.map (·.drains fd) := by
  let drains (x : Fd × Body) : Bool := Thread.drains { fd := x.1, body := x.2 } fd
  have hbodies := congrArg (List.map drains) h.bodies
  rw [List.map_map, List.map_map] at hbodies
  exact hbodies

theorem cancel_gates (t : ThreadId) (c : Crew) : (c.cancel t).gates = c.gates := by
  rcases editThread_cases ({ · with cancelled := true }) t c with hsame | ⟨th, -, hedit⟩
  · rw [cancel, hsame]
  · rw [cancel, hedit]

theorem wake_gates (t : ThreadId) (c : Crew) : (c.wake t).2.gates = c.gates := by
  unfold wake
  split <;> rfl

end Crew

end SerialLine
