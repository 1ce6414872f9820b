import SerialLine.Proofs.Listener.Armed
import SerialLine.Proofs.Listener.FailedStop

/-!
# SerialLine.Proofs.Listener.Ending — a thread that was woken to end comes to its end

A thread that was asked to end and woken has no more than one round of its loop before it. Its
`stepsLeft` go down with each step but those that begin a wait or a read over, so it `Lingers` at
one place or comes nearer to its end; and until it has ended, nothing but the user's code and the
gate of its port keeps it where it is.
-/

namespace SerialLine

/-! ## The steps that are left -/

/-- A bound on the places that a data listener comes to after this one once it was asked to end.
The wait and the entry to it count as one place. -/
def DataLoop.Point.stepsLeft : DataLoop.Point → Nat
  | .creating | .announcing => 7
  | .polling | .parked => 6
  | .gating _ => 5
  | .reading _ => 4
  | .resetting _ | .delivering _ => 3
  | .head | .rechecking _ => 2
  | .leaving => 1
  | .gone | .dead _ => 0

/-- The same for a sampling thread. -/
def SampleLoop.Point.stepsLeft {α : Type} : SampleLoop.Point α → Nat
  | .creating | .firstSample | .announcing _ => 7
  | .waiting _ | .parked _ => 6
  | .sampling _ => 4
  | .resetting _ | .reporting _ => 3
  | .head _ | .rechecking _ => 2
  | .leaving => 1
  | .gone | .dead _ => 0

namespace Body

/-- The same for any thread. -/
def stepsLeft : Body → Nat
  | data point .. => point.stepsLeft
  | event point _ => point.stepsLeft
  | watch point _ => point.stepsLeft

theorem stepsLeft_of_waiting {b : Body} (h : b.isWaiting = true) : b.stepsLeft = 6 := by
  unfold isWaiting at h
  split at h
  · rfl
  · rfl
  · rfl
  · rfl
  · rfl
  · rfl
  · cases h

theorem not_creating_of_started {b : Body} (h : b.lifecycle ≠ .starting) :
    b.isCreating = false := by
  unfold isCreating
  split
  · exact absurd rfl h
  · exact absurd rfl h
  · exact absurd rfl h
  · rfl

end Body

/-- A wake-up counts as done where the system call was done or found the counter full. -/
theorem Waker.eagain_of_wake {code : Errno} {w : Waker} (h : (w.wake (some code)).1 = .ok ()) :
    code = .EAGAIN := by
  change (if (CallFault.errno code).isWouldBlock then .ok ()
    else .error (.osCall "wake" code)) = (.ok () : Outcome Unit) at h
  split at h
  · next heagain => simpa [CallFault.isWouldBlock] using heagain
  · cases h

/-- A thread is where it was, if the wait and the entry to it are one place. -/
def Thread.Lingers (th th' : Thread) : Prop :=
  th'.body = th.body ∨ (th.body.isWaiting = true ∧ th'.body.isWaiting = true)

namespace Thread.Lingers

variable {th th' th'' : Thread}

theorem trans (h : th.Lingers th') (h' : th'.Lingers th'') : th.Lingers th'' := by
  rcases h with hb | ⟨hw, hw'⟩
  · unfold Lingers
    rwa [← hb]
  · rcases h' with hb' | ⟨-, hw''⟩
    · exact .inr ⟨hw, by rwa [hb']⟩
    · exact .inr ⟨hw, hw''⟩

theorem stepsLeft_eq (h : th.Lingers th') : th'.body.stepsLeft = th.body.stepsLeft := by
  rcases h with hb | ⟨hw, hw'⟩
  · rw [hb]
  · rw [Body.stepsLeft_of_waiting hw, Body.stepsLeft_of_waiting hw']

end Thread.Lingers

/-- A data listener that was asked to end comes nearer to its end, begins a read over, or enters
its wait. -/
theorem DataLoop.Edge.stepsLeft {th : Thread} {chunk : Nat} {h h' : Host} {p q : Point}
    {w : Waker} {handed : List Bytes} (e : Edge th chunk h p q w h' handed)
    (hc : th.cancelled = true) (hp : p.lifecycle ≠ .starting) :
    q.stepsLeft < p.stepsLeft ∨ q = p ∨ (p = .polling ∧ q = .parked) := by
  cases e with
  | created | refused | announced => exact absurd rfl hp
  | handed _ hq => rcases hq with rfl | rfl <;> exact .inl (by simp [Point.stepsLeft])
  | looked => exact .inl (by simp [afterHead, hc, Point.stepsLeft])
  | entered _ fault? =>
    cases fault? with
    | none => exact .inr (.inr ⟨rfl, rfl⟩)
    | some code => exact .inl (by grind [afterPoll, Point.stepsLeft])
  | interrupted code => exact .inl (by grind [afterPoll, Point.stepsLeft])
  | reported => exact .inl (by grind [afterReport, serve, Point.stepsLeft])
  | rechecked => exact .inl (by simp [afterRecheck, hc, Point.stepsLeft])
  | read hungUp | unread hungUp =>
    unfold afterRead
    split
    · exact .inr (.inl rfl)
    · exact .inl (by split <;> simp [Point.stepsLeft])
    · exact .inl (by simp [Point.stepsLeft])
    · exact .inl (by simp [Point.stepsLeft])
  | reset | admitted | left => exact .inl (by simp [Point.stepsLeft])

/-- Whether a sampling thread is parked in its wait, or about to enter it. -/
def SampleLoop.Point.isWaiting {α : Type} : SampleLoop.Point α → Bool
  | .waiting _ | .parked _ => true
  | _ => false

/-- A sampling thread that was asked to end comes nearer to its end, or begins its wait over. -/
theorem SampleLoop.Edge.stepsLeft {α : Type} [DecidableEq α] {th : Thread} {rechecks : Bool}
    {p q : Point α} {w : Waker} {handed : List α} (e : Edge th rechecks p q w handed)
    (hc : th.cancelled = true) (hp : p.lifecycle ≠ .starting) :
    q.stepsLeft < p.stepsLeft ∨ (p.isWaiting = true ∧ q.isWaiting = true) := by
  cases e with
  | created | refused | first | heldFirst | panickedFirst | announced => exact absurd rfl hp
  | handed _ hq => rcases hq with rfl | rfl <;> exact .inl (by simp [Point.stepsLeft])
  | looked => exact .inl (by simp [afterHead, hc, Point.stepsLeft])
  | rechecked => exact .inl (by simp [afterRecheck, hc, Point.stepsLeft])
  | entered last fault? =>
    cases fault? with
    | none => exact .inr ⟨rfl, rfl⟩
    | some code => grind [afterEntry, Point.stepsLeft, Point.isWaiting]
  | interrupted last code => grind [afterEntry, Point.stepsLeft, Point.isWaiting]
  | reset => exact .inl (by cases rechecks <;> simp [afterReset, Point.stepsLeft])
  | sampled last outcome => exact .inl (by cases outcome <;> grind [afterSample, Point.stepsLeft])
  | woken | elapsed | left => exact .inl (by simp [afterWait, Point.stepsLeft])

namespace Body

theorem isWaiting_event {p : SampleLoop.Point LineStatus} {source : LineSource} :
    (event p source).isWaiting = p.isWaiting := by
  cases p <;> rfl

theorem isWaiting_watch {p : SampleLoop.Point Bool} {path : Path} :
    (watch p path).isWaiting = p.isWaiting := by
  cases p <;> rfl

end Body

/-- A thread that was asked to end comes nearer to its end with every step, or stays where it is. -/
theorem Thread.Step.stepsLeft {h h' : Host} {th th' : Thread} {items : List Item}
    (hs : th.Step h h' th' items) (hc : th.cancelled = true)
    (hstarted : th.body.lifecycle ≠ .starting) :
    th'.body.stepsLeft < th.body.stepsLeft ∨ th.Lingers th' := by
  cases hs with
  | data hb e hb' =>
    rw [hb] at hstarted
    unfold Lingers
    rw [hb, hb']
    rcases e.stepsLeft hc hstarted with hless | rfl | ⟨rfl, rfl⟩
    · exact .inl hless
    · exact .inr (.inl rfl)
    · exact .inr (.inr ⟨rfl, rfl⟩)
  | event hb e _ hb' =>
    rw [hb] at hstarted
    unfold Lingers
    rw [hb, hb', Body.isWaiting_event, Body.isWaiting_event]
    exact (e.stepsLeft hc hstarted).imp_right .inr
  | watch hb e _ hb' =>
    rw [hb] at hstarted
    unfold Lingers
    rw [hb, hb', Body.isWaiting_watch, Body.isWaiting_watch]
    exact (e.stepsLeft hc hstarted).imp_right .inr
  | poked | letGo => exact .inr (.inl rfl)

/-! ## What keeps a thread where it is -/

namespace Crew

variable {c c' : Crew} {t : ThreadId} {th : Thread}

/-- Nothing but the user's code and the gate of its port keeps a thread where it is. -/
def IsAwake (t : ThreadId) (c : Crew) : Prop :=
  (c.step t).isSome = true ∨ ∃ th, c.thread? t = some th ∧
    (th.held = true ∨ ∃ hungUp chunk gated, th.body = .data (.gating hungUp) chunk gated)

/-- The thread was asked to end and heeds its wake-up. -/
def Yields (t : ThreadId) (c : Crew) : Prop :=
  ∃ th, c.thread? t = some th ∧ th.Heeds ∧ th.body.lifecycle ≠ .starting

theorem Yields.event {e : Event} (h : c.Yields t) (he : c.after? e = some c') : c'.Yields t := by
  obtain ⟨th, ht, hheeds, hstarted⟩ := h
  obtain ⟨th', ht', rfl | ⟨_, hstep, -⟩⟩ := thread_event he ht
  · exact ⟨_, ht', hheeds, hstarted⟩
  · exact ⟨th', ht', hstep.heeds hheeds, hstep.started hstarted⟩

/-- A thread that was asked to end heeds a wake-up that comes through. The counter refuses an
addition only when it is full, and then the thread can see it as well. -/
theorem yields_of_wake
    (hstarted : ∀ th, c.thread? t = some th → th.body.lifecycle ≠ .starting)
    (hasked : c.IsCancelled t) (hwake : c.wake t = (.ok (), c'))
    (hhonest : (c.host.takeFault .wake).1 ≠ some .EAGAIN) : c'.Yields t := by
  obtain ⟨th, ht, hc⟩ := hasked
  replace hstarted := hstarted th ht
  simp only [wake, ht] at hwake
  obtain ⟨hresult, rfl⟩ := Prod.mk.inj hwake
  -- the addition leaves the counter above zero, so the thread cannot miss it
  have hpos : 0 < (c.host.wake th.waker).2.1.count := by
    change (th.waker.wake (c.host.takeFault .wake).1).1 = .ok () at hresult
    show 0 < (th.waker.wake (c.host.takeFault .wake).1).2.count
    cases hfault : (c.host.takeFault .wake).1 with
    | none => exact th.waker.count_pos_of_wake
    | some code =>
      rw [hfault] at hresult hhonest
      exact absurd (congrArg some (Waker.eagain_of_wake hresult)) hhonest
  exact ⟨_, thread?_set_self ht rfl, ⟨Body.not_creating_of_started hstarted, hc, .inl hpos⟩,
    hstarted⟩

theorem stepData_isSome {p : DataLoop.Point} {chunk : Nat} {gated : Bool}
    (hb : th.body = .data p chunk gated) (hheeds : th.Heeds) (hlive : th.body.hasEnded = false)
    (hgate : ∀ hungUp, p ≠ .gating hungUp) : (c.stepData t th p chunk gated).isSome = true := by
  cases p with
  | creating =>
    have hcreated := hheeds.created
    rw [hb] at hcreated
    cases hcreated
  | parked =>
    have hawake : th.waker.isReady = true := by
      rcases hheeds.awake with hpos | hleaving
      · simpa [Waker.isReady] using hpos
      · rw [hb] at hleaving
        cases hleaving
    simp [stepData, Readiness.any, hawake]
  | gating hungUp => exact absurd rfl (hgate hungUp)
  | gone | dead =>
    rw [hb] at hlive
    cases hlive
  | _ => rfl

theorem stepSampler_isSome {α : Type} [DecidableEq α] {p : SampleLoop.Point α} {rechecks : Bool}
    {item : α → Item} {sample : Host → Outcome α × (SampleLoop.Point α → Body) × Host}
    {body : SampleLoop.Point α → Body} (hcreated : p ≠ .creating) (hlive : p.hasEnded = false)
    (hawake : 0 < th.waker.count ∨ p.isLeaving = true) :
    (c.stepSampler t th p rechecks item sample body).isSome = true := by
  cases p with
  | creating => exact absurd rfl hcreated
  | parked last =>
    have hready : th.waker.isReady = true := by
      rcases hawake with hpos | hleaving
      · simpa [Waker.isReady] using hpos
      · cases hleaving
    simp [stepSampler, hready]
  | gone | dead => cases hlive
  | _ => rfl

/-- A thread that heeds its wake-up does not sleep before it has ended. -/
theorem isAwake (ht : c.thread? t = some th) (hheeds : th.Heeds)
    (hlive : th.body.hasEnded = false) : c.IsAwake t := by
  by_cases hheld : th.held = true
  · exact .inr ⟨th, ht, .inl hheld⟩
  · have hcreated := hheeds.created
    have hawake := hheeds.awake
    cases hb : th.body with
    | data p chunk gated =>
      have hstep : c.step t = c.stepData t th p chunk gated := by simp [step, ht, hheld, hb]
      -- where the gate is closed the thread waits, but not for its waker
      by_cases hgate : ∃ hungUp, p = .gating hungUp
      · obtain ⟨hungUp, rfl⟩ := hgate
        exact .inr ⟨th, ht, .inr ⟨hungUp, chunk, gated, hb⟩⟩
      · left
        rw [hstep]
        exact stepData_isSome hb hheeds hlive fun hungUp hp => hgate ⟨hungUp, hp⟩
    | event p source =>
      have hstep : c.step t = c.stepEvent t th p source := by simp [step, ht, hheld, hb]
      rw [hb] at hcreated hawake hlive
      left
      rw [hstep]
      unfold stepEvent
      split
      · rfl
      · rfl
      · exact stepSampler_isSome (Body.isCreating_event.mp hcreated) hlive hawake
    | watch p path =>
      have hstep : c.step t = c.stepWatch t th p path := by simp [step, ht, hheld, hb]
      rw [hb] at hcreated hawake hlive
      left
      rw [hstep]
      exact stepSampler_isSome (Body.isCreating_watch.mp hcreated) hlive hawake

end Crew

end SerialLine
