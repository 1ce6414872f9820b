import Mathlib.Data.List.Basic
import SerialLine.Proofs.Listener.Threads

/-!
# SerialLine.Proofs.Listener.WakeUp — no wake-up is lost

Threads of all three kinds run beside those who stop them. To stop a thread is to cancel it and
then to wake it; in between, before and after, there may be any other wake-ups, reports,
interruptions and intervals that pass.

A stopped thread heeds its wake-up: either the wake-up is still in the counter, or the thread has
just taken it and looks at its cancellation before it waits again. `Thread.Heeds` is this
invariant, and it holds wherever the three loops look. The number of calls that a cancelled thread
may still make is a measure on the points of its loop which no step raises, and which each call
lowers by one.
-/

namespace SerialLine

/-! ## Places in the loops -/

/-- Whether a cancelled data listener ends without waiting again. -/
def DataLoop.Point.isLeaving : DataLoop.Point → Bool
  | .head | .rechecking _ | .leaving | .gone | .dead _ => true
  | _ => false

/-- Whether a cancelled sampling thread ends without waiting again. -/
def SampleLoop.Point.isLeaving {α : Type} : SampleLoop.Point α → Bool
  | .head _ | .rechecking _ | .leaving | .gone | .dead _ => true
  | _ => false

/-- The calls of its callback that a cancelled data listener makes at most. -/
def DataLoop.Point.callsDue : DataLoop.Point → Nat
  | .polling | .parked | .gating _ | .reading _ | .delivering _ => 1
  | _ => 0

/-- The calls of its callback that a cancelled sampling thread makes at most. -/
def SampleLoop.Point.callsDue {α : Type} : SampleLoop.Point α → Nat
  | .waiting _ | .parked _ | .sampling _ | .reporting _ => 1
  | _ => 0

namespace Body

/-- Whether a thread is parked in its wait, or about to enter it. -/
def isWaiting : Body → Bool
  | .data .polling _ _ | .event (.waiting _) _ | .watch (.waiting _) _ => true
  | .data .parked _ _ | .event (.parked _) _ | .watch (.parked _) _ => true
  | _ => false

/-- Whether a thread has no waker yet. -/
def isCreating : Body → Bool
  | .data .creating _ _ | .event .creating _ | .watch .creating _ => true
  | _ => false

/-- Whether a cancelled thread ends without waiting again. -/
def isLeaving : Body → Bool
  | data point .. => point.isLeaving
  | event point _ => point.isLeaving
  | watch point _ => point.isLeaving

/-- The calls of its callback that a cancelled thread makes at most. -/
def callsDue : Body → Nat
  | data point .. => point.callsDue
  | event point _ => point.callsDue
  | watch point _ => point.callsDue

end Body

namespace Thread

/-- Whether a thread was just created. -/
def isFresh (th : Thread) : Bool := th.body.isCreating && th.reports.isEmpty

/-- Whether a thread has handed over its waker. -/
def isArmed (th : Thread) : Bool :=
  match th.reports with
  | .ok () :: _ => true
  | _ => false

end Thread

/-- The calls that a thread has made of its callback. -/
def Crew.callsOf (t : ThreadId) (c : Crew) : Nat := c.delivered.countP (·.1 == t)

/-! ## Threads and those who stop them -/

/-- Threads, and those of them that were stopped: cancelled, and then woken. -/
structure WakeUps where
  crew : Crew := {}
  woken : List ThreadId := []

namespace WakeUps

/-- A step of somebody. -/
inductive Action where
  /-- A thread is created. -/
  | spawn (th : Thread)
  /-- Something happens to a thread. -/
  | thread (e : Crew.Event)
  /-- Somebody cancels a thread. -/
  | cancel (t : ThreadId)
  /-- Somebody who has cancelled a thread wakes it. -/
  | wake (t : ThreadId)
  /-- Something else happens on the host. -/
  | outside (host : Host) (gates : List (Fd × Gate))

/-- What there is after a step; `none` if the step cannot be taken. A thread can be woken as soon
as it has handed over its waker, and a wake-up that fails is none. -/
def act? (s : WakeUps) : Action → Option WakeUps
  | .spawn th => if th.isFresh then some { s with crew := (s.crew.spawn th).2 } else none
  | .thread e => (s.crew.after? e).map fun crew => { s with crew }
  | .cancel t => some { s with crew := s.crew.cancel t }
  | .wake t => do
    let th ← s.crew.thread? t
    if th.cancelled && th.isArmed then
      let failure? := (s.crew.host.takeFault .wake).1
      let woken := if failure?.isNone then t :: s.woken else s.woken
      some { crew := (s.crew.wake t).2, woken }
    else none
  | .outside host gates => some { s with crew := { s.crew with host, gates } }

/-- What there is after several steps. -/
def run? (s : WakeUps) (actions : List Action) : Option WakeUps := actions.foldlM act? s

/-- What any order of steps leads to. -/
inductive Steps (s : WakeUps) : WakeUps → Prop where
  | refl : Steps s s
  | act {s₁ s₂ : WakeUps} (a : Action) (h : Steps s s₁) (ha : s₁.act? a = some s₂) : Steps s s₂

/-- What any order of steps leads to from a host without threads. -/
def Reachable (s : WakeUps) : Prop :=
  ∃ host gates, Steps { crew := { host, gates } } s

theorem Steps.run {s s₁ s₂ : WakeUps} {actions : List Action} (h : Steps s s₁)
    (hrun : s₁.run? actions = some s₂) : Steps s s₂ :=
  run_keeps (fun a _ _ _ hs ha => hs.act a ha) h hrun

end WakeUps

/-! ## What a step of a thread does to its wake-ups -/

namespace Waker

theorem count_le_add (w : Waker) : w.count ≤ (w.add 1).2.count := by
  unfold add
  split
  · exact Nat.le_succ _
  · exact Nat.le_refl _

/-- After a wake-up the counter is not empty, even if it was full. -/
theorem count_pos_of_wake (w : Waker) : 0 < (w.wake none).2.count := by
  show 0 < (w.add 1).2.count
  unfold add
  split
  · exact Nat.succ_pos _
  · rename_i hfull
    -- a counter that takes no more is full, so it is not empty
    have hpos : 0 < full := by decide
    show 0 < w.count
    omega

end Waker

/-- A cancelled thread has a wake-up before it, or it ends without waiting again. -/
structure Thread.Heeds (th : Thread) : Prop where
  created : th.body.isCreating = false
  cancelled : th.cancelled = true
  awake : 0 < th.waker.count ∨ th.body.isLeaving = true

/-- What a data listener does with the wake-ups that it was given. -/
theorem DataLoop.Edge.heeds {th : Thread} {chunk : Nat} {h h' : Host} {p q : Point} {w : Waker}
    {handed : List Bytes} (e : Edge th chunk h p q w h' handed) (hc : th.cancelled = true)
    (hp : p ≠ .creating) (hw : 0 < th.waker.count ∨ p.isLeaving = true) :
    0 < w.count ∨ q.isLeaving = true := by
  cases e with
  | created | refused => exact absurd rfl hp
  | looked | rechecked => exact Or.inr (by simp [afterHead, afterRecheck, hc, Point.isLeaving])
  | reset => exact Or.inr rfl
  | left => exact Or.inr rfl
  | _ => exact hw.imp_right (fun hleave => Bool.noConfusion hleave)

/-- What a sampling thread does with the wake-ups that it was given. -/
theorem SampleLoop.Edge.heeds {α : Type} [DecidableEq α] {th : Thread} {rechecks : Bool}
    {p q : Point α} {w : Waker} {handed : List α} (e : Edge th rechecks p q w handed)
    (hc : th.cancelled = true) (hp : p ≠ .creating)
    (hw : 0 < th.waker.count ∨ p.isLeaving = true) : 0 < w.count ∨ q.isLeaving = true := by
  cases e with
  | created | refused => exact absurd rfl hp
  | looked | rechecked => exact Or.inr (by simp [afterHead, afterRecheck, hc, Point.isLeaving])
  -- a watcher goes to the head of its loop, which looks as well
  | reset => exact Or.inr (by cases rechecks <;> rfl)
  | left => exact Or.inr rfl
  | _ => exact hw.imp_right (fun hleave => Bool.noConfusion hleave)

/-! ## What a step of a thread does to its calls -/

theorem DataLoop.Point.callsDue_le_one (p : Point) : p.callsDue ≤ 1 := by
  cases p <;> simp [callsDue]

theorem SampleLoop.Point.callsDue_le_one {α : Type} (p : Point α) : p.callsDue ≤ 1 := by
  cases p <;> simp [callsDue]

/-- What a cancelled data listener hands over was due. -/
theorem DataLoop.Edge.calls_le {th : Thread} {chunk : Nat} {h h' : Host} {p q : Point} {w : Waker}
    {handed : List Bytes} (e : Edge th chunk h p q w h' handed) (hc : th.cancelled = true) :
    handed.length + q.callsDue ≤ p.callsDue := by
  cases e with
  | created _ hq | handed _ hq => rcases hq with rfl | rfl <;> exact Nat.le_refl _
  | looked | rechecked => simp [afterHead, afterRecheck, hc, Point.callsDue]
  | refused | announced | reset | left => exact Nat.le_refl _
  -- the others start where one call is due
  | _ => exact Nat.le_trans (Nat.le_of_eq (Nat.zero_add _)) (Point.callsDue_le_one _)

/-- What a cancelled sampling thread hands over was due. -/
theorem SampleLoop.Edge.calls_le {α : Type} [DecidableEq α] {th : Thread} {rechecks : Bool}
    {p q : Point α} {w : Waker} {handed : List α} (e : Edge th rechecks p q w handed)
    (hc : th.cancelled = true) : handed.length + q.callsDue ≤ p.callsDue := by
  cases e with
  | handed _ hq => rcases hq with rfl | rfl <;> exact Nat.le_refl _
  | looked | rechecked => simp [afterHead, afterRecheck, hc, Point.callsDue]
  | first outcome => cases outcome <;> exact Nat.le_refl _
  | reset => cases rechecks <;> exact Nat.le_refl _
  | created | refused | heldFirst | panickedFirst | announced | left => exact Nat.le_refl _
  | _ => exact Nat.le_trans (Nat.le_of_eq (Nat.zero_add _)) (Point.callsDue_le_one _)

/-! ## The loops together -/

namespace Body

theorem isCreating_data {p : DataLoop.Point} {chunk : Nat} {gated : Bool} :
    (data p chunk gated).isCreating = false ↔ p ≠ .creating := by
  cases p <;> simp [isCreating]

theorem isCreating_event {p : SampleLoop.Point LineStatus} {source : LineSource} :
    (event p source).isCreating = false ↔ p ≠ .creating := by
  cases p <;> simp [isCreating]

theorem isCreating_watch {p : SampleLoop.Point Bool} {path : Path} :
    (watch p path).isCreating = false ↔ p ≠ .creating := by
  cases p <;> simp [isCreating]

end Body

namespace Thread.Step

variable {h h' : Host} {th th' : Thread} {items : List Item}

/-- A thread with no waker yet has reported nothing; no step leads back there. -/
theorem unarmed (hs : th.Step h h' th' items)
    (hth : th.body.isCreating = true → th.reports = []) :
    th'.body.isCreating = true → th'.reports = [] := by
  cases hs with
  | data _ e hb' => simp [hb', Body.isCreating_data.mpr e.not_creating]
  | event _ e _ hb' => simp [hb', Body.isCreating_event.mpr e.not_creating]
  | watch _ e _ hb' => simp [hb', Body.isCreating_watch.mpr e.not_creating]
  | poked => exact hth
  | letGo => exact hth

theorem cancelled_eq (hs : th.Step h h' th' items) : th'.cancelled = th.cancelled := by
  cases hs with
  | data _ _ _ _ _ hc => exact hc
  | event _ _ _ _ _ _ hc => exact hc
  | watch _ _ _ _ _ _ hc => exact hc
  | poked => rfl
  | letGo => rfl

/-- Whatever happens to a thread that heeds its wake-up, it still does. -/
theorem heeds (hs : th.Step h h' th' items) (hth : th.Heeds) : th'.Heeds := by
  rcases hth with ⟨hcreated, hc, hawake⟩
  have hc' : th'.cancelled = true := hs.cancelled_eq.trans hc
  cases hs with
  | data hb e hb' hw =>
    rw [hb] at hcreated hawake
    refine ⟨hb' ▸ Body.isCreating_data.mpr e.not_creating, hc', ?_⟩
    rw [hb', hw]
    exact e.heeds hc (Body.isCreating_data.mp hcreated) hawake
  | event hb e _ hb' hw =>
    rw [hb] at hcreated hawake
    refine ⟨hb' ▸ Body.isCreating_event.mpr e.not_creating, hc', ?_⟩
    rw [hb', hw]
    exact e.heeds hc (Body.isCreating_event.mp hcreated) hawake
  | watch hb e _ hb' hw =>
    rw [hb] at hcreated hawake
    refine ⟨hb' ▸ Body.isCreating_watch.mpr e.not_creating, hc', ?_⟩
    rw [hb', hw]
    exact e.heeds hc (Body.isCreating_watch.mp hcreated) hawake
  | poked =>
    exact ⟨hcreated, hc', hawake.imp_left fun hpos => Nat.lt_of_lt_of_le hpos th.waker.count_le_add⟩
  | letGo => exact ⟨hcreated, hc', hawake⟩

/-- What a cancelled thread calls its callback with was due. -/
theorem calls_le (hs : th.Step h h' th' items) (hc : th.cancelled = true) :
    items.length + th'.body.callsDue ≤ th.body.callsDue := by
  cases hs with
  | data hb e hb' =>
    rw [hb, hb', List.length_map]
    exact e.calls_le hc
  | event hb e _ hb' =>
    rw [hb, hb', List.length_map]
    exact e.calls_le hc
  | watch hb e _ hb' =>
    rw [hb, hb', List.length_map]
    exact e.calls_le hc
  | poked => exact Nat.le_of_eq (Nat.zero_add _)
  | letGo => exact Nat.le_of_eq (Nat.zero_add _)

end Thread.Step

/-- No point of a wait is one where a cancelled thread is about to end. -/
theorem Body.not_leaving_of_waiting {b : Body} (h : b.isWaiting = true) : b.isLeaving = false := by
  cases b with
  | data p =>
    cases p <;> simp [Body.isWaiting, Body.isLeaving, DataLoop.Point.isLeaving] at h ⊢
  | event p =>
    cases p <;> simp [Body.isWaiting, Body.isLeaving, SampleLoop.Point.isLeaving] at h ⊢
  | watch p =>
    cases p <;> simp [Body.isWaiting, Body.isLeaving, SampleLoop.Point.isLeaving] at h ⊢

theorem Body.callsDue_le_one (b : Body) : b.callsDue ≤ 1 := by
  cases b with
  | data p => exact p.callsDue_le_one
  | event p => exact p.callsDue_le_one
  | watch p => exact p.callsDue_le_one

/-! ## The system -/

namespace WakeUps

variable {s s' : WakeUps} {t : ThreadId} {th th' : Thread}

/-- The invariant of threads and those who stop them. -/
structure Inv (s : WakeUps) : Prop where
  /-- A thread that has no waker yet has not handed it over. -/
  unarmed : ∀ t th, s.crew.thread? t = some th → th.body.isCreating = true → th.reports = []
  /-- A thread that was stopped was created. -/
  created : ∀ t, t ∈ s.woken → t < s.crew.threads.length
  /-- A thread that was stopped heeds its wake-up. -/
  heeds : ∀ t th, t ∈ s.woken → s.crew.thread? t = some th → th.Heeds

theorem init_inv (host : Host) (gates : List (Fd × Gate)) :
    Inv { crew := { host, gates } } := by
  constructor
  · intro t th ht
    cases ht
  · intro t ht
    cases ht
  · intro t th ht
    cases ht

/-- The invariant is about the threads alone. -/
theorem Inv.congr (h : s.Inv) (hthreads : s'.crew.threads = s.crew.threads)
    (hwoken : s'.woken = s.woken) : s'.Inv := by
  constructor
  · intro t th ht
    rw [Crew.thread?, hthreads] at ht
    exact h.unarmed t th ht
  · intro t ht
    rw [hthreads]
    exact h.created t (hwoken ▸ ht)
  · intro t th hin ht
    rw [Crew.thread?, hthreads] at ht
    exact h.heeds t th (hwoken ▸ hin) ht

/-- One thread may change, and it may have been stopped by that. -/
theorem Inv.set (h : s.Inv) (ht : s.crew.thread? t = some th)
    (hthreads : s'.crew.threads = s.crew.threads.set t th')
    (hwoken : ∀ u, u ∈ s'.woken → u = t ∨ u ∈ s.woken)
    (hunarmed : (th.body.isCreating = true → th.reports = []) →
      th'.body.isCreating = true → th'.reports = [])
    (hheeds : t ∈ s'.woken → (t ∈ s.woken → th.Heeds) → th'.Heeds) : s'.Inv := by
  constructor
  · intro u thu hu
    rcases Crew.thread?_set_cases ht hthreads hu with ⟨rfl, rfl⟩ | ⟨-, hu⟩
    · exact hunarmed (h.unarmed u th ht)
    · exact h.unarmed u thu hu
  · intro u hu
    rw [hthreads, List.length_set]
    rcases hwoken u hu with rfl | hu
    · exact Crew.lt_of_thread ht
    · exact h.created u hu
  · intro u thu hin hu
    rcases Crew.thread?_set_cases ht hthreads hu with ⟨rfl, rfl⟩ | ⟨hut, hu⟩
    · exact hheeds hin (fun hin => h.heeds u th hin ht)
    · exact h.heeds u thu ((hwoken u hin).resolve_left hut) hu

theorem spawn_inv (h : s.Inv) (hfresh : th.isFresh = true) :
    Inv { s with crew := (s.crew.spawn th).2 } := by
  unfold Crew.spawn
  rcases s.crew.host.takeFault .thread with ⟨_ | code, host⟩
  · constructor
    · intro u thu hu
      rcases Crew.thread?_append_cases (c := s.crew) rfl hu with hu | ⟨-, rfl⟩
      · exact h.unarmed u thu hu
      · intro _
        exact List.isEmpty_iff.mp (Bool.and_eq_true_iff.mp hfresh).2
    · intro u hu
      show u < (s.crew.threads ++ [th]).length
      simpa using Nat.lt_succ_of_lt (h.created u hu)
    · intro u thu hin hu
      rcases Crew.thread?_append_cases (c := s.crew) rfl hu with hu | ⟨rfl, -⟩
      · exact h.heeds u thu hin hu
      -- nobody can have stopped a thread that was not there
      · exact absurd (h.created _ hin) (Nat.lt_irrefl _)
  · exact h.congr rfl rfl

theorem wake_inv (h : s.Inv) (ht : s.crew.thread? t = some th)
    (hready : (th.cancelled && th.isArmed) = true) :
    Inv
      { crew := (s.crew.wake t).2
        woken := if (s.crew.host.takeFault .wake).1.isNone then t :: s.woken else s.woken } := by
  rcases Bool.and_eq_true_iff.mp hready with ⟨hc, harmed⟩
  -- a thread that has handed over its waker has one
  have hcreated : th.body.isCreating = false := by
    rw [← Bool.not_eq_true]
    intro hcreating
    simp [Thread.isArmed, h.unarmed t th ht hcreating] at harmed
  unfold Crew.wake Host.wake
  simp only [ht]
  rcases s.crew.host.takeFault .wake with ⟨_ | code, host⟩
  · refine h.set ht rfl (fun u hu => List.mem_cons.mp hu) id ?_
    intro _ _
    exact ⟨hcreated, hc, Or.inl th.waker.count_pos_of_wake⟩
  · refine h.set ht rfl (fun u hu => Or.inr hu) id ?_
    intro hin hth
    exact hth hin

theorem step_inv {a : Action} (h : s.Inv) (ha : s.act? a = some s') : s'.Inv := by
  cases a with
  | spawn th =>
    simp only [act?] at ha
    split at ha
    · rename_i hfresh
      obtain rfl := Option.some.inj ha
      exact spawn_inv h hfresh
    · cases ha
  | thread e =>
    rcases Option.map_eq_some_iff.mp ha with ⟨crew, hcrew, hs'⟩
    obtain rfl := hs'
    rcases Crew.after?_cases hcrew with rfl | ⟨t, th, th', items, ht, hstep, hset, -⟩
    · exact h
    · refine h.set ht hset (fun u hu => Or.inr hu) hstep.unarmed ?_
      intro hin hth
      exact hstep.heeds (hth hin)
  | cancel t =>
    obtain rfl := Option.some.inj ha
    rcases Crew.editThread_cases ({ · with cancelled := true }) t s.crew with
      hsame | ⟨th, ht, hedit⟩
    · refine h.congr ?_ rfl
      exact congrArg Crew.threads hsame
    · refine h.set ht (congrArg Crew.threads hedit) (fun u hu => Or.inr hu) id ?_
      intro hin hth
      exact ⟨(hth hin).created, rfl, (hth hin).awake⟩
  | wake t =>
    rcases Option.bind_eq_some_iff.mp ha with ⟨th, ht, hrest⟩
    split at hrest
    · rename_i hready
      obtain rfl := Option.some.inj hrest
      exact wake_inv h ht hready
    · cases hrest
  | outside host gates =>
    obtain rfl := Option.some.inj ha
    exact h.congr rfl rfl

theorem Reachable.inv (h : s.Reachable) : s.Inv := by
  rcases h with ⟨host, gates, hsteps⟩
  induction hsteps with
  | refl => exact init_inv host gates
  | act a _ ha ih => exact step_inv ih ha

/-! ## Calls after the cancellation -/

theorem callsOf_append {c c' : Crew} {u : ThreadId} {items : List Item}
    (h : c'.delivered = items.map (u, ·) ++ c.delivered) (t : ThreadId) :
    c'.callsOf t = (if u = t then items.length else 0) + c.callsOf t := by
  unfold Crew.callsOf
  rw [h, List.countP_append, List.countP_map]
  by_cases hut : u = t
  · subst hut
    simp [Function.comp_def]
  · simp [Function.comp_def, hut]

/-- One thread may change and make calls, as long as those of a cancelled thread were due. -/
theorem calls_set {u : ThreadId} {thu thu' : Thread} {items : List Item}
    (ht : s.crew.thread? t = some th) (hc : th.cancelled = true)
    (hu : s.crew.thread? u = some thu)
    (hthreads : s'.crew.threads = s.crew.threads.set u thu')
    (hdelivered : s'.crew.delivered = items.map (u, ·) ++ s.crew.delivered)
    (hdue : thu.cancelled = true → thu'.cancelled = true ∧
      items.length + thu'.body.callsDue ≤ thu.body.callsDue) :
    ∃ th', s'.crew.thread? t = some th' ∧ th'.cancelled = true ∧
      s'.crew.callsOf t + th'.body.callsDue ≤ s.crew.callsOf t + th.body.callsDue := by
  rw [callsOf_append hdelivered]
  by_cases hut : u = t
  · subst hut
    obtain rfl := Option.some.inj (ht.symm.trans hu)
    rcases hdue hc with ⟨hc', hle⟩
    refine ⟨thu', Crew.thread?_set_self ht hthreads, hc', ?_⟩
    rw [if_pos rfl]
    omega
  · refine ⟨th, (Crew.thread?_set_ne hthreads (Ne.symm hut)).trans ht, hc, ?_⟩
    rw [if_neg hut]
    omega

/-- One thread may change where it is not in its loop. -/
theorem calls_set_quiet {u : ThreadId} {thu thu' : Thread}
    (ht : s.crew.thread? t = some th) (hc : th.cancelled = true)
    (hu : s.crew.thread? u = some thu) (hthreads : s'.crew.threads = s.crew.threads.set u thu')
    (hdelivered : s'.crew.delivered = s.crew.delivered)
    (hcancelled : thu.cancelled = true → thu'.cancelled = true) (hbody : thu'.body = thu.body) :
    ∃ th', s'.crew.thread? t = some th' ∧ th'.cancelled = true ∧
      s'.crew.callsOf t + th'.body.callsDue ≤ s.crew.callsOf t + th.body.callsDue := by
  have hnone : s'.crew.delivered = ([] : List Item).map (u, ·) ++ s.crew.delivered := hdelivered
  refine calls_set ht hc hu hthreads hnone ?_
  intro hcu
  rw [hbody]
  exact ⟨hcancelled hcu, Nat.le_of_eq (Nat.zero_add _)⟩

theorem calls_spawn (new : Thread) (ht : s.crew.thread? t = some th) :
    (s.crew.spawn new).2.thread? t = some th ∧
      (s.crew.spawn new).2.callsOf t = s.crew.callsOf t := by
  unfold Crew.spawn
  rcases s.crew.host.takeFault .thread with ⟨_ | code, host⟩
  · exact ⟨(List.getElem?_append_left (Crew.lt_of_thread ht)).trans ht, rfl⟩
  · exact ⟨ht, rfl⟩

/-- Cancelling and waking replace the thread at most, and call nothing. -/
theorem cancel_set (u : ThreadId) (c : Crew) :
    c.cancel u = c ∨ ∃ thu, c.thread? u = some thu ∧
      (c.cancel u).threads = c.threads.set u { thu with cancelled := true } ∧
      (c.cancel u).delivered = c.delivered := by
  rcases Crew.editThread_cases ({ · with cancelled := true }) u c with hsame | ⟨thu, hu, hedit⟩
  · exact Or.inl hsame
  · refine Or.inr ⟨thu, hu, ?_, ?_⟩ <;> rw [Crew.cancel, hedit]

theorem wake_set {u : ThreadId} {thu : Thread} {c : Crew} (hu : c.thread? u = some thu) :
    ∃ waker, (c.wake u).2.threads = c.threads.set u { thu with waker } ∧
      (c.wake u).2.delivered = c.delivered := by
  unfold Crew.wake
  simp only [hu]
  exact ⟨_, rfl, rfl⟩

/-- A thread stays cancelled, and the calls it makes were due. -/
theorem calls_act {a : Action} (ha : s.act? a = some s') (ht : s.crew.thread? t = some th)
    (hc : th.cancelled = true) :
    ∃ th', s'.crew.thread? t = some th' ∧ th'.cancelled = true ∧
      s'.crew.callsOf t + th'.body.callsDue ≤ s.crew.callsOf t + th.body.callsDue := by
  cases a with
  | spawn new =>
    simp only [act?] at ha
    split at ha
    · obtain rfl := Option.some.inj ha
      rcases calls_spawn new ht with ⟨ht', hcalls⟩
      exact ⟨th, ht', hc, Nat.le_of_eq (congrArg (· + th.body.callsDue) hcalls)⟩
    · cases ha
  | thread e =>
    rcases Option.map_eq_some_iff.mp ha with ⟨crew, hcrew, hs'⟩
    obtain rfl := hs'
    rcases Crew.after?_cases hcrew with rfl | ⟨u, thu, thu', items, hu, hstep, hset, hdel⟩
    · exact ⟨th, ht, hc, Nat.le_refl _⟩
    · refine calls_set ht hc hu hset hdel ?_
      intro hcu
      exact ⟨hstep.cancelled_eq.trans hcu, hstep.calls_le hcu⟩
  | cancel u =>
    obtain rfl := Option.some.inj ha
    rcases cancel_set u s.crew with hsame | ⟨thu, hu, hset, hdel⟩
    · refine ⟨th, ?_, hc, Nat.le_of_eq ?_⟩
      · show (s.crew.cancel u).thread? t = some th
        rw [hsame]
        exact ht
      · show (s.crew.cancel u).callsOf t + _ = _
        rw [hsame]
    · refine calls_set_quiet ht hc hu hset hdel ?_ rfl
      exact fun _ => rfl
  | wake u =>
    rcases Option.bind_eq_some_iff.mp ha with ⟨thu, hu, hrest⟩
    split at hrest
    · obtain rfl := Option.some.inj hrest
      rcases wake_set hu with ⟨waker, hset, hdel⟩
      exact calls_set_quiet ht hc hu hset hdel id rfl
    · cases hrest
  | outside host gates =>
    obtain rfl := Option.some.inj ha
    exact ⟨th, ht, hc, Nat.le_refl _⟩

/-- A cancelled thread makes no more calls than were due, however long it is watched. -/
theorem Steps.calls_le (h : Steps s s') (ht : s.crew.thread? t = some th)
    (hc : th.cancelled = true) :
    ∃ th', s'.crew.thread? t = some th' ∧ th'.cancelled = true ∧
      s'.crew.callsOf t + th'.body.callsDue ≤ s.crew.callsOf t + th.body.callsDue := by
  -- on the steps taken; the calls made and those that are due do not grow together
  induction h with
  | refl => exact ⟨th, ht, hc, Nat.le_refl _⟩
  | act a _ ha ih =>
    rcases ih with ⟨th₁, ht₁, hc₁, hle₁⟩
    rcases calls_act ha ht₁ hc₁ with ⟨th₂, ht₂, hc₂, hle₂⟩
    exact ⟨th₂, ht₂, hc₂, Nat.le_trans hle₂ hle₁⟩

/-! ## No wake-up is lost -/

/-- Whatever the order of steps, a thread that was cancelled and then woken does not wait without
a wake-up before it, and a thread that was cancelled calls its callback once more at most. -/
theorem Reachable.no_lost_wake (h : s.Reachable) :
    (∀ t th, t ∈ s.woken → s.crew.thread? t = some th → th.body.isWaiting = true →
      0 < th.waker.count) ∧
    (∀ t th s', s.crew.thread? t = some th → th.cancelled = true → Steps s s' →
      s'.crew.callsOf t ≤ s.crew.callsOf t + 1) := by
  constructor
  · intro t th hin ht hwaiting
    have hheeds := h.inv.heeds t th hin ht
    refine hheeds.awake.resolve_right ?_
    rw [Body.not_leaving_of_waiting hwaiting]
    exact Bool.false_ne_true
  · intro t th s' ht hc hsteps
    rcases hsteps.calls_le ht hc with ⟨th', -, -, hle⟩
    have hdue := th.body.callsDue_le_one
    omega

/-- One thread of each kind goes to its wait and is stopped there. -/
def stopped : List Action :=
  [.spawn { fd := 3, body := .data .creating 16 false },
    .spawn { fd := 3, body := .event .creating { script? := some {} } },
    .spawn { fd := 3, body := .watch .creating ⟨[]⟩ }] ++
  .replicate 4 (.thread (.step 0)) ++ .replicate 5 (.thread (.step 1)) ++
  .replicate 5 (.thread (.step 2)) ++
  [.cancel 0, .wake 0, .cancel 1, .wake 1, .cancel 2, .wake 2]

theorem stopped_heed :
    ∃ s, run? {} stopped = some s ∧ s.woken = [2, 1, 0] ∧
      ∀ t th, t ∈ s.woken → s.crew.thread? t = some th →
        th.body.isWaiting = true ∧ 0 < th.waker.count := by
  have hrun : ∃ s, run? {} stopped = some s ∧ s.woken = [2, 1, 0] ∧
      s.woken.all (fun t => (s.crew.thread? t).all (·.body.isWaiting)) = true :=
    ⟨_, rfl, rfl, rfl⟩
  rcases hrun with ⟨s, hrun, hwoken, hwaiting⟩
  refine ⟨s, hrun, hwoken, ?_⟩
  intro t th hin ht
  have hp : th.body.isWaiting = true := by
    have hall := List.all_eq_true.mp hwaiting t hin
    rwa [ht] at hall
  exact ⟨hp, (Reachable.no_lost_wake ⟨{}, [], Steps.refl.run hrun⟩).1 t th hin ht hp⟩

end WakeUps

end SerialLine
