import Mathlib.Data.Set.Card
import SerialLine.Proofs.Listener.Custody
import SerialLine.Proofs.Monitor.Steps

/-!
# SerialLine.Proofs.Monitor.Overlap — how many watchers a path has

Any number of clients on one monitor, with its watchers, on a host on which every call succeeds.

A watcher leaves the table before it is asked to end, so a path can be registered again while its
old watcher is still there: `rewatched_overlaps` is such a run. What a monitor does guarantee
leaves out the watchers that an unregistration or a shutdown on its way has yet to see the end of.
Of all others a path has one at most, and there are no more of them than the monitor has room for.

The invariant is `Watch.Custody`. A watcher that has not ended is in the table, or a registration
on its way holds its place with a placeholder, or somebody is about to end it.
-/

namespace SerialLine

/-! ## The system -/

/-- What a client of a monitor is busy with. -/
inductive WatchTask where
  | call (p : Watch.Position)
  | shutdown (d : Watch.Shutdown)

/-- The next step of a task; `none` while it waits, and when it is over. -/
def WatchTask.step : WatchTask → Watching → Option (WatchTask × Watching)
  | call p, w => (Watch.step p w).map fun (p, w) => (call p, w)
  | shutdown d, w => (d.step w).map fun (d, w) => (shutdown d, w)

/-- A monitor with its threads, and all that clients ever began on it. -/
structure WatchScene where
  watching : Watching
  tasks : List WatchTask := []

/-- A step of somebody. -/
inductive WatchAction where
  /-- A client begins a call. -/
  | begin (p : Watch.Position)
  /-- A client begins a shutdown: all watchers leave the table, to be stopped in this order. -/
  | shutdown (order : List Watcher)
  /-- A task goes on. -/
  | proceed (task : Nat)
  /-- Something happens to a thread. -/
  | thread (e : Crew.Event)
  /-- Something else happens on the host. -/
  | outside (host : Host)

/-- Whether a client may begin a call here. -/
def Watch.Position.isEntry : Watch.Position → Bool
  | .reserving .. | .taking _ => true
  | _ => false

/-- Whether the system fails a thread in an event. -/
def Crew.Event.isFailure : Crew.Event → Bool
  | .fail .. => true
  | _ => false

namespace WatchScene

/-- An empty monitor on a host. -/
def start (capacity intervalMs : Nat) (host : Host) : WatchScene where
  watching := { crew := { host }, monitor := { capacity, intervalMs } }

/-- A scene after a step; `none` if the step cannot be taken. No call to the system fails. -/
def act? (s : WatchScene) : WatchAction → Option WatchScene
  | .begin p => if p.isEntry then some { s with tasks := s.tasks ++ [.call p] } else none
  | .shutdown order =>
    let (todo, monitor) := s.watching.monitor.takeAll
    if order.isPerm todo then
      some ⟨{ s.watching with monitor }, s.tasks ++ [.shutdown { todo := order }]⟩
    else none
  | .proceed i => do
    let task ← s.tasks[i]?
    let (task', watching) ← task.step s.watching
    some { watching, tasks := s.tasks.set i task' }
  | .thread e =>
    if e.isFailure then none
    else
      (s.watching.crew.after? e).map fun crew => { s with watching := { s.watching with crew } }
  | .outside host =>
    if host.faults.isEmpty then some { s with watching := s.watching.mapCrew ({ · with host }) }
    else none

/-- A scene after several steps. -/
def run? (s : WatchScene) (actions : List WatchAction) : Option WatchScene :=
  actions.foldlM act? s

/-- What any order of steps leads to, from an empty monitor. -/
inductive Reachable (capacity intervalMs : Nat) : WatchScene → Prop where
  | start (host : Host) (hf : host.faults = []) :
    Reachable capacity intervalMs (start capacity intervalMs host)
  | act {s s' : WatchScene} (a : WatchAction) (h : Reachable capacity intervalMs s)
    (ha : s.act? a = some s') : Reachable capacity intervalMs s'

theorem Reachable.run {capacity intervalMs : Nat} {actions : List WatchAction}
    {s s' : WatchScene} (h : Reachable capacity intervalMs s) (hrun : s.run? actions = some s') :
    Reachable capacity intervalMs s' :=
  run_keeps (fun a _ _ _ hs ha => hs.act a ha) h hrun

end WatchScene

/-! ## What a client has in hand -/

/-- The place that a registration holds for the watcher of a path, and the watcher's thread once
it was created. -/
structure Watch.Placeholder where
  path : Path
  thread? : Option ThreadId := none

/-- What a task has in hand: the place that it holds, and the threads that it has yet to see the
end of. -/
structure Watch.Charge where
  place? : Option Watch.Placeholder := none
  stops : List ThreadId := []

/-- What a call has in hand. -/
def Watch.Position.charge : Watch.Position → Watch.Charge
  | .spawning p .. => { place? := some { path := p } }
  | .hearing p _ t | .dismissing p t _ => { place? := some { path := p, thread? := some t } }
  | .recording p x => { place? := some { path := p, thread? := some x.thread } }
  | .forgetting p _ => { place? := some { path := p } }
  | .cancelling t | .waking t | .joining t => { stops := [t] }
  | .reserving .. | .taking _ | .finished _ => {}

/-- What a task has in hand. -/
def WatchTask.charge : WatchTask → Watch.Charge
  | call p => p.charge
  | shutdown d =>
    let atHand := (d.stop?.map (·.charge)).getD {}
    { atHand with stops := atHand.stops ++ d.todo.map (·.thread) }

/-- A watcher of a path that has not ended. -/
def Crew.Watches (c : Crew) (t : ThreadId) (p : Path) : Prop :=
  ∃ th, c.thread? t = some th ∧ th.body.path? = some p ∧ th.body.hasEnded = false

namespace Watch

/-- What a step does: what is in hand before and after, and what it leaves behind. -/
inductive Move (w : Watching) : Charge → Charge → Watching → Prop where
  /-- Nothing in hand changes. -/
  | passed {x : Charge} {crew : Crew} (hk : w.crew.Keeps crew)
    (hh : crew.host = w.crew.host) : Move w x x { w with crew }
  /-- A place is taken for a path that has none. -/
  | reserved {p : Path} {ts : List ThreadId}
    (hfree : ∀ e ∈ w.monitor.entries, ¬ e.1.same p = true)
    (hroom : w.monitor.entries.length < w.monitor.capacity) :
    Move w ⟨none, ts⟩ ⟨some ⟨p, none⟩, ts⟩
      { w with monitor := { w.monitor with entries := w.monitor.entries ++ [(p, none)] } }
  /-- The thread for a place is created. -/
  | spawned {p : Path} {ts : List ThreadId} {th : Thread}
    (hth : th.body = .watch .creating p) :
    Move w ⟨some ⟨p, none⟩, ts⟩ ⟨some ⟨p, some w.crew.threads.length⟩, ts⟩
      { w with crew := { w.crew with threads := w.crew.threads ++ [th] } }
  /-- The thread for a place has ended. -/
  | dismissed {p : Path} {ts : List ThreadId} {t : ThreadId} (hend : w.crew.hasEnded t = true) :
    Move w ⟨some ⟨p, some t⟩, ts⟩ ⟨some ⟨p, none⟩, ts⟩ w
  /-- The watcher gets its place. -/
  | recorded {p : Path} {ts : List ThreadId} {x : Watcher} :
    Move w ⟨some ⟨p, some x.thread⟩, ts⟩ ⟨none, ts⟩
      { w with monitor := w.monitor.record p x }
  /-- The place is given up. -/
  | forgotten {p : Path} {ts : List ThreadId} :
    Move w ⟨some ⟨p, none⟩, ts⟩ ⟨none, ts⟩ { w with monitor := w.monitor.forget p }
  /-- A watcher is taken out of the table. -/
  | taken {p q : Path} {x : Watcher} {place? : Option Placeholder} {ts : List ThreadId}
    (hmem : (q, some x) ∈ w.monitor.entries) (hsame : q.same p = true) :
    Move w ⟨place?, ts⟩ ⟨place?, x.thread :: ts⟩ { w with monitor := w.monitor.forget p }
  /-- All watchers are taken out of the table. -/
  | cleared {place? : Option Placeholder} {order : List Watcher}
    (hperm : order.Perm w.monitor.takeAll.1) :
    Move w ⟨place?, []⟩ ⟨place?, order.map (·.thread)⟩
      { w with monitor := w.monitor.takeAll.2 }
  /-- A thread to be stopped has ended. -/
  | joined {place? : Option Placeholder} {t : ThreadId} {ts : List ThreadId}
    (hend : w.crew.hasEnded t = true) : Move w ⟨place?, t :: ts⟩ ⟨place?, ts⟩ w

variable {w w' : Watching} {p p' : Position}

theorem Move.stay (w : Watching) (x : Charge) : Move w x x w := .passed (.refl w.crew) rfl

/-- What a step of a call does, with more threads to stop afterwards. -/
theorem Edge.move (hf : w.crew.host.faults = []) (he : Edge w p p' w') (ts : List ThreadId) :
    Move w { p.charge with stops := p.charge.stops ++ ts }
      { p'.charge with stops := p'.charge.stops ++ ts } w' := by
  cases he with
  | reserved hfree hroom => exact .reserved hfree hroom
  | refused | untaken => exact .stay w _
  | heard | misheard => exact .stay w _
  | spawned hspawn =>
    rw [Crew.spawn_ok hf] at hspawn
    obtain rfl := (Prod.mk.inj hspawn).2
    exact .spawned rfl
  | unspawned hspawn =>
    -- the system refuses nothing
    rw [Crew.spawn_ok hf] at hspawn
    cases hspawn
  | dismissed hend => exact .dismissed hend
  | recorded => exact .recorded
  | forgotten => exact .forgotten
  | taken hmem hsame => exact .taken hmem hsame
  | @cancelled t => exact .passed (w.crew.keeps_cancel t) (Crew.editThread_host ..)
  | @woken t crew hwake =>
    have hkeeps := w.crew.keeps_wake t
    have hhost := (Crew.wake_ok hf t).2
    rw [hwake] at hkeeps hhost
    exact .passed hkeeps hhost
  | @unwoken t e crew hwake =>
    have hok := (Crew.wake_ok hf t).1
    rw [hwake] at hok
    cases hok
  | joined hjoin => exact .joined (Crew.hasEnded_of_joined hjoin)

end Watch

/-- What a step of a task does. -/
theorem WatchTask.step_move {task task' : WatchTask} {w w' : Watching}
    (hf : w.crew.host.faults = []) (h : task.step w = some (task', w')) :
    Watch.Move w task.charge task'.charge w' := by
  cases task with
  | call p =>
    rcases Option.map_eq_some_iff.mp h with ⟨⟨p', w₁⟩, hstep, hpos⟩
    rcases Prod.mk.inj hpos with ⟨rfl, rfl⟩
    simpa [charge] using (Watch.step_edge hstep).move hf []
  | shutdown d =>
    rcases Option.map_eq_some_iff.mp h with ⟨⟨d', w₁⟩, hstep, hpos⟩
    rcases Prod.mk.inj hpos with ⟨rfl, rfl⟩
    cases Watch.Shutdown.step_edge hstep with
    | turned | leftBehind => exact .stay w _
    | @wentOn todo p p' _ he => exact he.move hf (todo.map (·.thread))

/-! ## Who answers for a watcher -/

namespace Crew

variable {c c' : Crew} {t : ThreadId} {p : Path}

theorem Watches.of_keeps (hk : c.Keeps c') (h : c'.Watches t p) : c.Watches t p := by
  rcases h with ⟨th', ht', hpath, hlive⟩
  rcases hk.thread ht' with ⟨th, ht, -, hb⟩
  exact ⟨th, ht, hb ▸ hpath, hb ▸ hlive⟩

/-- A watcher that goes on was there before. -/
theorem Watches.of_step {u : ThreadId} (hs : StepsAt u c c') (h : c'.Watches t p) :
    c.Watches t p := by
  rcases h with ⟨th', ht', hpath, hlive⟩
  rcases hs with ⟨th, thu, items, hth, hstep, hset, -⟩
  rcases thread?_set_cases hth hset ht' with ⟨rfl, rfl⟩ | ⟨-, ht'⟩
  · refine ⟨th, hth, hstep.path ▸ hpath, ?_⟩
    by_contra hend
    have hended := hstep.stays.2.2 (by simpa using hend)
    rw [hlive] at hended
    cases hended
  · exact ⟨th', ht', hpath, hlive⟩

theorem Watches.not_ended (h : c.Watches t p) : ¬ c.hasEnded t = true := by
  rcases h with ⟨th, ht, -, hlive⟩
  simp [hasEnded, ht, hlive]

end Crew

namespace Watch

/-- A watcher has its place in the table, or a registration on its way holds the place for it. -/
def Placed (m : Monitor) (charge : Nat → Charge) (t : ThreadId) (p : Path) : Prop :=
  (∃ x, (p, some x) ∈ m.entries ∧ x.thread = t) ∨
    ∃ i, (charge i).place? = some ⟨p, some t⟩

/-- What holds of a monitor with its threads, and of what tasks have in hand. -/
structure Custody (w : Watching) (charge : Nat → Charge) : Prop where
  sound : w.monitor.Sound
  /-- A place that is held is marked in the table. -/
  marked : ∀ i x, (charge i).place? = some x → (x.path, none) ∈ w.monitor.entries
  /-- Nobody else holds a place for the same path. -/
  sole : ∀ i j x y, (charge i).place? = some x → (charge j).place? = some y →
    x.path.same y.path = true → i = j
  /-- Every watcher that has not ended is about to be stopped, or it has its place. -/
  placed : ∀ t p, w.crew.Watches t p →
    (∃ i, t ∈ (charge i).stops) ∨ Placed w.monitor charge t p

section

variable {w : Watching} {charge : Nat → Charge} {i : Nat} {p : Path} {ts : List ThreadId}

/-- Threads may go on and end. -/
theorem Custody.onCrew (h : Custody w charge) {crew : Crew}
    (hc : ∀ t p, crew.Watches t p → w.crew.Watches t p) : Custody { w with crew } charge where
  sound := h.sound
  marked := h.marked
  sole := h.sole
  placed := fun t p hwatch => h.placed t p (hc t p hwatch)

/-- A place that is held after a change of one charge is in it, or it was held before. -/
theorem place_update {j : Nat} {x : Charge} {y : Placeholder}
    (h : (Function.update charge i x j).place? = some y) :
    (j = i ∧ x.place? = some y) ∨ (j ≠ i ∧ (charge j).place? = some y) :=
  update_cases (P := fun x : Charge => x.place? = some y) h

theorem exists_place_update {x : Charge} {y : Placeholder} (h : ∃ j, (charge j).place? = some y)
    (hkeep : (charge i).place? = some y → x.place? = some y) :
    ∃ j, (Function.update charge i x j).place? = some y :=
  exists_update (P := fun x : Charge => x.place? = some y) h hkeep

theorem exists_stop_update {x : Charge} {t : ThreadId} (h : ∃ j, t ∈ (charge j).stops)
    (hkeep : t ∈ (charge i).stops → t ∈ x.stops) :
    ∃ j, t ∈ (Function.update charge i x j).stops :=
  exists_update (P := fun x : Charge => t ∈ x.stops) h hkeep

/-- A path that has no entry gets a place. -/
theorem Custody.reserve (h : Custody w charge) (hi : charge i = ⟨none, ts⟩)
    (hfree : ∀ e ∈ w.monitor.entries, ¬ e.1.same p = true)
    (hroom : w.monitor.entries.length < w.monitor.capacity) :
    Custody
      { w with monitor := { w.monitor with entries := w.monitor.entries ++ [(p, none)] } }
      (Function.update charge i ⟨some ⟨p, none⟩, ts⟩) := by
  constructor
  · exact h.sound.add hroom hfree
  · intro j x hj
    rcases place_update hj with ⟨-, hx⟩ | ⟨-, hbefore⟩
    · obtain rfl := Option.some.inj hx
      exact List.mem_append_right _ (List.mem_singleton.mpr rfl)
    · exact List.mem_append_left _ (h.marked j x hbefore)
  · intro j j' x y hj hj' hsame
    rcases place_update hj with ⟨hji, hx⟩ | ⟨-, hbefore⟩
    · rcases place_update hj' with ⟨hji', -⟩ | ⟨-, hbefore'⟩
      · rw [hji, hji']
      · -- the path has no entry, so nobody held a place for it
        obtain rfl := Option.some.inj hx
        exact absurd (Path.same_symm hsame) (hfree _ (h.marked j' y hbefore'))
    · rcases place_update hj' with ⟨-, hy⟩ | ⟨-, hbefore'⟩
      · obtain rfl := Option.some.inj hy
        exact absurd hsame (hfree _ (h.marked j x hbefore))
      · exact h.sole j j' x y hbefore hbefore' hsame
  · intro t q hwatch
    rcases h.placed t q hwatch with hstop | ⟨x, hmem, hx⟩ | hplace
    · exact Or.inl (exists_stop_update hstop (by rw [hi]; exact id))
    · exact Or.inr (Or.inl ⟨x, List.mem_append_left _ hmem, hx⟩)
    · refine Or.inr (Or.inr (exists_place_update hplace ?_))
      rw [hi]
      exact nofun

/-- A place that is given up, for a watcher or for good, takes nobody else's with it. -/
theorem Custody.leave (h : Custody w charge) {x : Placeholder}
    (hi : charge i = ⟨some x, ts⟩) {m : Monitor} (hm : m.Sound)
    (hkept : ∀ e ∈ w.monitor.without x.path, e ∈ m.entries)
    (hplace : ∀ t, x.thread? = some t → ∃ y, (x.path, some y) ∈ m.entries ∧ y.thread = t) :
    Custody { w with monitor := m } (Function.update charge i ⟨none, ts⟩) := by
  have hplace? : (charge i).place? = some x := by rw [hi]
  have others : ∀ j y, (Function.update charge i ⟨none, ts⟩ j).place? = some y →
      j ≠ i ∧ (charge j).place? = some y := by
    intro j y hj
    rcases place_update hj with ⟨-, hnone⟩ | hother
    · cases hnone
    · exact hother
  constructor
  · exact hm
  · intro j y hj
    rcases others j y hj with ⟨hji, hother⟩
    -- what is held there is for another path
    have hne : ¬ y.path.same x.path = true := fun hsame => hji (h.sole j i y x hother hplace? hsame)
    exact hkept _ (Monitor.mem_without.mpr ⟨h.marked j y hother, hne⟩)
  · intro j j' y y' hj hj'
    exact h.sole j j' y y' (others j y hj).2 (others j' y' hj').2
  · intro t q hwatch
    rcases h.placed t q hwatch with hstop | ⟨y, hmem, hy⟩ | ⟨j, hj⟩
    · exact Or.inl (exists_stop_update hstop (by rw [hi]; exact id))
    · have hne := h.sound.not_same_of_placeholder (h.marked i x hplace?) hmem
      exact Or.inr (Or.inl ⟨y, hkept _ (Monitor.mem_without.mpr ⟨hmem, hne⟩), hy⟩)
    · by_cases hji : j = i
      · subst hji
        obtain rfl := Option.some.inj (hplace?.symm.trans hj)
        exact Or.inr (Or.inl (hplace t rfl))
      · exact Or.inr (Or.inr ⟨j, by rwa [Function.update_of_ne hji]⟩)

/-- Watchers that leave the table are about to be stopped. -/
theorem Custody.take (h : Custody w charge) {place? : Option Placeholder} {ts' : List ThreadId}
    (hi : charge i = ⟨place?, ts⟩) {m : Monitor} (hm : m.Sound)
    (hmarked : ∀ p, (p, none) ∈ w.monitor.entries → (p, none) ∈ m.entries)
    (hmore : ∀ t ∈ ts, t ∈ ts')
    (htaken : ∀ p x, (p, some x) ∈ w.monitor.entries →
      (p, some x) ∈ m.entries ∨ x.thread ∈ ts') :
    Custody { w with monitor := m } (Function.update charge i ⟨place?, ts'⟩) := by
  have before : ∀ j x, (Function.update charge i ⟨place?, ts'⟩ j).place? = some x →
      (charge j).place? = some x := by
    intro j x hj
    rcases place_update hj with ⟨rfl, hx⟩ | ⟨-, hother⟩
    · rw [hi]
      exact hx
    · exact hother
  constructor
  · exact hm
  · intro j x hj
    exact hmarked _ (h.marked j x (before j x hj))
  · intro j j' x y hj hj'
    exact h.sole j j' x y (before j x hj) (before j' y hj')
  · intro t q hwatch
    rcases h.placed t q hwatch with hstop | ⟨x, hmem, rfl⟩ | hplace
    · exact Or.inl (exists_stop_update hstop (by rw [hi]; exact hmore t))
    · rcases htaken q x hmem with hstays | hstops
      · exact Or.inr (Or.inl ⟨x, hstays, rfl⟩)
      · exact Or.inl ⟨i, by rwa [Function.update_self]⟩
    · refine Or.inr (Or.inr (exists_place_update hplace ?_))
      rw [hi]
      exact id

/-- A task may get a thread for the place that it holds, and be done with threads that have
ended. -/
theorem Custody.recharge (h : Custody w charge) {crew : Crew} {x : Charge}
    (hpath : x.place?.map (·.path) = (charge i).place?.map (·.path))
    (hstops : ∀ t p, crew.Watches t p → t ∈ (charge i).stops → t ∈ x.stops)
    (hplace : ∀ t p, crew.Watches t p → (charge i).place? = some ⟨p, some t⟩ →
      x.place? = some ⟨p, some t⟩)
    (hnew : ∀ t p, crew.Watches t p → w.crew.Watches t p ∨ x.place? = some ⟨p, some t⟩) :
    Custody { w with crew } (Function.update charge i x) := by
  have before : ∀ j y, (Function.update charge i x j).place? = some y →
      ∃ z, (charge j).place? = some z ∧ z.path = y.path := by
    intro j y hj
    rcases place_update hj with ⟨rfl, hx⟩ | ⟨-, hother⟩
    · rw [hx] at hpath
      exact Option.map_eq_some_iff.mp hpath.symm
    · exact ⟨y, hother, rfl⟩
  constructor
  · exact h.sound
  · intro j y hj
    rcases before j y hj with ⟨z, hz, hzy⟩
    exact hzy ▸ h.marked j z hz
  · intro j j' y y' hj hj' hsame
    rcases before j y hj with ⟨z, hz, hzy⟩
    rcases before j' y' hj' with ⟨z', hz', hzy'⟩
    exact h.sole j j' z z' hz hz' (by rw [hzy, hzy']; exact hsame)
  · intro t q hwatch
    rcases hnew t q hwatch with hold | hx
    · rcases h.placed t q hold with hstop | hentry | hheld
      · exact Or.inl (exists_stop_update hstop (hstops t q hwatch))
      · exact Or.inr (Or.inl hentry)
      · exact Or.inr (Or.inr (exists_place_update hheld (hplace t q hwatch)))
    · exact Or.inr (Or.inr ⟨i, by rwa [Function.update_self]⟩)

/-- A step of a call, or of a shutdown, preserves the invariant. -/
theorem Custody.move (h : Custody w charge) {x' : Charge} {w' : Watching}
    (hm : Move w (charge i) x' w') : Custody w' (Function.update charge i x') := by
  generalize hx : charge i = x at hm
  cases hm with
  | passed hk =>
    rw [← hx, Function.update_eq_self]
    exact h.onCrew fun t p => .of_keeps hk
  | reserved hfree hroom => exact h.reserve hx hfree hroom
  | @spawned p ts th hth =>
    refine h.recharge (by rw [hx]; rfl) (fun _ _ _ => by rw [hx]; exact id) ?_ ?_
    · intro t q _ hplace
      rw [hx] at hplace
      cases hplace
    · rintro t q ⟨th', ht', hpath, hlive⟩
      rcases Crew.thread?_append_cases (c := w.crew) rfl ht' with ht | ⟨rfl, rfl⟩
      · exact Or.inl ⟨th', ht, hpath, hlive⟩
      · rw [hth] at hpath
        obtain rfl := Option.some.inj hpath
        exact Or.inr rfl
  | @dismissed p ts t hend =>
    refine h.recharge (by rw [hx]; rfl) (fun _ _ _ => by rw [hx]; exact id) ?_
      (fun _ _ => Or.inl)
    intro u q hwatch hplace
    rw [hx] at hplace
    have htu := (Placeholder.mk.inj (Option.some.inj hplace)).2
    obtain rfl := Option.some.inj htu
    exact absurd hend hwatch.not_ended
  | @recorded p ts y =>
    have hp : (p, none) ∈ w.monitor.entries := h.marked i ⟨p, some y.thread⟩ (by rw [hx])
    refine h.leave hx (h.sound.record hp y) (fun e he => List.mem_append_left _ he) ?_
    intro t ht
    obtain rfl := Option.some.inj ht
    exact ⟨y, List.mem_append_right _ (List.mem_singleton.mpr rfl), rfl⟩
  | forgotten =>
    refine h.leave hx (h.sound.forget _) (fun e he => he) ?_
    intro t ht
    cases ht
  | @taken p q y place? ts hmem hsame =>
    refine h.take hx (h.sound.forget p) ?_ (fun t ht => List.mem_cons_of_mem _ ht) ?_
    · intro p' hp'
      refine Monitor.mem_without.mpr ⟨hp', ?_⟩
      intro hsame'
      have hqp : q.same p' = true := Path.same_trans hsame (Path.same_symm hsame')
      exact h.sound.not_same_of_placeholder hp' hmem hqp
    · intro p' z hz
      by_cases hsame' : p'.same p = true
      · -- the path has one entry, so this is the watcher that was taken
        have hqp : q.same p' = true := Path.same_trans hsame (Path.same_symm hsame')
        have heq := (Prod.mk.inj (h.sound.eq_of_same hmem hz hqp)).2
        obtain rfl := Option.some.inj heq
        exact Or.inr List.mem_cons_self
      · exact Or.inl (Monitor.mem_without.mpr ⟨hz, hsame'⟩)
  | @cleared place? order hperm =>
    refine h.take hx h.sound.takeAll ?_ (fun t ht => by cases ht) ?_
    · intro p' hp'
      exact Monitor.mem_takeAll_snd.mpr ⟨hp', rfl⟩
    · intro p' z hz
      have hz' : z ∈ order := hperm.mem_iff.mpr (Monitor.mem_takeAll_fst.mpr ⟨p', hz⟩)
      exact Or.inr (List.mem_map_of_mem hz')
  | @joined place? t ts hend =>
    refine h.recharge (by rw [hx]) ?_ (fun _ _ _ => by rw [hx]; exact id) (fun _ _ => Or.inl)
    intro u q hwatch hstop
    rw [hx] at hstop
    rcases List.mem_cons.mp hstop with rfl | hstop
    · exact absurd hend hwatch.not_ended
    · exact hstop

end

end Watch

/-! ## The invariant of all interleavings -/

/-- A step of a task creates watchers only, and does not change the host. -/
theorem Watch.Move.crew {w w' : Watching} {x x' : Watch.Charge} (hm : Watch.Move w x x' w')
    (hw : w.crew.OnlyWatchers) :
    w'.crew.OnlyWatchers ∧ w'.crew.host = w.crew.host ∧
      w'.monitor.capacity = w.monitor.capacity := by
  cases hm with
  | passed hk hh => exact ⟨hk.onlyWatchers hw, hh, rfl⟩
  | @spawned p ts th hth =>
    refine ⟨?_, rfl, rfl⟩
    intro t th' ht'
    rcases Crew.thread?_append_cases (c := w.crew) rfl ht' with ht | ⟨-, rfl⟩
    · exact hw t th' ht
    · exact ⟨_, _, hth⟩
  | reserved | dismissed | recorded | forgotten | taken | cleared | joined => exact ⟨hw, rfl, rfl⟩

namespace WatchScene

/-- What the tasks of a scene have in hand, by their numbers. -/
def charge (s : WatchScene) (i : Nat) : Watch.Charge := (s.tasks[i]?.map (·.charge)).getD {}

variable {s s' : WatchScene} {capacity intervalMs : Nat}

theorem charge_append (task : WatchTask) (w : Watching) (s : WatchScene) :
    charge ⟨w, s.tasks ++ [task]⟩ = Function.update s.charge s.tasks.length task.charge :=
  getElem?_append_update (fun task? : Option WatchTask => (task?.map WatchTask.charge).getD {})
    s.tasks task

theorem charge_set {i : Nat} {task : WatchTask} (h : s.tasks[i]? = some task)
    (task' : WatchTask) (w : Watching) :
    charge ⟨w, s.tasks.set i task'⟩ = Function.update s.charge i task'.charge :=
  getElem?_set_update (fun task? : Option WatchTask => (task?.map WatchTask.charge).getD {}) h task'

/-- A task that has not begun has nothing in hand. -/
theorem charge_fresh (s : WatchScene) : s.charge s.tasks.length = {} := by
  simp [charge]

/-- The invariant of all interleavings. -/
structure Inv (capacity : Nat) (s : WatchScene) : Prop where
  custody : Watch.Custody s.watching s.charge
  watchers : s.watching.crew.OnlyWatchers
  faultless : s.watching.crew.host.faults = []
  capacity_eq : s.watching.monitor.capacity = capacity

theorem init_inv (capacity intervalMs : Nat) {host : Host} (hf : host.faults = []) :
    (start capacity intervalMs host).Inv capacity where
  custody := by
    constructor
    · exact Monitor.sound_empty capacity intervalMs
    · intro i x hi
      cases hi
    · intro i j x y hi
      cases hi
    · rintro t p ⟨th, ht, -⟩
      cases ht
  watchers := by
    intro t th ht
    cases ht
  faultless := hf
  capacity_eq := rfl

/-- A step of a task preserves the invariant. -/
theorem Inv.move (h : s.Inv capacity) {i : Nat} {x : Watch.Charge}
    (hm : Watch.Move s.watching (s.charge i) x s'.watching)
    (hcharge : s'.charge = Function.update s.charge i x) : s'.Inv capacity := by
  rcases hm.crew h.watchers with ⟨hwatchers, hhost, hcap⟩
  constructor
  · rw [hcharge]
    exact h.custody.move hm
  · exact hwatchers
  · rw [hhost]
    exact h.faultless
  · exact hcap.trans h.capacity_eq

theorem step_inv {a : WatchAction} (h : s.Inv capacity) (ha : s.act? a = some s') :
    s'.Inv capacity := by
  have hfresh := s.charge_fresh
  cases a with
  | begin p =>
    simp only [act?] at ha
    split at ha
    · rename_i hentry
      obtain rfl := Option.some.inj ha
      have hnone : p.charge = {} := by
        cases p with
        | reserving | taking => rfl
        | _ => cases hentry
      refine h.move ?_ (charge_append (.call p) s.watching s)
      rw [hfresh]
      exact hnone ▸ .stay s.watching {}
    · cases ha
  | shutdown order =>
    simp only [act?] at ha
    split at ha
    · rename_i hperm
      obtain rfl := Option.some.inj ha
      refine h.move ?_ (charge_append (.shutdown { todo := order }) _ s)
      rw [hfresh]
      exact .cleared (List.isPerm_iff.mp hperm)
    · cases ha
  | proceed i =>
    rcases Option.bind_eq_some_iff.mp ha with ⟨task, htask, hrest⟩
    rcases Option.bind_eq_some_iff.mp hrest with ⟨⟨task', w⟩, hstep, hscene⟩
    obtain rfl := Option.some.inj hscene
    have hi : s.charge i = task.charge := by simp [charge, htask]
    refine h.move ?_ (charge_set htask task' w)
    rw [hi]
    exact WatchTask.step_move h.faultless hstep
  | thread e =>
    simp only [act?] at ha
    split at ha
    · cases ha
    · rcases Option.map_eq_some_iff.mp ha with ⟨crew, hcrew, rfl⟩
      have hhost := Crew.after?_host h.watchers h.faultless hcrew
      have hfaultless : crew.host.faults = [] := by
        rw [hhost]
        exact h.faultless
      -- threads only go on or end, so whoever watches now was a watcher before
      rcases Crew.after?_cases hcrew with rfl | ⟨t, hstep⟩
      · exact h
      · exact ⟨h.custody.onCrew fun _ _ => .of_step hstep, hstep.onlyWatchers h.watchers,
          hfaultless, h.capacity_eq⟩
  | outside host =>
    simp only [act?] at ha
    split at ha
    · rename_i hf
      have hfaultless : host.faults = [] := by simpa using hf
      obtain rfl := Option.some.inj ha
      exact ⟨h.custody.onCrew fun _ _ => id, h.watchers, hfaultless, h.capacity_eq⟩
    · cases ha

theorem Reachable.inv (h : Reachable capacity intervalMs s) : s.Inv capacity := by
  induction h with
  | start host hf => exact init_inv capacity intervalMs hf
  | act a _ ha ih => exact step_inv ih ha

/-! ## What a monitor guarantees, and what it does not -/

/-- A watcher of a path that has not ended. -/
def Watches (s : WatchScene) (t : ThreadId) (p : Path) : Prop := s.watching.crew.Watches t p

/-- An unregistration or a shutdown on its way has yet to see the end of a thread. -/
def IsStopping (s : WatchScene) (t : ThreadId) : Prop := ∃ task ∈ s.tasks, t ∈ task.charge.stops

/-- A watcher of a path that has not ended, and that nobody is stopping. -/
def Stays (s : WatchScene) (t : ThreadId) (p : Path) : Prop := s.Watches t p ∧ ¬ s.IsStopping t

/-- A path has one watcher at most, and there are no more watchers than there may be. -/
structure Exclusive (capacity : Nat) (watches : ThreadId → Path → Prop) : Prop where
  sole : ∀ t t' p p', watches t p → watches t' p' → p.same p' = true → t = t'
  size : {t | ∃ p, watches t p}.encard ≤ capacity

/-- A watcher that nobody is stopping has its place. -/
theorem Inv.placed (h : s.Inv capacity) {t : ThreadId} {p : Path} (hs : s.Stays t p) :
    Watch.Placed s.watching.monitor s.charge t p := by
  rcases h.custody.placed t p hs.1 with ⟨i, hi⟩ | hplaced
  · refine absurd ?_ hs.2
    cases htask : s.tasks[i]? with
    | none =>
      simp only [charge, htask] at hi
      cases hi
    | some task =>
      simp only [charge, htask] at hi
      exact ⟨task, List.mem_of_getElem? htask, hi⟩
  · exact hplaced

/-- A path with a watcher that nobody is stopping has an entry. -/
theorem Inv.entry (h : s.Inv capacity) {t : ThreadId} {p : Path} (hs : s.Stays t p) :
    p ∈ s.watching.monitor.entries.map Prod.fst := by
  rcases h.placed hs with ⟨x, hmem, -⟩ | ⟨i, hi⟩
  · exact List.mem_map_of_mem hmem
  · exact List.mem_map_of_mem (h.custody.marked i _ hi)

theorem Inv.stays_sole (h : s.Inv capacity) {t t' : ThreadId} {p p' : Path} (hs : s.Stays t p)
    (hs' : s.Stays t' p') (hsame : p.same p' = true) : t = t' := by
  have hsound := h.custody.sound
  rcases h.placed hs with ⟨x, hmem, rfl⟩ | ⟨i, hi⟩
  · rcases h.placed hs' with ⟨x', hmem', rfl⟩ | ⟨j, hj⟩
    · have heq := (Prod.mk.inj (hsound.eq_of_same hmem hmem' hsame)).2
      obtain rfl := Option.some.inj heq
      rfl
    · -- a path with a placeholder has no watcher beside it
      exact absurd hsame (hsound.not_same_of_placeholder (h.custody.marked j _ hj) hmem)
  · rcases h.placed hs' with ⟨x', hmem', rfl⟩ | ⟨j, hj⟩
    · have hmark := h.custody.marked i _ hi
      exact absurd (Path.same_symm hsame) (hsound.not_same_of_placeholder hmark hmem')
    · obtain rfl := h.custody.sole i j _ _ hi hj hsame
      have heq := Option.some.inj (hi.symm.trans hj)
      exact Option.some.inj (Watch.Placeholder.mk.inj heq).2

theorem Inv.stays_size (h : s.Inv capacity) : {t | ∃ p, s.Stays t p}.encard ≤ capacity := by
  let paths := s.watching.monitor.entries.map Prod.fst
  -- each thread has its path in the table, and no two have the same one
  let pathOf (t : ThreadId) : Option Path := (s.watching.crew.thread? t).bind (·.body.path?)
  have hpath : ∀ t p, s.Stays t p → pathOf t = some p := by
    rintro t p ⟨⟨th, ht, hp, -⟩, -⟩
    simp [pathOf, ht, hp]
  have hmaps : Set.MapsTo pathOf {t | ∃ p, s.Stays t p} ((paths.map some).toFinset : Set _) := by
    rintro t ⟨p, hs⟩
    rw [hpath t p hs]
    simpa [paths] using h.entry hs
  have hinj : Set.InjOn pathOf {t | ∃ p, s.Stays t p} := by
    rintro t ⟨p, hs⟩ t' ⟨p', hs'⟩ heq
    rw [hpath t p hs, hpath t' p' hs'] at heq
    obtain rfl := Option.some.inj heq
    exact h.stays_sole hs hs' (Path.same_refl p)
  have hcard : (paths.map some).toFinset.card ≤ capacity := by
    have hlist := List.toFinset_card_le (paths.map some)
    have hsize := h.custody.sound.size
    simp only [paths, List.length_map] at hlist
    rw [h.capacity_eq] at hsize
    exact hlist.trans hsize
  calc {t | ∃ p, s.Stays t p}.encard
      ≤ ((paths.map some).toFinset : Set _).encard := Set.encard_le_encard_of_injOn hmaps hinj
    _ = (paths.map some).toFinset.card := Set.encard_coe_eq_coe_finsetCard _
    _ ≤ capacity := by exact_mod_cast hcard

/-- Of the watchers that nobody is stopping, a path has one at most, and there are no more of them
than the monitor has room for. While no watcher is being stopped, these are all that there are. -/
theorem Reachable.watchers_exclusive (h : Reachable capacity intervalMs s) :
    Exclusive capacity s.Stays ∧
      ((∀ t, ¬ s.IsStopping t) → Exclusive capacity s.Watches) := by
  have hstays : Exclusive capacity s.Stays :=
    ⟨fun t t' p p' => h.inv.stays_sole, h.inv.stays_size⟩
  refine ⟨hstays, ?_⟩
  intro hnone
  have hall : s.Watches = s.Stays := by
    funext t p
    exact propext ⟨fun hw => ⟨hw, hnone t⟩, And.left⟩
  rw [hall]
  exact hstays

/-- A path of one component. -/
def desk : Path := ⟨[0x64]⟩

/-- A path is watched, its unregistration takes the watcher out of the table, and before it gets
to ask the thread to end another client registers the path again. -/
def rewatched : List WatchAction :=
  [.begin (.reserving desk 6 {} false), .proceed 0, .proceed 0, .thread (.step 0),
    .thread (.step 0), .thread (.step 0), .proceed 0, .proceed 0,
    .begin (.taking desk), .proceed 1,
    .begin (.reserving desk 7 {} false), .proceed 2, .proceed 2, .thread (.step 1),
    .thread (.step 1), .thread (.step 1), .proceed 2, .proceed 2]

/-- What comes after: the unregistration goes on to its end. -/
def unwatched : List WatchAction :=
  [.proceed 1, .proceed 1, .thread (.step 0), .thread (.step 0), .proceed 1]

/-- The new watcher stands beside the old one, in a monitor that has room for one. -/
theorem rewatched_overlaps :
    ∃ s, (start 1 250 {}).run? rewatched = some s ∧ Reachable 1 250 s ∧ s.Watches 0 desk ∧
      s.Watches 1 desk ∧ ¬ Exclusive 1 s.Watches := by
  have hrun : ∃ s, (start 1 250 {}).run? rewatched = some s ∧ s.Watches 0 desk ∧
      s.Watches 1 desk :=
    ⟨_, rfl, ⟨_, rfl, rfl, rfl⟩, ⟨_, rfl, rfl, rfl⟩⟩
  rcases hrun with ⟨s, hrun, hold, hnew⟩
  refine ⟨s, hrun, Reachable.run (.start {} rfl) hrun, hold, hnew, ?_⟩
  intro hexclusive
  have heq := hexclusive.sole 0 1 desk desk hold hnew (Path.same_refl desk)
  cases heq

theorem unwatched_exclusive :
    ∃ s, (start 1 250 {}).run? (rewatched ++ unwatched) = some s ∧ s.Watches 1 desk ∧
      Exclusive 1 s.Watches := by
  have hrun : ∃ s, (start 1 250 {}).run? (rewatched ++ unwatched) = some s ∧
      s.Watches 1 desk ∧ s.tasks.all (·.charge.stops.isEmpty) = true :=
    ⟨_, rfl, ⟨_, rfl, rfl, rfl⟩, rfl⟩
  rcases hrun with ⟨s, hrun, hwatch, hstops⟩
  have hnone : ∀ t, ¬ s.IsStopping t := by
    rintro t ⟨task, hmem, ht⟩
    have hempty := List.all_eq_true.mp hstops task hmem
    rw [List.isEmpty_iff.mp hempty] at ht
    cases ht
  have hreach := Reachable.run (.start {} rfl) hrun
  exact ⟨s, hrun, hwatch, (Reachable.watchers_exclusive hreach).2 hnone⟩

end WatchScene

end SerialLine
