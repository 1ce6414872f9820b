import Mathlib.Data.List.Basic
import SerialLine.Listener.Call
import SerialLine.Proofs.Listener.Registry
import SerialLine.Proofs.Listener.Threads

/-!
# SerialLine.Proofs.Listener.Interleaving — any number of clients on one registry

A `Scene` is a registry with its threads and all calls that were ever begun on it. `Scene.act?`
is one atomic step of whoever goes next: a client begins a call or does the next thing in one, a
thread goes on, or the system around them changes the host. `Reachable` collects what any order of
such steps leads to.

Between two steps of its own a call may keep a seat that is on its way from one state to another,
and a thread that no seat knows. `Call.Position.holding?` names both. `Call.step_move` says once
what a step of a call does to them, and `Shutdown.step_move` that a shutdown does nothing else.
-/

namespace SerialLine

/-! ## Clients by their numbers -/

section Numbers

variable {α β : Type} {f : Nat → β} {i j : Nat} {y : β}

/-- What is known of a client after a change is the change, or it was known before. -/
theorem update_cases {P : β → Prop} (h : P (Function.update f i y j)) :
    (j = i ∧ P y) ∨ (j ≠ i ∧ P (f j)) := by
  by_cases hji : j = i
  · subst hji
    rw [Function.update_self] at h
    exact Or.inl ⟨rfl, h⟩
  · rw [Function.update_of_ne hji] at h
    exact Or.inr ⟨hji, h⟩

/-- What is known of some client is still known of one, unless it gets lost by the change. -/
theorem exists_update {P : β → Prop} (h : ∃ j, P (f j)) (hkeep : P (f i) → P y) :
    ∃ j, P (Function.update f i y j) := by
  rcases h with ⟨j, hj⟩
  by_cases hji : j = i
  · subst hji
    refine ⟨j, ?_⟩
    rw [Function.update_self]
    exact hkeep hj
  · refine ⟨j, ?_⟩
    rwa [Function.update_of_ne hji]

/-- One more client gets the next number. -/
theorem getElem?_append_update (g : Option α → β) (l : List α) (a : α) :
    (fun j => g (l ++ [a])[j]?) = Function.update (fun j => g l[j]?) l.length (g (some a)) := by
  funext j
  by_cases hj : j = l.length
  · subst hj
    simp
  · rw [Function.update_of_ne hj, List.getElem?_append]
    split
    · rfl
    · rename_i hge
      have hpast : 1 ≤ j - l.length := by omega
      rw [List.getElem?_eq_none (Nat.le_of_not_lt hge), List.getElem?_eq_none hpast]

/-- One more client makes no difference to what does not tell it from none. -/
theorem getElem?_append_same (g : Option α → β) (l : List α) {a : α} (h : g (some a) = g none) :
    (fun j : Nat => g (l ++ [a])[j]?) = fun j => g l[j]? := by
  have hpast : l[l.length]? = none := List.getElem?_eq_none (Nat.le_refl _)
  rw [getElem?_append_update, h, ← hpast]
  exact Function.update_eq_self _ _

/-- A client that goes on keeps its number. -/
theorem getElem?_set_update {l : List α} {a : α} (g : Option α → β) (h : l[i]? = some a)
    (a' : α) :
    (fun j => g (l.set i a')[j]?) = Function.update (fun j => g l[j]?) i (g (some a')) := by
  have hlt := (List.getElem?_eq_some_iff.mp h).1
  funext j
  by_cases hj : j = i
  · subst hj
    rw [Function.update_self, List.getElem?_set_self hlt]
  · rw [Function.update_of_ne hj, List.getElem?_set_ne (Ne.symm hj)]

end Numbers

/-! ## The system -/

/-- What a client is busy with. -/
inductive Task where
  | call (p : Call.Position)
  | shutdown (d : Shutdown)

namespace Call.Position

/-- Whether a client may begin a call here. -/
def isEntry : Call.Position → Bool
  | .registering .. | .starting .. | .stopping .. | .unregistering .. => true
  | _ => false

/-- The thread that the next step of a call joins. -/
def joins? : Call.Position → Option ThreadId
  | .dismissing _ _ t .. | .joining _ _ t => some t
  | _ => none

end Call.Position

namespace Task

/-- Where a task stands in a call on one listener. -/
def position? : Task → Option Call.Position
  | call p => some p
  | shutdown d => d.stop?

/-- The next step of a task; `none` while it waits, and when it is over. -/
def step : Task → Listening → Option (Task × Listening)
  | call p, w => (Call.step p w).map fun (p, w) => (call p, w)
  | shutdown d, w => (d.step w).map fun (d, w) => (shutdown d, w)

end Task

/-- A registry with its threads, and all that clients ever began on it. -/
structure Scene where
  listening : Listening
  tasks : List Task := []
  /-- The threads that were joined so far. -/
  joined : List ThreadId := []

/-- A step of somebody. -/
inductive Action where
  /-- A client begins a call. -/
  | begin (p : Call.Position)
  /-- A client begins a shutdown, which takes the table down in this order. -/
  | shutdown (order : List (Fd × SlotId))
  /-- A client acquires a slot. -/
  | acquire (fd : Fd)
  /-- A client gives a slot back. -/
  | release (s : SlotId)
  /-- A task goes on. -/
  | proceed (task : Nat)
  /-- Something happens to a thread. -/
  | thread (e : Crew.Event)
  /-- Something else happens on the host. -/
  | outside (host : Host) (gates : List (Fd × Gate))

/-- Whether a step is one of clients, threads and the registry. -/
def Action.isInside : Action → Bool
  | .outside _ _ => false
  | _ => true

namespace Scene

/-- The registry of a scene. -/
def registry (s : Scene) : Registry := s.listening.registry

/-- The threads of a scene. -/
def crew (s : Scene) : Crew := s.listening.crew

/-- An empty registry on a host. -/
def start (capacity : Nat) (settings : ListenerSettings) (host : Host)
    (gates : List (Fd × Gate)) : Scene where
  listening := { crew := { host, gates }, registry := { capacity, settings } }

/-- The host becomes another one. -/
def withHost (host : Host) (gates : List (Fd × Gate)) (s : Scene) : Scene :=
  { s with listening := s.listening.mapCrew fun c => { c with host, gates } }

/-- A scene after a step; `none` if the step cannot be taken. -/
def act? (s : Scene) : Action → Option Scene
  | .begin p => if p.isEntry then some { s with tasks := s.tasks ++ [.call p] } else none
  | .shutdown order =>
    if order.isPerm s.registry.table then
      let d := Shutdown.ofRegistry { s.registry with table := order }
      some { s with tasks := s.tasks ++ [.shutdown d] }
    else none
  | .acquire fd =>
    some { s with listening := s.listening.mapRegistry fun r => (r.acquire fd).2 }
  | .release slot => some { s with listening := s.listening.mapRegistry (·.release slot) }
  | .proceed i => do
    let task ← s.tasks[i]?
    let (task', listening) ← task.step s.listening
    let joined := (task.position?.bind (·.joins?)).toList ++ s.joined
    some { listening, tasks := s.tasks.set i task', joined }
  | .thread e => (s.crew.after? e).map fun crew => { s with listening := { s.listening with crew } }
  | .outside host gates => some (s.withHost host gates)

/-- A scene after several steps. -/
def run? (s : Scene) (actions : List Action) : Option Scene := actions.foldlM act? s

/-- What any order of steps leads to, from an empty registry. -/
inductive Reachable (capacity : Nat) (settings : ListenerSettings) : Scene → Prop where
  | start (host : Host) (gates : List (Fd × Gate)) :
    Reachable capacity settings (start capacity settings host gates)
  | act {s s' : Scene} (a : Action) (h : Reachable capacity settings s)
    (ha : s.act? a = some s') : Reachable capacity settings s'

theorem Reachable.run {capacity : Nat} {settings : ListenerSettings} {actions : List Action}
    {s s' : Scene} (h : Reachable capacity settings s) (hrun : s.run? actions = some s') :
    Reachable capacity settings s' :=
  run_keeps (fun a _ _ _ hs ha => hs.act a ha) h hrun

end Scene

/-! ## What a call keeps between two steps -/

/-- A seat in the keeping of a call, and the thread that goes with it, unless there is none yet
or it was joined. -/
structure Holding where
  slot : SlotId
  kind : ListenerKind
  /-- What the call left the seat at. -/
  seat : Seat
  thread? : Option ThreadId := none

/-- What a call keeps. -/
def Call.Position.holding? : Call.Position → Option Holding
  | .spawning s l _ => some ⟨s, l.kind, .starting, none⟩
  | .hearing s k t _ | .dismissing s k t _ _ | .recording s k t => some ⟨s, k, .starting, some t⟩
  | .freeing s k _ _ => some ⟨s, k, .starting, none⟩
  | .cancelling s k t | .waking s k t | .restoring s k t _ | .joining s k t =>
    some ⟨s, k, .stopping, some t⟩
  | .clearing s k _ => some ⟨s, k, .stopping, none⟩
  | _ => none

/-- What a task keeps. -/
def Task.holding? (task : Task) : Option Holding := task.position?.bind (·.holding?)

theorem Call.Position.holding_of_entry (p : Call.Position) (h : p.isEntry = true) :
    p.holding? = none := by
  cases p <;> simp [isEntry, holding?] at h ⊢

/-- A crew differs from another in wakers, cancellations and faults to come at most. -/
structure Crew.Keeps (c c' : Crew) : Prop where
  host : c.host.SameButFaults c'.host
  bodies : c'.threads.map (fun th => (th.fd, th.body)) = c.threads.map (fun th => (th.fd, th.body))
  delivered : c'.delivered = c.delivered

/-- What a step of a call does: what it keeps before and after, the threads that it joins, and
what it leaves behind. -/
inductive Call.Move (w : Listening) :
    Option Holding → Option Holding → List ThreadId → Listening → Prop where
  /-- Nothing that is kept changes hands. -/
  | passed {x : Option Holding} {crew : Crew} (hk : w.crew.Keeps crew) :
    Move w x x [] { w with crew }
  /-- A slot is made, but its seat is not taken. -/
  | acquired (fd : Fd) : Move w none none [] { w with registry := (w.registry.acquire fd).2 }
  /-- A slot is found or made, and its seat is taken. -/
  | reservedFor {fd : Fd} {s : SlotId} {k : ListenerKind} {r : Registry}
    (hr : w.registry.acquire fd = (.ok s, r)) (hidle : r.seat s k = .idle) :
    Move w none (some ⟨s, k, .starting, none⟩) []
      { w with registry := r.setSeat s k .starting }
  /-- A seat of a slot in the table is taken. -/
  | reservedOn {s : SlotId} {k : ListenerKind} (hcur : w.registry.isCurrent s = true)
    (hidle : w.registry.seat s k = .idle) :
    Move w none (some ⟨s, k, .starting, none⟩) []
      { w with registry := w.registry.setSeat s k .starting }
  /-- The thread of a taken seat is created. -/
  | spawned {s : SlotId} {l : Listener} {host : Host} (hh : w.crew.host.SameButFaults host) :
    Move w (some ⟨s, l.kind, .starting, none⟩)
      (some ⟨s, l.kind, .starting, some w.crew.threads.length⟩) []
      { w with crew := { w.crew with
          host
          threads := w.crew.threads ++ [l.thread (w.registry.fdOf s) w.registry.settings] } }
  /-- The thread that was kept has ended. -/
  | joined {s : SlotId} {k : ListenerKind} {x : Seat} {t : ThreadId}
    (hend : w.crew.hasEnded t = true) : Move w (some ⟨s, k, x, some t⟩) (some ⟨s, k, x, none⟩) [t] w
  /-- The thread that was kept goes to its seat. -/
  | seated {s : SlotId} {k : ListenerKind} {x : Seat} {t : ThreadId} :
    Move w (some ⟨s, k, x, some t⟩) none []
      { w with registry := w.registry.setSeat s k (.running t) }
  /-- A seat without a thread is given up. -/
  | freed {s : SlotId} {k : ListenerKind} {x : Seat} :
    Move w (some ⟨s, k, x, none⟩) none [] { w with registry := w.registry.setSeat s k .idle }
  /-- A thread is taken off its seat. -/
  | lifted {s : SlotId} {k : ListenerKind} {t : ThreadId}
    (hrun : w.registry.seat s k = .running t) :
    Move w none (some ⟨s, k, .stopping, some t⟩) []
      { w with registry := w.registry.setSeat s k .stopping }
  /-- A slot is given back. -/
  | released (s : SlotId) : Move w none none [] { w with registry := w.registry.release s }

namespace Crew

variable {c c' : Crew}

theorem Keeps.refl (c : Crew) : c.Keeps c := ⟨.refl c.host, rfl, rfl⟩

theorem Keeps.length_eq (h : c.Keeps c') : c'.threads.length = c.threads.length := by
  simpa using congrArg List.length h.bodies

theorem Keeps.thread (h : c.Keeps c') {t : ThreadId} {th' : Thread} (ht : c'.thread? t = some th') :
    ∃ th, c.thread? t = some th ∧ th'.fd = th.fd ∧ th'.body = th.body := by
  have hget := congrArg (·[t]?) h.bodies
  simp only [List.getElem?_map, thread?] at hget ht
  rw [ht] at hget
  cases hc : c.threads[t]? with
  | none => simp [hc] at hget
  | some th =>
    simp only [hc, Option.map_some, Option.some.injEq, Prod.mk.injEq] at hget
    exact ⟨th, hc, hget.1, hget.2⟩

/-- Replacing a thread by one that is where it was keeps the crew. -/
theorem keeps_setThread {t : ThreadId} {th th' : Thread} {host : Host} (ht : c.thread? t = some th)
    (hh : c.host.SameButFaults host) (hfd : th'.fd = th.fd) (hb : th'.body = th.body) :
    c.Keeps { c with host, threads := c.threads.set t th' } where
  host := hh
  bodies := by
    rcases List.getElem?_eq_some_iff.mp ht with ⟨hlt, hget⟩
    rw [List.map_set, hfd, hb]
    refine List.ext_getElem (by simp) ?_
    intro n h₁ h₂
    by_cases hn : t = n
    · subst hn
      simp [hget]
    · simp [List.getElem_set_ne hn]
  delivered := rfl

theorem keeps_cancel (t : ThreadId) (c : Crew) : c.Keeps (c.cancel t) := by
  rcases editThread_cases ({ · with cancelled := true }) t c with hsame | ⟨th, ht, hedit⟩
  · rw [cancel, hsame]
    exact .refl c
  · rw [cancel, hedit]
    exact keeps_setThread ht (.refl c.host) rfl rfl

theorem keeps_wake (t : ThreadId) (c : Crew) : c.Keeps (c.wake t).2 := by
  unfold wake
  cases ht : c.thread? t with
  | none => exact .refl c
  | some th =>
    have hh : c.host.SameButFaults (c.host.wake th.waker).2.2 := Host.takeFault_same .wake c.host
    exact keeps_setThread ht hh rfl rfl

/-- A thread is created at the end of the list, or the system refuses. -/
theorem spawn_cases (th : Thread) (c : Crew) :
    ∃ host, c.host.SameButFaults host ∧
      ((∃ e, c.spawn th = (.error e, { c with host })) ∨
        c.spawn th = (.ok c.threads.length, { c with host, threads := c.threads ++ [th] })) := by
  refine ⟨(c.host.takeFault .thread).2, Host.takeFault_same .thread c.host, ?_⟩
  unfold spawn
  rcases c.host.takeFault .thread with ⟨_ | code, host⟩
  · exact Or.inr rfl
  · exact Or.inl ⟨_, rfl⟩

/-- A thread that was joined has ended. -/
theorem hasEnded_of_joined {t : ThreadId} {result : Outcome Unit} (h : c.joined? t = some result) :
    c.hasEnded t = true := by
  unfold joined? at h
  unfold hasEnded
  cases ht : c.thread? t with
  | none => rfl
  | some th =>
    by_cases hend : th.body.hasEnded = true
    · simpa [ht] using hend
    · simp [ht, hend] at h

end Crew

namespace Registry

variable {r r' : Registry} {s : SlotId} {k : ListenerKind}

theorem reserve_ok (h : r.reserve s k = .ok r') :
    r.seat s k = .idle ∧ r' = r.setSeat s k .starting := by
  unfold reserve at h
  split at h
  · rename_i hidle
    exact ⟨hidle, (Except.ok.inj h).symm⟩
  · cases h

theorem reserveOn_ok (h : r.reserveOn s k = .ok r') :
    r.isCurrent s = true ∧ r.seat s k = .idle ∧ r' = r.setSeat s k .starting := by
  unfold reserveOn at h
  split at h
  · rename_i hcur
    exact ⟨hcur, reserve_ok h⟩
  · cases h

/-- A seat was taken for a descriptor, or a slot was made at most. -/
theorem reserveFor_cases (fd : Fd) (k : ListenerKind) (r : Registry) :
    (∃ s r', r.acquire fd = (.ok s, r') ∧ r'.seat s k = .idle ∧
      r.reserveFor fd k = (.taken s, r'.setSeat s k .starting)) ∨
    (∃ s e, r.reserveFor fd k = (.occupied s e, (r.acquire fd).2)) ∨
    (∃ e, r.reserveFor fd k = (.full e, (r.acquire fd).2)) := by
  rw [reserveFor_eq]
  rcases r.acquire fd with ⟨e | s, r'⟩
  · exact Or.inr (Or.inr ⟨e, rfl⟩)
  · by_cases hidle : r'.seat s k = .idle
    · exact Or.inl ⟨s, r', rfl, hidle, seatOn_idle hidle⟩
    · exact Or.inr (Or.inl ⟨s, _, seatOn_busy hidle⟩)

theorem beginStop_cases (s : SlotId) (k : ListenerKind) (r : Registry) :
    (∃ t, r.seat s k = .running t ∧ r.beginStop s k = (.ok t, r.setSeat s k .stopping)) ∨
    (∃ e, r.beginStop s k = (.error e, r)) := by
  unfold beginStop
  cases hseat : r.seat s k with
  | running t => exact Or.inl ⟨t, rfl, rfl⟩
  | idle => exact Or.inr ⟨_, rfl⟩
  | starting => exact Or.inr ⟨_, rfl⟩
  | stopping => exact Or.inr ⟨_, rfl⟩

end Registry

namespace Call

variable {w w' : Listening}

theorem Move.stay (w : Listening) (x : Option Holding) : Move w x x [] w :=
  .passed (.refl w.crew)

/-- What a step of a call does. -/
theorem step_move {p p' : Position} (h : step p w = some (p', w')) :
    Move w p.holding? p'.holding? p.joins?.toList w' := by
  cases p with
  | registering fd l =>
    simp only [step] at h
    rcases w.registry.reserveFor_cases fd l.kind with
      ⟨s, r', hacq, hidle, he⟩ | ⟨s, e, he⟩ | ⟨e, he⟩
    · rw [he] at h
      rcases Prod.mk.inj (Option.some.inj h) with ⟨rfl, rfl⟩
      exact .reservedFor hacq hidle
    · rw [he] at h
      rcases Prod.mk.inj (Option.some.inj h) with ⟨rfl, rfl⟩
      exact .acquired fd
    · rw [he] at h
      rcases Prod.mk.inj (Option.some.inj h) with ⟨rfl, rfl⟩
      exact .acquired fd
  | starting s l =>
    simp only [step] at h
    split at h
    · rename_i r' hres
      rcases Registry.reserveOn_ok hres with ⟨hcur, hidle, rfl⟩
      rcases Prod.mk.inj (Option.some.inj h) with ⟨rfl, rfl⟩
      exact .reservedOn hcur hidle
    · rcases Prod.mk.inj (Option.some.inj h) with ⟨rfl, rfl⟩
      exact .stay w none
  | spawning s l giveBack =>
    simp only [step] at h
    obtain ⟨host, hh, ⟨e, he⟩ | he⟩ :=
      w.crew.spawn_cases (l.thread (w.registry.fdOf s) w.registry.settings)
    · rw [he] at h
      rcases Prod.mk.inj (Option.some.inj h) with ⟨rfl, rfl⟩
      exact .passed ⟨hh, rfl, rfl⟩
    · rw [he] at h
      rcases Prod.mk.inj (Option.some.inj h) with ⟨rfl, rfl⟩
      exact .spawned hh
  | hearing s k t giveBack =>
    simp only [step] at h
    split at h
    · rcases Prod.mk.inj (Option.some.inj h) with ⟨rfl, rfl⟩
      exact .stay w _
    · rcases Prod.mk.inj (Option.some.inj h) with ⟨rfl, rfl⟩
      exact .stay w _
    · cases h
  | dismissing s k t e giveBack =>
    simp only [step] at h
    split at h
    · rename_i hend
      rcases Prod.mk.inj (Option.some.inj h) with ⟨rfl, rfl⟩
      exact .joined hend
    · cases h
  | recording s k t =>
    rcases Prod.mk.inj (Option.some.inj h) with ⟨rfl, rfl⟩
    exact .seated
  | freeing s k e giveBack =>
    rcases Prod.mk.inj (Option.some.inj h) with ⟨rfl, rfl⟩
    cases giveBack
    · exact .freed
    · exact .freed
  | givingBack s e =>
    rcases Prod.mk.inj (Option.some.inj h) with ⟨rfl, rfl⟩
    exact .released s
  | unregistering fd k =>
    simp only [step] at h
    split at h
    · rcases Prod.mk.inj (Option.some.inj h) with ⟨rfl, rfl⟩
      exact .stay w none
    · rcases Prod.mk.inj (Option.some.inj h) with ⟨rfl, rfl⟩
      exact .stay w none
  | stopping s k =>
    simp only [step] at h
    rcases w.registry.beginStop_cases s k with ⟨t, hrun, he⟩ | ⟨e, he⟩
    · rw [he] at h
      rcases Prod.mk.inj (Option.some.inj h) with ⟨rfl, rfl⟩
      exact .lifted hrun
    · rw [he] at h
      rcases Prod.mk.inj (Option.some.inj h) with ⟨rfl, rfl⟩
      exact .stay w none
  | cancelling s k t =>
    rcases Prod.mk.inj (Option.some.inj h) with ⟨rfl, rfl⟩
    exact .passed (w.crew.keeps_cancel t)
  | waking s k t =>
    -- a wake-up that fails leaves the same threads behind
    have hkeeps := w.crew.keeps_wake t
    simp only [step] at h
    rcases hw : w.crew.wake t with ⟨e | _, crew⟩
    · rw [hw] at h hkeeps
      rcases Prod.mk.inj (Option.some.inj h) with ⟨rfl, rfl⟩
      exact .passed hkeeps
    · rw [hw] at h hkeeps
      rcases Prod.mk.inj (Option.some.inj h) with ⟨rfl, rfl⟩
      exact .passed hkeeps
  | restoring s k t e =>
    rcases Prod.mk.inj (Option.some.inj h) with ⟨rfl, rfl⟩
    exact .seated
  | joining s k t =>
    -- a join returns once the thread has ended, and not before
    simp only [step] at h
    rcases Option.map_eq_some_iff.mp h with ⟨result, hjoin, hpos⟩
    rcases Prod.mk.inj hpos with ⟨rfl, rfl⟩
    exact .joined (Crew.hasEnded_of_joined hjoin)
  | clearing s k result =>
    rcases Prod.mk.inj (Option.some.inj h) with ⟨rfl, rfl⟩
    exact .freed
  | reclaiming s result =>
    rcases Prod.mk.inj (Option.some.inj h) with ⟨rfl, rfl⟩
    exact .released s
  | finished result => cases h

end Call

/-- A step of a shutdown does no more than a step of the stop at hand. -/
theorem Shutdown.step_move {d d' : Shutdown} {w w' : Listening} (h : d.step w = some (d', w')) :
    Call.Move w (Task.shutdown d).holding? (Task.shutdown d').holding?
      ((Task.shutdown d).position?.bind (·.joins?)).toList w' := by
  unfold step at h
  cases hstop : d.stop? with
  | none =>
    simp only [hstop] at h
    split at h
    · cases h
    · rcases Prod.mk.inj (Option.some.inj h) with ⟨rfl, rfl⟩
      simp only [Task.holding?, Task.position?, hstop]
      split
      · exact .stay w none
      · exact .stay w none
  | some p =>
    simp only [hstop] at h
    split at h
    · rename_i result hres
      -- a stop that is over keeps nothing
      rcases Prod.mk.inj (Option.some.inj h) with ⟨rfl, rfl⟩
      cases p with
      | finished =>
        simp only [Task.holding?, Task.position?, hstop]
        exact .stay w none
      | _ => cases hres
    · rcases Option.map_eq_some_iff.mp h with ⟨⟨p', w₁⟩, hstep, hpos⟩
      rcases Prod.mk.inj hpos with ⟨rfl, rfl⟩
      simpa [Task.holding?, Task.position?, hstop] using Call.step_move hstep

/-- What a step of a task does. -/
theorem Task.step_move {task task' : Task} {w w' : Listening}
    (h : task.step w = some (task', w')) :
    Call.Move w task.holding? task'.holding? (task.position?.bind (·.joins?)).toList w' := by
  cases task with
  | call p =>
    rcases Option.map_eq_some_iff.mp h with ⟨⟨p', w₁⟩, hstep, hpos⟩
    rcases Prod.mk.inj hpos with ⟨rfl, rfl⟩
    exact Call.step_move hstep
  | shutdown d =>
    rcases Option.map_eq_some_iff.mp h with ⟨⟨d', w₁⟩, hstep, hpos⟩
    rcases Prod.mk.inj hpos with ⟨rfl, rfl⟩
    exact Shutdown.step_move hstep

namespace Scene

/-- What the tasks of a scene keep, by their numbers. -/
def hold (s : Scene) (i : Nat) : Option Holding := s.tasks[i]?.bind (·.holding?)

variable {s s' : Scene}

/-- A task that has just begun keeps nothing. -/
theorem hold_append {task : Task} (h : task.holding? = none) (s : Scene) :
    hold { s with tasks := s.tasks ++ [task] } = s.hold := by
  have hfresh : s.hold s.tasks.length = none := by simp [hold]
  have hnew := getElem?_append_update (fun task? : Option Task => task?.bind (·.holding?)) s.tasks
    task
  refine hnew.trans ?_
  rw [Option.bind_some, h, ← hfresh]
  exact Function.update_eq_self ..

theorem hold_set {i : Nat} {task : Task} (h : s.tasks[i]? = some task) (task' : Task)
    (w : Listening) (joined : List ThreadId) :
    hold ⟨w, s.tasks.set i task', joined⟩ = Function.update s.hold i task'.holding? :=
  getElem?_set_update (fun task? : Option Task => task?.bind (·.holding?)) h task'

/-- What a step does to a scene: somebody keeps something else, a thread goes on, or the host
changes. -/
theorem act?_cases {a : Action} (h : s.act? a = some s') :
    (∃ i x ts, Call.Move s.listening (s.hold i) x ts s'.listening ∧
      s'.hold = Function.update s.hold i x ∧ s'.joined = ts ++ s.joined) ∨
    (∃ t, s.crew.StepsAt t s'.crew ∧ s'.registry = s.registry ∧ s'.hold = s.hold ∧
      s'.joined = s.joined) ∨
    (∃ host gates, a = .outside host gates ∧ s' = s.withHost host gates) := by
  have hfresh : s.hold s.tasks.length = none := by simp [hold]
  -- the scenes in which nobody keeps anything else
  have still : s'.listening = s.listening → s'.hold = s.hold → s'.joined = s.joined →
      ∃ i x ts, Call.Move s.listening (s.hold i) x ts s'.listening ∧
        s'.hold = Function.update s.hold i x ∧ s'.joined = ts ++ s.joined := by
    intro hw hhold hjoined
    refine ⟨0, s.hold 0, [], ?_, ?_, hjoined⟩
    · rw [hw]
      exact .stay s.listening _
    · rw [hhold, Function.update_eq_self]
  cases a with
  | begin p =>
    simp only [act?] at h
    split at h
    · rename_i hentry
      obtain rfl := Option.some.inj h
      have hnone : (Task.call p).holding? = none := p.holding_of_entry hentry
      exact Or.inl (still rfl (hold_append hnone s) rfl)
    · cases h
  | shutdown order =>
    simp only [act?] at h
    split at h
    · obtain rfl := Option.some.inj h
      exact Or.inl (still rfl (hold_append rfl s) rfl)
    · cases h
  | acquire fd =>
    obtain rfl := Option.some.inj h
    refine Or.inl ⟨s.tasks.length, none, [], ?_, ?_, rfl⟩
    · rw [hfresh]
      exact .acquired fd
    · rw [← hfresh, Function.update_eq_self]
      rfl
  | release slot =>
    obtain rfl := Option.some.inj h
    refine Or.inl ⟨s.tasks.length, none, [], ?_, ?_, rfl⟩
    · rw [hfresh]
      exact .released slot
    · rw [← hfresh, Function.update_eq_self]
      rfl
  | proceed i =>
    rcases Option.bind_eq_some_iff.mp h with ⟨task, htask, hrest⟩
    rcases Option.bind_eq_some_iff.mp hrest with ⟨⟨task', w⟩, hstep, hscene⟩
    obtain rfl := Option.some.inj hscene
    have hhold : s.hold i = task.holding? := by simp [hold, htask]
    refine Or.inl ⟨i, task'.holding?, _, ?_, hold_set htask task' w _, rfl⟩
    rw [hhold]
    exact Task.step_move hstep
  | thread e =>
    rcases Option.map_eq_some_iff.mp h with ⟨crew, hcrew, hscene⟩
    obtain rfl := hscene
    rcases Crew.after?_cases hcrew with rfl | ⟨t, hstep⟩
    · exact Or.inl (still rfl rfl rfl)
    · exact Or.inr (Or.inl ⟨t, hstep, rfl, rfl, rfl⟩)
  | outside host gates => exact Or.inr (Or.inr ⟨host, gates, rfl, (Option.some.inj h).symm⟩)

end Scene

end SerialLine
