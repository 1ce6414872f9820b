import SerialLine.Proofs.Listener.Dealings
import SerialLine.Proofs.Listener.FailedLaunch
import SerialLine.Proofs.Listener.Returning
import SerialLine.Proofs.Listener.Sweep

/-!
# SerialLine.Proofs.Listener.TakingDown — a shutdown that is alone

`Scene.takeDown?` is a step of a scene in which a shutdown is alone with the threads and the host,
and wake-ups fail as they are to fail. Where the stop at hand stands, `Call.Brings` names the
registry that it comes to, and `Shutdown.Brings` the one that the whole shutdown comes to. No step
changes that: `Scene.TakingDown.next`. Each step of the shutdown takes one of the turns that it has
left.
-/

namespace SerialLine

/-! ## The stop at hand -/

/-- Where a stop stands, and what the registry comes to by it, if wake-ups fail as they are to. -/
inductive Call.Brings (F : SlotId → ListenerKind → Bool) (w : Listening) :
    Position → Registry → Prop where
  | stopping {s : SlotId} {k : ListenerKind} {t : ThreadId}
    (hrun : w.registry.seat s k = .running t) :
    Brings F w (.stopping s k) (w.registry.stopped F s k)
  | cancelling (s : SlotId) (k : ListenerKind) (t : ThreadId) :
    Brings F w (.cancelling s k t) ((w.registry.setSeat s k (.running t)).stopped F s k)
  | waking (s : SlotId) (k : ListenerKind) (t : ThreadId) :
    Brings F w (.waking s k t) ((w.registry.setSeat s k (.running t)).stopped F s k)
  | restoring (s : SlotId) (k : ListenerKind) (t : ThreadId) (e : Error) :
    Brings F w (.restoring s k t e) (w.registry.setSeat s k (.running t))
  | joining (s : SlotId) (k : ListenerKind) (t : ThreadId) :
    Brings F w (.joining s k t) ((w.registry.setSeat s k .idle).release s)
  | clearing (s : SlotId) (k : ListenerKind) (result : Outcome Unit) :
    Brings F w (.clearing s k result) ((w.registry.setSeat s k .idle).release s)
  | reclaiming (s : SlotId) (result : Outcome Unit) :
    Brings F w (.reclaiming s result) (w.registry.release s)
  | finished (result : Outcome SlotId) : Brings F w (.finished result) w.registry

namespace Call

variable {F : SlotId → ListenerKind → Bool} {w w' : Listening} {p p' : Position} {goal : Registry}

/-- No step of a stop changes what it comes to. -/
theorem Edge.brings (he : Edge w p p' w') (h : Brings F w p goal)
    (hwake : ∀ s k t, p = .waking s k t → (w.crew.wake t).1.isOk = !F s k) :
    Brings F w' p' goal := by
  cases h with
  | @stopping s k t hrun =>
    cases he with
    | lifted hrun' =>
      obtain rfl := Seat.running.inj (hrun.symm.trans hrun')
      have hback := Registry.setSeat_setSeat s k .stopping w.registry
      rw [hrun] at hback
      have hcancelling := Brings.cancelling (F := F)
        (w := { w with registry := w.registry.setSeat s k .stopping }) s k t
      rwa [hback] at hcancelling
    | unlifted hbegin =>
      rw [Registry.beginStop, hrun] at hbegin
      cases hbegin
  | cancelling s k t =>
    cases he
    exact .waking s k t
  | waking s k t =>
    have hF := hwake s k t rfl
    cases he with
    | @woken _ _ _ crew hok =>
      have hnot : F s k = false := by simpa [hok, Except.isOk, Except.toBool] using hF
      rw [Registry.stopped, hnot, if_neg Bool.false_ne_true, Registry.setSeat_again]
      exact .joining (w := { w with crew }) s k t
    | @unwoken _ _ _ e crew hfail =>
      have hkept : F s k = true := by simpa [hfail, Except.isOk, Except.toBool] using hF
      rw [Registry.stopped, if_pos hkept]
      exact .restoring (w := { w with crew }) s k t e
  | restoring s k t e =>
    cases he
    exact .finished _
  | joining s k t =>
    cases he
    exact .clearing s k _
  | clearing s k result =>
    cases he
    exact .reclaiming s result
  | reclaiming s result =>
    cases he
    exact .finished _
  | finished => cases he

/-- Threads and the host have no part in what a stop comes to. -/
theorem Brings.onCrew (h : Brings F w p goal) (crew : Crew) :
    Brings F { w with crew } p goal := by
  cases h with
  | stopping hrun => exact .stopping (w := { w with crew }) hrun
  | cancelling s k t => exact .cancelling (w := { w with crew }) s k t
  | waking s k t => exact .waking (w := { w with crew }) s k t
  | restoring s k t e => exact .restoring (w := { w with crew }) s k t e
  | joining s k t => exact .joining (w := { w with crew }) s k t
  | clearing s k result => exact .clearing (w := { w with crew }) s k result
  | reclaiming s result => exact .reclaiming (w := { w with crew }) s result
  | finished result => exact .finished (w := { w with crew }) result

/-- A stop that is not over has turns left. -/
theorem Brings.turnsLeft (h : Brings F w p goal) (hopen : p.result? = none) : p.turnsLeft ≠ 0 := by
  cases h with
  | finished => cases hopen
  | _ => exact Nat.succ_ne_zero _

end Call

/-! ## A shutdown -/

/-- Where a shutdown stands, and what the registry comes to by it. -/
inductive Shutdown.Brings (F : SlotId → ListenerKind → Bool) (w : Listening) (final : Registry) :
    Shutdown → Prop where
  | between {todo : List (SlotId × ListenerKind)}
    (hrest : todo.foldl (·.visited F) w.registry = final) : Brings F w final ⟨todo, none⟩
  | stopping {todo : List (SlotId × ListenerKind)} {p : Call.Position} {goal : Registry}
    (hstop : Call.Brings F w p goal) (hrest : todo.foldl (·.visited F) goal = final) :
    Brings F w final ⟨todo, some p⟩

/-- The turns that a shutdown has left. A stop has six of its own, and the shutdown turns to it and
leaves it behind. -/
def Shutdown.turnsLeft (d : Shutdown) : Nat :=
  8 * d.todo.length + ((d.stop?.map (·.turnsLeft + 1)).getD 0)

namespace Shutdown

variable {F : SlotId → ListenerKind → Bool} {w w' : Listening} {d d' : Shutdown} {final : Registry}

/-- No step of a shutdown changes what it comes to, as long as it finds no seat on its way. -/
theorem Edge.brings (he : Edge w d d' w') (h : Brings F w final d)
    (hstill : d.stop? = none → ∀ s k, (w.registry.seat s k).isMoving = false)
    (hwake : ∀ s k t, d.stop? = some (.waking s k t) → (w.crew.wake t).1.isOk = !F s k) :
    Brings F w' final d' := by
  cases h with
  | between hrest =>
    cases he with
    | @looked s k todo =>
      rw [List.foldl_cons, Registry.visited] at hrest
      by_cases hactive : w.registry.isActive s k = true
      · rw [if_pos hactive] at hrest ⊢
        have hbusy := Registry.isActive_iff.mp hactive
        have hmoving := hstill rfl s k
        cases hseat : w.registry.seat s k with
        | idle => exact absurd hseat hbusy
        | starting | stopping =>
          rw [hseat] at hmoving
          cases hmoving
        | running t => exact .stopping (.stopping hseat) hrest
      · rw [if_neg hactive] at hrest ⊢
        exact .between hrest
  | stopping hstop hrest =>
    cases he with
    | leftBehind =>
      cases hstop
      exact .between hrest
    | wentOn he =>
      exact .stopping (he.brings hstop fun s k t hp => hwake s k t (congrArg some hp)) hrest

theorem Brings.onCrew (h : Brings F w final d) (crew : Crew) :
    Brings F { w with crew } final d := by
  cases h with
  | between hrest => exact .between hrest
  | stopping hstop hrest => exact .stopping (hstop.onCrew crew) hrest

/-- Each step of a shutdown takes one of the turns that are left. -/
theorem Edge.turnsLeft (he : Edge w d d' w') (h : Brings F w final d) :
    d'.turnsLeft < d.turnsLeft := by
  cases he with
  | looked =>
    simp only [Shutdown.turnsLeft, List.length_cons, Option.map_none, Option.getD_none]
    split
    · simp only [Call.Position.turnsLeft, Option.map_some, Option.getD_some]
      omega
    · simp only [Option.map_none, Option.getD_none]
      omega
  | leftBehind => simp [Shutdown.turnsLeft]
  | @wentOn todo p p' _ he =>
    have hless := he.turnsLeft
    have hopen : p.result? = none := by
      cases p with
      | finished => cases he
      | _ => rfl
    cases h with
    | stopping hstop =>
      have hleft := hstop.turnsLeft hopen
      simp only [Shutdown.turnsLeft, Option.map_some, Option.getD_some]
      omega

/-- A shutdown that is not over can go on, unless it waits for a thread. -/
theorem Brings.goesOn (h : Brings F w final d) (hopen : d.isFinished = false)
    (hjoin : ∀ s k t, d.stop? ≠ some (.joining s k t)) (w' : Listening) :
    (d.step w').isSome = true := by
  cases h with
  | @between todo =>
    cases todo with
    | nil => cases hopen
    | cons => rfl
  | @stopping todo p goal hstop =>
    simp only [step]
    cases hresult : p.result? with
    | some => rfl
    | none =>
      have hgo := Call.Position.goesOn (hstop.turnsLeft hresult)
        (fun s k t hp => hjoin s k t (congrArg some hp)) w'
      simpa using hgo

end Shutdown

/-! ## A shutdown on its own -/

namespace Scene

/-- Whether the wake-up that a task is about to do comes out as it is to. -/
def wakesAs (F : SlotId → ListenerKind → Bool) (i : Nat) (s : Scene) : Bool :=
  match s.position? i with
  | some (.waking slot k t) => (s.crew.wake t).1.isOk == !F slot k
  | _ => true

/-- A step while a task is alone with the threads and the host, and wake-ups fail as they are to. -/
def takeDown? (F : SlotId → ListenerKind → Bool) (i : Nat) (s : Scene) (a : Action) :
    Option Scene :=
  match a with
  | .proceed j => if j = i ∧ s.wakesAs F i = true then s.act? a else none
  | .thread _ | .outside _ _ => s.act? a
  | _ => none

/-- How far a shutdown has come that is alone, and what it comes to. -/
structure TakingDown (F : SlotId → ListenerKind → Bool) (i : Nat) (final : Registry) (s : Scene) :
    Prop where
  task : ∃ d, s.tasks[i]? = some (.shutdown d) ∧ d.Brings F s.listening final
  others : ∀ j, j ≠ i → s.hold j = none

variable {F : SlotId → ListenerKind → Bool} {i : Nat} {s s' : Scene} {a : Action} {d : Shutdown}
  {final : Registry} {capacity : Nat} {settings : ListenerSettings} {t : ThreadId}
  {slot : SlotId} {k : ListenerKind}

theorem act?_of_takeDown? (h : s.takeDown? F i a = some s') : s.act? a = some s' := by
  cases a with
  | proceed j =>
    simp only [takeDown?] at h
    split at h
    · exact h
    · cases h
  | thread | outside => exact h
  | _ => cases h

theorem takeDown?_cases (h : s.takeDown? F i a = some s') :
    (a = .proceed i ∧ s.wakesAs F i = true) ∨
    (∃ e crew, s.crew.after? e = some crew ∧
      s' = { s with listening := { s.listening with crew } }) ∨
    ∃ host gates, s' = s.withHost host gates := by
  cases a with
  | proceed j =>
    simp only [takeDown?] at h
    split at h
    · next hown => exact .inl ⟨congrArg Action.proceed hown.1, hown.2⟩
    · cases h
  | thread e =>
    obtain ⟨crew, hevent, rfl⟩ := Option.map_eq_some_iff.mp h
    exact .inr (.inl ⟨e, crew, hevent, rfl⟩)
  | outside host gates => exact .inr (.inr ⟨host, gates, (Option.some.inj h).symm⟩)
  | _ => cases h

theorem position?_shutdown (hat : s.tasks[i]? = some (.shutdown d)) : s.position? i = d.stop? := by
  rw [position?, hat]
  rfl

theorem hold_shutdown (hat : s.tasks[i]? = some (.shutdown d)) :
    s.hold i = d.stop?.bind (·.holding?) := by
  rw [hold, hat]
  rfl

theorem wake_of_wakesAs {t : ThreadId} (h : s.wakesAs F i = true)
    (hat : s.position? i = some (.waking slot k t)) : (s.crew.wake t).1.isOk = !F slot k := by
  simpa only [wakesAs, hat, beq_iff_eq] using h

/-- A shutdown that stops nobody at the moment keeps nothing. -/
theorem TakingDown.free (h : s.TakingDown F i final) (hat : s.tasks[i]? = some (.shutdown d))
    (hstop : d.stop? = none) (j : Nat) : s.hold j = none := by
  by_cases hji : j = i
  · rw [hji, hold_shutdown hat, hstop]
    rfl
  · exact h.others j hji

/-- A shutdown takes its own steps. -/
theorem act?_shutdown (hat : s.tasks[i]? = some (.shutdown d))
    (ha : s.act? (.proceed i) = some s') :
    ∃ d', Shutdown.Edge s.listening d d' s'.listening ∧ s'.tasks[i]? = some (.shutdown d') ∧
      ∀ j, j ≠ i → s'.hold j = s.hold j := by
  obtain ⟨task, htask, hrest⟩ := Option.bind_eq_some_iff.mp ha
  obtain rfl := Option.some.inj (hat.symm.trans htask)
  obtain ⟨⟨task', w⟩, hstep, hscene⟩ := Option.bind_eq_some_iff.mp hrest
  obtain rfl := Option.some.inj hscene
  obtain ⟨⟨d', w'⟩, hturn, hmoved⟩ := Option.map_eq_some_iff.mp hstep
  obtain ⟨rfl, rfl⟩ := Prod.mk.inj hmoved
  refine ⟨d', Shutdown.step_edge hturn,
    List.getElem?_set_self (List.getElem?_eq_some_iff.mp hat).1, fun j hji => ?_⟩
  rw [hold_set hat, Function.update_of_ne hji]

theorem act?_isSome (hat : s.tasks[i]? = some (.shutdown d))
    (hgo : (d.step s.listening).isSome = true) : (s.act? (.proceed i)).isSome = true := by
  obtain ⟨⟨d', w⟩, hstep⟩ := Option.isSome_iff_exists.mp hgo
  simp [act?, hat, Task.step, hstep]

theorem TakingDown.brings (h : s.TakingDown F i final) (hat : s.tasks[i]? = some (.shutdown d)) :
    d.Brings F s.listening final := by
  obtain ⟨d₀, hat₀, hbrings⟩ := h.task
  obtain rfl := Task.shutdown.inj (Option.some.inj (hat.symm.trans hat₀))
  exact hbrings

/-- A step of the shutdown itself takes one of the turns that are left. -/
theorem TakingDown.own (h : s.TakingDown F i final) (ha : s.act? (.proceed i) = some s')
    (hat : s.tasks[i]? = some (.shutdown d)) :
    ∃ d', s'.tasks[i]? = some (.shutdown d') ∧ d'.turnsLeft < d.turnsLeft := by
  obtain ⟨d', hedge, hat', -⟩ := act?_shutdown hat ha
  exact ⟨d', hat', hedge.turnsLeft (h.brings hat)⟩

/-- No step changes what a shutdown comes to. -/
theorem TakingDown.next (h : s.TakingDown F i final) (hreach : s.Reachable capacity settings)
    (ha : s.takeDown? F i a = some s') : s'.TakingDown F i final := by
  obtain ⟨d, hat, hbrings⟩ := h.task
  rcases takeDown?_cases ha with ⟨rfl, hwakes⟩ | ⟨e, crew, -, rfl⟩ | ⟨host, gates, rfl⟩
  · obtain ⟨d', hedge, hat', hhold⟩ := act?_shutdown hat (act?_of_takeDown? ha)
    refine ⟨⟨d', hat', hedge.brings hbrings (fun hstop => hreach.still (h.free hat hstop)) ?_⟩,
      fun j hji => (hhold j hji).trans (h.others j hji)⟩
    intro slot k t hstop
    exact wake_of_wakesAs hwakes ((position?_shutdown hat).trans hstop)
  · exact ⟨⟨d, hat, hbrings.onCrew crew⟩, h.others⟩
  · exact ⟨⟨d, hat, hbrings.onCrew _⟩, h.others⟩

/-- The shutdown stays where it is, or takes one of its turns. -/
theorem TakingDown.turnsLeft (h : s.TakingDown F i final) (ha : s.takeDown? F i a = some s')
    (hat : s.tasks[i]? = some (.shutdown d)) : s'.tasks[i]? = some (.shutdown d) ∨
      ∃ d', s'.tasks[i]? = some (.shutdown d') ∧ d'.turnsLeft < d.turnsLeft := by
  rcases takeDown?_cases ha with ⟨rfl, -⟩ | ⟨e, crew, -, rfl⟩ | ⟨host, gates, rfl⟩
  · exact .inr (h.own (act?_of_takeDown? ha) hat)
  · exact .inl hat
  · exact .inl hat

/-- A shutdown begins while no call is in progress. -/
theorem AtRest.takingDown (hrest : s.AtRest) {order : List (Fd × SlotId)}
    (ha : s.act? (.shutdown order) = some s') :
    order.Perm s.registry.table ∧ s'.registry = s.registry ∧ s'.hold = s.hold ∧
      s'.position? s.tasks.length = none ∧
      s'.TakingDown F s.tasks.length (s.registry.takenDown F order) := by
  simp only [act?] at ha
  split at ha
  · next hperm =>
    obtain rfl := Option.some.inj ha
    have hsame := @hold_append
      (.shutdown (Shutdown.ofRegistry { s.registry with table := order })) rfl s
    refine ⟨List.isPerm_iff.mp hperm, rfl, hsame, ?_,
      ⟨_, List.getElem?_concat_length, .between rfl⟩, fun j _ => ?_⟩
    · rw [position?, List.getElem?_concat_length]
      rfl
    · rw [hsame]
      exact hrest.hold j
  · cases ha

/-! ## What it leaves behind -/

theorem TakingDown.run (h : s.TakingDown F i final) (hreach : s.Reachable capacity settings)
    {actions : List Action} (hrun : actions.foldlM (takeDown? F i) s = some s') :
    s'.Reachable capacity settings ∧ s'.TakingDown F i final ∧
      ∀ slot k t, Known s.registry s.hold slot k t →
        Known s'.registry s'.hold slot k t ∨ t ∈ s'.joined := by
  refine run_keeps (P := fun x => x.Reachable capacity settings ∧ x.TakingDown F i final ∧
    ∀ slot k t, Known s.registry s.hold slot k t → Known x.registry x.hold slot k t ∨ t ∈ x.joined)
    ?_ ⟨hreach, h, fun _ _ _ => .inl⟩ hrun
  rintro a - x x' ⟨hx, htaking, hknown⟩ ha
  have hact := act?_of_takeDown? ha
  refine ⟨hx.act a hact, htaking.next hx ha, fun slot k t hat => ?_⟩
  rcases hknown slot k t hat with hx' | hjoined
  · exact hx.inv.step_known hact hx'
  · exact .inr (act?_joined hact hjoined)

/-- A shutdown that is over has brought the registry where it was to come to. -/
theorem TakingDown.over (h : s.TakingDown F i final) (hat : s.tasks[i]? = some (.shutdown d))
    (hover : d.isFinished = true) : s.registry = final ∧ ∀ j, s.hold j = none := by
  obtain ⟨htodo, hstop⟩ := Bool.and_eq_true_iff.mp hover
  have hnone : d.stop? = none := by simpa using hstop
  refine ⟨?_, h.free hat hnone⟩
  cases h.brings hat with
  | between hrest =>
    obtain rfl := List.isEmpty_iff.mp htodo
    exact hrest
  | stopping => cases hnone

/-- Whatever happens, a thread that has ended rests and calls nothing. -/
theorem act?_ended {th : Thread} (ha : s.act? a = some s') (ht : s.crew.thread? t = some th)
    (hend : th.body.hasEnded = true) :
    s'.crew.itemsOf t = s.crew.itemsOf t ∧ ∃ th', s'.crew.thread? t = some th' ∧ th.Rests th' := by
  rcases act?_crew ha with hhandled | ⟨e, -, hevent⟩ | ⟨host, gates, -, rfl⟩
  · obtain ⟨th', ht', hth⟩ := hhandled.thread ht
    exact ⟨Crew.itemsOf_congr hhandled.delivered, th', ht', hth.rests⟩
  · exact Crew.after?_ended hevent ht hend
  · exact ⟨rfl, th, ht, .refl th⟩

/-- Whatever happens, a thread that was joined calls nothing any more. -/
theorem Reachable.silent (h : s.Reachable capacity settings) (ht : t ∈ s.joined)
    {later : List Action} (hrun : s.run? later = some s') :
    s'.crew.itemsOf t = s.crew.itemsOf t := by
  refine (run_keeps (P := fun x => x.Reachable capacity settings ∧ t ∈ x.joined ∧
    x.crew.itemsOf t = s.crew.itemsOf t) ?_ ⟨h, ht, rfl⟩ hrun).2.2
  rintro a - x x' ⟨hx, hjoined, hsame⟩ ha
  obtain ⟨hlt, hend⟩ := hx.inv.ended t hjoined
  have hth : x.crew.thread? t = some x.crew.threads[t] := List.getElem?_eq_getElem hlt
  replace hend : x.crew.hasEnded t = true := hend
  rw [Crew.hasEnded, hth] at hend
  exact ⟨hx.act a ha, act?_joined ha hjoined, (act?_ended ha hth hend).1.trans hsame⟩

end Scene

end SerialLine
