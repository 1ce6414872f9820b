import Mathlib.Data.List.Count
import SerialLine.Proofs.Listener.Reclaim

/-!
# SerialLine.Proofs.Listener.Dealings — no slot is left behind

Clients that never acquire slots themselves leave it to the registry to give them back. `Dealings`
is a registry with such clients: they register listeners, stop them by their slot or by their
descriptor, and shut everything down. It keeps an account of the registrations and the stops that
have succeeded.

Two invariants carry the result. `Scene.Tidy` says that a vacant slot always has a call that gives
it back next. `Balanced` says that every listener that was not stopped is one that was registered,
so an account that is even leaves no listener, and without calls on their way no slot either.
-/

namespace SerialLine

/-! ## The account -/

/-- Something that a client has got done. -/
inductive Deal where
  | registered (fd : Fd) (k : ListenerKind)
  | stopped (fd : Fd) (k : ListenerKind)
deriving DecidableEq

namespace Call

/-- What the next step of a call gets done. A registration has succeeded when the thread is
written down, a stop when the seat of the joined thread is freed; what such a call still has to do
cannot fail. -/
def Position.deal? (r : Registry) : Position → Option Deal
  | .recording s k _ => some (.registered (r.fdOf s) k)
  | .clearing s k (.ok ()) => some (.stopped (r.fdOf s) k)
  | _ => none

/-- Whether a call has succeeded, though it may still have a slot to give back. -/
def Position.succeeded : Position → Bool
  | .reclaiming _ (.ok _) | .finished (.ok _) => true
  | _ => false

/-- A call has succeeded once it has got something done, and not before. -/
theorem Edge.succeeded {w w' : Listening} {p p' : Position} (he : Edge w p p' w') :
    (p.deal? w.registry).toList.length + p.succeeded.toNat = p'.succeeded.toNat := by
  cases he with
  | @freed s k e giveBack => cases giveBack <;> rfl
  | @cleared s k result | @reclaimed s result => cases result <;> rfl
  | _ => rfl

/-- The steps of one call, whatever others do in between, and what they get done. -/
inductive Course : Position → List Deal → Position → Prop where
  | done (p : Position) : Course p [] p
  | step {p p' q : Position} {w w' : Listening} {deals : List Deal}
    (h : Call.step p w = some (p', w')) (rest : Course p' deals q) :
    Course p ((p.deal? w.registry).toList ++ deals) q

/-- A call that answers has got one thing done if it answers with success, and nothing else. -/
theorem Course.deals_length {p q : Position} {deals : List Deal} (h : Course p deals q)
    (hentry : p.isEntry = true) : deals.length = q.succeeded.toNat := by
  -- from any position on, as the steps after the first do not start at an entry
  have hsum : deals.length + p.succeeded.toNat = q.succeeded.toNat := by
    clear hentry
    induction h with
    | done p => simp
    | step hstep _ ih =>
      have he := (step_edge hstep).succeeded
      rw [List.length_append]
      omega
  have hnone : p.succeeded = false := by
    cases p with
    | registering | starting | stopping | unregistering => rfl
    | _ => cases hentry
  simpa [hnone] using hsum

end Call

/-- A registry whose clients do not handle slots themselves, and what they have got done. -/
structure Dealings where
  scene : Scene
  deals : List Deal := []

/-- Whether a step is one of clients that register and stop listeners and shut down, or of
somebody who is no client. -/
def Action.isDealing : Action → Bool
  | .begin (.registering ..) | .begin (.unregistering ..) | .begin (.stopping ..) => true
  | .begin _ | .acquire _ | .release _ => false
  | .shutdown _ | .proceed _ | .thread _ | .outside _ _ => true

namespace Dealings

/-- An empty registry on a host. -/
def start (capacity : Nat) (settings : ListenerSettings) (host : Host)
    (gates : List (Fd × Gate)) : Dealings where
  scene := .start capacity settings host gates

/-- What a step gets done. -/
def deal? (d : Dealings) : Action → Option Deal
  | .proceed i =>
    (d.scene.tasks[i]?.bind (·.position?)).bind (·.deal? d.scene.registry)
  | _ => none

/-- The registry and the account after a step; `none` if the step cannot be taken. -/
def act? (d : Dealings) (a : Action) : Option Dealings :=
  if a.isDealing then
    (d.scene.act? a).map fun scene => { scene, deals := (d.deal? a).toList ++ d.deals }
  else none

/-- The registry and the account after several steps. -/
def run? (d : Dealings) (actions : List Action) : Option Dealings := actions.foldlM act? d

/-- What any order of steps leads to, from an empty registry. -/
inductive Reachable (capacity : Nat) (settings : ListenerSettings) : Dealings → Prop where
  | start (host : Host) (gates : List (Fd × Gate)) :
    Reachable capacity settings (start capacity settings host gates)
  | act {d d' : Dealings} (a : Action) (h : Reachable capacity settings d)
    (ha : d.act? a = some d') : Reachable capacity settings d'

theorem Reachable.run {capacity : Nat} {settings : ListenerSettings} {actions : List Action}
    {d d' : Dealings} (h : Reachable capacity settings d) (hrun : d.run? actions = some d') :
    Reachable capacity settings d' :=
  run_keeps (fun a _ _ _ hd ha => hd.act a ha) h hrun

theorem act?_eq {d d' : Dealings} {a : Action} (h : d.act? a = some d') :
    a.isDealing = true ∧ d.scene.act? a = some d'.scene ∧
      d'.deals = (d.deal? a).toList ++ d.deals := by
  unfold act? at h
  split at h
  · rename_i hdealing
    rcases Option.map_eq_some_iff.mp h with ⟨scene, hact, rfl⟩
    exact ⟨hdealing, hact, rfl⟩
  · cases h

theorem Reachable.scene {capacity : Nat} {settings : ListenerSettings} {d : Dealings}
    (h : Reachable capacity settings d) : d.scene.Reachable capacity settings := by
  induction h with
  | start host gates => exact .start host gates
  | act a _ ha ih => exact ih.act a (act?_eq ha).2.1

end Dealings

/-! ## Vacant slots are given back -/

/-- Every vacant slot has a task that gives it back next. -/
structure Scene.Tidy (s : Scene) : Prop where
  givesBack : ∀ task ∈ s.tasks, task.GivesBack
  reclaimed : ∀ slot, s.registry.IsVacant slot → ∃ task ∈ s.tasks, task.reclaims? = some slot

namespace Scene

variable {s s' : Scene}

/-- One more task that gives slots back changes nothing. -/
theorem Tidy.append (h : s.Tidy) {task : Task} (hback : task.GivesBack) :
    Tidy { s with tasks := s.tasks ++ [task] } where
  givesBack := by
    intro task' hmem
    rcases List.mem_append.mp hmem with hmem | hmem
    · exact h.givesBack task' hmem
    · obtain rfl := List.mem_singleton.mp hmem
      exact hback
  reclaimed := by
    intro slot hvacant
    rcases h.reclaimed slot hvacant with ⟨task', hmem, hreclaims⟩
    exact ⟨task', List.mem_append_left _ hmem, hreclaims⟩

/-- A task that goes on gives back what it leaves vacant. -/
theorem Tidy.proceed (h : s.Tidy) {i : Nat} {task task' : Task} {w : Listening}
    {joined : List ThreadId} (htask : s.tasks[i]? = some task)
    (hstep : task.step s.listening = some (task', w)) :
    Tidy ⟨w, s.tasks.set i task', joined⟩ := by
  have hlt := (List.getElem?_eq_some_iff.mp htask).1
  have hmem : task ∈ s.tasks := List.mem_of_getElem? htask
  rcases Task.step_vacant hstep (h.givesBack task hmem) with ⟨hback, hvacant⟩
  constructor
  · intro task₁ hmem₁
    rcases List.mem_or_eq_of_mem_set hmem₁ with hmem₁ | rfl
    · exact h.givesBack task₁ hmem₁
    · exact hback
  · intro slot hslot
    rcases hvacant slot hslot with hreclaims | ⟨hbefore, hnot⟩
    · exact ⟨task', List.mem_set hlt task', hreclaims⟩
    · -- somebody else gives the slot back, and still has it to do
      exact exists_mem_set htask (fun hreclaims => absurd hreclaims hnot)
        (h.reclaimed slot hbefore)

theorem init_tidy (capacity : Nat) (settings : ListenerSettings) (host : Host)
    (gates : List (Fd × Gate)) : (start capacity settings host gates).Tidy where
  givesBack := by
    intro task hmem
    cases hmem
  reclaimed := by
    intro slot hvacant
    have hlt := (Registry.isCurrent_iff.mp hvacant.1).1
    exact absurd hlt (Nat.not_lt_zero slot)

theorem step_tidy {a : Action} (h : s.Tidy) (hdealing : a.isDealing = true)
    (ha : s.act? a = some s') : s'.Tidy := by
  cases a with
  | begin p =>
    simp only [act?] at ha
    split at ha
    · obtain rfl := Option.some.inj ha
      apply h.append
      intro q hq
      obtain rfl := Option.some.inj hq
      cases p with
      | starting => cases hdealing
      | registering | unregistering | stopping => rfl
      | _ => cases hdealing
    · cases ha
  | shutdown order =>
    simp only [act?] at ha
    split at ha
    · obtain rfl := Option.some.inj ha
      apply h.append
      intro q hq
      cases hq
    · cases ha
  | acquire | release => cases hdealing
  | proceed i =>
    rcases Option.bind_eq_some_iff.mp ha with ⟨task, htask, hrest⟩
    rcases Option.bind_eq_some_iff.mp hrest with ⟨⟨task', w⟩, hstep, hscene⟩
    obtain rfl := Option.some.inj hscene
    exact h.proceed htask hstep
  | thread e =>
    rcases Option.map_eq_some_iff.mp ha with ⟨crew, -, rfl⟩
    exact ⟨h.givesBack, h.reclaimed⟩
  | outside host gates =>
    obtain rfl := Option.some.inj ha
    exact ⟨h.givesBack, h.reclaimed⟩

end Scene

theorem Dealings.Reachable.tidy {capacity : Nat} {settings : ListenerSettings} {d : Dealings}
    (h : Reachable capacity settings d) : d.scene.Tidy := by
  induction h with
  | start host gates => exact Scene.init_tidy capacity settings host gates
  | act a _ ha ih =>
    rcases act?_eq ha with ⟨hdealing, hact, -⟩
    exact Scene.step_tidy ih hdealing hact

/-! ## Listeners that were registered and not stopped -/

/-- Whether a seat has a listener that was registered and not yet stopped. -/
def Seat.isEngaged : Seat → Bool
  | .running _ | .stopping => true
  | .idle | .starting => false

@[simp] theorem Seat.isEngaged_idle : Seat.idle.isEngaged = false := rfl

@[simp] theorem Seat.isEngaged_starting : Seat.starting.isEngaged = false := rfl

@[simp] theorem Seat.isEngaged_running (t : ThreadId) : (Seat.running t).isEngaged = true := rfl

@[simp] theorem Seat.isEngaged_stopping : Seat.stopping.isEngaged = true := rfl

/-- Replacing an entry changes a count by that entry alone. -/
theorem countP_set {α : Type} {p : α → Bool} {l : List α} {i : Nat} {a b : α}
    (h : l[i]? = some b) :
    (l.set i a).countP p + (p b).toNat = l.countP p + (p a).toNat := by
  rcases List.getElem?_eq_some_iff.mp h with ⟨hlt, rfl⟩
  have hle := List.boole_getElem_le_countP (p := p) hlt
  rw [List.countP_set hlt]
  cases hb : p l[i] <;> cases p a <;> simp_all

namespace Registry

variable {r : Registry}

/-- The number of listeners of a kind on a descriptor that were registered and not stopped. -/
def engaged (r : Registry) (fd : Fd) (k : ListenerKind) : Nat :=
  r.slots.countP fun slot => slot.fd == fd && (slot.seat k).isEngaged

/-- Whether a change of the seat of a kind on a slot counts for a descriptor and a kind. -/
def concerns (r : Registry) (s : SlotId) (k' : ListenerKind) (fd : Fd) (k : ListenerKind) : Bool :=
  r.fdOf s == fd && decide (k' = k)

theorem engaged_setSeat_le (s : SlotId) (k' : ListenerKind) (x : Seat) (r : Registry) (fd : Fd)
    (k : ListenerKind) :
    (r.setSeat s k' x).engaged fd k + (r.concerns s k' fd k && (r.seat s k').isEngaged).toNat ≤
      r.engaged fd k + (r.concerns s k' fd k && x.isEngaged).toNat := by
  cases hslot : r.slots[s]? with
  | none =>
    -- a slot that was never made has no seats to change
    have hsame : r.setSeat s k' x = r := by simp [setSeat, hslot]
    have hidle : r.seat s k' = .idle := by simp [seat, hslot]
    simp [hsame, hidle, Seat.isEngaged]
  | some slot =>
    have hset : (r.setSeat s k' x).slots = r.slots.set s (slot.setSeat k' x) := by
      simp [setSeat, hslot]
    have hfd : r.fdOf s = slot.fd := by simp [fdOf, hslot]
    have hseat : r.seat s k' = slot.seat k' := by simp [seat, hslot]
    have hcount := countP_set (p := fun slot => slot.fd == fd && (slot.seat k).isEngaged)
      (a := slot.setSeat k' x) hslot
    have hfd' : (slot.setSeat k' x).fd = slot.fd := by cases k' <;> rfl
    unfold engaged concerns
    rw [hset, hfd, hseat]
    -- of the entry that changes, only the seat of the kind that changes counts
    by_cases hk : k' = k
    · subst hk
      have hself : (slot.setSeat k' x).seat k' = x := by cases k' <;> rfl
      simp only [hfd', hself] at hcount
      simpa using Nat.le_of_eq hcount
    · have hother := Slot.seat_setSeat_ne (Ne.symm hk) x slot
      simp only [hfd', hother] at hcount
      simp [hk]
      omega

theorem engaged_acquire (fd' : Fd) (fd : Fd) (k : ListenerKind) :
    (r.acquire fd').2.engaged fd k = r.engaged fd k := by
  rcases acquire_cases fd' r with ⟨s, -, h⟩ | h | ⟨-, -, h⟩
  · rw [h]
  · rw [h]
  · rw [h]
    cases k <;> simp [engaged, Slot.seat, Seat.isEngaged]

theorem engaged_release (s : SlotId) (fd : Fd) (k : ListenerKind) :
    (r.release s).engaged fd k = r.engaged fd k := by
  simp [engaged]

end Registry

/-- The listeners that were registered and not stopped are no more than the account says. -/
def Balanced (r : Registry) (deals : List Deal) : Prop :=
  ∀ fd k, r.engaged fd k + deals.count (.stopped fd k) ≤ deals.count (.registered fd k)

/-- What a deal counts for a descriptor and a kind, where it is about a seat. -/
theorem Registry.count_deal (s : SlotId) (k' : ListenerKind) (r : Registry) (fd : Fd)
    (k : ListenerKind) :
    [Deal.registered (r.fdOf s) k'].count (.registered fd k) = (r.concerns s k' fd k).toNat ∧
    [Deal.stopped (r.fdOf s) k'].count (.stopped fd k) = (r.concerns s k' fd k).toNat := by
  unfold concerns
  by_cases hfd : r.fdOf s = fd
  · by_cases hk : k' = k
    · simp [hfd, hk]
    · simp [hfd, hk]
  · simp [hfd, beq_false_of_ne hfd]

/-- What a step of a call gets done makes up for the listener that it adds or takes away. Seats
are as the call has left them. -/
theorem Call.Edge.engaged {w w' : Listening} {p p' : Position} (he : Edge w p p' w')
    (hkept : ∀ x, p.holding? = some x → w.registry.seat x.slot x.kind = x.seat) (fd : Fd)
    (k : ListenerKind) :
    w'.registry.engaged fd k + (p.deal? w.registry).toList.count (.stopped fd k) ≤
      w.registry.engaged fd k + (p.deal? w.registry).toList.count (.registered fd k) := by
  cases he with
  | @taken fd' l s r hacq hidle =>
    have hmade : r.engaged fd k = w.registry.engaged fd k := by
      simpa [hacq] using Registry.engaged_acquire (r := w.registry) fd' fd k
    have hset := Registry.engaged_setSeat_le s l.kind .starting r fd k
    simpa [Position.deal?, hidle, hmade] using hset
  | @reserved s l hcur hidle =>
    have hset := Registry.engaged_setSeat_le s l.kind .starting w.registry fd k
    simpa [Position.deal?, hidle] using hset
  | @recorded s k' t =>
    have hset := Registry.engaged_setSeat_le s k' (.running t) w.registry fd k
    have hdeal := (w.registry.count_deal s k' fd k).1
    simp only [Seat.isEngaged_running, Bool.and_true] at hset
    simp only [Position.deal?, Option.toList_some, hdeal]
    rw [List.count_eq_zero_of_not_mem (by simp)]
    omega
  | @freed s k' e giveBack =>
    have hset := Registry.engaged_setSeat_le s k' .idle w.registry fd k
    simp only [Seat.isEngaged_idle, Bool.and_false, Bool.toNat_false] at hset
    simp only [Position.deal?, Option.toList_none, List.count_nil]
    omega
  | @lifted s k' t hrun =>
    have hset := Registry.engaged_setSeat_le s k' .stopping w.registry fd k
    simpa [Position.deal?, hrun] using hset
  | @restored s k' t e =>
    have hstopping : w.registry.seat s k' = .stopping := hkept _ rfl
    have hset := Registry.engaged_setSeat_le s k' (.running t) w.registry fd k
    simpa [Position.deal?, hstopping] using hset
  | @cleared s k' result =>
    have hstopping : w.registry.seat s k' = .stopping := hkept _ rfl
    have hset := Registry.engaged_setSeat_le s k' .idle w.registry fd k
    have hdeal := (w.registry.count_deal s k' fd k).2
    simp only [hstopping, Seat.isEngaged_stopping, Seat.isEngaged_idle, Bool.and_true,
      Bool.and_false, Bool.toNat_false] at hset
    -- a stop that fails after all frees the seat just the same
    cases result with
    | error e =>
      simp only [Position.deal?, Option.toList_none, List.count_nil]
      omega
    | ok _ =>
      simp only [Position.deal?, Option.toList_some, hdeal]
      rw [List.count_eq_zero_of_not_mem (by simp)]
      omega
  | givenBack | reclaimed => simp [Position.deal?, Registry.engaged_release]
  | _ => exact Nat.le_refl _

/-- What a step of a task gets done makes up for the listener that it adds or takes away. -/
theorem Task.step_engaged {task task' : Task} {w w' : Listening}
    (h : task.step w = some (task', w'))
    (hkept : ∀ x, task.holding? = some x → w.registry.seat x.slot x.kind = x.seat) (fd : Fd)
    (k : ListenerKind) :
    w'.registry.engaged fd k +
        (task.position?.bind (·.deal? w.registry)).toList.count (.stopped fd k) ≤
      w.registry.engaged fd k +
        (task.position?.bind (·.deal? w.registry)).toList.count (.registered fd k) := by
  have he := step_edge h
  unfold holding? at hkept
  generalize task.position? = position at he hkept ⊢
  generalize task'.position? = position' at he
  cases he with
  | wentOn he => exact he.engaged hkept fd k
  | turned | passedBy | leftBehind => exact Nat.le_refl _

namespace Dealings

variable {d d' : Dealings} {capacity : Nat} {settings : ListenerSettings}

theorem init_balanced (capacity : Nat) (settings : ListenerSettings) (host : Host)
    (gates : List (Fd × Gate)) :
    Balanced (start capacity settings host gates).scene.registry [] :=
  fun _ _ => Nat.le_refl 0

/-- A step keeps the account balanced, as long as seats are as those who keep them left them. -/
theorem step_balanced {a : Action} (h : Balanced d.scene.registry d.deals)
    (hkept : ∀ i x, d.scene.hold i = some x → d.scene.registry.seat x.slot x.kind = x.seat)
    (ha : d.act? a = some d') : Balanced d'.scene.registry d'.deals := by
  rcases act?_eq ha with ⟨hdealing, hact, hdeals⟩
  rw [hdeals]
  -- only a task that goes on gets something done or changes a seat
  cases a with
  | begin p =>
    simp only [Scene.act?] at hact
    split at hact
    · rw [← Option.some.inj hact]
      exact h
    · cases hact
  | shutdown order =>
    simp only [Scene.act?] at hact
    split at hact
    · rw [← Option.some.inj hact]
      exact h
    · cases hact
  | acquire | release => cases hdealing
  | proceed i =>
    rcases Option.bind_eq_some_iff.mp hact with ⟨task, htask, hrest⟩
    rcases Option.bind_eq_some_iff.mp hrest with ⟨⟨task', w⟩, hstep, hscene⟩
    have hscene := Option.some.inj hscene
    have hdeal : d.deal? (.proceed i) =
        task.position?.bind (·.deal? d.scene.registry) := by
      simp [deal?, htask]
    have hheld : ∀ x, task.holding? = some x →
        d.scene.registry.seat x.slot x.kind = x.seat := by
      intro x hx
      have hi : d.scene.hold i = some x := by simpa [Scene.hold, htask] using hx
      exact hkept i x hi
    intro fd k
    have hbefore := h fd k
    have hmove := Task.step_engaged hstep hheld fd k
    rw [← hscene, hdeal, List.count_append, List.count_append]
    simp only [Scene.registry] at *
    omega
  | thread e =>
    rcases Option.map_eq_some_iff.mp hact with ⟨crew, -, hscene⟩
    rw [← hscene]
    exact h
  | outside host gates =>
    rw [← Option.some.inj hact]
    exact h

theorem Reachable.balanced (h : Reachable capacity settings d) :
    Balanced d.scene.registry d.deals := by
  induction h with
  | start host gates => exact init_balanced capacity settings host gates
  | act a hd ha ih => exact step_balanced ih hd.scene.inv.kept ha

end Dealings

/-! ## Registries at rest -/

/-- Whether a task is over. -/
def Task.isOver : Task → Bool
  | call p => p.result?.isSome
  | shutdown d => d.isFinished

/-- No call is in progress. -/
def Scene.AtRest (s : Scene) : Prop := ∀ task ∈ s.tasks, task.isOver = true

/-- A task that is over keeps nothing and has nothing to give back. -/
theorem Task.idle_of_over {task : Task} (h : task.isOver = true) :
    task.holding? = none ∧ task.reclaims? = none := by
  cases task with
  | call p =>
    cases p with
    | finished => exact ⟨rfl, rfl⟩
    | _ => cases h
  | shutdown d =>
    have hstop : d.stop? = none := by
      have hboth := Bool.and_eq_true_iff.mp h
      simpa using hboth.2
    simp [holding?, reclaims?, position?, hstop]

theorem Scene.AtRest.hold {s : Scene} (h : s.AtRest) (i : Nat) : s.hold i = none := by
  cases hat : s.tasks[i]? with
  | none => simp [Scene.hold, hat]
  | some task =>
    have hnone := (Task.idle_of_over (h task (List.mem_of_getElem? hat))).1
    simp [Scene.hold, hat, hnone]

namespace Dealings

variable {d : Dealings} {capacity : Nat} {settings : ListenerSettings}

/-- While no call is in progress, no slot is vacant. -/
theorem Reachable.not_vacant (h : Reachable capacity settings d) (hrest : d.scene.AtRest)
    (s : SlotId) : ¬ d.scene.registry.IsVacant s := by
  intro hvacant
  rcases h.tidy.reclaimed s hvacant with ⟨task, hmem, hreclaims⟩
  have hnone := (Task.idle_of_over (hrest task hmem)).2
  rw [hnone] at hreclaims
  cases hreclaims

/-- Where every registered listener was stopped, no seat has a listener. -/
theorem Reachable.not_engaged (h : Reachable capacity settings d)
    (heven : ∀ fd k, d.deals.count (.registered fd k) ≤ d.deals.count (.stopped fd k))
    (s : SlotId) (k : ListenerKind) : (d.scene.registry.seat s k).isEngaged = false := by
  unfold Registry.seat
  cases hslot : d.scene.registry.slots[s]? with
  | none => rfl
  | some slot =>
    have hbalance := h.balanced slot.fd k
    have hcounts := heven slot.fd k
    have hzero : d.scene.registry.engaged slot.fd k = 0 := by omega
    have hnot := List.countP_eq_zero.mp hzero slot (List.mem_of_getElem? hslot)
    simpa using hnot

/-- Clients that leave slots to the registry lose none. While no call is in progress, every slot
in the table has a listener, and once every registered listener was stopped, the table is empty. -/
theorem Reachable.no_slot_leaks (h : Reachable capacity settings d) (hrest : d.scene.AtRest) :
    (∀ e ∈ d.scene.registry.table, ∃ k, d.scene.registry.isActive e.2 k = true) ∧
    ((∀ fd k, d.deals.count (.registered fd k) ≤ d.deals.count (.stopped fd k)) →
      d.scene.registry.table = []) := by
  have hactive : ∀ e ∈ d.scene.registry.table,
      ∃ k, d.scene.registry.isActive e.2 k = true := by
    intro e hmem
    by_contra hnone
    have hidle : ∀ k, d.scene.registry.seat e.2 k = .idle := by
      intro k
      by_contra hbusy
      exact hnone ⟨k, Registry.isActive_iff.mpr hbusy⟩
    have hcur := h.scene.inv.sound.isCurrent_of_mem hmem
    exact h.not_vacant hrest e.2 ⟨hcur, hidle⟩
  refine ⟨hactive, ?_⟩
  intro heven
  apply List.eq_nil_iff_forall_not_mem.mpr
  intro e hmem
  rcases hactive e hmem with ⟨k, hk⟩
  have hmoving := h.scene.still hrest.hold e.2 k
  have hengaged := h.not_engaged heven e.2 k
  -- a seat that neither moves nor has a listener is free
  have hbusy := Registry.isActive_iff.mp hk
  cases hseat : d.scene.registry.seat e.2 k with
  | idle => exact hbusy hseat
  | starting | stopping =>
    rw [hseat] at hmoving
    cases hmoving
  | running t =>
    rw [hseat] at hengaged
    cases hengaged

/-- One client stops its data listener while another one fails to start an event listener on the
same descriptor. The one who looks last gives the slot back. -/
def lastOneOut : List Action :=
  [.begin (.registering 3 (.data {} false)), .proceed 0, .proceed 0, .thread (.step 0),
    .thread (.step 0), .proceed 0, .proceed 0,
    .begin (.stopping 0 .data), .begin (.registering 3 (.event {} {})),
    .outside { faults := [(.thread, .EAGAIN)] } [], .proceed 2, .proceed 1, .proceed 1, .proceed 1,
    .thread (.step 0), .thread (.step 0), .proceed 1, .proceed 2, .proceed 1, .proceed 1,
    .proceed 2, .proceed 2]

theorem lastOneOut_leaves_nothing :
    ∃ d, (start 1 {} {} []).run? lastOneOut = some d ∧ d.scene.AtRest ∧
      d.deals = [.stopped 3 .data, .registered 3 .data] ∧ d.scene.registry.table = [] := by
  have hrun : ∃ d, (start 1 {} {} []).run? lastOneOut = some d ∧
      d.scene.tasks.all (·.isOver) = true ∧
      d.deals = [.stopped 3 .data, .registered 3 .data] :=
    ⟨_, rfl, rfl, rfl⟩
  rcases hrun with ⟨d, hrun, hover, hdeals⟩
  have hrest : d.scene.AtRest := List.all_eq_true.mp hover
  have heven : ∀ fd k, d.deals.count (.registered fd k) ≤ d.deals.count (.stopped fd k) := by
    intro fd k
    simp [hdeals, List.count_cons]
  have hreach := Reachable.run (.start {} []) hrun
  exact ⟨d, hrun, hrest, hdeals, (Reachable.no_slot_leaks hreach hrest).2 heven⟩

end Dealings

end SerialLine
