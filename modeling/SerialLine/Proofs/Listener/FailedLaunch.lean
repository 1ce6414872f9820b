import SerialLine.Proofs.Listener.Launch

/-!
# SerialLine.Proofs.Listener.FailedLaunch — starts that fail after they had their seat

A start that has its seat creates a thread, hears from it how it went, and writes it down on the
seat, or joins it and frees the seat again. `Launch` is any run of a scene from the step by which a
start takes its seat, with the record of what was seen of it since: the other clients, the threads
and the host do whatever they can, before the start has answered and afterwards.

`Launch.leaves_no_trace` says that the start answers with what has kept it from coming up, for
whatever reason, that nothing is left of its listener then, and that of the registry it has changed
nothing but its seat.
-/

namespace SerialLine

/-! ## What is seen of a start -/

/-- Whether a step is none of another client than the one at a task. -/
def Action.isAlone (i : Nat) : Action → Bool
  | .proceed j => j == i
  | .thread _ | .outside _ _ => true
  | _ => false

namespace Scene

/-- Whether a task is about to create a thread. -/
def isSpawning (i : Nat) (s : Scene) : Bool :=
  match s.tasks[i]? with
  | some (.call (.spawning ..)) => true
  | _ => false

/-- The thread that a start creates in a step. -/
def created? (i : Nat) (s : Scene) : Action → Option ThreadId
  | .proceed j =>
    if j = i ∧ s.isSpawning i = true ∧ (s.crew.host.takeFault .thread).1 = none then
      some s.crew.threads.length
    else none
  | _ => none

/-- What keeps a start from coming up in a step: the system refuses the thread, or something
happens to the thread. -/
def launchFault? (i : Nat) (t? : Option ThreadId) (s : Scene) : Action → Option Error
  | .proceed j =>
    if j = i ∧ s.isSpawning i = true then
      (s.crew.host.takeFault .thread).1.map fun _ => .lifecycle "spawn"
    else none
  | .thread e => t?.bind (s.crew.faultIn? · e)
  | _ => none

end Scene

/-- What was seen of a start since it has its seat. -/
structure LaunchLog where
  /-- The thread that it has created. -/
  thread? : Option ThreadId := none
  /-- What has kept it from coming up. -/
  fault? : Option Error := none
  /-- Whether no other client has taken a step. -/
  alone : Bool := true

/-- What was seen once somebody has taken one more step. -/
def LaunchLog.note (i : Nat) (s : Scene) (a : Action) (log : LaunchLog) : LaunchLog where
  thread? := log.thread?.or (s.created? i a)
  fault? := log.fault?.or (s.launchFault? i log.thread? a)
  alone := log.alone && a.isAlone i

/-- The runs of a scene from the step by which a start takes its seat in a registry, with the record
of what was seen of the start. -/
inductive Launch (i : Nat) (slot : SlotId) (l : Listener) (capacity : Nat)
    (settings : ListenerSettings) (r : Registry) : Scene → LaunchLog → Prop where
  | begun {s s' : Scene} {r' : Registry} (h : s.Reachable capacity settings)
    (hreg : s.registry = r) (hat : s.tasks[i]? = some (.call (.starting slot l)))
    (hfree : r.reserveOn slot l.kind = .ok r') (ha : s.act? (.proceed i) = some s') :
    Launch i slot l capacity settings r s' {}
  | act {s s' : Scene} {log : LaunchLog} (a : Action)
    (h : Launch i slot l capacity settings r s log) (ha : s.act? a = some s') :
    Launch i slot l capacity settings r s' (log.note i s a)

/-- The two ways in which a thread is created. -/
theorem Crew.spawn_spec (th : Thread) (c : Crew) :
    (∃ code host, (c.host.takeFault .thread).1 = some code ∧
      c.spawn th = (.error (.lifecycle "spawn"), { c with host })) ∨
    ∃ host, (c.host.takeFault .thread).1 = none ∧
      c.spawn th = (.ok c.threads.length, { c with host, threads := c.threads ++ [th] }) := by
  unfold spawn
  rcases c.host.takeFault .thread with ⟨_ | code, host⟩
  · exact .inr ⟨host, rfl, rfl⟩
  · exact .inl ⟨code, host, rfl, rfl⟩

theorem Registry.setSeat_self (s : SlotId) (k : ListenerKind) (r : Registry) :
    r.setSeat s k (r.seat s k) = r := by
  rw [← setSeat_again s k .idle, setSeat_setSeat]

/-- A seat that was freed can be taken again. -/
theorem Registry.reserveOn_freed {s : SlotId} {r : Registry} (k : ListenerKind)
    (hcur : r.isCurrent s = true) :
    ∃ r', (r.setSeat s k .idle).reserveOn s k = .ok r' := by
  have hlt := (isCurrent_iff.mp hcur).1
  refine ⟨(r.setSeat s k .idle).setSeat s k .starting, ?_⟩
  rw [reserveOn, isCurrent_setSeat, if_pos hcur, reserve, seat_setSeat_self _ _ _ hlt, if_pos rfl]

/-- Slots that were made stay slots of their descriptors. -/
theorem Call.Move.fdOf {w w' : Listening} {x x' : Option Holding} {ts : List ThreadId}
    (hm : Move w x x' ts w') {slot : SlotId} (hlt : slot < w.registry.slots.length) :
    slot < w'.registry.slots.length ∧ w'.registry.fdOf slot = w.registry.fdOf slot := by
  cases hm with
  | passed | spawned | joined => exact ⟨hlt, rfl⟩
  | acquired fd =>
    exact ⟨Nat.lt_of_lt_of_le hlt (Registry.length_acquire_le fd), Registry.fdOf_acquire fd hlt⟩
  | @reservedFor fd _ _ _ hr =>
    have hlen := Registry.length_acquire_le (r := w.registry) fd
    have hfd := Registry.fdOf_acquire fd hlt
    rw [hr] at hlen hfd
    exact ⟨by simpa using Nat.lt_of_lt_of_le hlt hlen, by simpa using hfd⟩
  | _ => exact ⟨by simpa using hlt, by simp⟩

namespace Scene

variable {s s' : Scene} {a : Action} {i : Nat} {p : Call.Position} {slot : SlotId}
  {t : ThreadId} {new th : Thread} {fault? : Option Error}

theorem act?_joined (ha : s.act? a = some s') (ht : t ∈ s.joined) : t ∈ s'.joined := by
  rcases act?_cases ha with ⟨_, _, ts, -, -, hjoined⟩ | ⟨_, -, -, -, hjoined⟩ | ⟨_, _, -, rfl⟩
  · rw [hjoined]
    exact List.mem_append_right ts ht
  · rwa [hjoined]
  · exact ht

theorem act?_fdOf (ha : s.act? a = some s') (hlt : slot < s.registry.slots.length) :
    slot < s'.registry.slots.length ∧ s'.registry.fdOf slot = s.registry.fdOf slot := by
  rcases act?_cases ha with ⟨_, _, _, hmove, -, -⟩ | ⟨_, -, hreg, -, -⟩ | ⟨_, _, -, rfl⟩
  · exact hmove.fdOf hlt
  · rw [hreg]
    exact ⟨hlt, rfl⟩
  · exact ⟨hlt, rfl⟩

theorem created?_of_ne (hne : a ≠ .proceed i) : s.created? i a = none := by
  cases a with
  | proceed j =>
    refine if_neg ?_
    rintro ⟨rfl, -⟩
    exact hne rfl
  | _ => rfl

/-- Before there is a thread, only the start itself can be kept from coming up. -/
theorem launchFault?_of_ne (hne : a ≠ .proceed i) : s.launchFault? i none a = none := by
  cases a with
  | proceed j =>
    refine if_neg ?_
    rintro ⟨rfl, -⟩
    exact hne rfl
  | _ => rfl

theorem launchFault?_of_not_spawning (hspawn : s.isSpawning i = false) {t? : Option ThreadId}
    (hthread : ∀ e, a ≠ .thread e) : s.launchFault? i t? a = none := by
  cases a with
  | thread e => exact absurd rfl (hthread e)
  | proceed j => simp [launchFault?, hspawn]
  | _ => rfl

/-- Whatever happens, a new thread goes on with its start, or has nothing to do with it any more. -/
theorem act?_launched {k : ListenerKind} (h : Crew.Launched t new s.crew fault? th)
    (hnew : new.body.kind? = some k) (hspawn : s.isSpawning i = false) (ha : s.act? a = some s') :
    ∃ th', Crew.Launched t new s'.crew (fault?.or (s.launchFault? i (some t) a)) th' := by
  by_cases hthread : ∃ e, a = .thread e
  · obtain ⟨e, rfl⟩ := hthread
    obtain ⟨crew, hevent, rfl⟩ := Option.map_eq_some_iff.mp ha
    exact h.event hnew hevent
  · have hother : ∀ e, a ≠ .thread e := fun e he => hthread ⟨e, he⟩
    rw [launchFault?_of_not_spawning hspawn hother, Option.or_none]
    rcases act?_crew ha with hhandled | ⟨e, he, -⟩ | ⟨host, gates, -, rfl⟩
    · exact h.handled hhandled
    · exact absurd he (hother e)
    · exact ⟨th, h.rests h.thread (.refl th) rfl⟩

end Scene

/-! ## Where a start stands -/

theorem Call.Position.eq_finished {p : Position} {result : Outcome SlotId}
    (h : p.result? = some result) : p = .finished result := by
  cases p with
  | finished => exact congrArg _ (Option.some.inj h)
  | _ => cases h

/-- Where a start stands that has its seat, given what was seen of it. -/
inductive Call.Launching (slot : SlotId) (l : Listener) (log : LaunchLog) (c : Crew)
    (joined : List ThreadId) : Position → Prop where
  | spawning (hnone : log.thread? = none) (hfine : log.fault? = none) :
    Launching slot l log c joined (.spawning slot l false)
  | hearing {t : ThreadId} (ht : log.thread? = some t) :
    Launching slot l log c joined (.hearing slot l.kind t false)
  | dismissing {t : ThreadId} {e : Error} (ht : log.thread? = some t) (he : log.fault? = some e) :
    Launching slot l log c joined (.dismissing slot l.kind t e false)
  | freeing {e : Error} (he : log.fault? = some e) (hjoined : ∀ t ∈ log.thread?, t ∈ joined) :
    Launching slot l log c joined (.freeing slot l.kind e false)
  | failed {e : Error} (he : log.fault? = some e) (hjoined : ∀ t ∈ log.thread?, t ∈ joined) :
    Launching slot l log c joined (.finished (.error e))
  | recording {t : ThreadId} (ht : log.thread? = some t) (harmed : c.IsArmed t) :
    Launching slot l log c joined (.recording slot l.kind t)
  | succeeded {t : ThreadId} (ht : log.thread? = some t) (harmed : c.IsArmed t) :
    Launching slot l log c joined (.finished (.ok slot))

namespace Call.Launching

variable {slot : SlotId} {l : Listener} {log log' : LaunchLog} {c c' : Crew}
  {joined joined' : List ThreadId} {p p' : Position} {w w' : Listening}

/-- A start stays where it is as long as it does not go on itself. -/
theorem stays (h : Launching slot l log c joined p) (hthread : log'.thread? = log.thread?)
    (hfine : log.thread? = none → log'.fault? = log.fault?)
    (hfault : ∀ e, log.fault? = some e → log'.fault? = some e)
    (harmed : ∀ t, c.IsArmed t → c'.IsArmed t) (hjoined : ∀ t ∈ joined, t ∈ joined') :
    Launching slot l log' c' joined' p := by
  cases h with
  | spawning hnone hnot => exact .spawning (hthread.trans hnone) ((hfine hnone).trans hnot)
  | hearing ht => exact .hearing (hthread.trans ht)
  | dismissing ht he => exact .dismissing (hthread.trans ht) (hfault _ he)
  | freeing he h => exact .freeing (hfault _ he) fun t ht => hjoined t (h t (hthread ▸ ht))
  | failed he h => exact .failed (hfault _ he) fun t ht => hjoined t (h t (hthread ▸ ht))
  | recording ht h => exact .recording (hthread.trans ht) (harmed _ h)
  | succeeded ht h => exact .succeeded (hthread.trans ht) (harmed _ h)

/-- A start keeps its seat until it has answered. -/
theorem holding? (h : Launching slot l log c joined p) (hopen : p.result? = none) :
    ∃ t?, p.holding? = some ⟨slot, l.kind, .starting, t?⟩ := by
  cases h with
  | failed | succeeded => cases hopen
  | _ => exact ⟨_, rfl⟩

/-- What a step of a start makes of the registry: it leaves its seat at something, which is its
thread if it succeeds, and it frees it if it fails. -/
theorem seat (h : Launching slot l log c joined p) (hstep : step p w = some (p', w')) :
    ∃ x, w'.registry = w.registry.setSeat slot l.kind x ∧
      (∀ e, p' = .finished (.error e) → x = .idle) ∧
      ∀ s, p' = .finished (.ok s) → ∃ t, log.thread? = some t ∧ x = .running t := by
  have hsame := (Registry.setSeat_self slot l.kind w.registry).symm
  have hedge := step_edge hstep
  cases h with
  | spawning | hearing | dismissing => cases hedge <;> exact ⟨_, hsame, nofun, nofun⟩
  | recording ht =>
    cases hedge
    exact ⟨_, rfl, nofun, fun _ _ => ⟨_, ht, rfl⟩⟩
  | freeing =>
    cases hedge
    exact ⟨.idle, rfl, fun _ _ => rfl, nofun⟩
  | failed | succeeded => cases hedge

end Call.Launching

namespace Scene

variable {s s' : Scene} {a : Action} {i : Nat} {p : Call.Position} {slot : SlotId} {l : Listener}
  {settings : ListenerSettings} {r : Registry} {log : LaunchLog}

/-- A start with its thread, the registry and the record of them fit together. -/
structure Launches (i : Nat) (slot : SlotId) (l : Listener) (settings : ListenerSettings)
    (r : Registry) (s : Scene) (log : LaunchLog) : Prop where
  stands : ∃ p, s.tasks[i]? = some (.call p) ∧ Call.Launching slot l log s.crew s.joined p
  thread : ∀ t, log.thread? = some t →
    ∃ th, Crew.Launched t (l.thread (r.fdOf slot) settings) s.crew log.fault? th
  made : slot < s.registry.slots.length
  fd : s.registry.fdOf slot = r.fdOf slot
  /-- As long as nobody else has taken a step, the registry is as it was, but for the seat. -/
  alone : log.alone = true → ∃ x, s.registry = r.setSeat slot l.kind x ∧
    ∀ e, s.result? i = some (.error e) → x = .idle

theorem result?_of_call (hat : s.tasks[i]? = some (.call p)) : s.result? i = p.result? := by
  rw [result?, position?, hat]
  rfl

/-- The thread that a stop of a seat wakes is known at the seat. -/
theorem known_waking {k : ListenerKind} {j : Nat} {u : ThreadId}
    (h : s.position? j = some (.waking slot k u)) : Known s.registry s.hold slot k u := by
  refine .inr ⟨j, ⟨slot, k, .stopping, some u⟩, ?_, rfl, rfl, rfl⟩
  obtain ⟨task, htask, hposition⟩ := Option.bind_eq_some_iff.mp h
  rw [hold, htask, Option.bind_some, Task.holding?, hposition]
  rfl

/-- A start that has created its thread does not create another one. -/
theorem not_spawning {t : ThreadId} (hat : s.tasks[i]? = some (.call p))
    (h : Call.Launching slot l log s.crew s.joined p) (ht : log.thread? = some t) :
    s.isSpawning i = false := by
  rw [isSpawning, hat]
  cases h with
  | spawning hnone =>
    rw [hnone] at ht
    cases ht
  | _ => rfl

/-- Somebody else takes a step. -/
theorem Launches.other (h : s.Launches i slot l settings r log) (hat : s.tasks[i]? = some (.call p))
    (hp : Call.Launching slot l log s.crew s.joined p) (ha : s.act? a = some s')
    (hne : a ≠ .proceed i) (hat' : s'.tasks[i]? = some (.call p)) :
    s'.Launches i slot l settings r (log.note i s a) := by
  have hthread : (log.note i s a).thread? = log.thread? := by
    simp [LaunchLog.note, created?_of_ne hne]
  have hlater : ∀ t, log.thread? = some t → ∃ th,
      Crew.Launched t (l.thread (r.fdOf slot) settings) s'.crew (log.note i s a).fault? th := by
    intro t ht
    obtain ⟨th, hth⟩ := h.thread t ht
    simp only [LaunchLog.note, ht]
    exact act?_launched hth (l.thread_spec _ _).2 (not_spawning hat hp ht) ha
  refine ⟨⟨p, hat', hp.stays hthread ?_ ?_ (act?_armed ha).2 fun t => act?_joined ha⟩, ?_,
    (act?_fdOf ha h.made).1, (act?_fdOf ha h.made).2.trans h.fd, fun halone => ?_⟩
  · intro hnone
    simp [LaunchLog.note, hnone, launchFault?_of_ne hne]
  · intro e he
    simp [LaunchLog.note, he]
  · rw [hthread]
    exact hlater
  · obtain ⟨hbefore, hown⟩ := Bool.and_eq_true_iff.mp halone
    obtain ⟨x, hreg, hidle⟩ := h.alone hbefore
    rw [result?_of_call hat] at hidle
    rw [result?_of_call hat']
    refine ⟨x, ?_, hidle⟩
    cases a with
    | thread e =>
      obtain ⟨crew, -, rfl⟩ := Option.map_eq_some_iff.mp ha
      exact hreg
    | outside host gates =>
      obtain rfl := Option.some.inj ha
      exact hreg
    | proceed j =>
      have hji : j = i := by simpa [Action.isAlone] using hown
      exact absurd (congrArg Action.proceed hji) hne
    | _ => cases hown

/-- What is seen of a start when it takes a step that creates no thread. -/
theorem note_own (hspawn : s.isSpawning i = false) (log : LaunchLog) :
    log.note i s (.proceed i) = log := by
  simp [LaunchLog.note, created?, launchFault?, hspawn, Action.isAlone]

/-- While nobody else takes a step, the registry stays as it was, but for the seat. -/
theorem Launches.seated (h : s.Launches i slot l settings r log)
    (hp : Call.Launching slot l log s.crew s.joined p) {p' : Call.Position}
    (hstep : Call.step p s.listening = some (p', s'.listening))
    (hat' : s'.tasks[i]? = some (.call p')) (halone : (log.note i s (.proceed i)).alone = true) :
    ∃ x, s'.registry = r.setSeat slot l.kind x ∧
      ∀ e, s'.result? i = some (.error e) → x = .idle := by
  obtain ⟨x, hseat, hidle, -⟩ := hp.seat hstep
  obtain ⟨y, hreg, -⟩ := h.alone (Bool.and_eq_true_iff.mp halone).1
  refine ⟨x, ?_, fun e he => ?_⟩
  · have hboth : s'.registry = (r.setSeat slot l.kind y).setSeat slot l.kind x := by
      rw [← hreg]
      exact hseat
    rw [hboth, Registry.setSeat_again]
  · rw [result?_of_call hat'] at he
    exact hidle e (Call.Position.eq_finished he)

/-- The start itself creates its thread, or is refused it. -/
theorem Launches.spawn (h : s.Launches i slot l settings r log) (hfits : s.crew.Fits settings.chunk)
    (hset : s.registry.settings = settings)
    (hat : s.tasks[i]? = some (.call (.spawning slot l false)))
    (hnone : log.thread? = none) (hfine : log.fault? = none)
    (ha : s.act? (.proceed i) = some s') {p' : Call.Position}
    (hstep : Call.step (.spawning slot l false) s.listening = some (p', s'.listening))
    (hat' : s'.tasks[i]? = some (.call p')) :
    s'.Launches i slot l settings r (log.note i s (.proceed i)) := by
  have hspawning : s.isSpawning i = true := by rw [isSpawning, hat]
  obtain ⟨hmade, hfd⟩ := act?_fdOf ha h.made
  have halone := h.seated (.spawning hnone hfine) hstep hat'
  have hlisten : s.listening.registry = s.registry := rfl
  simp only [Call.step] at hstep
  rcases Crew.spawn_spec (l.thread (s.listening.registry.fdOf slot)
    s.listening.registry.settings) s.listening.crew with
    ⟨code, host, hfault, hspawn⟩ | ⟨host, hfault, hspawn⟩
  · rw [hspawn] at hstep
    obtain ⟨rfl, -⟩ := Prod.mk.inj (Option.some.inj hstep)
    have hthread : (log.note i s (.proceed i)).thread? = none := by
      simp [LaunchLog.note, hnone, created?, crew, hfault]
    have hrefused : (log.note i s (.proceed i)).fault? = some (.lifecycle "spawn") := by
      simp [LaunchLog.note, hfine, launchFault?, hspawning, crew, hfault]
    refine ⟨⟨_, hat', .freeing hrefused ?_⟩, ?_, hmade, hfd.trans h.fd, halone⟩
    · simp [hthread]
    · simp [hthread]
  · rw [hspawn] at hstep
    obtain ⟨rfl, hw⟩ := Prod.mk.inj (Option.some.inj hstep)
    have hthread : (log.note i s (.proceed i)).thread? = some s.crew.threads.length := by
      simp [LaunchLog.note, hnone, created?, hspawning, crew, hfault]
    have hcame : (log.note i s (.proceed i)).fault? = none := by
      simp [LaunchLog.note, hfine, launchFault?, hspawning, crew, hfault]
    have hcrew : s'.crew = { s.crew with host, threads := s.crew.threads ++
        [l.thread (r.fdOf slot) settings] } := by
      rw [crew, ← hw, hlisten, h.fd, hset]
      rfl
    have hnew : s'.crew.thread? s.crew.threads.length = some (l.thread (r.fdOf slot) settings) := by
      rw [hcrew]
      exact List.getElem?_concat_length
    have hquiet : s'.crew.itemsOf s.crew.threads.length = [] := by
      rw [hcrew]
      exact hfits.itemsOf_new
    refine ⟨⟨_, hat', .hearing hthread⟩, fun t ht => ?_, hmade, hfd.trans h.fd, halone⟩
    rw [hthread] at ht
    obtain rfl := Option.some.inj ht
    rw [hcame]
    exact ⟨_, Crew.launched_new l hnew hquiet⟩

/-- Where the start gets that has created its thread or was refused it. -/
theorem Launches.goesOn (h : s.Launches i slot l settings r log) (hspawn : s.isSpawning i = false)
    (hat : s.tasks[i]? = some (.call p)) (hp : Call.Launching slot l log s.crew s.joined p)
    (ha : s.act? (.proceed i) = some s') {p' : Call.Position}
    (hstep : Call.step p s.listening = some (p', s'.listening))
    (hjoined : s'.joined = p.joins?.toList ++ s.joined) :
    Call.Launching slot l log s'.crew s'.joined p' := by
  have harmed := (act?_armed ha).2
  have hedge := Call.step_edge hstep
  cases hp with
  | spawning =>
    rw [isSpawning, hat] at hspawn
    cases hspawn
  | @hearing t ht =>
    obtain ⟨th, hth⟩ := h.thread t ht
    generalize s'.listening = w at hedge
    cases hedge with
    | heard hreport =>
      rcases hth.report?_eq hreport with ⟨-, -, htold⟩ | ⟨e, he, -⟩
      · refine .recording ht (harmed t ⟨th, hth.thread, ?_⟩)
        simp [Thread.isArmed, htold]
      · cases he
    | misheard hreport =>
      rcases hth.report?_eq hreport with ⟨he, -⟩ | ⟨e, he, hfault⟩
      · cases he
      · obtain rfl := Except.error.inj he
        exact .dismissing ht hfault
  | @dismissing t e ht he =>
    generalize s'.listening = w at hedge
    cases hedge
    refine .freeing he fun u hu => ?_
    obtain rfl := Option.some.inj (ht.symm.trans hu)
    rw [hjoined]
    exact List.mem_cons_self
  | freeing he hgone =>
    generalize s'.listening = w at hedge
    cases hedge
    exact .failed he fun t ht => act?_joined ha (hgone t ht)
  | recording ht h =>
    generalize s'.listening = w at hedge
    cases hedge
    exact .succeeded ht (harmed _ h)
  | failed | succeeded =>
    generalize s'.listening = w at hedge
    cases hedge

/-- The start goes on, and has created its thread or was refused it. -/
theorem Launches.own (h : s.Launches i slot l settings r log) (hspawn : s.isSpawning i = false)
    (hat : s.tasks[i]? = some (.call p)) (hp : Call.Launching slot l log s.crew s.joined p)
    (ha : s.act? (.proceed i) = some s') {p' : Call.Position}
    (hstep : Call.step p s.listening = some (p', s'.listening))
    (hat' : s'.tasks[i]? = some (.call p')) (hjoined : s'.joined = p.joins?.toList ++ s.joined) :
    s'.Launches i slot l settings r (log.note i s (.proceed i)) := by
  obtain ⟨hmade, hfd⟩ := act?_fdOf ha h.made
  have halone := h.seated hp hstep hat'
  rw [note_own hspawn] at halone ⊢
  refine ⟨⟨p', hat', h.goesOn hspawn hat hp ha hstep hjoined⟩, fun t ht => ?_, hmade,
    hfd.trans h.fd, halone⟩
  obtain ⟨th, hth⟩ := h.thread t ht
  have hnone : s.launchFault? i (some t) (.proceed i) = none :=
    launchFault?_of_not_spawning hspawn nofun
  have hnext := act?_launched hth (l.thread_spec _ _).2 hspawn ha
  rwa [hnone, Option.or_none] at hnext

end Scene

namespace Launch

variable {i : Nat} {slot : SlotId} {l : Listener} {capacity : Nat} {settings : ListenerSettings}
  {r : Registry} {s : Scene} {log : LaunchLog}

theorem inv (h : Launch i slot l capacity settings r s log) :
    s.Reachable capacity settings ∧ s.Launches i slot l settings r log := by
  induction h with
  | @begun s s' r' h hreg hat hfree ha =>
    refine ⟨h.act _ ha, ?_⟩
    obtain ⟨hcur, hidle, rfl⟩ := Registry.reserveOn_ok hfree
    rcases Scene.act?_call hat ha with ⟨hne, -⟩ | ⟨-, p', hstep, hat', -⟩
    · exact absurd rfl hne
    · have hstep' : Call.step (.starting slot l) s.listening =
          some (.spawning slot l false,
            { s.listening with registry := s.registry.setSeat slot l.kind .starting }) := by
        have hfree' : s.listening.registry.reserveOn slot l.kind = _ := hreg ▸ hfree
        simp only [Call.step, hfree', hreg]
        rfl
      obtain ⟨rfl, hw⟩ := Prod.mk.inj (Option.some.inj (hstep.symm.trans hstep'))
      have hreg' : s'.registry = r.setSeat slot l.kind .starting := by
        rw [Scene.registry, hw, hreg]
      have hlt := (Registry.isCurrent_iff.mp hcur).1
      refine ⟨⟨_, hat', .spawning rfl rfl⟩, by simp, ?_, ?_, fun _ => ⟨.starting, hreg', ?_⟩⟩
      · rw [hreg', Registry.length_setSeat]
        exact hlt
      · rw [hreg', Registry.fdOf_setSeat]
      · rw [Scene.result?_of_call hat']
        intro _ hdone
        cases hdone
  | @act s s' log a _ ha ih =>
    obtain ⟨hreach, hlaunches⟩ := ih
    refine ⟨hreach.act a ha, ?_⟩
    obtain ⟨p, hat, hp⟩ := hlaunches.stands
    rcases Scene.act?_call hat ha with ⟨hne, hat'⟩ | ⟨rfl, p', hstep, hat', hjoined⟩
    · exact hlaunches.other hat hp ha hne hat'
    · cases hspawn : s.isSpawning i with
      | false => exact hlaunches.own hspawn hat hp ha hstep hat' hjoined
      | true =>
        cases hp with
        | spawning hnone hfine =>
          exact hlaunches.spawn hreach.fits hreach.limits.2 hat hnone hfine ha hstep hat'
        | _ =>
          rw [Scene.isSpawning, hat] at hspawn
          cases hspawn

/-- The seat was free before. -/
theorem free (h : Launch i slot l capacity settings r s log) : r.seat slot l.kind = .idle := by
  induction h with
  | begun _ _ _ hfree => exact (Registry.reserveOn_ok hfree).2.1
  | act _ _ _ ih => exact ih

/-- A start that has not answered yet keeps its seat, and its slot is in the table. -/
theorem current (h : Launch i slot l capacity settings r s log) {p : Call.Position}
    (hat : s.tasks[i]? = some (.call p)) (hp : Call.Launching slot l log s.crew s.joined p)
    (hopen : p.result? = none) : s.registry.isCurrent slot = true := by
  have hinv := h.inv.1.inv
  obtain ⟨t?, hholding⟩ := hp.holding? hopen
  have hhold : s.hold i = some ⟨slot, l.kind, .starting, t?⟩ := by
    rw [Scene.hold, hat]
    exact hholding
  have hseat := hinv.kept i _ hhold
  exact hinv.sound.current slot l.kind (by simp [hseat])

/-- A start without a thread was refused it. -/
theorem refused (h : Launch i slot l capacity settings r s log) {e : Error}
    (hnone : log.thread? = none) (he : log.fault? = some e) : e = .lifecycle "spawn" := by
  induction h with
  | begun => cases he
  | @act s s' log a _ _ ih =>
    have hbefore : log.thread? = none := (Option.or_eq_none_iff.mp hnone).1
    rcases Option.or_eq_some_iff.mp he with hfault | ⟨-, hfault⟩
    · exact ih hbefore hfault
    · rw [hbefore] at hfault
      cases a with
      | proceed j =>
        simp only [Scene.launchFault?] at hfault
        split at hfault
        · obtain ⟨-, -, rfl⟩ := Option.map_eq_some_iff.mp hfault
          rfl
        · cases hfault
      | _ => cases hfault

/-- What keeps a start from coming up is a refused thread, or one of the things that may keep a new
thread from it. -/
theorem cause (h : Launch i slot l capacity settings r s log) {e : Error}
    (he : log.fault? = some e) : (log.thread? = none ∧ e = .lifecycle "spawn") ∨
      (log.thread?.isSome = true ∧ (l.thread (r.fdOf slot) settings).MayFail e) := by
  cases ht : log.thread? with
  | none => exact .inl ⟨rfl, h.refused ht he⟩
  | some t =>
    obtain ⟨th, hth⟩ := h.inv.2.thread t ht
    exact .inr ⟨rfl, hth.cause e he⟩

/-- What has kept a start from coming up it answers, and nothing can hold it up. -/
theorem fails (h : Launch i slot l capacity settings r s log) {e : Error}
    (he : log.fault? = some e) : s.FailsWithin i e 4 := by
  obtain ⟨-, hlaunches⟩ := h.inv
  obtain ⟨p, hat, hp⟩ := hlaunches.stands
  have hthread : ∀ {t}, log.thread? = some t → ∃ th,
      Crew.Launched t (l.thread (r.fdOf slot) settings) s.crew (some e) th := by
    intro t ht
    rw [← he]
    exact hlaunches.thread t ht
  have hsame : ∀ {e'}, log.fault? = some e' → e' = e := fun h =>
    Option.some.inj (h.symm.trans he)
  cases hp with
  | spawning _ hfine =>
    rw [hfine] at he
    cases he
  | hearing ht =>
    obtain ⟨th, hth⟩ := hthread ht
    obtain ⟨hreport, hend, -⟩ := hth.report?_of_fault
    refine .hearing hat hreport ?_
    rw [Crew.hasEnded, hth.thread]
    exact hend
  | dismissing ht h =>
    obtain rfl := hsame h
    obtain ⟨th, hth⟩ := hthread ht
    refine (Scene.FailsWithin.dismissing hat ?_).mono (by decide)
    rw [Crew.hasEnded, hth.thread]
    exact hth.report?_of_fault.2.1
  | freeing h =>
    obtain rfl := hsame h
    exact (Scene.FailsWithin.freeing hat).mono (by decide)
  | failed h =>
    obtain rfl := hsame h
    exact .finished hat 4
  | recording ht harmed | succeeded ht harmed =>
    obtain ⟨th, hth⟩ := hthread ht
    cases (hth.of_isArmed harmed).1

/-- As long as the thread was not joined, no other thread is known at the seat. -/
theorem known_only (h : Launch i slot l capacity settings r s log) {t u : ThreadId}
    (ht : log.thread? = some t) (hfree : t ∉ s.joined)
    (hu : Known s.registry s.hold slot l.kind u) : u = t := by
  obtain ⟨hreach, hlaunches⟩ := h.inv
  obtain ⟨th, hth⟩ := hlaunches.thread t ht
  obtain ⟨hfd, hkind⟩ := l.thread_spec (r.fdOf slot) settings
  have hlistens : s.Listens t (r.fdOf slot) l.kind :=
    ⟨hfree, th, hth.thread, hth.fd.trans hfd, hth.kind.trans hkind⟩
  have hinv := hreach.inv
  obtain ⟨slot', hcur', hfd', hknown⟩ := hinv.listener_known hlistens
  have hcur := hinv.sound.current slot l.kind (hinv.seat_ne_of_known hu)
  obtain rfl := Registry.eq_of_current hcur hcur' (hlaunches.fd.trans hfd'.symm)
  exact hinv.known_unique hu hknown

/-- A start answers what has kept its thread from coming up, once the thread was joined, or its
slot, once the thread has told that it is armed. -/
theorem answered (h : Launch i slot l capacity settings r s log) {result : Outcome SlotId}
    (hr : s.result? i = some result) :
    (∃ e, result = .error e ∧ log.fault? = some e ∧ ∀ t, log.thread? = some t → t ∈ s.joined) ∨
    (result = .ok slot ∧ log.fault? = none ∧ ∃ t th, log.thread? = some t ∧
      s.crew.thread? t = some th ∧ th.reports = [.ok ()]) := by
  obtain ⟨-, hlaunches⟩ := h.inv
  obtain ⟨p, hat, hp⟩ := hlaunches.stands
  rw [Scene.result?_of_call hat] at hr
  cases hp with
  | failed he hjoined =>
    obtain rfl := Option.some.inj hr
    exact .inl ⟨_, rfl, he, hjoined⟩
  | @succeeded t ht harmed =>
    obtain rfl := Option.some.inj hr
    obtain ⟨th, hth⟩ := hlaunches.thread t ht
    obtain ⟨hfine, htold⟩ := hth.of_isArmed harmed
    exact .inr ⟨rfl, hfine, t, th, ht, hth.thread, htold⟩
  | _ => cases hr

/-- The step with which a start fails frees its seat, and the seat can be taken again. -/
theorem freed (h : Launch i slot l capacity settings r s log) {s' : Scene}
    (ha : s.act? (.proceed i) = some s') :
    ∃ x, s'.registry = s.registry.setSeat slot l.kind x ∧
      (∀ e, s'.result? i = some (.error e) → x = .idle ∧
        ∃ r', s'.registry.reserveOn slot l.kind = .ok r') ∧
      ∀ slot', s'.result? i = some (.ok slot') → ∃ t, log.thread? = some t ∧ x = .running t := by
  obtain ⟨-, hlaunches⟩ := h.inv
  obtain ⟨p, hat, hp⟩ := hlaunches.stands
  rcases Scene.act?_call hat ha with ⟨hne, -⟩ | ⟨-, p', hstep, hat', -⟩
  · exact absurd rfl hne
  · obtain ⟨x, hseat, hidle, hrunning⟩ := hp.seat hstep
    have hresult := Scene.result?_of_call hat'
    refine ⟨x, hseat, fun e he => ?_, fun slot' hok => ?_⟩
    · have hopen : p.result? = none := by
        cases p with
        | finished => cases hstep
        | _ => rfl
      have hcur := h.current hat hp hopen
      obtain rfl := hidle e (Call.Position.eq_finished (hresult.symm.trans he))
      have hreg : s'.registry = s.registry.setSeat slot l.kind .idle := hseat
      exact ⟨rfl, hreg ▸ Registry.reserveOn_freed l.kind hcur⟩
    · exact hrunning slot' (Call.Position.eq_finished (hresult.symm.trans hok))

/-- A start that fails leaves no trace of its listener. -/
theorem leaves_no_trace (h : Launch i slot l capacity settings r s log) :
    -- the caller gets what has kept it from coming up, and nothing can hold that up
    (∀ e, log.fault? = some e → s.FailsWithin i e 4 ∧
      ((log.thread? = none ∧ e = .lifecycle "spawn") ∨
        (log.thread?.isSome = true ∧ (l.thread (r.fdOf slot) settings).MayFail e))) ∧
    (∀ result, s.result? i = some result →
      result = match log.fault? with
        | some e => .error e
        | none => .ok slot) ∧
    -- the thread
    (∀ t, log.thread? = some t → ∃ th, s.crew.thread? t = some th ∧ th.reports.length ≤ 1 ∧
      (∀ e, log.fault? = some e → th.body.hasEnded = true ∧ s.crew.itemsOf t = [] ∧
        th.callback = (l.thread (r.fdOf slot) settings).callback) ∧
      (∀ e, s.result? i = some (.error e) → t ∈ s.joined) ∧
      ∀ slot', s.result? i = some (.ok slot') → th.reports = [.ok ()] ∧
        (t ∉ s.joined → ∀ j u, s.position? j = some (.waking slot l.kind u) → u = t)) ∧
    -- the registry
    (∀ s', s.act? (.proceed i) = some s' → ∃ x, s'.registry = s.registry.setSeat slot l.kind x ∧
      (∀ e, s'.result? i = some (.error e) → x = .idle ∧
        ∃ r', s'.registry.reserveOn slot l.kind = .ok r') ∧
      ∀ slot', s'.result? i = some (.ok slot') → ∃ t, log.thread? = some t ∧ x = .running t) ∧
    (log.alone = true → ∀ e, s.result? i = some (.error e) → s.registry = r) := by
  obtain ⟨-, hlaunches⟩ := h.inv
  refine ⟨fun e he => ⟨h.fails he, h.cause he⟩, fun result hr => ?_, fun t ht => ?_,
    fun s' => h.freed, fun halone e he => ?_⟩
  · rcases h.answered hr with ⟨e, rfl, he, -⟩ | ⟨rfl, hfine, -⟩
    · rw [he]
    · rw [hfine]
  · obtain ⟨th, hth⟩ := hlaunches.thread t ht
    refine ⟨th, hth.thread, hth.told_once, fun e he => ?_, fun e he => ?_, fun slot' hok => ?_⟩
    · have hfault := hth
      rw [he] at hfault
      obtain ⟨-, hend, hnot⟩ := hfault.report?_of_fault
      obtain ⟨hcallback, hnone⟩ := hth.unarmed hnot
      exact ⟨hend, hnone, hcallback⟩
    · rcases h.answered he with ⟨-, -, -, hjoined⟩ | ⟨hok, -⟩
      · exact hjoined t ht
      · cases hok
    · rcases h.answered hok with ⟨e, herror, -⟩ | ⟨-, -, t', th', ht', hth', htold⟩
      · cases herror
      · obtain rfl := Option.some.inj (ht.symm.trans ht')
        obtain rfl := Option.some.inj (hth.thread.symm.trans hth')
        exact ⟨htold, fun hfree j u hwaking => h.known_only ht hfree (Scene.known_waking hwaking)⟩
  · obtain ⟨x, hreg, hidle⟩ := hlaunches.alone halone
    obtain rfl := hidle e he
    have hback := Registry.setSeat_self slot l.kind r
    rw [h.free] at hback
    exact hreg.trans hback

/-- One more step of a run, and what is seen of the start. -/
def next? (i : Nat) (x : Scene × LaunchLog) (a : Action) : Option (Scene × LaunchLog) :=
  (x.1.act? a).map fun s => (s, x.2.note i x.1 a)

theorem run {actions : List Action} {x x' : Scene × LaunchLog}
    (h : Launch i slot l capacity settings r x.1 x.2)
    (hrun : actions.foldlM (next? i) x = some x') :
    Launch i slot l capacity settings r x'.1 x'.2 := by
  refine run_keeps (P := fun x => Launch i slot l capacity settings r x.1 x.2) ?_ h hrun
  intro a _ x x' hx hnext
  obtain ⟨s, ha, rfl⟩ := Option.map_eq_some_iff.mp hnext
  exact hx.act a ha

/-- The thread of an event listener is created, its first sample fails, and the start dismisses
it. -/
def dismissal : List Action :=
  [.proceed 1, .thread (.step 1), .thread (.step 1), .proceed 1, .proceed 1, .proceed 1]

/-- Another event listener is started on the slot. -/
def secondTry : List Action :=
  [.begin (.starting 0 (.event {} Sampling.telephone)), .proceed 2, .proceed 2] ++
    .replicate 3 (.thread (.step 2)) ++ [.proceed 2, .proceed 2]

/-- Beside a data listener the failed start of an event listener leaves no trace, and the next one
succeeds. -/
theorem dismissal_leaves_no_trace : ∃ r s log, Launch 1 0 Scene.unsampled 1 {} r s log ∧
    log.thread? = some 1 ∧ log.fault? = some (.unsupported "modem lines") ∧
    s.result? 1 = some (.error (.unsupported "modem lines")) ∧ 1 ∈ s.joined ∧
    s.registry = r ∧ r.seat 0 .data = .running 0 ∧
    ∃ s', s.run? secondTry = some s' ∧ s'.result? 2 = some (.ok 0) ∧
      s'.registry.seat 0 .event = .running 2 := by
  have hruns : ∃ s₀ r' s₁ x s', (Scene.start 1 {} {} []).run?
        (Scene.occupied ++ [.begin (.starting 0 Scene.unsampled)]) = some s₀ ∧
      s₀.tasks[1]? = some (.call (.starting 0 Scene.unsampled)) ∧
      s₀.registry.reserveOn 0 .event = .ok r' ∧ s₀.registry.seat 0 .data = .running 0 ∧
      s₀.act? (.proceed 1) = some s₁ ∧ dismissal.foldlM (next? 1) (s₁, {}) = some x ∧
      x.2.thread? = some 1 ∧ x.2.fault? = some (.unsupported "modem lines") ∧
      x.2.alone = true ∧ x.1.result? 1 = some (.error (.unsupported "modem lines")) ∧
      x.1.run? secondTry = some s' ∧ s'.result? 2 = some (.ok 0) ∧
      s'.registry.seat 0 .event = .running 2 :=
    ⟨_, _, _, _, _, rfl, rfl, rfl, rfl, rfl, rfl, rfl, rfl, rfl, rfl, rfl, rfl, rfl⟩
  obtain ⟨s₀, r', s₁, x, s', hrun, hat, hfree, hdata, ha, hdismissal, hthread, hfault, halone,
    hresult, hagain, hresult', hseat⟩ := hruns
  have hbegun : Launch 1 0 Scene.unsampled 1 {} s₀.registry s₁ {} :=
    .begun ((Scene.Reachable.start {} []).run hrun) rfl hat hfree ha
  have hend := hbegun.run hdismissal
  obtain ⟨-, -, hgone, -, hsame⟩ := hend.leaves_no_trace
  obtain ⟨th, -, -, -, hjoined, -⟩ := hgone 1 hthread
  exact ⟨s₀.registry, x.1, x.2, hend, hthread, hfault, hresult, hjoined _ hresult,
    hsame halone _ hresult, hdata, s', hagain, hresult', hseat⟩

end Launch

end SerialLine
