import SerialLine.Proofs.Listener.TakingDown

/-!
# SerialLine.Proofs.Listener.ShutdownEffect — what a shutdown leaves behind

`Scene.FairTakeDown` is an endless course in which a shutdown is alone with the threads and the
host, and neither it nor a thread is passed over for ever. The shutdown waits for nobody but the
threads that it has asked to end and woken, so it comes to its end: `Scene.FairTakeDown.ends`. What
it leaves behind then, in whatever order it has taken the table down, says
`Scene.Reachable.shutdown_stops`.
-/

namespace SerialLine

/-! ## It comes to its end -/

/-- What a thread has been told that a stop is about to wake or to join. -/
def Call.Position.Heeded (c : Crew) : Position → Prop
  | .waking _ _ t => c.IsCancelled t
  | .joining _ _ t => c.Yields t
  | _ => True

theorem Call.Edge.heeded {w w' : Listening} {p p' : Position} (he : Edge w p p' w')
    (h : p.Heeded w.crew)
    (harmed : ∀ t, p.bears? = some t → ∃ th, w.crew.thread? t = some th ∧
      th.body.lifecycle ≠ .starting)
    (hhonest : (w.crew.host.takeFault .wake).1 ≠ some .EAGAIN) : p'.Heeded w'.crew := by
  cases he with
  | @cancelled s k t =>
    obtain ⟨th, ht, -⟩ := harmed t rfl
    exact Crew.isCancelled_cancel (Crew.lt_of_thread ht)
  | @woken s k t crew hwake =>
    refine Crew.yields_of_wake (fun th ht => ?_) h hwake hhonest
    obtain ⟨th', ht', hstarted⟩ := harmed t rfl
    obtain rfl := Option.some.inj (ht.symm.trans ht')
    exact hstarted
  | @freed s k e giveBack => cases giveBack <;> exact trivial
  | _ => exact trivial

theorem Call.Position.Heeded.event {c c' : Crew} {p : Position} {e : Crew.Event} (h : p.Heeded c)
    (he : c.after? e = some c') : p.Heeded c' := by
  cases p with
  | waking => exact Crew.IsCancelled.event h he
  | joining => exact Crew.Yields.event h he
  | _ => exact trivial

theorem Call.Position.Heeded.outside {c : Crew} {p : Position} (h : p.Heeded c) (host : Host)
    (gates : List (Fd × Gate)) : p.Heeded { c with host, gates } := by
  cases p with
  | waking => exact h
  | joining => exact h
  | _ => exact trivial

namespace Scene

/-- An endless course of a shutdown that is alone with the threads and the host, in which neither it
nor a thread is passed over for ever. -/
structure FairTakeDown (F : SlotId → ListenerKind → Bool) (i : Nat) (x : Nat → Scene) : Prop where
  turn : ∀ n, x (n + 1) = x n ∨ ∃ a, (x n).takeDown? F i a = some (x (n + 1))
  /-- A shutdown that can go on from some time on does so. -/
  task : ∀ n, (∀ m, n ≤ m → ((x m).act? (.proceed i)).isSome = true) →
    ∃ m, n ≤ m ∧ (x m).tasks[i]? ≠ (x n).tasks[i]?
  /-- So does a thread: the user's code returns, gates open, and the system interrupts no wait and
  no read for ever. -/
  thread : ∀ t n th, (x n).crew.thread? t = some th → (∀ m, n ≤ m → (x m).crew.IsAwake t) →
    ∃ m th', n ≤ m ∧ (x m).crew.thread? t = some th' ∧ ¬ th.Lingers th'
  /-- The system takes no counter to be full that is not. -/
  honest : ∀ n, ((x n).crew.host.takeFault .wake).1 ≠ some .EAGAIN

variable {F : SlotId → ListenerKind → Bool} {i : Nat} {s : Scene} {d : Shutdown} {final : Registry}
  {capacity : Nat} {settings : ListenerSettings}

namespace FairTakeDown

variable {x : Nat → Scene} {n m : Nat} {slot : SlotId} {k : ListenerKind} {t : ThreadId}

/-- What holds in a course at any time. -/
theorem keeps (hf : FairTakeDown F i x) (hreach : (x 0).Reachable capacity settings)
    (htaking : (x 0).TakingDown F i final) (n : Nat) :
    (x n).Reachable capacity settings ∧ (x n).TakingDown F i final := by
  induction n with
  | zero => exact ⟨hreach, htaking⟩
  | succ n ih =>
    obtain ⟨hnow, htaking⟩ := ih
    rcases hf.turn n with hsame | ⟨a, ha⟩
    · rw [hsame]
      exact ⟨hnow, htaking⟩
    · exact ⟨hnow.act a (act?_of_takeDown? ha), htaking.next hnow ha⟩

/-- The shutdown is where it was, or it has fewer turns left. -/
theorem turnsLeft (hf : FairTakeDown F i x) (hreach : (x 0).Reachable capacity settings)
    (htaking : (x 0).TakingDown F i final) (hat : (x n).tasks[i]? = some (.shutdown d))
    (hle : n ≤ m) : (x m).tasks[i]? = some (.shutdown d) ∨
      ∃ d', (x m).tasks[i]? = some (.shutdown d') ∧ d'.turnsLeft < d.turnsLeft := by
  induction hle with
  | refl => exact .inl hat
  | @step m _ ih =>
    have hnow := (hf.keeps hreach htaking m).2
    rcases hf.turn m with hsame | ⟨a, ha⟩
    · rwa [hsame]
    · rcases ih with hstill | ⟨d', hat', hless⟩
      · exact hnow.turnsLeft ha hstill
      · rcases hnow.turnsLeft ha hat' with hstill | ⟨d'', hat'', hless'⟩
        · exact .inr ⟨d', hstill, hless⟩
        · exact .inr ⟨d'', hat'', Nat.lt_trans hless' hless⟩

/-- Threads that the shutdown is about to join heed their wake-up. -/
theorem heeded (hf : FairTakeDown F i x) (hreach : (x 0).Reachable capacity settings)
    (htaking : (x 0).TakingDown F i final) (hfresh : (x 0).position? i = none) (n : Nat) :
    ∀ p, (x n).position? i = some p → p.Heeded (x n).crew := by
  induction n with
  | zero =>
    intro p hp
    rw [hfresh] at hp
    cases hp
  | succ n ih =>
    obtain ⟨hnow, hnow'⟩ := hf.keeps hreach htaking n
    have hhonest := hf.honest n
    intro p' hp'
    rcases hf.turn n with hsame | ⟨a, ha⟩
    · rw [hsame] at hp' ⊢
      exact ih p' hp'
    · rcases takeDown?_cases ha with ⟨rfl, -⟩ | ⟨e, crew, hevent, hx⟩ | ⟨host, gates, hx⟩
      · obtain ⟨d, hat, -⟩ := hnow'.task
        obtain ⟨d', hedge, hat', -⟩ := act?_shutdown hat (act?_of_takeDown? ha)
        rw [position?_shutdown hat] at ih
        rw [position?_shutdown hat'] at hp'
        show p'.Heeded (x (n + 1)).listening.crew
        generalize (x (n + 1)).listening = w at hedge
        cases hedge with
        | looked =>
          replace hp' : (if _ then some _ else none) = some p' := hp'
          split at hp'
          · cases hp'
            exact trivial
          · cases hp'
        | leftBehind => cases hp'
        | @wentOn _ p _ _ he =>
          cases hp'
          refine he.heeded (ih p rfl) (fun t hbears => ?_) hhonest
          obtain ⟨th, ht, harmed⟩ := hnow.armed.borne i p t (position?_shutdown hat) hbears
          exact ⟨th, ht, (hnow.armed.told t th ht).started harmed⟩
      · rw [hx] at hp' ⊢
        exact (ih p' hp').event hevent
      · rw [hx] at hp' ⊢
        exact (ih p' hp').outside host gates

/-- What is left of a course from some time on. -/
theorem drop (hf : FairTakeDown F i x) (n : Nat) : FairTakeDown F i fun m => x (n + m) where
  turn m := hf.turn (n + m)
  task m hgo := by
    obtain ⟨m', hle, hmoved⟩ := hf.task (n + m) fun m' hle => by
      obtain ⟨l, rfl⟩ := Nat.exists_eq_add_of_le (Nat.le_of_add_right_le hle)
      exact hgo l (Nat.add_le_add_iff_left.mp hle)
    obtain ⟨l, rfl⟩ := Nat.exists_eq_add_of_le (Nat.le_of_add_right_le hle)
    exact ⟨l, Nat.add_le_add_iff_left.mp hle, hmoved⟩
  thread t m th ht hawake := by
    obtain ⟨m', th', hle, ht', hmoved⟩ := hf.thread t (n + m) th ht fun m' hle => by
      obtain ⟨l, rfl⟩ := Nat.exists_eq_add_of_le (Nat.le_of_add_right_le hle)
      exact hawake l (Nat.add_le_add_iff_left.mp hle)
    obtain ⟨l, rfl⟩ := Nat.exists_eq_add_of_le (Nat.le_of_add_right_le hle)
    exact ⟨l, th', Nat.add_le_add_iff_left.mp hle, ht', hmoved⟩
  honest m := hf.honest (n + m)

/-- A shutdown does not wait for ever for a thread that heeds its wake-up. -/
theorem not_yields (hf : FairTakeDown F i x) (htaking : ∀ m, (x m).TakingDown F i final)
    (hat : ∀ m, (x m).tasks[i]? = some (.shutdown d))
    (hstop : d.stop? = some (.joining slot k t)) : ¬ (x 0).crew.Yields t := by
  intro hyields
  -- while the shutdown stays where it is, the stop at hand is a call that waits alone
  have hfair : Call.Fair t fun m => (.joining slot k t, (x m).listening) := by
    refine ⟨fun m => ?_, fun m hgo => ?_, hf.thread t, hf.honest⟩
    · rcases hf.turn m with hsame | ⟨a, ha⟩
      · rw [hsame]
        exact .pass _
      · rcases takeDown?_cases ha with ⟨rfl, -⟩ | ⟨e, crew, hevent, hx⟩ | ⟨host, gates, hx⟩
        · obtain ⟨d', hat', hless⟩ := (htaking m).own (act?_of_takeDown? ha) (hat m)
          obtain rfl := Task.shutdown.inj (Option.some.inj (hat'.symm.trans (hat (m + 1))))
          exact absurd hless (Nat.lt_irrefl _)
        · rw [hx]
          exact .thread e hevent
        · rw [hx]
          exact .outside host gates
    · obtain ⟨m', -, hmoved⟩ := hf.task m fun m' hle => by
        have hstep := hgo m' hle
        refine act?_isSome (hat m') ?_
        simp only [Shutdown.step, hstop]
        simpa [Call.Position.result?] using hstep
      exact absurd ((hat m').trans (hat m).symm) hmoved
  obtain ⟨m, -, hmoved⟩ := hfair.joins (n := 0) rfl hyields
  exact hmoved rfl

/-- A shutdown that is not over comes on. -/
theorem comesOn (hf : FairTakeDown F i x) (htaking : ∀ m, (x m).TakingDown F i final)
    (hheeded : ∀ p, (x 0).position? i = some p → p.Heeded (x 0).crew)
    (hat : (x 0).tasks[i]? = some (.shutdown d)) (hopen : d.isFinished = false) :
    ∃ m, (x m).tasks[i]? ≠ some (.shutdown d) := by
  by_contra hnone
  have hstays : ∀ m, (x m).tasks[i]? = some (.shutdown d) := by
    intro m
    by_contra hne
    exact hnone ⟨m, hne⟩
  by_cases hjoin : ∃ slot k t, d.stop? = some (.joining slot k t)
  · obtain ⟨slot, k, t, hstop⟩ := hjoin
    exact hf.not_yields htaking hstays hstop (hheeded _ ((position?_shutdown hat).trans hstop))
  · obtain ⟨m, -, hmoved⟩ := hf.task 0 fun m _ => by
      have hbrings := (htaking m).brings (hstays m)
      exact act?_isSome (hstays m)
        (hbrings.goesOn hopen (fun slot k t hstop => hjoin ⟨slot, k, t, hstop⟩) _)
    exact hmoved ((hstays m).trans hat.symm)

/-- A shutdown comes to its end. -/
theorem ends (hf : FairTakeDown F i x) (hreach : (x 0).Reachable capacity settings)
    (htaking : (x 0).TakingDown F i final) (hfresh : (x 0).position? i = none) :
    ∃ n d, (x n).tasks[i]? = some (.shutdown d) ∧ d.isFinished = true := by
  have hkeeps : ∀ n, (x n).TakingDown F i final := fun n =>
    (hf.keeps hreach htaking n).2
  -- on the turns that the shutdown has left
  suffices hfrom : ∀ b n d, (x n).tasks[i]? = some (.shutdown d) → d.turnsLeft = b →
      ∃ n d, (x n).tasks[i]? = some (.shutdown d) ∧ d.isFinished = true by
    obtain ⟨d, hat, -⟩ := htaking.task
    exact hfrom _ 0 d hat rfl
  intro b
  induction b using Nat.strongRecOn with
  | ind b ih =>
    intro n d hat hb
    cases hopen : d.isFinished with
    | true => exact ⟨n, d, hat, hopen⟩
    | false =>
      obtain ⟨m, hmoved⟩ := (hf.drop n).comesOn (fun m => hkeeps (n + m))
        (hf.heeded hreach htaking hfresh n) hat hopen
      rcases hf.turnsLeft hreach htaking hat (Nat.le_add_right n m) with hsame | ⟨d', hat', hless⟩
      · exact absurd hsame hmoved
      · exact ih _ (hb ▸ hless) (n + m) d' hat' rfl

/-- What a course has come to by some time, a run comes to as well. -/
theorem run (hf : FairTakeDown F i x) (n : Nat) :
    ∃ actions : List Action, actions.foldlM (takeDown? F i) (x 0) = some (x n) := by
  induction n with
  | zero => exact ⟨[], rfl⟩
  | succ n ih =>
    obtain ⟨actions, hrun⟩ := ih
    rcases hf.turn n with hsame | ⟨a, ha⟩
    · exact ⟨actions, hsame ▸ hrun⟩
    · refine ⟨actions ++ [a], ?_⟩
      rw [List.foldlM_append, hrun]
      simpa using ha

end FairTakeDown

/-- A shutdown stops exactly what it can, in whatever order it takes the table down. It begins while
no call is in progress, no other client comes in between, and wake-ups fail as they are to fail. In
every fair course it comes to its end. Then the active listeners are those whose wake-up has failed,
each with the thread that it had. The threads of all others were joined, and whatever happens later
they call nothing any more. In the table are the slots of the active listeners, and those that had
no listener before. -/
theorem Reachable.shutdown_stops (h : s.Reachable capacity settings) (hrest : s.AtRest)
    {order : List (Fd × SlotId)} {s₁ : Scene} (hbegin : s.act? (.shutdown order) = some s₁)
    (F : SlotId → ListenerKind → Bool) :
    (∀ x, FairTakeDown F s.tasks.length x → x 0 = s₁ → ∃ n d actions,
      List.foldlM (takeDown? F s.tasks.length) s₁ actions = some (x n) ∧
      (x n).tasks[s.tasks.length]? = some (.shutdown d) ∧ d.isFinished = true) ∧
    ∀ actions s' d, List.foldlM (takeDown? F s.tasks.length) s₁ actions = some s' →
      s'.tasks[s.tasks.length]? = some (.shutdown d) → d.isFinished = true →
      (∀ slot k, s'.registry.isActive slot k = true ↔
        s.registry.isActive slot k = true ∧ F slot k = true) ∧
      (∀ slot k, F slot k = true → s'.registry.seat slot k = s.registry.seat slot k) ∧
      (∀ slot k, s.registry.isActive slot k = true → F slot k = false →
        ∃ t, s.registry.seat slot k = .running t ∧ t ∈ s'.joined ∧ s'.crew.hasEnded t = true ∧
          ∀ later s'', s'.run? later = some s'' → s''.crew.itemsOf t = s'.crew.itemsOf t) ∧
      ∀ e, e ∈ s'.registry.table ↔ e ∈ s.registry.table ∧
        ((∃ k, s.registry.isActive e.2 k = true ∧ F e.2 k = true) ∨
          ∀ k, s.registry.isActive e.2 k = false) := by
  have hreach₁ := h.act _ hbegin
  obtain ⟨hperm, hreg, hhold, hfresh, htaking⟩ := hrest.takingDown (F := F) hbegin
  have hsound : s.registry.Sound := h.inv.sound
  obtain ⟨hseat, htable⟩ := hsound.takenDown hperm F
  refine ⟨?_, ?_⟩
  · rintro x hf rfl
    obtain ⟨n, d, hat, hover⟩ := hf.ends hreach₁ htaking hfresh
    obtain ⟨actions, hrun⟩ := hf.run n
    exact ⟨n, d, actions, hrun, hat, hover⟩
  · intro actions s' d hrun hat hover
    obtain ⟨hreach', htaking', hknown⟩ := htaking.run hreach₁ hrun
    obtain ⟨hfinal, hfree'⟩ := htaking'.over hat hover
    rw [hfinal]
    refine ⟨fun slot k => ?_, fun slot k hF => ?_, fun slot k hactive hF => ?_, htable⟩
    · rw [Registry.isActive_iff, Registry.isActive_iff, hseat]
      cases F slot k <;> simp
    · rw [hseat, if_pos hF]
    · have hmoving := h.still hrest.hold slot k
      have hbusy := Registry.isActive_iff.mp hactive
      cases hrun : s.registry.seat slot k with
      | idle => exact absurd hrun hbusy
      | starting | stopping =>
        rw [hrun] at hmoving
        cases hmoving
      | running t =>
        have hjoined : t ∈ s'.joined := by
          rcases hknown slot k t (.inl (hreg ▸ hrun)) with (hrun' | ⟨j, y, hj, -⟩) | hjoined
          · -- the seat is free now
            rw [hfinal, hseat, hF] at hrun'
            cases hrun'
          · rw [hfree' j] at hj
            cases hj
          · exact hjoined
        exact ⟨t, rfl, hjoined, (hreach'.inv.ended t hjoined).2,
          fun later s'' hlater => hreach'.silent hjoined hlater⟩

/-! ## A course that comes to rest -/

/-- A course that takes some steps one after another and then rests. -/
def course (F : SlotId → ListenerKind → Bool) (i : Nat) : List Action → Scene → Nat → Scene
  | a :: actions, s, n + 1 => ((s.takeDown? F i a).map (course F i actions · n)).getD s
  | _, s, _ => s

theorem course_turn (actions : List Action) (s : Scene) (n : Nat) :
    course F i actions s (n + 1) = course F i actions s n ∨
      ∃ a, (course F i actions s n).takeDown? F i a = some (course F i actions s (n + 1)) := by
  induction actions generalizing s n with
  | nil => exact .inl rfl
  | cons a actions ih =>
    cases ha : s.takeDown? F i a with
    | none => cases n <;> simp [course, ha]
    | some s' =>
      cases n with
      | zero => exact .inr ⟨a, by cases actions <;> simp [course, ha]⟩
      | succ n => simpa [course, ha] using ih s' n

theorem course_end {actions : List Action} {s s' : Scene} {n : Nat}
    (hrun : actions.foldlM (takeDown? F i) s = some s') (hle : actions.length ≤ n) :
    course F i actions s n = s' := by
  induction actions generalizing s n with
  | nil => exact Option.some.inj hrun
  | cons a actions ih =>
    obtain ⟨s₁, ha, hrest⟩ := Option.bind_eq_some_iff.mp hrun
    obtain ⟨m, rfl⟩ := Nat.exists_eq_add_of_le' (Nat.one_le_of_lt (Nat.lt_of_lt_of_le
      (Nat.lt_succ_self actions.length) hle))
    simpa [course, ha] using ih hrest (Nat.le_of_succ_le_succ hle)

/-- It is fair if the shutdown is over then and no thread has anything to do. -/
theorem FairTakeDown.course {actions : List Action} {s s' : Scene} {d : Shutdown}
    (hrun : actions.foldlM (takeDown? F i) s = some s')
    (hat : s'.tasks[i]? = some (.shutdown d)) (hover : d.isFinished = true)
    (hidle : ∀ t, ¬ s'.crew.IsAwake t)
    (hhonest : ∀ n ≤ actions.length,
      ((Scene.course F i actions s n).crew.host.takeFault .wake).1 ≠ some .EAGAIN) :
    FairTakeDown F i (Scene.course F i actions s) where
  turn := course_turn actions s
  task n hgo := by
    have hlast := hgo (max actions.length n) (Nat.le_max_right _ _)
    rw [course_end hrun (Nat.le_max_left _ _)] at hlast
    obtain ⟨s'', ha⟩ := Option.isSome_iff_exists.mp hlast
    obtain ⟨d', hedge, -⟩ := act?_shutdown hat ha
    obtain ⟨htodo, hstop⟩ := Bool.and_eq_true_iff.mp hover
    generalize s''.listening = w at hedge
    cases hedge with
    | looked => cases htodo
    | leftBehind | wentOn => cases hstop
  thread t n th _ hawake := by
    have hlast := hawake (max actions.length n) (Nat.le_max_right _ _)
    rw [course_end hrun (Nat.le_max_left _ _)] at hlast
    exact absurd hlast (hidle t)
  honest n := by
    rcases Nat.le_total n actions.length with hle | hle
    · exact hhonest n hle
    · rw [course_end hrun hle, ← course_end hrun (Nat.le_refl _)]
      exact hhonest _ (Nat.le_refl _)

/-! ## A shutdown that cannot stop everything -/

/-- A host with a pipe at two descriptors on which the next wake-up fails. -/
def halfDeaf : Host where
  descriptors := [(3, .stream (some 0) none false), (4, .stream (some 1) none false)]
  channels := [(0, {}), (1, {})]
  faults := [(.wake, 5)]

/-- Data listeners on two descriptors wait, and a third descriptor has a slot only. -/
def threeSlots : List Action :=
  waiting ++ [.begin (.registering 4 (.data {} false)), .proceed 1, .proceed 1] ++
    .replicate 2 (.thread (.step 1)) ++ [.proceed 1, .proceed 1] ++
    .replicate 2 (.thread (.step 1)) ++ [.acquire 5]

/-- The shutdown cannot wake the first listener. It wakes the second one, and once that has ended it
goes through the rest. -/
def halfWay : List Action :=
  .replicate 11 (.proceed 2) ++ .replicate 4 (.thread (.step 1)) ++ .replicate 7 (.proceed 2)

/-- The data listener of the first slot is the one that cannot be woken. -/
def deaf (slot : SlotId) (k : ListenerKind) : Bool := slot == 0 && k == .data

/-- The one listener that can be woken is stopped, and its slot is the only one that is given
back. -/
theorem halfDeaf_shutdown_stops :
    ∃ s s₁ s', (start 3 {} halfDeaf []).run? threeSlots = some s ∧ s.AtRest ∧
      s.registry.table = [(5, 2), (4, 1), (3, 0)] ∧ s.registry.isActive 1 .data = true ∧
      s.act? (.shutdown [(3, 0), (4, 1), (5, 2)]) = some s₁ ∧
      FairTakeDown deaf 2 (course deaf 2 halfWay s₁) ∧
      halfWay.foldlM (takeDown? deaf 2) s₁ = some s' ∧
      (∀ slot k, s'.registry.isActive slot k = true ↔ slot = 0 ∧ k = .data) ∧
      1 ∈ s'.joined ∧ s'.crew.hasEnded 1 = true ∧
      (3, 0) ∈ s'.registry.table ∧ (4, 1) ∉ s'.registry.table ∧ (5, 2) ∈ s'.registry.table := by
  obtain ⟨s, s₁, s', hrun, hover, htable, hfirst, hsecond, hthird, hbegin, hnumber, hdown, hat,
      hsteps, hthreads, hhonest⟩ :
      ∃ s s₁ s', (start 3 {} halfDeaf []).run? threeSlots = some s ∧
        s.tasks.all (·.isOver) = true ∧ s.registry.table = [(5, 2), (4, 1), (3, 0)] ∧
        s.registry.seat 0 .data = .running 0 ∧ s.registry.seat 1 .data = .running 1 ∧
        (∀ k, s.registry.seat 2 k = .idle) ∧
        s.act? (.shutdown [(3, 0), (4, 1), (5, 2)]) = some s₁ ∧ s.tasks.length = 2 ∧
        halfWay.foldlM (takeDown? deaf 2) s₁ = some s' ∧
        s'.tasks[2]? = some (.shutdown ⟨[], none⟩) ∧ (∀ t, s'.crew.step t = none) ∧
        (∃ th th', s'.crew.threads = [th, th'] ∧ th.held = false ∧ th'.held = false ∧
          (∃ chunk gated, th.body = .data .parked chunk gated) ∧
          ∃ chunk gated, th'.body = .data .gone chunk gated) ∧
        ∀ n ≤ halfWay.length,
          ((course deaf 2 halfWay s₁ n).crew.host.takeFault .wake).1 ≠ some .EAGAIN :=
    ⟨_, _, _, rfl, rfl, rfl, rfl, rfl, fun
      | .data => rfl
      | .event => rfl, rfl, rfl, rfl, rfl, fun
      | 0 => rfl
      | 1 => rfl
      | _ + 2 => rfl, ⟨_, _, rfl, rfl, rfl, ⟨_, _, rfl⟩, ⟨_, _, rfl⟩⟩, by decide +kernel⟩
  have hreach := (Reachable.start halfDeaf []).run hrun
  have hrest : s.AtRest := List.all_eq_true.mp hover
  have hidle : ∀ t, ¬ s'.crew.IsAwake t := by
    obtain ⟨th, th', hboth, hfree, hfree', ⟨chunk, gated, hbody⟩, chunk', gated', hbody'⟩ :=
      hthreads
    rintro t (hstep | ⟨u, hu, hkept⟩)
    · rw [hsteps t] at hstep
      cases hstep
    · have hmem := List.mem_of_getElem? (l := s'.crew.threads) hu
      rw [hboth] at hmem
      rcases List.mem_pair.mp hmem with rfl | rfl
      · simp [hfree, hbody] at hkept
      · simp [hfree', hbody'] at hkept
  have hstops := hreach.shutdown_stops hrest hbegin deaf
  rw [hnumber] at hstops
  obtain ⟨hactive, -, hgone, hleft⟩ := hstops.2 halfWay s' _ hdown hat rfl
  have hfirst' : s.registry.isActive 0 .data = true := by simp [Registry.isActive, hfirst]
  have hsecond' : s.registry.isActive 1 .data = true := by simp [Registry.isActive, hsecond]
  obtain ⟨t, hrun₁, hjoined, hended, -⟩ := hgone 1 .data hsecond' rfl
  obtain rfl := Seat.running.inj (hsecond.symm.trans hrun₁)
  refine ⟨s, s₁, s', hrun, hrest, htable, hsecond', hbegin,
    .course hdown hat rfl hidle hhonest, hdown, fun slot k => ?_, hjoined, hended, ?_, ?_, ?_⟩
  · rw [hactive]
    constructor
    · rintro ⟨-, hdeaf⟩
      simpa [deaf] using hdeaf
    · rintro ⟨rfl, rfl⟩
      exact ⟨hfirst', rfl⟩
  · rw [hleft, htable]
    exact ⟨by decide, .inl ⟨.data, hfirst', rfl⟩⟩
  · rw [hleft]
    rintro ⟨-, ⟨k, -, hdeaf⟩ | hfree⟩
    · cases hdeaf
    · rw [hfree] at hsecond'
      cases hsecond'
  · rw [hleft, htable]
    exact ⟨by decide, .inr fun k => by simp [Registry.isActive, hthird]⟩

end Scene

end SerialLine
