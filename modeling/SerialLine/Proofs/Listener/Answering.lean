import SerialLine.Proofs.Listener.Armed

/-!
# SerialLine.Proofs.Listener.Answering — what a call answers that has created a thread

A call that has created a thread waits for its report. `Call.AsTold` says where the report takes
the call, and `Scene.Registers.act` that no step of anybody takes it anywhere else. If the thread
could not start and has ended, the call fails with what the thread has told, and nothing holds it up
on its way: `Scene.Registers.fails`.
-/

namespace SerialLine

/-- Where a call stands that has created a thread, given what the thread has reported. -/
inductive Call.AsTold (t : ThreadId) (report? : Option (Outcome Unit)) : Call.Position → Prop where
  | hearing (s : SlotId) (k : ListenerKind) (giveBack : Bool) :
    AsTold t report? (.hearing s k t giveBack)
  | recording (s : SlotId) (k : ListenerKind) (h : report? = some (.ok ())) :
    AsTold t report? (.recording s k t)
  | succeeded (s : SlotId) (h : report? = some (.ok ())) : AsTold t report? (.finished (.ok s))
  | dismissing (s : SlotId) (k : ListenerKind) {e : Error} (giveBack : Bool)
    (h : report? = some (.error e)) : AsTold t report? (.dismissing s k t e giveBack)
  | freeing (s : SlotId) (k : ListenerKind) {e : Error} (giveBack : Bool)
    (h : report? = some (.error e)) : AsTold t report? (.freeing s k e giveBack)
  | givingBack (s : SlotId) {e : Error} (h : report? = some (.error e)) :
    AsTold t report? (.givingBack s e)
  | failed {e : Error} (h : report? = some (.error e)) : AsTold t report? (.finished (.error e))

namespace Call

variable {t : ThreadId} {p p' : Position} {w w' : Listening}

theorem AsTold.mono {report? report?' : Option (Outcome Unit)} (h : AsTold t report? p)
    (hr : ∀ r, report? = some r → report?' = some r) : AsTold t report?' p := by
  cases h with
  | hearing s k giveBack => exact .hearing s k giveBack
  | recording s k h => exact .recording s k (hr _ h)
  | succeeded s h => exact .succeeded s (hr _ h)
  | dismissing s k giveBack h => exact .dismissing s k giveBack (hr _ h)
  | freeing s k giveBack h => exact .freeing s k giveBack (hr _ h)
  | givingBack s h => exact .givingBack s (hr _ h)
  | failed h => exact .failed (hr _ h)

theorem Edge.asTold (he : Edge w p p' w') (h : AsTold t (w.crew.report? t) p) :
    AsTold t (w.crew.report? t) p' := by
  cases h with
  | hearing s k giveBack =>
    cases he with
    | heard hreport => exact .recording s k hreport
    | misheard hreport => exact .dismissing s k giveBack hreport
  | recording s k h =>
    cases he
    exact .succeeded s h
  | dismissing s k giveBack h =>
    cases he
    exact .freeing s k giveBack h
  | freeing s k giveBack h =>
    cases he
    cases giveBack with
    | true => exact .givingBack s h
    | false => exact .failed h
  | givingBack s h =>
    cases he
    exact .failed h
  | succeeded | failed => cases he

end Call

namespace Scene

variable {s s' : Scene} {a : Action} {i : Nat} {t : ThreadId} {e : Error}

/-- What a call has answered, by the number of its task. -/
def result? (i : Nat) (s : Scene) : Option (Outcome SlotId) := (s.position? i).bind (·.result?)

/-- A call fails with an error in a few steps of its own, and nothing can hold it up. -/
def FailsWithin (i : Nat) (e : Error) (steps : Nat) (s : Scene) : Prop :=
  ∃ n ≤ steps, ∃ s', s.run? (List.replicate n (.proceed i)) = some s' ∧
    s'.result? i = some (.error e)

/-- A call has created a thread, and stands where the report of the thread takes it. -/
def Registers (i : Nat) (t : ThreadId) (s : Scene) : Prop :=
  ∃ p, s.tasks[i]? = some (.call p) ∧ Call.AsTold t (s.crew.report? t) p

/-- A task goes on by its own steps alone. -/
theorem act?_task {task : Task} (hat : s.tasks[i]? = some task) (ha : s.act? a = some s') :
    (a ≠ .proceed i ∧ s'.tasks[i]? = some task) ∨
    (a = .proceed i ∧ ∃ task', task.step s.listening = some (task', s'.listening) ∧
      s'.tasks[i]? = some task' ∧
      s'.joined = (task.position?.bind (·.joins?)).toList ++ s.joined) := by
  have hlt := (List.getElem?_eq_some_iff.mp hat).1
  cases a with
  | begin p =>
    simp only [act?] at ha
    split at ha
    · obtain rfl := Option.some.inj ha
      exact .inl ⟨by simp, (List.getElem?_append_left hlt).trans hat⟩
    · cases ha
  | shutdown order =>
    simp only [act?] at ha
    split at ha
    · obtain rfl := Option.some.inj ha
      exact .inl ⟨by simp, (List.getElem?_append_left hlt).trans hat⟩
    · cases ha
  | acquire | release | outside =>
    obtain rfl := Option.some.inj ha
    exact .inl ⟨by simp, hat⟩
  | thread e =>
    obtain ⟨crew, -, rfl⟩ := Option.map_eq_some_iff.mp ha
    exact .inl ⟨by simp, hat⟩
  | proceed j =>
    obtain ⟨task₀, htask, hrest⟩ := Option.bind_eq_some_iff.mp ha
    obtain ⟨⟨task', w⟩, hstep, hscene⟩ := Option.bind_eq_some_iff.mp hrest
    obtain rfl := Option.some.inj hscene
    by_cases hji : j = i
    · subst hji
      obtain rfl := Option.some.inj (hat.symm.trans htask)
      exact .inr ⟨rfl, task', hstep, List.getElem?_set_self hlt, rfl⟩
    · refine .inl ⟨?_, (List.getElem?_set_ne hji).trans hat⟩
      rintro ⟨⟩
      exact hji rfl

theorem act?_call {p : Call.Position} (hat : s.tasks[i]? = some (.call p))
    (ha : s.act? a = some s') :
    (a ≠ .proceed i ∧ s'.tasks[i]? = some (.call p)) ∨
    (a = .proceed i ∧ ∃ p', Call.step p s.listening = some (p', s'.listening) ∧
      s'.tasks[i]? = some (.call p') ∧ s'.joined = p.joins?.toList ++ s.joined) := by
  rcases act?_task hat ha with hother | ⟨rfl, task', hstep, hat', hjoined⟩
  · exact .inl hother
  · obtain ⟨⟨p', w⟩, hcall, hmoved⟩ := Option.map_eq_some_iff.mp hstep
    obtain ⟨rfl, rfl⟩ := Prod.mk.inj hmoved
    exact .inr ⟨rfl, p', hcall, hat', hjoined⟩

theorem act?_proceed {p p' : Call.Position} {w : Listening} (hat : s.tasks[i]? = some (.call p))
    (hstep : Call.step p s.listening = some (p', w)) :
    ∃ s', s.act? (.proceed i) = some s' ∧ s'.tasks[i]? = some (.call p') ∧ s'.listening = w := by
  have hlt := (List.getElem?_eq_some_iff.mp hat).1
  refine ⟨⟨w, s.tasks.set i (.call p'), p.joins?.toList ++ s.joined⟩, ?_,
    List.getElem?_set_self hlt, rfl⟩
  simp [act?, hat, Task.step, Task.position?, hstep]

namespace FailsWithin

theorem finished (hat : s.tasks[i]? = some (.call (.finished (.error e)))) (steps : Nat) :
    FailsWithin i e steps s := by
  refine ⟨0, Nat.zero_le _, s, rfl, ?_⟩
  rw [result?, position?, hat]
  rfl

theorem step {steps : Nat} {p p' : Call.Position} {w : Listening}
    (hat : s.tasks[i]? = some (.call p)) (hstep : Call.step p s.listening = some (p', w))
    (hrest : ∀ s', s'.tasks[i]? = some (.call p') → s'.listening = w → FailsWithin i e steps s') :
    FailsWithin i e (steps + 1) s := by
  obtain ⟨s₁, ha, hat₁, hw⟩ := act?_proceed hat hstep
  obtain ⟨n, hn, s', hrun, hresult⟩ := hrest s₁ hat₁ hw
  refine ⟨n + 1, Nat.succ_le_succ hn, s', ?_, hresult⟩
  rw [run?, List.replicate_succ, List.foldlM_cons, ha]
  exact hrun

theorem givingBack {slot : SlotId} (hat : s.tasks[i]? = some (.call (.givingBack slot e))) :
    FailsWithin i e 1 s :=
  step hat rfl fun _ hat' _ => finished hat' 0

theorem freeing {slot : SlotId} {k : ListenerKind} {giveBack : Bool}
    (hat : s.tasks[i]? = some (.call (.freeing slot k e giveBack))) : FailsWithin i e 2 s := by
  refine step hat rfl fun s' hat' _ => ?_
  cases giveBack with
  | true => exact givingBack hat'
  | false => exact finished hat' 1

theorem dismissing {slot : SlotId} {k : ListenerKind} {giveBack : Bool}
    (hat : s.tasks[i]? = some (.call (.dismissing slot k t e giveBack)))
    (hend : s.crew.hasEnded t = true) : FailsWithin i e 3 s :=
  step hat (if_pos hend) fun _ hat' _ => freeing hat'

theorem hearing {slot : SlotId} {k : ListenerKind} {giveBack : Bool}
    (hat : s.tasks[i]? = some (.call (.hearing slot k t giveBack)))
    (hreport : s.crew.report? t = some (.error e)) (hend : s.crew.hasEnded t = true) :
    FailsWithin i e 4 s := by
  have hstep : Call.step (.hearing slot k t giveBack) s.listening =
      some (.dismissing slot k t e giveBack, s.listening) := by
    have hreport' : s.listening.crew.report? t = some (.error e) := hreport
    simp only [Call.step, hreport']
  refine step hat hstep fun s' hat' hw => dismissing hat' ?_
  rw [crew, hw]
  exact hend

theorem mono {n m : Nat} (h : FailsWithin i e n s) (hle : n ≤ m) : FailsWithin i e m s := by
  obtain ⟨k, hk, hrest⟩ := h
  exact ⟨k, Nat.le_trans hk hle, hrest⟩

end FailsWithin

/-- A call whose thread could not start has no other end. -/
theorem Registers.fails (h : s.Registers i t) (hreport : s.crew.report? t = some (.error e))
    (hend : s.crew.hasEnded t = true) :
    (∀ result, s.result? i = some result → result = .error e) ∧ FailsWithin i e 4 s := by
  obtain ⟨p, hat, htold⟩ := h
  have hresult : s.result? i = p.result? := by
    rw [result?, position?, hat]
    rfl
  rw [hresult]
  have hsame : ∀ {e'}, s.crew.report? t = some (.error e') → e' = e := fun h =>
    Except.error.inj (Option.some.inj (h.symm.trans hreport))
  have hnot : ∀ {P : Prop}, s.crew.report? t = some (.ok ()) → P := by
    intro P hok
    rw [hok] at hreport
    cases hreport
  have hopen : ∀ result, (none : Option (Outcome SlotId)) = some result → result = .error e := by
    intro result hnone
    cases hnone
  cases htold with
  | recording _ _ h | succeeded _ h => exact hnot h
  | hearing => exact ⟨hopen, .hearing hat hreport hend⟩
  | dismissing _ _ _ h =>
    obtain rfl := hsame h
    exact ⟨hopen, (FailsWithin.dismissing hat hend).mono (by decide)⟩
  | freeing _ _ _ h =>
    obtain rfl := hsame h
    exact ⟨hopen, (FailsWithin.freeing hat).mono (by decide)⟩
  | givingBack _ h =>
    obtain rfl := hsame h
    exact ⟨hopen, (FailsWithin.givingBack hat).mono (by decide)⟩
  | failed h =>
    obtain rfl := hsame h
    exact ⟨fun result hresult => (Option.some.inj hresult).symm, .finished hat 4⟩

/-- Whatever happens, the call goes on as the thread has told. -/
theorem Registers.act (h : s.Registers i t) (ha : s.act? a = some s')
    (hr : ∀ r, s.crew.report? t = some r → s'.crew.report? t = some r) : s'.Registers i t := by
  obtain ⟨p, hat, htold⟩ := h
  -- of the tasks only the call itself moves on
  rcases act?_call hat ha with ⟨-, hat'⟩ | ⟨-, p', hstep, hat', -⟩
  · exact ⟨p, hat', htold.mono hr⟩
  · exact ⟨p', hat', ((Call.step_edge hstep).asTold htold).mono hr⟩

end Scene

end SerialLine
