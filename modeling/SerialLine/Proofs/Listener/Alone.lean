import SerialLine.Proofs.Listener.Steps

/-!
# SerialLine.Proofs.Listener.Alone — a call with nobody else at the registry

`Call.Alone` is what may become of a call while no other client is at the registry: threads go on
and the host may change between its steps, but the registry is changed by the call alone. Running
a call to its end in one go is one way to do that (`Listening.drive_alone`), and so is every run
of a scene in which this one task goes on (`Scene.Reachable.alone`).
-/

namespace SerialLine

/-- Where a call may stand, and what it may have made of the registry and its threads, as long as
nobody else goes to the registry. -/
inductive Call.Alone (p : Position) (w : Listening) : Position → Listening → Prop where
  | refl : Alone p w p w
  /-- The call goes on. -/
  | own {p' p'' : Position} {w' w'' : Listening} (h : Alone p w p' w')
    (hstep : step p' w' = some (p'', w'')) : Alone p w p'' w''
  /-- Something happens to a thread. -/
  | thread {p' : Position} {w' : Listening} {crew : Crew} (e : Crew.Event) (h : Alone p w p' w')
    (hevent : w'.crew.after? e = some crew) : Alone p w p' { w' with crew }
  /-- Something else happens on the host. -/
  | outside {p' : Position} {w' : Listening} (host : Host) (gates : List (Fd × Gate))
    (h : Alone p w p' w') : Alone p w p' (w'.mapCrew fun c => { c with host, gates })

namespace Call.Alone

variable {p p' p'' : Position} {w w' w'' : Listening}

theorem trans (h : Alone p w p' w') (h' : Alone p' w' p'' w'') : Alone p w p'' w'' := by
  induction h' with
  | refl => exact h
  | own _ hstep ih => exact ih.own hstep
  | thread e _ hevent ih => exact ih.thread e hevent
  | outside host gates _ ih => exact ih.outside host gates

/-- What each step of the call keeps of its place and the registry holds of every place that it
gets to. -/
theorem keeps {P : Position → Registry → Prop} (h : Alone p w p' w') (hstart : P p w.registry)
    (hkeep : ∀ {p w p' w'}, P p w.registry → Edge w p p' w' → P p' w'.registry) :
    P p' w'.registry := by
  -- on the steps taken; threads and the host have no part in the registry
  induction h with
  | refl => exact hstart
  | own _ hstep ih => exact hkeep ih (step_edge hstep)
  | thread _ _ _ ih => exact ih
  | outside _ _ _ ih => exact ih

end Call.Alone

/-! ## Calls in one go -/

namespace Crew

variable {c c' : Crew}

theorem stepAny_event {patience : Nat} (h : c.stepAny patience = some c') :
    ∃ e, c.after? e = some c' := by
  simp only [stepAny] at h
  split at h
  · rename_i c₁ hstep
    obtain rfl := Option.some.inj h
    obtain ⟨t, -, ht⟩ := List.exists_of_findSome?_eq_some hstep
    exact ⟨.step t, ht⟩
  · obtain ⟨t, -, ht⟩ := List.exists_of_findSome?_eq_some h
    obtain ⟨th, -, hrest⟩ := Option.bind_eq_some_iff.mp ht
    split at hrest
    · exact ⟨.elapse t, hrest⟩
    · cases hrest

/-- While a client waits, threads go on. -/
theorem stepAwaiting_event {awaited? : Option ThreadId} (h : c.stepAwaiting awaited? = some c') :
    ∃ e, c.after? e = some c' := by
  unfold stepAwaiting at h
  split at h
  · rename_i c₁ hany
    obtain rfl := Option.some.inj h
    exact stepAny_event hany
  · obtain ⟨t, -, ht⟩ := Option.bind_eq_some_iff.mp h
    exact ⟨.elapse t, ht⟩

end Crew

namespace Listening

theorem driveWithin_alone (fuel : Nat) (p : Call.Position) (w : Listening) :
    Call.Alone p w (w.driveWithin fuel p).1 (w.driveWithin fuel p).2 := by
  induction fuel generalizing p w with
  | zero => exact .refl
  | succ fuel ih =>
    unfold driveWithin
    split
    · exact .refl
    · split
      · rename_i p₁ w₁ hstep
        have hfirst : Call.Alone p w p₁ w₁ := .own .refl hstep
        exact hfirst.trans (ih p₁ w₁)
      · split
        · rename_i crew hcrew
          obtain ⟨e, hevent⟩ := Crew.stepAwaiting_event hcrew
          have hfirst : Call.Alone p w p { w with crew } := .thread e .refl hevent
          exact hfirst.trans (ih p { w with crew })
        · exact .refl

/-- A call that runs in one go is alone. -/
theorem drive_alone (p : Call.Position) (w : Listening) :
    Call.Alone p w (w.drive p).1 (w.drive p).2 :=
  driveWithin_alone _ p w

end Listening

/-! ## Calls of a scene -/

namespace Scene

variable {s : Scene} {capacity : Nat} {settings : ListenerSettings}

/-- A call that a client of a scene is at may go on alone. -/
theorem Reachable.alone (h : s.Reachable capacity settings) {i : Nat} {p p' : Call.Position}
    {w : Listening} (htask : s.tasks[i]? = some (.call p)) (ha : Call.Alone p s.listening p' w) :
    ∃ s' : Scene, s'.Reachable capacity settings ∧ s'.listening = w ∧
      s'.tasks[i]? = some (.call p') := by
  induction ha with
  | refl => exact ⟨s, h, rfl, htask⟩
  | @own p₁ p₂ w₁ w₂ _ hstep ih =>
    obtain ⟨s₁, h₁, rfl, htask₁⟩ := ih
    have hlt := (List.getElem?_eq_some_iff.mp htask₁).1
    have hproceed : s₁.act? (.proceed i) = some
        { listening := w₂, tasks := s₁.tasks.set i (.call p₂)
          joined := p₁.joins?.toList ++ s₁.joined } := by
      simp [act?, htask₁, Task.step, hstep, Task.position?]
    exact ⟨_, h₁.act (.proceed i) hproceed, rfl, by simp [hlt]⟩
  | thread e _ hevent ih =>
    obtain ⟨s₁, h₁, rfl, htask₁⟩ := ih
    have hthread : s₁.act? (.thread e) = some
        { s₁ with listening := { s₁.listening with crew := _ } } :=
      congrArg (Option.map _) hevent
    exact ⟨_, h₁.act (.thread e) hthread, rfl, htask₁⟩
  | outside host gates _ ih =>
    obtain ⟨s₁, h₁, rfl, htask₁⟩ := ih
    exact ⟨_, h₁.act (.outside host gates) rfl, rfl, htask₁⟩

end Scene

end SerialLine
