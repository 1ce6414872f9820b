import SerialLine.Proofs.Listener.FailedStop
import SerialLine.Proofs.Monitor.Overlap

/-!
# SerialLine.Proofs.Monitor.FailedStop — what an unregistration that cannot wake its watcher loses

An unregistration takes the watcher of its path out of the table before it asks the thread to end
and wakes it. Where the wake-up fails nobody puts the watcher back, as the stop of a listener does.
The thread stays asked to end, but the monitor does not know of it any more: the path counts as
free, and there is no second try (`Watch.Alone.failed_unregister`).
-/

namespace SerialLine

/-! ## The table without a path -/

namespace Monitor

variable {m : Monitor} {p q : Path}

theorem entry?_forget (m : Monitor) (p q : Path) :
    Monitor.entry? (m.forget p) q = if q.same p then none else m.entry? q := by
  unfold entry?
  simp only [forget, without, List.find?_filter, Bool.decide_and, Bool.decide_eq_true]
  split
  · rename_i hsame
    have hnone : m.entries.find? (fun e => !e.1.same p && e.1.same q) = none := by
      refine List.find?_eq_none.mpr fun e _ hboth => ?_
      simp only [Bool.and_eq_true, Bool.not_eq_true'] at hboth
      rw [Path.same_trans hboth.2 hsame] at hboth
      cases hboth.1
    simpa using hnone
  · rename_i hother
    -- no entry of the other path is one of the path that was taken out
    have hsame : ∀ e : Path × Option Watcher, (!e.1.same p && e.1.same q) = e.1.same q := by
      intro e
      cases hq : e.1.same q with
      | false => simp
      | true =>
        have hp : e.1.same p = false :=
          Bool.eq_false_iff.mpr fun hp => hother (Path.same_trans (Path.same_symm hq) hp)
        simp [hp]
    simp only [hsame]

theorem take_of_entry {x : Watcher} (h : m.entry? p = some (some x)) :
    m.take p = (.ok x, m.forget p) := by
  simp [take, h]

/-- A path that was taken out may be registered again. -/
theorem reserve_forget (hsize : m.entries.length ≤ m.capacity) {x : Option Watcher}
    (hentry : m.entry? p = some x) :
    ∃ m', (m.forget p).reserve p = .ok m' := by
  have hfree : (m.forget p).isMonitoring p = false := by
    simp [isMonitoring, entry?_forget, Path.same_refl]
  have hroom : ¬ (m.forget p).capacity ≤ (m.forget p).entries.length := by
    obtain ⟨q, hmem, hsame⟩ := mem_of_entry? hentry
    exact Nat.not_le_of_lt (Nat.lt_of_lt_of_le (length_without_lt hmem hsame) hsize)
  exact ⟨_, by rw [reserve, if_neg (by simp [hfree]), if_neg hroom]⟩

end Monitor

/-! ## Calls that are alone -/

/-- Where a call may stand, and what it may have made of the monitor and its threads, as long as
nobody else goes to the monitor. -/
inductive Watch.Alone (p : Position) (w : Watching) : Position → Watching → Prop where
  | refl : Alone p w p w
  /-- The call goes on. -/
  | own {p' p'' : Position} {w' w'' : Watching} (h : Alone p w p' w')
    (hstep : step p' w' = some (p'', w'')) : Alone p w p'' w''
  /-- Something happens to a thread. -/
  | thread {p' : Position} {w' : Watching} {crew : Crew} (e : Crew.Event) (h : Alone p w p' w')
    (hevent : w'.crew.after? e = some crew) : Alone p w p' { w' with crew }
  /-- Something else happens on the host. -/
  | outside {p' : Position} {w' : Watching} (host : Host) (h : Alone p w p' w') :
    Alone p w p' (w'.mapCrew ({ · with host }))

theorem Watch.Alone.trans {p p' p'' : Position} {w w' w'' : Watching} (h : Alone p w p' w')
    (h' : Alone p' w' p'' w'') : Alone p w p'' w'' := by
  induction h' with
  | refl => exact h
  | own _ hstep ih => exact ih.own hstep
  | thread e _ hevent ih => exact ih.thread e hevent
  | outside host _ ih => exact ih.outside host

namespace Watching

theorem driveWithin_alone (fuel : Nat) (p : Watch.Position) (w : Watching) :
    Watch.Alone p w (w.driveWithin fuel p).1 (w.driveWithin fuel p).2 := by
  induction fuel generalizing p w with
  | zero => exact .refl
  | succ fuel ih =>
    unfold driveWithin
    split
    · exact .refl
    · split
      · rename_i p₁ w₁ hstep
        have hfirst : Watch.Alone p w p₁ w₁ := .own .refl hstep
        exact hfirst.trans (ih p₁ w₁)
      · split
        · rename_i crew hcrew
          obtain ⟨e, hevent⟩ := Crew.stepAwaiting_event hcrew
          have hfirst : Watch.Alone p w p { w with crew } := .thread e .refl hevent
          exact hfirst.trans (ih p { w with crew })
        · exact .refl

/-- A call that runs in one go is alone. -/
theorem drive_alone (p : Watch.Position) (w : Watching) :
    Watch.Alone p w (w.drive p).1 (w.drive p).2 :=
  driveWithin_alone _ p w

end Watching

/-! ## Unregistrations that are alone -/

namespace Watch

/-- Where the unregistration of a watched path stands, and what it has made of the monitor and of
the watcher's thread so far. -/
inductive Stopping (m : Monitor) (p : Path) (t : ThreadId) : Position → Watching → Prop where
  | begun {w : Watching} (hmon : w.monitor = m) : Stopping m p t (.taking p) w
  | taken {w : Watching} (hmon : w.monitor = m.forget p) : Stopping m p t (.cancelling t) w
  | cancelled {w : Watching} (hmon : w.monitor = m.forget p)
    (hasked : t < w.crew.threads.length → w.crew.IsCancelled t) : Stopping m p t (.waking t) w
  /-- The watcher is not back in the table. -/
  | unwoken {w : Watching} {code : Errno} (hmon : w.monitor = m.forget p)
    (hasked : w.crew.IsCancelled t) : Stopping m p t (.finished (.error (.osCall "wake" code))) w
  | woken {w : Watching} : Stopping m p t (.joining t) w
  | joined {w : Watching} {result : Outcome Unit}
    (hjoin : result = .ok () ∨ result = .error (.lifecycle "join")) :
    Stopping m p t (.finished result) w

variable {m : Monitor} {path : Path} {x : Watcher} {p p' : Position} {w w' : Watching}

theorem step_stopping (hentry : m.entry? path = some (some x))
    (hstep : step p w = some (p', w')) (h : Stopping m path x.thread p w) :
    Stopping m path x.thread p' w' := by
  cases h with
  | begun hmon =>
    -- an edge does not say which of two entries of the path is taken, so the step itself is read
    simp only [step, hmon, Monitor.take_of_entry hentry] at hstep
    obtain ⟨rfl, rfl⟩ := Prod.mk.inj (Option.some.inj hstep)
    exact .taken rfl
  | taken hmon =>
    cases step_edge hstep with
    | cancelled =>
      refine .cancelled hmon fun hthere => Crew.isCancelled_cancel ?_
      simpa [Crew.cancel_eq, Crew.flag] using hthere
  | cancelled hmon hasked =>
    cases step_edge hstep with
    | woken => exact .woken
    | @unwoken _ e crew hwake =>
      -- nobody fails to wake a thread that is not there
      obtain ⟨hthere, code, rfl⟩ := Crew.wake_error hwake
      have hstill := (hasked hthere).handled (.woken x.thread)
      rw [hwake] at hstill
      exact .unwoken hmon hstill
  | unwoken => cases hstep
  | woken =>
    cases step_edge hstep with
    | joined hjoin => exact .joined (Crew.joined?_result hjoin)
  | joined => cases hstep

/-- Threads and the host may go on meanwhile. -/
theorem Stopping.onCrew {t : ThreadId} (h : Stopping m path t p w) {crew : Crew}
    (hlength : crew.threads.length = w.crew.threads.length)
    (hasked : w.crew.IsCancelled t → crew.IsCancelled t) :
    Stopping m path t p { w with crew } := by
  cases h with
  | begun hmon => exact .begun hmon
  | taken hmon => exact .taken hmon
  | cancelled hmon h => exact .cancelled hmon fun hthere => hasked (h (hlength ▸ hthere))
  | unwoken hmon h => exact .unwoken hmon (hasked h)
  | woken => exact .woken
  | joined hjoin => exact .joined hjoin

theorem Alone.stopping (hentry : m.entry? path = some (some x)) (ha : Alone p w p' w')
    (h : Stopping m path x.thread p w) : Stopping m path x.thread p' w' := by
  induction ha with
  | refl => exact h
  | own _ hstep ih => exact step_stopping hentry hstep ih
  | thread e _ hevent ih => exact ih.onCrew (Crew.length_event hevent) (·.event hevent)
  | outside host _ ih => exact ih.onCrew rfl id

/-- Where there is no watcher to take, the monitor stays as it is. -/
theorem Alone.untaken {e : Error} (htake : w.monitor.take path = (.error e, w.monitor))
    (ha : Alone (.taking path) w p' w') :
    w'.monitor = w.monitor ∧ (p' = .taking path ∨ p' = .finished (.error e)) := by
  induction ha with
  | refl => exact ⟨rfl, .inl rfl⟩
  | own _ hstep ih =>
    obtain ⟨hmon, rfl | rfl⟩ := ih
    · simp only [step, hmon, htake] at hstep
      obtain ⟨rfl, rfl⟩ := Prod.mk.inj (Option.some.inj hstep)
      exact ⟨rfl, .inr rfl⟩
    · cases hstep
  | thread _ _ _ ih => exact ih
  | outside _ _ ih => exact ih

/-- An unregistration that fails, but for a join, changes nothing where the path has no watcher, or
one that is being started. A watcher that could not be woken is lost: its path is free for the next
one, the thread stays asked to end, and whoever unregisters the path again is told that it is not
registered. -/
theorem Alone.failed_unregister {e : Error} (ha : Alone (.taking path) w (.finished (.error e)) w')
    (hjoin : e ≠ .lifecycle "join") :
    match w.monitor.entry? path with
    | none => e = .notRegistered path.display ∧ w'.monitor = w.monitor
    | some none => e = .lifecycle "stop" ∧ w'.monitor = w.monitor
    | some (some x) =>
      (∃ code, e = .osCall "wake" code) ∧
      (∀ q, w'.monitor.entry? q = if q.same path then none else w.monitor.entry? q) ∧
      (w.monitor.entries.length ≤ w.monitor.capacity → ∃ m, w'.monitor.reserve path = .ok m) ∧
      (∃ th, w'.crew.thread? x.thread = some th ∧ th.cancelled = true) ∧
      (∀ later : Watching, later.monitor = w'.monitor →
        step (.taking path) later =
          some (.finished (.error (.notRegistered path.display)), later)) := by
  have hrefused : ∀ e₀, w.monitor.take path = (.error e₀, w.monitor) →
      e = e₀ ∧ w'.monitor = w.monitor := by
    intro e₀ htake
    obtain ⟨hmon, hpos | hpos⟩ := ha.untaken htake
    · cases hpos
    · cases hpos
      exact ⟨rfl, hmon⟩
  rcases hentry : w.monitor.entry? path with _ | _ | x
  · exact hrefused _ (by simp [Monitor.take, hentry])
  · exact hrefused _ (by simp [Monitor.take, hentry])
  · have hend := ha.stopping hentry (.begun rfl)
    generalize hq : Position.finished (.error e) = q at hend
    cases hend with
    | @unwoken _ code hmon hasked =>
      cases hq
      have hgone : w'.monitor.entry? path = none := by
        simp [hmon, Monitor.entry?_forget, Path.same_refl]
      refine ⟨⟨code, rfl⟩, fun q => hmon ▸ Monitor.entry?_forget .., fun hsize => ?_, hasked, ?_⟩
      · rw [hmon]
        exact Monitor.reserve_forget hsize hentry
      · intro later hlater
        rw [← hlater] at hgone
        simp [step, Monitor.take, hgone]
    | @joined _ result hresult =>
      rcases hresult with rfl | rfl
      · cases hq
      · cases hq
        exact absurd rfl hjoin
    | _ => cases hq

end Watch

namespace Watching

/-- A path was registered with descriptor 6, on a host where the next wake-up fails. -/
def watched : Watching :=
  let monitor : Monitor := { capacity := 1, intervalMs := 250 }
  let host : Host := { faults := [(.wake, 5)] }
  (drive (.reserving WatchScene.desk 6 {} false) { crew := { host }, monitor }).2

/-- The same monitor after the path was unregistered. -/
def unregistered : Watching := (watched.drive (.taking WatchScene.desk)).2

/-- The watcher is gone, and its path can be registered anew. -/
theorem watched_failed_unregister :
    watched.monitor.entry? WatchScene.desk = some (some ⟨6, 0⟩) ∧
      Watch.Alone (.taking WatchScene.desk) watched (.finished (.error (.osCall "wake" 5)))
        unregistered ∧
      unregistered.monitor.entry? WatchScene.desk = none ∧
      ∃ m, unregistered.monitor.reserve WatchScene.desk = .ok m := by
  have hentry : watched.monitor.entry? WatchScene.desk = some (some ⟨6, 0⟩) := by rfl
  have hdrive : (watched.drive (.taking WatchScene.desk)).1 =
      .finished (.error (.osCall "wake" 5)) := by rfl
  have ha := watched.drive_alone (.taking WatchScene.desk)
  rw [hdrive] at ha
  have hsize : watched.monitor.entries.length ≤ watched.monitor.capacity := by decide
  have hlost := ha.failed_unregister (by decide)
  rw [hentry] at hlost
  obtain ⟨-, hgone, hfree, -⟩ := hlost
  exact ⟨hentry, ha, hgone WatchScene.desk, hfree hsize⟩

/-- The next unregistration of the path is refused, so the thread is never joined, although it has
not ended. -/
theorem lost_watcher :
    (watched.drive (.taking WatchScene.desk)).1 = .finished (.error (.osCall "wake" 5)) ∧
      watched.monitor.descriptor? WatchScene.desk = some 6 ∧
      unregistered.monitor.descriptor? WatchScene.desk = none ∧
      unregistered.crew.hasEnded 0 = false ∧
      (unregistered.drive (.taking WatchScene.desk)).1 =
        .finished (.error (.notRegistered WatchScene.desk.display)) ∧
      (unregistered.drive (.reserving WatchScene.desk 7 {} false)).1 = .finished (.ok ()) := by
  refine ⟨rfl, rfl, rfl, rfl, rfl, rfl⟩

end Watching

end SerialLine
