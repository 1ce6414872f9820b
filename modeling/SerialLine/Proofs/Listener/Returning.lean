import SerialLine.Proofs.Listener.Ending
import SerialLine.Proofs.Listener.Retry

/-!
# SerialLine.Proofs.Listener.Returning — a stop returns, and can be tried again until it succeeds

A stop waits for nobody but the thread that it has asked to end and woken. `Call.Fair` is an
endless course of turns of a stop and of all threads in which nobody who can go on is passed over
for ever. The two measures are the turns that the stop has left and the steps that the thread has
left; in such a course both come to nothing.
-/

namespace SerialLine

/-! ## Endless courses -/

namespace Call

/-- One turn of what may happen while a call is alone: nothing, or one step. -/
inductive Turn : Position × Listening → Position × Listening → Prop where
  | pass (x : Position × Listening) : Turn x x
  | own {p p' : Position} {w w' : Listening} (hstep : step p w = some (p', w')) :
    Turn (p, w) (p', w')
  | thread {p : Position} {w : Listening} {crew : Crew} (e : Crew.Event)
    (hevent : w.crew.after? e = some crew) : Turn (p, w) (p, { w with crew })
  | outside {p : Position} {w : Listening} (host : Host) (gates : List (Fd × Gate)) :
    Turn (p, w) (p, w.mapCrew fun c => { c with host, gates })

/-- An endless course of turns in which the call and a thread are never passed over for ever. -/
structure Fair (t : ThreadId) (x : Nat → Position × Listening) : Prop where
  turn : ∀ n, Turn (x n) (x (n + 1))
  /-- A call that can go on from some time on does so. -/
  call : ∀ n, (∀ m, n ≤ m → (step (x m).1 (x m).2).isSome = true) →
    ∃ m, n ≤ m ∧ (x m).1 ≠ (x n).1
  /-- So does the thread: the user's code returns, gates open, and the system interrupts no wait
  and no read for ever. -/
  thread : ∀ n th, (x n).2.crew.thread? t = some th →
    (∀ m, n ≤ m → (x m).2.crew.IsAwake t) →
    ∃ m th', n ≤ m ∧ (x m).2.crew.thread? t = some th' ∧ ¬ th.Lingers th'
  /-- The system takes no counter to be full that is not. -/
  honest : ∀ n, ((x n).2.crew.host.takeFault .wake).1 ≠ some .EAGAIN

/-- The turns that a stop has left. -/
def Position.turnsLeft : Position → Nat
  | .unregistering .. => 7
  | .stopping .. => 6
  | .cancelling .. => 5
  | .waking .. => 4
  | .joining .. => 3
  | .clearing .. => 2
  | .reclaiming .. | .restoring .. => 1
  | _ => 0

variable {r : Registry} {slot : SlotId} {k : ListenerKind} {t : ThreadId} {p p' : Position}
  {w w' : Listening} {x : Nat → Position × Listening} {n m : Nat}

theorem Turn.alone {y z : Position × Listening} (h : Turn y z) : Alone y.1 y.2 z.1 z.2 := by
  cases h with
  | pass => exact .refl
  | own hstep => exact .own .refl hstep
  | thread e hevent => exact .thread e .refl hevent
  | outside host gates => exact .outside host gates .refl

/-- A stop that is not over can go on whatever the threads are at, but for the join. -/
theorem Position.goesOn (hp : p.turnsLeft ≠ 0) (hjoin : ∀ s k t, p ≠ .joining s k t)
    (w : Listening) : (step p w).isSome = true := by
  cases p with
  | unregistering | stopping | waking =>
    simp only [step]
    split <;> rfl
  | joining s k t => exact absurd rfl (hjoin s k t)
  | cancelling | restoring | clearing | reclaiming => rfl
  | _ => exact absurd rfl hp

/-- Each step of a stop takes one of the turns that are left. -/
theorem Edge.turnsLeft (he : Edge w p p' w') : p'.turnsLeft ≤ p.turnsLeft - 1 := by
  cases he with
  | @freed _ _ _ giveBack => cases giveBack <;> simp [Position.turnsLeft]
  | _ => simp [Position.turnsLeft]

theorem Turn.turnsLeft {y z : Position × Listening} (h : Turn y z) :
    z.1 = y.1 ∨ z.1.turnsLeft ≤ y.1.turnsLeft - 1 := by
  cases h with
  | own hstep => exact .inr (step_edge hstep).turnsLeft
  | pass | thread | outside => exact .inl rfl

namespace Fair

theorem alone (hf : Fair t x) (hle : n ≤ m) : Alone (x n).1 (x n).2 (x m).1 (x m).2 := by
  induction hle with
  | refl => exact .refl
  | step _ ih => exact ih.trans (hf.turn _).alone

/-- The call is where it was, or it has fewer turns left. -/
theorem turnsLeft (hf : Fair t x) (hle : n ≤ m) :
    (x m).1 = (x n).1 ∨ (x m).1.turnsLeft ≤ (x n).1.turnsLeft - 1 := by
  induction hle with
  | refl => exact .inl rfl
  | @step m _ ih =>
    rcases (hf.turn m).turnsLeft with hsame | hless
    · rwa [hsame]
    · rcases ih with hstill | hless'
      · rw [hstill] at hless
        exact .inr hless
      · exact .inr (Nat.le_trans hless (Nat.le_trans (Nat.sub_le _ _) hless'))

/-- A call that can go on where it stands comes on. -/
theorem goesOn (hf : Fair t x)
    (hgo : ∀ m, n ≤ m → (x m).1 = (x n).1 → (step (x m).1 (x m).2).isSome = true) :
    ∃ m, n ≤ m ∧ (x m).1 ≠ (x n).1 := by
  by_contra hnone
  have hstays : ∀ m, n ≤ m → (x m).1 = (x n).1 := by
    intro m hle
    by_contra hne
    exact hnone ⟨m, hle, hne⟩
  exact hnone (hf.call n fun m hle => hgo m hle (hstays m hle))

/-! ## The join -/

section Joining

variable {th th' : Thread} (hf : Fair t x) (hjoining : ∀ m, n ≤ m → (x m).1 = .joining slot k t)
  (hyields : (x n).2.crew.Yields t)

include hf hjoining

/-- While a stop waits for the thread, the thread goes on by itself. -/
theorem thread_turn (hle : n ≤ m) (ht : (x m).2.crew.thread? t = some th) :
    ∃ th', (x (m + 1)).2.crew.thread? t = some th' ∧
      (th' = th ∨ ∃ h' items, th.Step (x m).2.crew.host h' th' items) := by
  have hnow := hjoining m hle
  have hnext := hjoining (m + 1) (Nat.le_succ_of_le hle)
  have hturn := hf.turn m
  generalize x m = y, x (m + 1) = z at *
  cases hturn with
  | pass => exact ⟨th, ht, .inl rfl⟩
  | own hstep =>
    obtain rfl : _ = Position.joining slot k t := hnow
    cases step_edge hstep with
    | joined => cases hnext
  | thread e hevent =>
    obtain ⟨th', ht', hth | ⟨items, hstep, -⟩⟩ := Crew.thread_event hevent ht
    · exact ⟨th', ht', .inl hth⟩
    · exact ⟨th', ht', .inr ⟨_, items, hstep⟩⟩
  | outside => exact ⟨th, ht, .inl rfl⟩

include hyields

theorem yields (hle : n ≤ m) : (x m).2.crew.Yields t := by
  induction hle with
  | refl => exact hyields
  | step hle ih =>
    obtain ⟨th, ht, hheeds, hstarted⟩ := ih
    obtain ⟨th', ht', rfl | ⟨h', items, hstep⟩⟩ := hf.thread_turn hjoining hle ht
    · exact ⟨_, ht', hheeds, hstarted⟩
    · exact ⟨th', ht', hstep.heeds hheeds, hstep.started hstarted⟩

/-- The thread is where it was, or it has fewer steps left. -/
theorem stepsLeft (hle : n ≤ m) (ht : (x n).2.crew.thread? t = some th)
    (ht' : (x m).2.crew.thread? t = some th') :
    th'.body.stepsLeft < th.body.stepsLeft ∨ th.Lingers th' := by
  induction hle generalizing th' with
  | refl =>
    obtain rfl := Option.some.inj (ht.symm.trans ht')
    exact .inr (.inl rfl)
  | step hle ih =>
    obtain ⟨th₁, ht₁, hheeds, hstarted⟩ := hf.yields hjoining hyields hle
    obtain ⟨th₂, ht₂, hth₂⟩ := hf.thread_turn hjoining hle ht₁
    obtain rfl := Option.some.inj (ht'.symm.trans ht₂)
    have hlast : th'.body.stepsLeft < th₁.body.stepsLeft ∨ th₁.Lingers th' := by
      rcases hth₂ with rfl | ⟨h', items, hstep⟩
      · exact .inr (.inl rfl)
      · exact hstep.stepsLeft hheeds.cancelled hstarted
    rcases ih ht₁ with hless | hstill
    · rcases hlast with hless' | hstill'
      · exact .inl (Nat.lt_trans hless' hless)
      · exact .inl (hstill'.stepsLeft_eq ▸ hless)
    · rcases hlast with hless' | hstill'
      · exact .inl (hstill.stepsLeft_eq ▸ hless')
      · exact .inr (hstill.trans hstill')

/-- A thread that is waited for comes to its end. -/
theorem comesToEnd :
    ∃ m th, n ≤ m ∧ (x m).2.crew.thread? t = some th ∧ th.body.hasEnded = true := by
  obtain ⟨th, ht, -⟩ := hf.yields hjoining hyields (Nat.le_refl n)
  -- on the steps that the thread has left
  generalize hb : th.body.stepsLeft = b
  induction b using Nat.strongRecOn generalizing n th with
  | ind b ih =>
    by_contra hnone
    have hawake : ∀ m, n ≤ m → (x m).2.crew.IsAwake t := by
      intro m hle
      obtain ⟨th', ht', hheeds, -⟩ := hf.yields hjoining hyields hle
      refine Crew.isAwake ht' hheeds ?_
      rw [← Bool.not_eq_true]
      exact fun hend => hnone ⟨m, th', hle, ht', hend⟩
    obtain ⟨m, th', hle, ht', hmoved⟩ := hf.thread n th ht hawake
    have hless := (hf.stepsLeft hjoining hyields hle ht ht').resolve_right hmoved
    have hlater := fun m' hle' => hjoining m' (Nat.le_trans hle hle')
    obtain ⟨m', th'', hle', hended⟩ :=
      ih _ (hb ▸ hless) hlater (hf.yields hjoining hyields hle) th' ht' rfl
    exact hnone ⟨m', th'', Nat.le_trans hle hle', hended⟩

omit hyields in
/-- A thread that has ended stays so. -/
theorem staysEnded (hle : n ≤ m) {m' : Nat} (hle' : m ≤ m')
    (hthere : ∃ th, (x m).2.crew.thread? t = some th ∧ th.body.hasEnded = true) :
    ∃ th, (x m').2.crew.thread? t = some th ∧ th.body.hasEnded = true := by
  induction hle' with
  | refl => exact hthere
  | step hle' ih =>
    obtain ⟨th, ht, hend⟩ := ih
    obtain ⟨th', ht', rfl | ⟨h', items, hstep⟩⟩ :=
      hf.thread_turn hjoining (Nat.le_trans hle hle') ht
    · exact ⟨_, ht', hend⟩
    · exact ⟨th', ht', hstep.stays.2.2 hend⟩

end Joining

/-- A stop does not wait for ever for a thread that heeds its wake-up. -/
theorem joins (hf : Fair t x) (hn : (x n).1 = .joining slot k t)
    (hyields : (x n).2.crew.Yields t) : ∃ m, n ≤ m ∧ (x m).1 ≠ (x n).1 := by
  by_contra hnone
  have hjoining : ∀ m, n ≤ m → (x m).1 = .joining slot k t := by
    intro m hle
    by_contra hne
    exact hnone ⟨m, hle, hn ▸ hne⟩
  obtain ⟨m, th, hle, ht, hend⟩ := hf.comesToEnd hjoining hyields
  -- the join can be done from now on
  have hgo : ∀ m', m ≤ m' → (step (x m').1 (x m').2).isSome = true := by
    intro m' hle'
    obtain ⟨th', ht', hend'⟩ := hf.staysEnded hjoining hle hle' ⟨th, ht, hend⟩
    rw [hjoining m' (Nat.le_trans hle hle')]
    simp only [step, Crew.joined?, ht', hend']
    cases th'.body.hasPanicked <;> rfl
  obtain ⟨m', hle', hne⟩ := hf.call m hgo
  exact hne ((hjoining m' (Nat.le_trans hle hle')).trans (hjoining m hle).symm)

/-! ## The whole stop -/

section Stop

variable (hf : Fair t x) (hstart : x 0 = (.stopping slot k, w))
  (hrun : w.registry.seat slot k = .running t) (hsteady : w.crew.IsSteady t)

include hf hstart hrun hsteady

theorem stopping (n : Nat) : Stopping w.registry slot k t (x n).1 (x n).2 := by
  have ha := hf.alone (Nat.zero_le n)
  rw [hstart] at ha
  exact ha.stopping hrun (.begun rfl hsteady.lt_length)

/-- Where a stop waits for the thread, the thread heeds the wake-up. -/
theorem awaited (n : Nat) (hn : (x n).1 = .joining slot k t) : (x n).2.crew.Yields t := by
  induction n with
  | zero =>
    rw [hstart] at hn
    cases hn
  | succ n ih =>
    have hstopping := hf.stopping hstart hrun hsteady n
    have hsteady' : (x n).2.crew.IsSteady t := by
      have ha := hf.alone (Nat.zero_le n)
      rw [hstart] at ha
      exact ha.isSteady hsteady
    have hhonest := hf.honest n
    have hturn := hf.turn n
    generalize x n = y, x (n + 1) = z at *
    cases hturn with
    | pass => exact ih hn
    | own hstep =>
      cases step_edge hstep with
      | woken hwake =>
        cases hstopping with
        | cancelled _ hasked => exact Crew.yields_of_wake hsteady'.started hasked hwake hhonest
      | @freed _ _ _ giveBack => cases giveBack <;> cases hn
      | _ => cases hn
    | thread e hevent => exact (ih hn).event hevent
    | outside => exact ih hn

/-- A stop comes on wherever it stands. -/
theorem comesOn (n : Nat) : (∃ result, (x n).1 = .finished result) ∨
    ((x n).1.turnsLeft ≠ 0 ∧ ∃ m, n ≤ m ∧ (x m).1 ≠ (x n).1) := by
  have hstopping := hf.stopping hstart hrun hsteady n
  have hfree : (x n).1.turnsLeft ≠ 0 → (∀ s k t, (x n).1 ≠ .joining s k t) →
      ∃ m, n ≤ m ∧ (x m).1 ≠ (x n).1 := by
    intro hleft hjoin
    refine hf.goesOn fun m _ hm => ?_
    rw [hm]
    exact Position.goesOn hleft hjoin _
  generalize hp : (x n).1 = p, (x n).2 = w' at hstopping hfree
  cases hstopping with
  | restored | ended => exact .inl ⟨_, rfl⟩
  | woken =>
    have hmoved := hf.joins hp (hf.awaited hstart hrun hsteady n hp)
    exact .inr ⟨by simp [Position.turnsLeft], hp ▸ hmoved⟩
  | sought | begun | lifted | cancelled | unwoken | joined | cleared =>
    exact .inr ⟨by simp [Position.turnsLeft], hfree (by simp [Position.turnsLeft]) nofun⟩

/-- A stop returns. -/
theorem returns : ∃ n result, (x n).1 = .finished result := by
  -- on the turns that the stop has left
  suffices hfrom : ∀ b n, (x n).1.turnsLeft = b → ∃ m result, (x m).1 = .finished result from
    hfrom _ 0 rfl
  intro b
  induction b using Nat.strongRecOn with
  | ind b ih =>
    intro n hb
    rcases hf.comesOn hstart hrun hsteady n with ⟨result, hresult⟩ | ⟨hleft, m, hle, hmoved⟩
    · exact ⟨n, result, hresult⟩
    · have hless := (hf.turnsLeft hle).resolve_left hmoved
      exact ih _ (by omega) m rfl

end Stop

end Fair

/-! ## Courses without threads -/

/-- A call that goes on for itself until it is over or has to wait. -/
def inOneGo (p : Position) (w : Listening) : Nat → Position × Listening
  | 0 => (p, w)
  | n + 1 => (step (inOneGo p w n).1 (inOneGo p w n).2).getD (inOneGo p w n)

theorem turn_inOneGo (p : Position) (w : Listening) (n : Nat) :
    Turn (inOneGo p w n) (inOneGo p w (n + 1)) := by
  simp only [inOneGo]
  generalize inOneGo p w n = y
  cases hstep : step y.1 y.2 with
  | none => exact .pass y
  | some z => exact .own hstep

theorem alone_inOneGo (p : Position) (w : Listening) (n : Nat) :
    Alone p w (inOneGo p w n).1 (inOneGo p w n).2 := by
  induction n with
  | zero => exact .refl
  | succ n ih => exact ih.trans (turn_inOneGo p w n).alone

/-- A call that is over stays so. -/
theorem inOneGo_finished {p : Position} {w : Listening} {n m : Nat} {result : Outcome SlotId}
    (hend : (inOneGo p w n).1 = .finished result) (hle : n ≤ m) :
    inOneGo p w m = inOneGo p w n := by
  induction hle with
  | refl => rfl
  | step _ ih =>
    simp only [inOneGo, ih, hend]
    rfl

/-- A course without threads is fair if the call comes to its end and the thread has nothing to
do. -/
theorem Fair.inOneGo {p : Position} {w : Listening} {t : ThreadId} {n : Nat}
    {result : Outcome SlotId} (hend : (Call.inOneGo p w n).1 = .finished result)
    (hidle : ¬ (Call.inOneGo p w n).2.crew.IsAwake t)
    (hhonest : ∀ m ≤ n, ((Call.inOneGo p w m).2.crew.host.takeFault .wake).1 ≠ some .EAGAIN) :
    Fair t (Call.inOneGo p w) where
  turn := turn_inOneGo p w
  call m hgo := by
    have hlast := hgo (max n m) (Nat.le_max_right n m)
    rw [inOneGo_finished hend (Nat.le_max_left n m), hend] at hlast
    cases hlast
  thread m th _ hawake := by
    have hlast := hawake (max n m) (Nat.le_max_right n m)
    rw [inOneGo_finished hend (Nat.le_max_left n m)] at hlast
    exact absurd hlast hidle
  honest m := by
    rcases Nat.le_total m n with hle | hle
    · exact hhonest m hle
    · rw [inOneGo_finished hend hle]
      exact hhonest n (Nat.le_refl n)

end Call

/-! ## Trying again -/

/-- What happens to threads may happen while a call is alone. -/
theorem Call.Alone.events {p : Position} {w : Listening} (events : List Crew.Event) {crew : Crew}
    (h : events.foldlM Crew.after? w.crew = some crew) : Alone p w p { w with crew } := by
  induction events generalizing w with
  | nil =>
    obtain rfl := Option.some.inj h
    exact .refl
  | cons e events ih =>
    rw [List.foldlM_cons] at h
    obtain ⟨crew', hevent, hrest⟩ := Option.bind_eq_some_iff.mp h
    exact (Alone.thread e .refl hevent).trans (ih hrest)

namespace Call

variable {slot : SlotId} {k : ListenerKind} {t : ThreadId} {w w' : Listening} {n : Nat}

/-- A stop that has returned tells how its wake-up came out. -/
theorem Alone.woken_of_finished {result : Outcome SlotId}
    (ha : Alone (.stopping slot k) w (.finished result) w')
    (hrun : w.registry.seat slot k = .running t) (hsteady : w.crew.IsSteady t) :
    Woken slot k w (result.map fun _ => ()) (.finished result) w' := by
  rcases ha.woken hrun with ⟨hp, -⟩ | ⟨hp | hp, -⟩ | ⟨e | _, hwoken⟩
  · cases hp
  · cases hp
  · cases hp
  · obtain ⟨-, ⟨hp, -⟩ | ⟨hp, -⟩⟩ := hwoken.failed hrun hsteady.lt_length
    · cases hp
    · cases hp
      exact hwoken
  · obtain ⟨hending, -⟩ := hwoken.ending hrun hsteady
    cases hending
    exact hwoken

theorem woken_inOneGo {result : Outcome SlotId}
    (h : inOneGo (.stopping slot k) w n = (.finished result, w'))
    (hrun : w.registry.seat slot k = .running t) (hsteady : w.crew.IsSteady t) :
    Woken slot k w (result.map fun _ => ()) (.finished result) w' := by
  have ha := alone_inOneGo (.stopping slot k) w n
  rw [h] at ha
  exact ha.woken_of_finished hrun hsteady

/-- Stops that fail leave the registry as it was, and the thread where it can be stopped. -/
theorem FailedStops.leave (h : FailedStops slot k w n w')
    (hrun : w.registry.seat slot k = .running t) (hsteady : w.crew.IsSteady t) :
    w'.registry = w.registry ∧ w'.crew.IsSteady t := by
  induction h with
  | none => exact ⟨rfl, hsteady⟩
  | next _ hwoken ih =>
    obtain ⟨hreg, hsteady₁⟩ := ih
    have hrun₁ := hreg ▸ hrun
    have hlast : _ ∧ _ := ⟨hwoken.failed hrun₁ hsteady₁.lt_length, hwoken.alone.isSteady hsteady₁⟩
    obtain ⟨⟨-, ⟨hp, -⟩ | ⟨-, hreg'⟩⟩, hsteady₂⟩ := hlast
    · cases hp
    · exact ⟨hreg'.trans hreg, hsteady₂⟩

end Call

namespace Scene

variable {s : Scene} {capacity : Nat} {settings : ListenerSettings}

/-- A thread at its seat can be stopped as long as its callback does not panic. -/
theorem Reachable.isSteady (h : s.Reachable capacity settings) {slot : SlotId} {k : ListenerKind}
    {t : ThreadId} {th : Thread} (hrun : s.registry.seat slot k = .running t)
    (hth : s.crew.thread? t = some th) (hcalm : th.callback.IsCalm) : s.crew.IsSteady t := by
  obtain ⟨th', hth', harmed⟩ := h.armed.seated slot k t hrun
  obtain rfl := Option.some.inj (hth.symm.trans hth')
  exact ⟨th, hth, harmed, hcalm, h.armed.told t th hth⟩

/-- A stop can be tried again until it succeeds, whatever the thread is at and whether it has ended
by itself. However many stops have failed to wake it, the registry is as it was. Until a wake-up
succeeds the kind stays occupied, and a stop whose wake-up fails answers with that failure. One
whose wake-up succeeds answers with the slot and has vacated the kind. In every fair course a stop
comes to one of the two. -/
theorem Reachable.stop_retried (h : s.Reachable capacity settings) {slot : SlotId}
    {k : ListenerKind} {t : ThreadId} {th : Thread} (hrun : s.registry.seat slot k = .running t)
    (hth : s.crew.thread? t = some th) (hcalm : th.callback.IsCalm) {n : Nat} {w : Listening}
    (hfailed : Call.FailedStops slot k s.listening n w) :
    w.registry = s.registry ∧
    (∀ p w', Call.Alone (.stopping slot k) w p w' → ¬ Call.Woken slot k w (.ok ()) p w' →
      Call.Occupied s.registry slot k w') ∧
    (∀ e p w', Call.Woken slot k w (.error e) p w' → (∃ code, e = .osCall "wake" code) ∧
      ((p = .finished (.error e) ∧ w'.registry = s.registry) ∨
        Call.step p w' = some (.finished (.error e), { w' with registry := s.registry }))) ∧
    (∀ result w', Call.Woken slot k w (.ok ()) (.finished result) w' →
      result = .ok slot ∧ Call.Vacated s.registry slot k t w') ∧
    (∀ x, Call.Fair t x → x 0 = (.stopping slot k, w) →
      ∃ m outcome result, (x m).1 = .finished result ∧
        Call.Woken slot k w outcome (x m).1 (x m).2) := by
  have hsound : s.registry.Sound := h.inv.sound
  obtain ⟨hreg, hsteady⟩ := hfailed.leave hrun (h.isSteady hrun hth hcalm)
  replace hreg : w.registry = s.registry := hreg
  have hrun' : w.registry.seat slot k = .running t := hreg ▸ hrun
  refine ⟨hreg, ?_, ?_, ?_, ?_⟩
  · intro p w' ha hnot
    refine Call.occupied hsound hrun ?_
    rcases ha.woken hrun' with ⟨-, hsame⟩ | ⟨-, hlifted⟩ | ⟨e | _, hwoken⟩
    · exact .inl (hsame.trans hreg)
    · exact .inr (hreg ▸ hlifted)
    · rcases (hwoken.failed hrun' hsteady.lt_length).2 with ⟨-, hlifted⟩ | ⟨-, hsame⟩
      · exact .inr (hreg ▸ hlifted)
      · exact .inl (hsame.trans hreg)
    · exact absurd hwoken hnot
  · intro e p w' hwoken
    obtain ⟨hcode, ⟨rfl, hlifted⟩ | ⟨rfl, hsame⟩⟩ := hwoken.failed hrun' hsteady.lt_length
    · refine ⟨hcode, .inr ?_⟩
      have hback := Registry.setSeat_setSeat slot k .stopping s.registry
      rw [hrun] at hback
      simp only [Call.step, hlifted, hreg, hback]
      rfl
    · exact ⟨hcode, .inl ⟨rfl, hsame.trans hreg⟩⟩
  · intro result w' hwoken
    obtain ⟨hending, hasked⟩ := hwoken.ending hrun' hsteady
    cases hending with
    | ended hvacant hend => exact ⟨rfl, Call.vacated hsound hrun (hreg ▸ hvacant) hend hasked⟩
  · intro x hf hstart
    obtain ⟨m, result, hm⟩ := hf.returns hstart hrun' hsteady
    have ha := hf.alone (Nat.zero_le m)
    rw [hstart] at ha
    rcases ha.woken hrun' with ⟨hp, -⟩ | ⟨hp | hp, -⟩ | ⟨outcome, hwoken⟩
    · cases hm.symm.trans hp
    · cases hm.symm.trans hp
    · cases hm.symm.trans hp
    · exact ⟨m, outcome, result, hm, hwoken⟩

/-- A host with a pipe at descriptor 3 on which the next two wake-ups fail. -/
def stubborn : Host := { StreamRun.piped [] with faults := [(.wake, 5), (.wake, 5)] }

/-- The writer has hung up, and one more wake-up fails. -/
def forsaken : Host where
  descriptors := [(3, .stream (some 0) none false)]
  channels := [(0, { writerOpen := false })]
  faults := [(.wake, 5)]

/-- The first stop finds the thread waiting. Then the writer hangs up and the thread ends by
itself. The second stop fails as well, and the third one succeeds. -/
theorem forsaken_stop_retried :
    ∃ s w w', (start 1 {} stubborn []).run? waiting = some s ∧
      s.registry.seat 0 .data = .running 0 ∧ Call.FailedStops 0 .data s.listening 2 w ∧
      w.registry = s.registry ∧ w.crew.hasEnded 0 = true ∧
      Call.Fair 0 (Call.inOneGo (.stopping 0 .data) w) ∧
      Call.inOneGo (.stopping 0 .data) w 6 = (.finished (.ok 0), w') ∧
      Call.Vacated s.registry 0 .data 0 w' ∧ w'.registry.table = [] := by
  obtain ⟨s, w₁, crew, w₂, w₃, hwaiting, hrun, ⟨th, hth, hcalm⟩, hfirst, hgone, hsecond, hended,
      hthird, hempty, hfaults, hrest, th', hth', hfree, chunk, gated, hbody⟩ :
      ∃ s w₁ crew w₂ w₃, (start 1 {} stubborn []).run? waiting = some s ∧
        s.registry.seat 0 .data = .running 0 ∧
        (∃ th, s.crew.thread? 0 = some th ∧ th.callback.IsCalm) ∧
        Call.inOneGo (.stopping 0 .data) s.listening 4 =
          (.finished (.error (.osCall "wake" 5)), w₁) ∧
        (List.replicate 2 (Crew.Event.step 0)).foldlM Crew.after?
          { w₁.crew with host := forsaken, gates := [] } = some crew ∧
        Call.inOneGo (.stopping 0 .data) { w₁ with crew } 4 =
          (.finished (.error (.osCall "wake" 5)), w₂) ∧
        w₂.crew.hasEnded 0 = true ∧
        Call.inOneGo (.stopping 0 .data) w₂ 6 = (.finished (.ok 0), w₃) ∧
        w₃.registry.table = [] ∧
        (∀ m ≤ 6, (Call.inOneGo (.stopping 0 .data) w₂ m).2.crew.host.faults = []) ∧
        w₃.crew.step 0 = none ∧
        ∃ th, w₃.crew.thread? 0 = some th ∧ th.held = false ∧
          ∃ chunk gated, th.body = .data .gone chunk gated :=
    ⟨_, _, _, _, _, rfl, rfl, ⟨_, rfl, fun _ => nofun⟩, rfl, rfl, rfl, rfl, rfl, rfl,
      by decide, rfl, _, rfl, rfl, _, _, rfl⟩
  have hreach := Reachable.run (.start stubborn []) hwaiting
  have hsteady := hreach.isSteady hrun hth hcalm
  have hwoken₁ := Call.woken_inOneGo hfirst hrun hsteady
  have hends : Call.Alone (.finished (.error (.osCall "wake" 5))) w₁ _ { w₁ with crew } :=
    (Call.Alone.outside forsaken [] .refl).trans (.events _ hgone)
  have hone : Call.FailedStops 0 .data s.listening 1 { w₁ with crew } :=
    .next .none (hwoken₁.later hends)
  obtain ⟨hreg₁, hsteady₁⟩ := hone.leave hrun hsteady
  have hwoken₂ := Call.woken_inOneGo hsecond (hreg₁ ▸ hrun) hsteady₁
  have htwo : Call.FailedStops 0 .data s.listening 2 w₂ := .next hone hwoken₂
  obtain ⟨hreg₂, hsteady₂⟩ := htwo.leave hrun hsteady
  have hwoken₃ := Call.woken_inOneGo hthird (hreg₂ ▸ hrun) hsteady₂
  obtain ⟨hsame, -, -, hsucceeded, -⟩ := hreach.stop_retried hrun hth hcalm htwo
  have hlast : (Call.inOneGo (.stopping 0 .data) w₂ 6).1 = .finished (.ok 0) := by rw [hthird]
  have hfair : Call.Fair 0 (Call.inOneGo (.stopping 0 .data) w₂) := by
    refine .inOneGo hlast ?_ fun m hm => ?_
    · rw [hthird]
      rintro (hsteps | ⟨th₁, hth₁, hkept⟩)
      · simp [hrest] at hsteps
      · obtain rfl := Option.some.inj (hth'.symm.trans hth₁)
        simp [hfree, hbody] at hkept
    · simp [Host.takeFault, hfaults m hm, Host.takeFrom]
  exact ⟨s, w₂, w₃, hwaiting, hrun, htwo, hsame, hended, hfair, hthird, (hsucceeded _ _ hwoken₃).2,
    hempty⟩

end Scene

end SerialLine
