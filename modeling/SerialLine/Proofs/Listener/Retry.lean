import SerialLine.Proofs.Listener.Armed
import SerialLine.Proofs.Listener.FailedRegister
import SerialLine.Proofs.Listener.FailedStop

/-!
# SerialLine.Proofs.Listener.Retry — stops that are tried again

A stop takes the thread off its seat and puts it back if the wake-up fails, so that it can be tried
again; the seat is taken all the while. `Call.Woken` is a stop that is alone and has had its
wake-up, with what came of it. `Call.FailedStops` is any number of stops one after another whose
wake-ups fail. Threads do whatever they can meanwhile, and end for reasons of their own.
-/

namespace SerialLine

/-! ## The registry -/

namespace Registry

variable {r : Registry} {s : SlotId} {k : ListenerKind}

/-- Of two changes of a seat the second one counts. -/
theorem setSeat_again (s : SlotId) (k : ListenerKind) (x y : Seat) (r : Registry) :
    (r.setSeat s k x).setSeat s k y = r.setSeat s k y := by
  cases hslot : r.slots[s]? with
  | none => simp [setSeat, hslot]
  | some slot =>
    have hlt := (List.getElem?_eq_some_iff.mp hslot).1
    have hset : (r.slots.set s (slot.setSeat k x))[s]? = some (slot.setSeat k x) :=
      List.getElem?_set_self hlt
    simp only [setSeat, hslot, hset, List.set_set]
    cases k <;> rfl

/-- A seat that is taken cannot be taken on its slot, -/
theorem reserveOn_busy (hcur : r.isCurrent s = true) (hbusy : r.seat s k ≠ .idle) :
    r.reserveOn s k = .error (.alreadyRegistered (k.key (r.fdOf s))) := by
  simp [reserveOn, reserve, hcur, hbusy]

/-- nor for its descriptor. -/
theorem reserveFor_busy (hcur : r.isCurrent s = true) (hbusy : r.seat s k ≠ .idle) :
    r.reserveFor (r.fdOf s) k = (.occupied s (.alreadyRegistered (k.key (r.fdOf s))), r) := by
  rw [reserveFor, (isCurrent_iff.mp hcur).2]
  exact seatOn_busy hbusy

/-- A seat that is freed before its slot is given back leaves the slot in the table for the other
kind alone. -/
theorem Sound.isCurrent_vacated (hr : r.Sound) (hbusy : r.seat s k ≠ .idle) :
    ((r.setSeat s k .idle).release s).isCurrent s = true ↔
      ∃ k', k' ≠ k ∧ r.isActive s k' = true := by
  have hcur := hr.current s k hbusy
  have hcur' : (r.setSeat s k .idle).isCurrent s = true := by rwa [isCurrent_setSeat]
  have hother : ∀ k', k' ≠ k → (r.setSeat s k .idle).seat s k' = r.seat s k' :=
    fun k' hne => seat_setSeat_ne _ _ fun _ => hne
  by_cases hvacant : (r.setSeat s k .idle).IsVacant s
  · have hgone : ((r.setSeat s k .idle).release s).isCurrent s ≠ true := by
      intro hback
      have hslot := (isCurrent_iff.mp hback).2
      rw [fdOf_release, hvacant.release, slotOf?_filter, if_pos rfl] at hslot
      cases hslot
    refine iff_of_false hgone ?_
    rintro ⟨k', hne, hactive⟩
    exact isActive_iff.mp hactive ((hother k' hne).symm.trans (hvacant.2 k'))
  · rw [release_of_not_vacant hvacant]
    refine iff_of_true hcur' ?_
    by_contra hnone
    refine hvacant ⟨hcur', fun k' => ?_⟩
    by_cases hk : k' = k
    · rw [hk]
      exact seat_setSeat_self _ _ _ (isCurrent_iff.mp hcur).1
    · rw [hother k' hk]
      by_contra hactive
      exact hnone ⟨k', hk, isActive_iff.mpr hactive⟩

/-- A seat that was freed can be taken again, on the slot that is still there or on a new one in
the room of the old one. -/
theorem Sound.reserveFor_vacated (hr : r.Sound) (hbusy : r.seat s k ≠ .idle) :
    ∃ s' r', ((r.setSeat s k .idle).release s).reserveFor (r.fdOf s) k = (.taken s', r') := by
  have hcur := hr.current s k hbusy
  obtain ⟨hlt, hslot⟩ := isCurrent_iff.mp hcur
  have hidle : ((r.setSeat s k .idle).release s).seat s k = .idle := by
    rw [seat_release]
    exact seat_setSeat_self _ _ _ hlt
  have hspec := ((r.setSeat s k .idle).release s).reserveFor_spec (r.fdOf s) k
  generalize hres : ((r.setSeat s k .idle).release s).reserveFor (r.fdOf s) k = res at hspec
  rcases release_cases s (r.setSeat s k .idle) with hsame | ⟨-, -, -, hdrop⟩
  · -- the slot is still there
    rw [hsame] at hspec hidle
    cases hspec with
    | taken => exact ⟨_, _, rfl⟩
    | occupied hslot' hbusy' =>
      rw [slotOf?_setSeat, hslot] at hslot'
      obtain rfl := Option.some.inj hslot'
      exact absurd hidle hbusy'
    | full hnone =>
      rw [slotOf?_setSeat, hslot] at hnone
      cases hnone
  · rw [hdrop, fdOf_setSeat] at hspec
    cases hspec with
    | taken => exact ⟨_, _, rfl⟩
    | occupied hslot' =>
      rw [slotOf?_filter, if_pos rfl] at hslot'
      cases hslot'
    | full _ hroom =>
      -- an entry has left the table, so it is not full
      have hmem : (r.fdOf s, s) ∈ r.table := mem_table_of_slotOf? hslot
      have hless : (r.table.filter (·.1 ≠ r.fdOf s)).length < r.table.length := by
        rw [List.length_filter_lt_length_iff_exists]
        exact ⟨_, hmem, by simp⟩
      have hfull : r.capacity ≤ (r.table.filter (·.1 ≠ r.fdOf s)).length := by
        simpa using hroom
      have hsize := hr.size
      omega

end Registry

/-! ## Threads -/

/-- A thread that was asked to end and has ended calls its callback no more. -/
theorem Crew.IsCancelled.callsAtMost_of_ended {c : Crew} {t : ThreadId} (h : c.IsCancelled t)
    (hend : c.hasEnded t = true) : c.CallsAtMost t (c.callsOf t) := by
  obtain ⟨th, ht, hasked⟩ := h
  have hend' : th.body.hasEnded = true := by
    unfold hasEnded at hend
    rwa [ht] at hend
  have hdue : th.body.callsDue = 0 := by
    cases hb : th.body with
    | data p =>
      cases p <;> simp [hb, Body.hasEnded, DataLoop.Point.hasEnded] at hend' <;> rfl
    | event p =>
      cases p <;> simp [hb, Body.hasEnded, SampleLoop.Point.hasEnded] at hend' <;> rfl
    | watch p =>
      cases p <;> simp [hb, Body.hasEnded, SampleLoop.Point.hasEnded] at hend' <;> rfl
  exact ⟨th, ht, hasked, Nat.le_of_eq (by rw [hdue, Nat.add_zero])⟩

theorem Crew.hasEnded_event {c c' : Crew} {t : ThreadId} {e : Event} (he : c.after? e = some c')
    (hend : c.hasEnded t = true) : c'.hasEnded t = true := by
  rcases after?_cases he with rfl | ⟨u, hstep⟩
  · exact hend
  · exact hstep.follows.hasEnded hend

/-! ## Stops that were woken -/

namespace Call

/-- A stop with nobody else at the registry whose wake-up has come out so: where it stands since
then, and what there is. -/
inductive Woken (slot : SlotId) (k : ListenerKind) (w : Listening) (outcome : Outcome Unit)
    (p' : Position) (w' : Listening) : Prop where
  | intro {t : ThreadId} {w₁ w₂ : Listening} {p₂ : Position}
    (before : Alone (.stopping slot k) w (.waking slot k t) w₁)
    (hcame : (w₁.crew.wake t).1 = outcome) (hwake : step (.waking slot k t) w₁ = some (p₂, w₂))
    (after : Alone p₂ w₂ p' w')

/-- Stops one after another whose wake-ups fail. -/
inductive FailedStops (slot : SlotId) (k : ListenerKind) (w : Listening) :
    Nat → Listening → Prop where
  | none : FailedStops slot k w 0 w
  | next {n : Nat} {w₁ w₂ : Listening} {e : Error} {result : Outcome SlotId}
    (h : FailedStops slot k w n w₁) (hwoken : Woken slot k w₁ (.error e) (.finished result) w₂) :
    FailedStops slot k w (n + 1) w₂

section Alone

variable {slot : SlotId} {k : ListenerKind} {t u : ThreadId} {w w' w'' : Listening}
  {p p' p'' : Position} {outcome : Outcome Unit}

/-- What steps of clients, events and changes of the host keep of a crew is kept by a call that is
alone. -/
theorem Alone.keepsCrew {P : Crew → Prop} (ha : Alone p w p' w') (hstart : P w.crew)
    (hhandled : ∀ {c c' : Crew}, c.Handled c' → P c → P c')
    (hevent : ∀ {e : Crew.Event} {c c' : Crew}, c.after? e = some c' → P c → P c')
    (hhost : ∀ {c : Crew} (host : Host) (gates : List (Fd × Gate)),
      P c → P { c with host, gates }) : P w'.crew := by
  induction ha with
  | refl => exact hstart
  | own _ hstep ih => exact hhandled (step_edge hstep).handled ih
  | thread _ _ hcrew ih => exact hevent hcrew ih
  | outside host gates _ ih => exact hhost host gates ih

theorem Alone.isSteady (ha : Alone p w p' w') (h : w.crew.IsSteady t) : w'.crew.IsSteady t :=
  ha.keepsCrew h (fun hh hc => hh.isSteady hc) (fun he hc => hc.event he) fun _ _ hc => hc

theorem Alone.isCancelled (ha : Alone p w p' w') (h : w.crew.IsCancelled t) :
    w'.crew.IsCancelled t :=
  ha.keepsCrew h (fun hh hc => hc.handled hh) (fun he hc => hc.event he) fun _ _ hc => hc

theorem Woken.later (h : Woken slot k w outcome p' w') (ha : Alone p' w' p'' w'') :
    Woken slot k w outcome p'' w'' := by
  obtain ⟨before, hcame, hwake, after⟩ := h
  exact ⟨before, hcame, hwake, after.trans ha⟩

theorem Woken.alone (h : Woken slot k w outcome p' w') : Alone (.stopping slot k) w p' w' := by
  obtain ⟨before, -, hwake, after⟩ := h
  exact (before.own hwake).trans after

/-- A stop of a running thread has its wake-up before it, or has had it. -/
theorem Alone.woken (ha : Alone (.stopping slot k) w p w')
    (hrun : w.registry.seat slot k = .running t) :
    (p = .stopping slot k ∧ w'.registry = w.registry) ∨
    ((p = .cancelling slot k t ∨ p = .waking slot k t) ∧
      w'.registry = w.registry.setSeat slot k .stopping) ∨
    ∃ outcome, Woken slot k w outcome p w' := by
  -- only steps of the call itself bring it nearer to its wake-up
  induction ha with
  | refl => exact .inl ⟨rfl, rfl⟩
  | own h hstep ih =>
    rcases ih with ⟨rfl, hreg⟩ | ⟨rfl | rfl, hreg⟩ | ⟨outcome, hwoken⟩
    · cases step_edge hstep with
      | lifted hrun' =>
        rw [hreg, hrun] at hrun'
        obtain rfl := Seat.running.inj hrun'
        exact .inr (.inl ⟨.inl rfl, by rw [hreg]⟩)
      | unlifted hbegin =>
        rw [hreg, Registry.beginStop, hrun] at hbegin
        cases hbegin
    · cases step_edge hstep with
      | cancelled => exact .inr (.inl ⟨.inr rfl, hreg⟩)
    · exact .inr (.inr ⟨_, h, rfl, hstep, .refl⟩)
    · exact .inr (.inr ⟨outcome, hwoken.later (.own .refl hstep)⟩)
  | thread e _ hevent ih =>
    rcases ih with hbefore | hbefore | ⟨outcome, hwoken⟩
    · exact .inl hbefore
    · exact .inr (.inl hbefore)
    · exact .inr (.inr ⟨outcome, hwoken.later (.thread e .refl hevent)⟩)
  | outside host gates _ ih =>
    rcases ih with hbefore | hbefore | ⟨outcome, hwoken⟩
    · exact .inl hbefore
    · exact .inr (.inl hbefore)
    · exact .inr (.inr ⟨outcome, hwoken.later (.outside host gates .refl)⟩)

/-- Up to its wake-up a stop has taken the thread off its seat and asked it to end. -/
theorem Alone.waking (ha : Alone (.stopping slot k) w (.waking slot k u) w')
    (hrun : w.registry.seat slot k = .running t) (hthere : t < w.crew.threads.length) :
    t = u ∧ w'.registry = w.registry.setSeat slot k .stopping ∧ w'.crew.IsCancelled t := by
  cases ha.stopping hrun (.begun rfl hthere) with
  | cancelled hreg hasked => exact ⟨rfl, hreg, hasked⟩

end Alone

/-! ## Where the wake-up has failed -/

section Failed

variable {slot : SlotId} {k : ListenerKind} {t : ThreadId} {w w' : Listening} {p : Position}
  {e : Error}

/-- A stop whose wake-up has failed is about to put the thread back, or has done so. -/
theorem Woken.failed (h : Woken slot k w (.error e) p w')
    (hrun : w.registry.seat slot k = .running t) (hthere : t < w.crew.threads.length) :
    (∃ code, e = .osCall "wake" code) ∧
      ((p = .restoring slot k t e ∧ w'.registry = w.registry.setSeat slot k .stopping) ∨
        (p = .finished (.error e) ∧ w'.registry = w.registry)) := by
  obtain ⟨before, hcame, hwake, after⟩ := h
  obtain ⟨rfl, hreg, -⟩ := before.waking hrun hthere
  cases step_edge hwake with
  | woken hok =>
    rw [hok] at hcame
    cases hcame
  | @unwoken _ _ _ e' _ hfailed =>
    rw [hfailed] at hcame
    obtain rfl := Except.error.inj hcame
    refine ⟨(Crew.wake_error hfailed).2, ?_⟩
    refine after.keeps
      (P := fun p r => (p = .restoring slot k t e' ∧ r = w.registry.setSeat slot k .stopping) ∨
        (p = .finished (.error e') ∧ r = w.registry)) (.inl ⟨rfl, hreg⟩) ?_
    rintro p w₃ p' w₄ (⟨rfl, hreg⟩ | ⟨rfl, -⟩) he
    · cases he with
      | restored =>
        -- the thread goes back to where it was taken from
        have hback := Registry.setSeat_setSeat slot k .stopping w.registry
        rw [hrun] at hback
        exact .inr ⟨rfl, by rw [hreg, hback]⟩
    · cases he

end Failed

/-! ## Where the wake-up has succeeded -/

/-- Where the stop of a thread that will not panic stands after a wake-up, and what it has made of
the registry. -/
inductive Ending (r : Registry) (s : SlotId) (k : ListenerKind) (t : ThreadId) :
    Position → Listening → Prop where
  | woken {w : Listening} (hreg : w.registry = r.setSeat s k .stopping) :
    Ending r s k t (.joining s k t) w
  | joined {w : Listening} (hreg : w.registry = r.setSeat s k .stopping)
    (hend : w.crew.hasEnded t = true) : Ending r s k t (.clearing s k (.ok ())) w
  | cleared {w : Listening} (hreg : w.registry = r.setSeat s k .idle)
    (hend : w.crew.hasEnded t = true) : Ending r s k t (.reclaiming s (.ok ())) w
  | ended {w : Listening} (hreg : w.registry = (r.setSeat s k .idle).release s)
    (hend : w.crew.hasEnded t = true) : Ending r s k t (.finished (.ok s)) w

section Succeeded

variable {r : Registry} {slot : SlotId} {k : ListenerKind} {t : ThreadId} {w w' : Listening}
  {p p' : Position}

theorem Edge.ending (he : Edge w p p' w') (h : Ending r slot k t p w)
    (hsteady : w.crew.IsSteady t) : Ending r slot k t p' w' := by
  cases h with
  | woken hreg =>
    cases he with
    | joined hjoin =>
      obtain rfl := hsteady.joined hjoin
      exact .joined hreg (Crew.hasEnded_of_joined hjoin)
  | joined hreg hend =>
    cases he with
    | cleared => exact .cleared (by rw [hreg, Registry.setSeat_again]) hend
  | cleared hreg hend =>
    cases he with
    | reclaimed => exact .ended (by rw [hreg]) hend
  | ended => cases he

theorem Ending.onCrew (h : Ending r slot k t p w) {crew : Crew}
    (hend : w.crew.hasEnded t = true → crew.hasEnded t = true) :
    Ending r slot k t p { w with crew } := by
  cases h with
  | woken hreg => exact .woken hreg
  | joined hreg h => exact .joined hreg (hend h)
  | cleared hreg h => exact .cleared hreg (hend h)
  | ended hreg h => exact .ended hreg (hend h)

theorem Alone.ending (ha : Alone p w p' w') (h : Ending r slot k t p w)
    (hsteady : w.crew.IsSteady t) : Ending r slot k t p' w' := by
  induction ha with
  | refl => exact h
  | own before hstep ih => exact (step_edge hstep).ending ih (before.isSteady hsteady)
  | thread e _ hevent ih => exact ih.onCrew (Crew.hasEnded_event hevent)
  | outside host gates _ ih => exact ih.onCrew id

/-- A stop whose wake-up has succeeded waits for its thread and then frees the seat. -/
theorem Woken.ending (h : Woken slot k w (.ok ()) p w')
    (hrun : w.registry.seat slot k = .running t) (hsteady : w.crew.IsSteady t) :
    Ending w.registry slot k t p w' ∧ w'.crew.IsCancelled t := by
  obtain ⟨before, hcame, hwake, after⟩ := h
  obtain ⟨rfl, hreg, hasked⟩ := before.waking hrun hsteady.lt_length
  have hbefore := before.isSteady hsteady
  have hown : Alone _ _ _ _ := .own .refl hwake
  refine ⟨?_, after.isCancelled (hown.isCancelled hasked)⟩
  cases step_edge hwake with
  | woken hok => exact after.ending (.woken hreg) (hown.isSteady hbefore)
  | unwoken hfailed =>
    rw [hfailed] at hcame
    cases hcame

end Succeeded

/-! ## What a stop makes of the registry -/

/-- A kind on a slot that is taken: nobody can start a listener of it, and the other kind is as it
was. -/
structure Occupied (r : Registry) (slot : SlotId) (k : ListenerKind) (w : Listening) : Prop where
  onSlot : ∀ l, l.kind = k → step (.starting slot l) w =
    some (.finished (.error (.alreadyRegistered (k.key (r.fdOf slot)))), w)
  byDescriptor : ∀ l, l.kind = k → step (.registering (r.fdOf slot) l) w =
    some (.givingBack slot (.alreadyRegistered (k.key (r.fdOf slot))), w)
  others : ∀ slot' k', (slot' = slot → k' ≠ k) → w.registry.seat slot' k' = r.seat slot' k'
  table : w.registry.table = r.table

/-- A kind on a slot whose listener was stopped: the thread has ended for good, and the kind is
free. -/
structure Vacated (r : Registry) (slot : SlotId) (k : ListenerKind) (t : ThreadId)
    (w : Listening) : Prop where
  ended : w.crew.hasEnded t = true
  /-- Whatever happens later, the thread calls its callback no more. -/
  silent : ∀ s s' : Scene, ∀ later, s.listening = w → s.run? later = some s' →
    s'.crew.callsOf t ≤ w.crew.callsOf t
  idle : w.registry.seat slot k = .idle
  others : ∀ slot' k', (slot' = slot → k' ≠ k) → w.registry.seat slot' k' = r.seat slot' k'
  /-- The slot stays in the table for the other kind alone. -/
  current : w.registry.isCurrent slot = true ↔ ∃ k', k' ≠ k ∧ r.isActive slot k' = true
  /-- A listener of the kind can be registered for the descriptor again. -/
  again : ∀ l, l.kind = k → ∃ slot' w',
    step (.registering (r.fdOf slot) l) w = some (.spawning slot' l true, w')

section Registry

variable {r : Registry} {slot : SlotId} {k : ListenerKind} {t : ThreadId} {w : Listening}

theorem occupied (hr : r.Sound) (hrun : r.seat slot k = .running t)
    (hreg : w.registry = r ∨ w.registry = r.setSeat slot k .stopping) :
    Occupied r slot k w := by
  have hactive : r.seat slot k ≠ .idle := by rw [hrun]; exact nofun
  have hcur := hr.current slot k hactive
  have hlt := (Registry.isCurrent_iff.mp hcur).1
  obtain ⟨hcur', hbusy, hfd, hothers, htable⟩ : w.registry.isCurrent slot = true ∧
      w.registry.seat slot k ≠ .idle ∧ w.registry.fdOf slot = r.fdOf slot ∧
      (∀ slot' k', (slot' = slot → k' ≠ k) → w.registry.seat slot' k' = r.seat slot' k') ∧
      w.registry.table = r.table := by
    rcases hreg with hreg | hreg <;> rw [hreg]
    · exact ⟨hcur, hactive, rfl, fun _ _ _ => rfl, rfl⟩
    · refine ⟨by simpa using hcur, ?_, by simp, fun _ _ hne => ?_, by simp⟩
      · rw [Registry.seat_setSeat_self _ _ _ hlt]
        exact nofun
      · exact Registry.seat_setSeat_ne _ _ hne
  constructor
  · rintro l rfl
    have hrefused := Registry.reserveOn_busy hcur' hbusy
    rw [hfd] at hrefused
    simp only [step, hrefused]
    rfl
  · rintro l rfl
    have hrefused := Registry.reserveFor_busy hcur' hbusy
    rw [hfd] at hrefused
    simp only [step, hrefused]
    rfl
  · exact hothers
  · exact htable

theorem vacated (hr : r.Sound) (hrun : r.seat slot k = .running t)
    (hreg : w.registry = (r.setSeat slot k .idle).release slot)
    (hend : w.crew.hasEnded t = true) (hasked : w.crew.IsCancelled t) :
    Vacated r slot k t w := by
  have hactive : r.seat slot k ≠ .idle := by rw [hrun]; exact nofun
  have hlt := Registry.lt_of_seat_ne hactive
  constructor
  · exact hend
  · rintro s s' later rfl hlater
    have hfirst := hasked.callsAtMost_of_ended hend
    exact (run_keeps (fun _ _ _ _ hs ha => Scene.step_callsAtMost hs ha) hfirst hlater).calls_le
  · rw [hreg, Registry.seat_release]
    exact Registry.seat_setSeat_self _ _ _ hlt
  · intro slot' k' hne
    rw [hreg, Registry.seat_release]
    exact Registry.seat_setSeat_ne _ _ hne
  · rw [hreg]
    exact hr.isCurrent_vacated hactive
  · rintro l rfl
    obtain ⟨slot', r', htaken⟩ := hr.reserveFor_vacated hactive
    refine ⟨slot', { w with registry := r' }, ?_⟩
    simp only [step, hreg, htaken]
    rfl

end Registry

end Call

end SerialLine
