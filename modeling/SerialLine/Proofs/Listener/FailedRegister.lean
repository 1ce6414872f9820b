import SerialLine.Proofs.Listener.Alone
import SerialLine.Proofs.Listener.Reclaim

/-!
# SerialLine.Proofs.Listener.FailedRegister — what a registration that fails leaves behind

A registration that fails puts the seat back as it was and gives the slot back. `Registering` says
at every point of a registration that is alone what it has made of the registry so far.

The slot is given back if it is vacant, not if it was made by this call. So a client that has
acquired a slot loses it to the first registration on it that fails, and that is the only trace of
the failure: `Scene.Reachable.failed_register`.
-/

namespace SerialLine

/-! ## Slots that are asked for and given back -/

namespace Registry

variable {r r' : Registry} {s : SlotId} {fd : Fd}

/-- A slot that is not vacant is not given back. -/
theorem release_of_not_vacant (h : ¬ r.IsVacant s) : r.release s = r := by
  rcases release_cases s r with hsame | ⟨hcur, hdata, hevent, -⟩
  · exact hsame
  · refine absurd ⟨hcur, ?_⟩ h
    intro k
    cases k with
    | data => exact hdata
    | event => exact hevent

/-- Nothing is taken out for a descriptor without a slot. -/
theorem table_filter_of_none (h : r.slotOf? fd = none) : r.table.filter (·.1 ≠ fd) = r.table := by
  refine List.filter_eq_self.2 fun e he => ?_
  have hne : fd ≠ e.1 := by simpa using List.lookup_eq_none_iff.mp h e he
  exact decide_eq_true hne.symm

/-- A slot that has just been made is vacant. -/
theorem Sound.vacant_of_made (hr : r.Sound) (hacq : r.acquire fd = (.ok s, r'))
    (hnone : r.slotOf? fd = none) : r'.IsVacant s := by
  refine ⟨(acquired_current hr hacq).1, fun k => ?_⟩
  have hseat := seat_acquire (r := r) fd s k
  rw [hacq] at hseat
  rcases acquire_ok hacq with ⟨hthere, -⟩ | ⟨-, rfl, -⟩
  · rw [hnone] at hthere
    cases hthere
  · exact hseat.trans (seat_of_length_le (Nat.le_refl _) k)

/-- A slot that was asked for and given back leaves the table as it was, unless it is one that was
vacant before. -/
theorem Sound.table_release_acquired (hr : r.Sound) (hacq : r.acquire fd = (.ok s, r'))
    (hbusy : ∀ s, r.slotOf? fd = some s → ¬ r.IsVacant s) : (r'.release s).table = r.table := by
  have hfd := (acquired_current hr hacq).2
  rcases acquire_ok hacq with ⟨hthere, rfl⟩ | ⟨hnone, -, hmade⟩
  · rw [release_of_not_vacant (hbusy s hthere)]
  · rw [(hr.vacant_of_made hacq hnone).release, hfd]
    show r'.table.filter (·.1 ≠ fd) = r.table
    rw [hmade]
    simpa using table_filter_of_none hnone

/-- One that was vacant before leaves the table. -/
theorem Sound.table_release_vacant (hr : r.Sound) (hacq : r.acquire fd = (.ok s, r'))
    {s' : SlotId} (hthere : r.slotOf? fd = some s') (hvacant : r.IsVacant s') :
    (r'.release s).table = r.table.filter (·.1 ≠ fd) := by
  have hfd := (acquired_current hr hacq).2
  rcases acquire_ok hacq with ⟨hslot, rfl⟩ | ⟨hnone, -⟩
  · obtain rfl := Option.some.inj (hthere.symm.trans hslot)
    rw [hvacant.release, hfd]
  · rw [hnone] at hthere
    cases hthere

end Registry

/-! ## Registrations that are alone -/

namespace Call

/-- Where a registration stands, and what it has made of the registry so far. -/
inductive Registering (r : Registry) (fd : Fd) (k : ListenerKind) : Position → Registry → Prop where
  | begun {l : Listener} (hkind : l.kind = k) : Registering r fd k (.registering fd l) r
  /-- There is no room for a slot. -/
  | full {e : Error} (hnone : r.slotOf? fd = none) : Registering r fd k (.finished (.error e)) r
  /-- The seat of the slot is taken. -/
  | holding {p : Position} {s : SlotId} {r' : Registry} {t? : Option ThreadId}
    (hacq : r.acquire fd = (.ok s, r')) (hidle : r'.seat s k = .idle)
    (hhold : p.holding? = some ⟨s, k, .starting, t?⟩) (hgive : p.givesBack = true) :
    Registering r fd k p (r'.setSeat s k .starting)
  /-- The seat is as it was, and the slot is to be given back. -/
  | giving {s : SlotId} {r' : Registry} {e : Error} (hacq : r.acquire fd = (.ok s, r')) :
    Registering r fd k (.givingBack s e) r'
  | failed {s : SlotId} {r' : Registry} {e : Error} (hacq : r.acquire fd = (.ok s, r')) :
    Registering r fd k (.finished (.error e)) (r'.release s)
  | succeeded {s : SlotId} {r' : Registry} : Registering r fd k (.finished (.ok s)) r'

variable {r : Registry} {fd : Fd} {k : ListenerKind} {p p' : Position} {w w' : Listening}

/-- A call that holds a seat which is being started goes on holding it, or puts it back. -/
theorem Edge.registering (he : Edge w p p' w') (h : Registering r fd k p w.registry) :
    Registering r fd k p' w'.registry := by
  generalize hreg : w.registry = r₀ at h
  cases h with
  | begun hkind =>
    subst hkind hreg
    cases he with
    | taken hacq hidle => exact .holding hacq hidle rfl rfl
    | occupied hslot =>
      refine .giving ?_
      simp [Registry.acquire, hslot]
    | full hnone => exact .full hnone
  | full => cases he
  | @holding _ s r' t? hacq hidle hhold hgive =>
    have hgive' := he.givesBack hgive
    cases he with
    | spawned | unspawned | heard | misheard | dismissed =>
      cases hhold
      rw [hreg]
      exact .holding hacq hidle rfl hgive'
    | recorded => exact .succeeded
    | freed =>
      cases hhold
      obtain rfl : _ = true := hgive
      have hback := Registry.setSeat_setSeat s k .starting r'
      rw [hidle] at hback
      rw [hreg, hback]
      exact .giving hacq
    | _ => cases hhold
  | giving hacq =>
    cases he
    rw [hreg]
    exact .failed hacq
  | failed => cases he
  | succeeded => cases he

end Call

namespace Scene

variable {s : Scene} {capacity : Nat} {settings : ListenerSettings}

/-- A registration that fails, with nobody else at the registry, leaves all seats as they were and
the table too, whatever it failed for. The one exception is a descriptor whose slot was vacant
before: it loses the slot, although the call did not make it. -/
theorem Reachable.failed_register (h : s.Reachable capacity settings) {fd : Fd} {l : Listener}
    {e : Error} {w : Listening}
    (ha : Call.Alone (.registering fd l) s.listening (.finished (.error e)) w) :
    (∀ slot k, w.registry.seat slot k = s.registry.seat slot k) ∧
    (∀ slot, slot < s.registry.slots.length → w.registry.fdOf slot = s.registry.fdOf slot) ∧
    ((∀ slot, s.registry.slotOf? fd = some slot → ¬ s.registry.IsVacant slot) →
      w.registry.table = s.registry.table) ∧
    (∀ slot, s.registry.slotOf? fd = some slot → s.registry.IsVacant slot →
      w.registry.table = s.registry.table.filter (·.1 ≠ fd)) := by
  have hsound : s.registry.Sound := h.inv.sound
  have hend : Call.Registering s.registry fd l.kind (.finished (.error e)) w.registry :=
    ha.keeps (.begun rfl) fun hr he => he.registering hr
  generalize w.registry = r at hend
  cases hend with
  | full hnone =>
    refine ⟨fun _ _ => rfl, fun _ _ => rfl, fun _ => rfl, fun slot hthere => ?_⟩
    rw [hnone] at hthere
    cases hthere
  | @failed slot r' _ hacq =>
    have hr' : (s.registry.acquire fd).2 = r' := by rw [hacq]
    refine ⟨fun slot' k => ?_, fun slot' hmade => ?_, hsound.table_release_acquired hacq,
      fun slot' hthere => hsound.table_release_vacant hacq hthere⟩
    · rw [Registry.seat_release, ← hr', Registry.seat_acquire]
    · rw [Registry.fdOf_release, ← hr', Registry.fdOf_acquire fd hmade]
  | holding _ _ hhold => cases hhold

/-- An event listener whose first sample fails. -/
def unsampled : Listener :=
  .event {} { script? := some { samples := [.error (.unsupported "modem lines")] } }

/-- A data listener runs on descriptor 3. -/
def occupied : List Action :=
  [.begin (.registering 3 (.data {} false)), .proceed 0, .proceed 0, .thread (.step 0),
    .thread (.step 0), .proceed 0, .proceed 0]

/-- Beside a data listener the failed start of an event listener leaves no trace. -/
theorem occupied_failed_register :
    ∃ s w, (start 1 {} {} []).run? occupied = some s ∧
      Call.Alone (.registering 3 unsampled) s.listening
        (.finished (.error (.unsupported "modem lines"))) w ∧
      s.registry.table = [(3, 0)] ∧ w.registry.table = s.registry.table ∧
      w.registry.seat 0 .data = .running 0 ∧ w.registry.seat 0 .event = .idle := by
  obtain ⟨s, hrun, hdrive, htable, hslot, hdata, hevent⟩ :
      ∃ s, (start 1 {} {} []).run? occupied = some s ∧
        (s.listening.drive (.registering 3 unsampled)).1 =
          .finished (.error (.unsupported "modem lines")) ∧
        s.registry.table = [(3, 0)] ∧ s.registry.slotOf? 3 = some 0 ∧
        s.registry.seat 0 .data = .running 0 ∧ s.registry.seat 0 .event = .idle :=
    ⟨_, rfl, rfl, rfl, rfl, rfl, rfl⟩
  have hreach := Reachable.run (.start {} []) hrun
  have ha := s.listening.drive_alone (.registering 3 unsampled)
  rw [hdrive] at ha
  obtain ⟨hseats, -, hsame, -⟩ := hreach.failed_register ha
  refine ⟨s, _, hrun, ha, htable, hsame ?_, (hseats 0 .data).trans hdata,
    (hseats 0 .event).trans hevent⟩
  intro slot hthere hvacant
  obtain rfl := Option.some.inj (hslot.symm.trans hthere)
  have hidle := hvacant.2 .data
  rw [hdata] at hidle
  cases hidle

/-- A slot that a client has acquired, and that nobody has given back, is gone after the first
registration on it that fails. -/
theorem acquired_lost :
    ∃ s w, (start 1 {} {} []).run? [.acquire 3] = some s ∧
      Call.Alone (.registering 3 unsampled) s.listening
        (.finished (.error (.unsupported "modem lines"))) w ∧
      s.registry.table = [(3, 0)] ∧ w.registry.table = [] := by
  obtain ⟨s, hrun, hdrive, htable, hlost⟩ :
      ∃ s, (start 1 {} {} []).run? [.acquire 3] = some s ∧
        (s.listening.drive (.registering 3 unsampled)).1 =
          .finished (.error (.unsupported "modem lines")) ∧
        s.registry.table = [(3, 0)] ∧
        (s.listening.drive (.registering 3 unsampled)).2.registry.table = [] :=
    ⟨_, rfl, rfl, rfl, rfl⟩
  have ha := s.listening.drive_alone (.registering 3 unsampled)
  rw [hdrive] at ha
  exact ⟨s, _, hrun, ha, htable, hlost⟩

end Scene

end SerialLine
