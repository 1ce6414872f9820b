import SerialLine.Proofs.Listener.Reclaim

/-!
# SerialLine.Proofs.Listener.Stale — handles of slots that have left the table

A client may keep the handle of a slot for longer than the table keeps the slot, and meanwhile the
descriptor may have got another slot. A slot that has left the table is never put back
(`Scene.step_stale`), and a slot that is not in the table has free seats, which is part of the
invariant of all interleavings. So nobody finds anything on a stale slot, whoever asks and at
whatever moment: `Scene.Reachable.stale_inert`.
-/

namespace SerialLine

/-! ## Slots that have left the table -/

namespace Registry

/-- A slot is stale if the table does not have it any more. Every slot is in the table from the
moment at which it is made. -/
structure IsStale (r : Registry) (s : SlotId) : Prop where
  made : s < r.slots.length
  gone : r.isCurrent s = false

variable {r : Registry} {s s' : SlotId}

theorem IsStale.acquire (h : r.IsStale s) (fd : Fd) : (r.acquire fd).2.IsStale s where
  made := Nat.lt_of_lt_of_le h.made (length_acquire_le fd)
  gone := by
    by_contra hback
    have hcur := isCurrent_of_acquire h.made (Bool.not_eq_false _ ▸ hback)
    rw [h.gone] at hcur
    cases hcur

theorem IsStale.setSeat (h : r.IsStale s) (s' : SlotId) (k : ListenerKind) (x : Seat) :
    (r.setSeat s' k x).IsStale s where
  made := by simpa using h.made
  gone := by simpa using h.gone

theorem IsStale.release (h : r.IsStale s) (s' : SlotId) : (r.release s').IsStale s where
  made := by simpa using h.made
  gone := by
    by_contra hback
    have hcur := isCurrent_of_release (Bool.not_eq_false _ ▸ hback)
    rw [h.gone] at hcur
    cases hcur

/-- Both seats of a stale slot are free. -/
theorem Sound.idle_of_stale (h : r.Sound) (hs : r.IsStale s) (k : ListenerKind) :
    r.seat s k = .idle := by
  by_contra hbusy
  have hcur := h.current s k hbusy
  rw [hs.gone] at hcur
  cases hcur

/-- A stale slot cannot be given back once more. -/
theorem IsStale.release_eq (h : r.IsStale s) : r.release s = r := by
  rcases release_cases s r with hsame | ⟨hcur, -⟩
  · exact hsame
  · rw [h.gone] at hcur
    cases hcur

theorem IsStale.reserveOn_eq (h : r.IsStale s) (k : ListenerKind) :
    r.reserveOn s k = .error (.notRegistered s!"slot for fd {r.fdOf s}") := by
  simp [reserveOn, h.gone]

/-- There is nothing to stop at a free seat. -/
theorem beginStop_idle {k : ListenerKind} (h : r.seat s k = .idle) :
    r.beginStop s k = (.error (.notRegistered (k.key (r.fdOf s))), r) := by
  simp [beginStop, h]

end Registry

/-! ## Steps -/

/-- No step of a call puts a slot back. -/
theorem Call.Move.stale {w w' : Listening} {x x' : Option Holding} {ts : List ThreadId}
    {slot : SlotId} (hm : Call.Move w x x' ts w') (h : w.registry.IsStale slot) :
    w'.registry.IsStale slot := by
  cases hm with
  | passed | spawned | joined => exact h
  | acquired fd => exact h.acquire fd
  | @reservedFor fd s k r hr hidle =>
    have hmade := h.acquire fd
    rw [hr] at hmade
    exact hmade.setSeat s k .starting
  | reservedOn | seated | freed | lifted => exact h.setSeat _ _ _
  | released s => exact h.release s

/-- The slot that a call is about, once it has one. -/
def Call.Position.slot? : Position → Option SlotId
  | .registering .. | .unregistering .. | .finished _ => none
  | .starting s _ | .spawning s .. | .hearing s .. | .dismissing s .. | .recording s ..
  | .freeing s .. | .givingBack s _ | .stopping s _ | .cancelling s .. | .waking s ..
  | .restoring s .. | .joining s .. | .clearing s .. | .reclaiming s _ => some s

/-- What a call keeps belongs to the slot that it is about. -/
theorem Call.Position.slot_of_holding {p : Position} {x : Holding} (h : p.holding? = some x) :
    p.slot? = some x.slot := by
  cases p with
  | spawning | hearing | dismissing | recording | freeing | cancelling | waking | restoring
  | joining | clearing =>
    obtain rfl := Option.some.inj h
    rfl
  | _ => cases h

/-- A call that keeps nothing does nothing on a stale slot. -/
theorem Call.step_stale {p p' : Position} {w w' : Listening} {slot : SlotId}
    (hsound : w.registry.Sound) (hstale : w.registry.IsStale slot) (hslot : p.slot? = some slot)
    (hfree : p.holding? = none) (h : step p w = some (p', w')) : w' = w := by
  have he := step_edge h
  cases p with
  | starting s l =>
    obtain rfl := Option.some.inj hslot
    cases he with
    | reserved hcur =>
      rw [hstale.gone] at hcur
      cases hcur
    | refused => rfl
  | stopping s k =>
    obtain rfl := Option.some.inj hslot
    cases he with
    | lifted hrun =>
      rw [hsound.idle_of_stale hstale] at hrun
      cases hrun
    | unlifted => rfl
  | givingBack s e =>
    obtain rfl := Option.some.inj hslot
    cases he
    rw [hstale.release_eq]
  | reclaiming s result =>
    obtain rfl := Option.some.inj hslot
    cases he
    rw [hstale.release_eq]
  | registering | unregistering | finished => cases hslot
  | _ => cases hfree

namespace Scene

variable {s s' : Scene} {capacity : Nat} {settings : ListenerSettings} {slot : SlotId}

theorem step_stale {a : Action} (h : s.registry.IsStale slot) (ha : s.act? a = some s') :
    s'.registry.IsStale slot := by
  rcases act?_cases ha with ⟨i, x, ts, hmove, -, -⟩ | ⟨t, -, hreg, -, -⟩ | ⟨host, gates, -, rfl⟩
  · exact hmove.stale h
  · rw [hreg]
    exact h
  · exact h

/-! ## Stale slots at any later moment -/

/-- Nothing happens on a slot any more, whatever is done with its handle. -/
structure Inert (s : Scene) (slot : SlotId) : Prop where
  /-- The table does not have it. -/
  gone : s.registry.isCurrent slot = false
  /-- Both kinds are idle. -/
  idle : ∀ k, s.registry.seat slot k = .idle
  /-- A start is refused with its first step, and no thread is created. -/
  start : ∀ l, Call.step (.starting slot l) s.listening =
    some (.finished (.error (.notRegistered s!"slot for fd {s.registry.fdOf slot}")), s.listening)
  /-- So is a stop of either kind. -/
  stop : ∀ k, Call.step (.stopping slot k) s.listening =
    some (.finished (.error (.notRegistered (k.key (s.registry.fdOf slot)))), s.listening)
  /-- Giving the slot back changes nothing. -/
  release : s.act? (.release slot) = some s
  /-- Nor does a call on the slot that has begun before, at whatever point it is. -/
  quiet : ∀ task ∈ s.tasks, ∀ p, task.position? = some p → p.slot? = some slot →
    ∀ p' w', Call.step p s.listening = some (p', w') → w' = s.listening

/-- Nobody keeps a seat of a stale slot. -/
theorem Inv.not_holding (h : s.Inv) (hstale : s.registry.IsStale slot) {task : Task}
    (htask : task ∈ s.tasks) {p : Call.Position} (hp : task.position? = some p)
    (hslot : p.slot? = some slot) : p.holding? = none := by
  cases hhold : p.holding? with
  | none => rfl
  | some x =>
    obtain ⟨i, hi⟩ := List.getElem?_of_mem htask
    have hheld : s.hold i = some x := by simp [hold, hi, Task.holding?, hp, hhold]
    have hx : x.slot = slot := by
      have hsame := (Call.Position.slot_of_holding hhold).symm.trans hslot
      exact Option.some.inj hsame
    -- what is kept is on its way, and a stale slot is idle
    have hkept := h.kept i x hheld
    rw [hx, h.sound.idle_of_stale hstale] at hkept
    rcases h.moving i x hheld with hmoving | hmoving
    · rw [hmoving] at hkept
      cases hkept
    · rw [hmoving] at hkept
      cases hkept

theorem Inv.inert (h : s.Inv) (hstale : s.registry.IsStale slot) : s.Inert slot where
  gone := hstale.gone
  idle := h.sound.idle_of_stale hstale
  start := by
    intro l
    have hrefused : s.listening.registry.reserveOn slot l.kind = _ := hstale.reserveOn_eq l.kind
    simp only [Call.step, hrefused]
    rfl
  stop := by
    intro k
    have hrefused : s.listening.registry.beginStop slot k = _ :=
      Registry.beginStop_idle (h.sound.idle_of_stale hstale k)
    simp only [Call.step, hrefused]
    rfl
  release := by
    have hsame : s.listening.registry.release slot = s.listening.registry := hstale.release_eq
    simp only [act?, Listening.mapRegistry, hsame]
  quiet := by
    intro task htask p hp hslot p' w' hstep
    exact Call.step_stale h.sound hstale hslot (h.not_holding hstale htask hp hslot) hstep

/-- Once a slot has left the table, nothing happens on it for ever, in whatever order clients,
threads and the host go on, and whatever becomes of the slot that its descriptor gets next. -/
theorem Reachable.stale_inert (h : Reachable capacity settings s)
    (hstale : s.registry.IsStale slot) {later : List Action} (hrun : s.run? later = some s') :
    s'.Inert slot := by
  have hstill : s'.registry.IsStale slot :=
    run_keeps (fun _ _ _ _ hs ha => step_stale hs ha) hstale hrun
  exact (h.run hrun).inv.inert hstill

/-- A data listener runs on descriptor 3 and is stopped. Before the stop gives the slot back,
another client does. -/
def retired : List Action :=
  [.begin (.registering 3 (.data {} false)), .proceed 0, .proceed 0, .thread (.step 0),
    .thread (.step 0), .proceed 0, .proceed 0,
    .begin (.stopping 0 .data), .proceed 1, .proceed 1, .proceed 1, .thread (.step 0),
    .thread (.step 0), .proceed 1, .proceed 1, .release 0]

/-- The descriptor gets another slot. A data listener runs on it, and an event listener is being
started. -/
def renewed : List Action :=
  [.begin (.registering 3 (.data {} false)), .proceed 2, .proceed 2, .thread (.step 1),
    .thread (.step 1), .proceed 2, .proceed 2,
    .begin (.registering 3 (.event {} {})), .proceed 3]

theorem retired_inert :
    ∃ s s', (start 1 {} {} []).run? retired = some s ∧ s.run? renewed = some s' ∧
      s.registry.IsStale 0 ∧ s'.registry.slotOf? 3 = some 1 ∧
      s'.registry.seat 1 .data = .running 1 ∧ s'.registry.seat 1 .event = .starting ∧
      s'.Inert 0 := by
  obtain ⟨s, hretired, s', hrenewed, hmade, hgone, hnext, hdata, hevent⟩ :
      ∃ s, (start 1 {} {} []).run? retired = some s ∧ ∃ s', s.run? renewed = some s' ∧
        0 < s.registry.slots.length ∧ s.registry.isCurrent 0 = false ∧
        s'.registry.slotOf? 3 = some 1 ∧ s'.registry.seat 1 .data = .running 1 ∧
        s'.registry.seat 1 .event = .starting :=
    ⟨_, rfl, _, rfl, by decide, rfl, rfl, rfl, rfl⟩
  have hreach := Reachable.run (.start {} []) hretired
  exact ⟨s, s', hretired, hrenewed, ⟨hmade, hgone⟩, hnext, hdata, hevent,
    Reachable.stale_inert hreach ⟨hmade, hgone⟩ hrenewed⟩

end Scene

end SerialLine
