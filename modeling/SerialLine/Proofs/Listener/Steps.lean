import SerialLine.Proofs.Listener.Interleaving

/-!
# SerialLine.Proofs.Listener.Steps — every step that a call can take

`Call.step_move` says what a step does to the seat and the thread that a call keeps. Where it
matters at which position a call stands, and which one it goes to, `Call.Edge` says that too: one
constructor for each way out of each position, with all that the step has found out.
-/

namespace SerialLine

/-! ## What a critical section finds -/

namespace Registry

variable {r r' : Registry}

/-- A slot that was acquired was there, and the registry is as it was, or it has just been made. -/
theorem acquire_ok {fd : Fd} {s : SlotId} (h : r.acquire fd = (.ok s, r')) :
    (r.slotOf? fd = some s ∧ r' = r) ∨
    (r.slotOf? fd = none ∧ s = r.slots.length ∧
      r' = { r with table := (fd, s) :: r.table, slots := r.slots ++ [{ fd }] }) := by
  rcases acquire_cases fd r with ⟨s', hs', he⟩ | he | ⟨hnone, -, he⟩
  · obtain ⟨hs, hr⟩ : Except.ok s = .ok s' ∧ r' = r := Prod.mk.inj (h.symm.trans he)
    obtain rfl := Except.ok.inj hs
    exact Or.inl ⟨hs', hr⟩
  · have herr : (Except.ok s : Outcome SlotId) = .error _ := (Prod.mk.inj (h.symm.trans he)).1
    cases herr
  · obtain ⟨hs, hr⟩ := Prod.mk.inj (h.symm.trans he)
    obtain rfl := Except.ok.inj hs
    exact Or.inr ⟨hnone, rfl, hr⟩

/-- What comes of asking for a seat by its descriptor. A slot that has just been made has free
seats, so a seat that is refused is one of a slot that was there before. -/
inductive Reserving (fd : Fd) (k : ListenerKind) (r : Registry) :
    Reservation × Registry → Prop where
  | taken {s : SlotId} {r' : Registry} (hacq : r.acquire fd = (.ok s, r'))
    (hidle : r'.seat s k = .idle) : Reserving fd k r (.taken s, r'.setSeat s k .starting)
  | occupied {s : SlotId} (hslot : r.slotOf? fd = some s) (hbusy : r.seat s k ≠ .idle) :
    Reserving fd k r (.occupied s (.alreadyRegistered (k.key (r.fdOf s))), r)
  | full (hnone : r.slotOf? fd = none) (hroom : r.capacity ≤ r.table.length) :
    Reserving fd k r (.full (.capacityExceeded r.capacity), r)

theorem reserveFor_spec (fd : Fd) (k : ListenerKind) (r : Registry) :
    Reserving fd k r (r.reserveFor fd k) := by
  cases hslot : r.slotOf? fd with
  | some s =>
    have hacq : r.acquire fd = (.ok s, r) := by simp [acquire, hslot]
    rw [reserveFor, hslot]
    dsimp only
    by_cases hidle : r.seat s k = .idle
    · rw [seatOn_idle hidle]
      exact .taken hacq hidle
    · rw [seatOn_busy hidle]
      exact .occupied hslot hidle
  | none =>
    by_cases hroom : r.capacity ≤ r.table.length
    · simpa [reserveFor, hslot, hroom] using Reserving.full hslot hroom
    · rcases acquire_cases fd r with ⟨s, hs, -⟩ | he | ⟨-, -, hacq⟩
      · rw [hslot] at hs
        cases hs
      · simp [acquire, hslot, hroom] at he
      · have hidle := seat_acquire (r := r) fd r.slots.length k
        rw [seat_of_length_le (Nat.le_refl _), hacq] at hidle
        rw [reserveFor_eq, hacq]
        dsimp only
        rw [seatOn_idle hidle]
        exact .taken hacq hidle

end Registry

/-! ## The steps of a call -/

namespace Call

/-- What a call may do next: the position that it leaves, the one that it reaches, and the
registry with its threads afterwards. -/
inductive Edge (w : Listening) : Position → Position → Listening → Prop where
  | taken {fd : Fd} {l : Listener} {s : SlotId} {r : Registry}
    (hacq : w.registry.acquire fd = (.ok s, r)) (hidle : r.seat s l.kind = .idle) :
    Edge w (.registering fd l) (.spawning s l true)
      { w with registry := r.setSeat s l.kind .starting }
  | occupied {fd : Fd} {l : Listener} {s : SlotId} (hslot : w.registry.slotOf? fd = some s)
    (hbusy : w.registry.seat s l.kind ≠ .idle) :
    Edge w (.registering fd l)
      (.givingBack s (.alreadyRegistered (l.kind.key (w.registry.fdOf s)))) w
  | full {fd : Fd} {l : Listener} (hnone : w.registry.slotOf? fd = none)
    (hroom : w.registry.capacity ≤ w.registry.table.length) :
    Edge w (.registering fd l) (.finished (.error (.capacityExceeded w.registry.capacity))) w
  | reserved {s : SlotId} {l : Listener} (hcur : w.registry.isCurrent s = true)
    (hidle : w.registry.seat s l.kind = .idle) :
    Edge w (.starting s l) (.spawning s l false)
      { w with registry := w.registry.setSeat s l.kind .starting }
  | refused {s : SlotId} {l : Listener} {e : Error}
    (hres : w.registry.reserveOn s l.kind = .error e) :
    Edge w (.starting s l) (.finished (.error e)) w
  | spawned {s : SlotId} {l : Listener} {giveBack : Bool} {host : Host}
    (hh : w.crew.host.SameButFaults host) :
    Edge w (.spawning s l giveBack) (.hearing s l.kind w.crew.threads.length giveBack)
      { w with crew := { w.crew with
          host
          threads := w.crew.threads ++ [l.thread (w.registry.fdOf s) w.registry.settings] } }
  | unspawned {s : SlotId} {l : Listener} {e : Error} {giveBack : Bool} {host : Host}
    (hh : w.crew.host.SameButFaults host) :
    Edge w (.spawning s l giveBack) (.freeing s l.kind e giveBack)
      { w with crew := { w.crew with host } }
  | heard {s : SlotId} {k : ListenerKind} {t : ThreadId} {giveBack : Bool}
    (hreport : w.crew.report? t = some (.ok ())) :
    Edge w (.hearing s k t giveBack) (.recording s k t) w
  | misheard {s : SlotId} {k : ListenerKind} {t : ThreadId} {e : Error} {giveBack : Bool}
    (hreport : w.crew.report? t = some (.error e)) :
    Edge w (.hearing s k t giveBack) (.dismissing s k t e giveBack) w
  | dismissed {s : SlotId} {k : ListenerKind} {t : ThreadId} {e : Error} {giveBack : Bool}
    (hend : w.crew.hasEnded t = true) :
    Edge w (.dismissing s k t e giveBack) (.freeing s k e giveBack) w
  | recorded {s : SlotId} {k : ListenerKind} {t : ThreadId} :
    Edge w (.recording s k t) (.finished (.ok s))
      { w with registry := w.registry.setSeat s k (.running t) }
  | freed {s : SlotId} {k : ListenerKind} {e : Error} {giveBack : Bool} :
    Edge w (.freeing s k e giveBack)
      (if giveBack then .givingBack s e else .finished (.error e))
      { w with registry := w.registry.setSeat s k .idle }
  | givenBack {s : SlotId} {e : Error} :
    Edge w (.givingBack s e) (.finished (.error e))
      { w with registry := w.registry.release s }
  | found {fd : Fd} {k : ListenerKind} {s : SlotId} (hslot : w.registry.slotOf? fd = some s) :
    Edge w (.unregistering fd k) (.stopping s k) w
  | missing {fd : Fd} {k : ListenerKind} (hnone : w.registry.slotOf? fd = none) :
    Edge w (.unregistering fd k) (.finished (.error (.notRegistered (k.key fd)))) w
  | lifted {s : SlotId} {k : ListenerKind} {t : ThreadId}
    (hrun : w.registry.seat s k = .running t) :
    Edge w (.stopping s k) (.cancelling s k t)
      { w with registry := w.registry.setSeat s k .stopping }
  | unlifted {s : SlotId} {k : ListenerKind} {e : Error}
    (hbegin : w.registry.beginStop s k = (.error e, w.registry)) :
    Edge w (.stopping s k) (.finished (.error e)) w
  | cancelled {s : SlotId} {k : ListenerKind} {t : ThreadId} :
    Edge w (.cancelling s k t) (.waking s k t) { w with crew := w.crew.cancel t }
  | woken {s : SlotId} {k : ListenerKind} {t : ThreadId} {crew : Crew}
    (hwake : w.crew.wake t = (.ok (), crew)) :
    Edge w (.waking s k t) (.joining s k t) { w with crew }
  | unwoken {s : SlotId} {k : ListenerKind} {t : ThreadId} {e : Error} {crew : Crew}
    (hwake : w.crew.wake t = (.error e, crew)) :
    Edge w (.waking s k t) (.restoring s k t e) { w with crew }
  | restored {s : SlotId} {k : ListenerKind} {t : ThreadId} {e : Error} :
    Edge w (.restoring s k t e) (.finished (.error e))
      { w with registry := w.registry.setSeat s k (.running t) }
  | joined {s : SlotId} {k : ListenerKind} {t : ThreadId} {result : Outcome Unit}
    (hjoin : w.crew.joined? t = some result) :
    Edge w (.joining s k t) (.clearing s k result) w
  | cleared {s : SlotId} {k : ListenerKind} {result : Outcome Unit} :
    Edge w (.clearing s k result) (.reclaiming s result)
      { w with registry := w.registry.setSeat s k .idle }
  | reclaimed {s : SlotId} {result : Outcome Unit} :
    Edge w (.reclaiming s result) (.finished (result.map fun () => s))
      { w with registry := w.registry.release s }

variable {w w' : Listening}

/-- The ways out of a position are all that there are. -/
theorem step_edge {p p' : Position} (h : step p w = some (p', w')) : Edge w p p' w' := by
  cases p with
  | registering fd l =>
    have hspec := w.registry.reserveFor_spec fd l.kind
    simp only [step] at h
    generalize w.registry.reserveFor fd l.kind = res at h hspec
    cases hspec with
    | taken hacq hidle =>
      rcases Prod.mk.inj (Option.some.inj h) with ⟨rfl, rfl⟩
      exact .taken hacq hidle
    | occupied hslot hbusy =>
      rcases Prod.mk.inj (Option.some.inj h) with ⟨rfl, rfl⟩
      exact .occupied hslot hbusy
    | full hnone hroom =>
      rcases Prod.mk.inj (Option.some.inj h) with ⟨rfl, rfl⟩
      exact .full hnone hroom
  | starting s l =>
    simp only [step] at h
    split at h
    · rename_i hres
      rcases Registry.reserveOn_ok hres with ⟨hcur, hidle, rfl⟩
      rcases Prod.mk.inj (Option.some.inj h) with ⟨rfl, rfl⟩
      exact .reserved hcur hidle
    · rename_i hres
      rcases Prod.mk.inj (Option.some.inj h) with ⟨rfl, rfl⟩
      exact .refused hres
  | spawning s l giveBack =>
    simp only [step] at h
    obtain ⟨host, hh, ⟨e, he⟩ | he⟩ :=
      w.crew.spawn_cases (l.thread (w.registry.fdOf s) w.registry.settings)
    · rw [he] at h
      rcases Prod.mk.inj (Option.some.inj h) with ⟨rfl, rfl⟩
      exact .unspawned hh
    · rw [he] at h
      rcases Prod.mk.inj (Option.some.inj h) with ⟨rfl, rfl⟩
      exact .spawned hh
  | hearing s k t giveBack =>
    simp only [step] at h
    split at h
    · rename_i hreport
      rcases Prod.mk.inj (Option.some.inj h) with ⟨rfl, rfl⟩
      exact .heard hreport
    · rename_i hreport
      rcases Prod.mk.inj (Option.some.inj h) with ⟨rfl, rfl⟩
      exact .misheard hreport
    · cases h
  | dismissing s k t e giveBack =>
    simp only [step] at h
    split at h
    · rename_i hend
      rcases Prod.mk.inj (Option.some.inj h) with ⟨rfl, rfl⟩
      exact .dismissed hend
    · cases h
  | recording s k t =>
    rcases Prod.mk.inj (Option.some.inj h) with ⟨rfl, rfl⟩
    exact .recorded
  | freeing s k e giveBack =>
    rcases Prod.mk.inj (Option.some.inj h) with ⟨rfl, rfl⟩
    exact .freed
  | givingBack s e =>
    rcases Prod.mk.inj (Option.some.inj h) with ⟨rfl, rfl⟩
    exact .givenBack
  | unregistering fd k =>
    simp only [step] at h
    split at h
    · rename_i hslot
      rcases Prod.mk.inj (Option.some.inj h) with ⟨rfl, rfl⟩
      exact .found hslot
    · rename_i hnone
      rcases Prod.mk.inj (Option.some.inj h) with ⟨rfl, rfl⟩
      exact .missing hnone
  | stopping s k =>
    simp only [step] at h
    rcases w.registry.beginStop_cases s k with ⟨t, hrun, he⟩ | ⟨e, he⟩
    · rw [he] at h
      rcases Prod.mk.inj (Option.some.inj h) with ⟨rfl, rfl⟩
      exact .lifted hrun
    · rw [he] at h
      rcases Prod.mk.inj (Option.some.inj h) with ⟨rfl, rfl⟩
      exact .unlifted he
  | cancelling s k t =>
    rcases Prod.mk.inj (Option.some.inj h) with ⟨rfl, rfl⟩
    exact .cancelled
  | waking s k t =>
    simp only [step] at h
    rcases hwake : w.crew.wake t with ⟨e | _, crew⟩
    · rw [hwake] at h
      rcases Prod.mk.inj (Option.some.inj h) with ⟨rfl, rfl⟩
      exact .unwoken hwake
    · rw [hwake] at h
      rcases Prod.mk.inj (Option.some.inj h) with ⟨rfl, rfl⟩
      exact .woken hwake
  | restoring s k t e =>
    rcases Prod.mk.inj (Option.some.inj h) with ⟨rfl, rfl⟩
    exact .restored
  | joining s k t =>
    simp only [step] at h
    rcases Option.map_eq_some_iff.mp h with ⟨result, hjoin, hpos⟩
    rcases Prod.mk.inj hpos with ⟨rfl, rfl⟩
    exact .joined hjoin
  | clearing s k result =>
    rcases Prod.mk.inj (Option.some.inj h) with ⟨rfl, rfl⟩
    exact .cleared
  | reclaiming s result =>
    rcases Prod.mk.inj (Option.some.inj h) with ⟨rfl, rfl⟩
    exact .reclaimed
  | finished result => cases h

end Call

/-! ## The steps of a shutdown -/

/-- What a shutdown may do next: it looks at a listener, leaves one behind, or goes on stopping
the one at hand. -/
inductive Shutdown.Edge (w : Listening) : Shutdown → Shutdown → Listening → Prop where
  | looked {s : SlotId} {k : ListenerKind} {todo : List (SlotId × ListenerKind)} :
    Edge w ⟨(s, k) :: todo, none⟩
      ⟨todo, if w.registry.isActive s k then some (.stopping s k) else none⟩ w
  | leftBehind {todo : List (SlotId × ListenerKind)} {result : Outcome SlotId} :
    Edge w ⟨todo, some (.finished result)⟩ ⟨todo, none⟩ w
  | wentOn {todo : List (SlotId × ListenerKind)} {p p' : Call.Position} {w' : Listening}
    (he : Call.Edge w p p' w') : Edge w ⟨todo, some p⟩ ⟨todo, some p'⟩ w'

theorem Shutdown.step_edge {d d' : Shutdown} {w w' : Listening} (h : d.step w = some (d', w')) :
    Edge w d d' w' := by
  rcases d with ⟨todo, _ | p⟩
  · cases todo with
    | nil => cases h
    | cons e todo =>
      rcases Prod.mk.inj (Option.some.inj h) with ⟨rfl, rfl⟩
      exact .looked
  · simp only [step] at h
    split at h
    · rename_i result hres
      rcases Prod.mk.inj (Option.some.inj h) with ⟨rfl, rfl⟩
      cases p with
      | finished result => exact .leftBehind
      | _ => cases hres
    · rcases Option.map_eq_some_iff.mp h with ⟨⟨p', w₁⟩, hstep, hpos⟩
      rcases Prod.mk.inj hpos with ⟨rfl, rfl⟩
      exact .wentOn (Call.step_edge hstep)

/-! ## The steps of a task -/

/-- What a task may do next, as far as the call on one listener is concerned that it is at. -/
inductive Task.Edge (w : Listening) :
    Option Call.Position → Option Call.Position → Listening → Prop where
  | wentOn {p p' : Call.Position} {w' : Listening} (he : Call.Edge w p p' w') :
    Edge w (some p) (some p') w'
  /-- A shutdown turns to a listener that is active. -/
  | turned {s : SlotId} {k : ListenerKind} : Edge w none (some (.stopping s k)) w
  /-- A shutdown passes by one that is not. -/
  | passedBy : Edge w none none w
  /-- A shutdown is done with one. -/
  | leftBehind {result : Outcome SlotId} : Edge w (some (.finished result)) none w

theorem Task.step_edge {task task' : Task} {w w' : Listening}
    (h : task.step w = some (task', w')) : Edge w task.position? task'.position? w' := by
  cases task with
  | call p =>
    rcases Option.map_eq_some_iff.mp h with ⟨⟨p', w₁⟩, hstep, hpos⟩
    rcases Prod.mk.inj hpos with ⟨rfl, rfl⟩
    exact .wentOn (Call.step_edge hstep)
  | shutdown d =>
    rcases Option.map_eq_some_iff.mp h with ⟨⟨d', w₁⟩, hstep, hpos⟩
    rcases Prod.mk.inj hpos with ⟨rfl, rfl⟩
    cases Shutdown.step_edge hstep with
    | looked =>
      simp only [position?]
      split
      · exact .turned
      · exact .passedBy
    | leftBehind => exact .leftBehind
    | wentOn he => exact .wentOn he

end SerialLine
