import SerialLine.Proofs.Listener.Interleaving

/-!
# SerialLine.Proofs.Listener.Custody — who answers for a seat and for a thread

The invariant of all interleavings. A seat that is starting or stopping is in the keeping of
exactly one call, and a thread that was not joined is known at exactly one place: its seat, or the
call that keeps the seat. Since a slot with a taken seat is in the table, this ties every thread to
the table.

`Custody.move` shows that steps of calls preserve the invariant, `Custody.onCrew` that threads do,
and `Scene.Reachable.custody` puts them together.
-/

namespace SerialLine

/-! ## Threads that go on -/

/-- A crew differs from another in where its threads are, and threads that have ended stay so. -/
structure Crew.Follows (c c' : Crew) : Prop where
  length_eq : c'.threads.length = c.threads.length
  thread : ∀ t th', c'.thread? t = some th' → ∃ th, c.thread? t = some th ∧ th'.fd = th.fd ∧
    th'.body.kind? = th.body.kind? ∧ (th.body.hasEnded = true → th'.body.hasEnded = true)

/-- A thread stays what it is, and a thread that has ended has no step. -/
theorem Thread.Step.stays {h h' : Host} {th th' : Thread} {items : List Item}
    (hs : th.Step h h' th' items) : th'.fd = th.fd ∧ th'.body.kind? = th.body.kind? ∧
      (th.body.hasEnded = true → th'.body.hasEnded = true) := by
  cases hs with
  | data hb e hb' _ hfd _ =>
    refine ⟨hfd, by rw [hb, hb']; rfl, ?_⟩
    intro hend
    rw [hb] at hend
    exact absurd hend (by simp [Body.hasEnded, e.not_ended])
  | event hb e _ hb' _ hfd _ =>
    refine ⟨hfd, by rw [hb, hb']; rfl, ?_⟩
    intro hend
    rw [hb] at hend
    exact absurd hend (by simp [Body.hasEnded, e.not_ended])
  | watch hb e _ hb' _ hfd _ =>
    refine ⟨hfd, by rw [hb, hb']; rfl, ?_⟩
    intro hend
    rw [hb] at hend
    exact absurd hend (by simp [Body.hasEnded, e.not_ended])
  | poked => exact ⟨rfl, rfl, id⟩
  | letGo => exact ⟨rfl, rfl, id⟩

namespace Crew

variable {c c' : Crew}

theorem Keeps.follows (h : c.Keeps c') : c.Follows c' where
  length_eq := h.length_eq
  thread := by
    intro t th' ht
    rcases h.thread ht with ⟨th, hth, hfd, hb⟩
    exact ⟨th, hth, hfd, by rw [hb], by rw [hb]; exact id⟩

theorem StepsAt.follows {t : ThreadId} (h : StepsAt t c c') : c.Follows c' := by
  rcases h with ⟨th, th', items, ht, hstep, hset, -⟩
  refine ⟨by rw [hset, List.length_set], ?_⟩
  intro u thu' hu
  rcases thread?_set_cases ht hset hu with ⟨rfl, rfl⟩ | ⟨-, hu⟩
  · exact ⟨th, ht, hstep.stays⟩
  · exact ⟨thu', hu, rfl, rfl, id⟩

theorem Follows.hasEnded (h : c.Follows c') {t : ThreadId} (hend : c.hasEnded t = true) :
    c'.hasEnded t = true := by
  unfold Crew.hasEnded at hend ⊢
  cases ht' : c'.thread? t with
  | none => rfl
  | some th' =>
    rcases h.thread t th' ht' with ⟨th, ht, -, -, hstays⟩
    rw [ht] at hend
    exact hstays hend

end Crew

/-! ## The invariant -/

/-- What holds of the seats of a registry and of those who keep them. -/
structure Seats (r : Registry) (hold : Nat → Option Holding) : Prop where
  sound : r.Sound
  /-- A seat is as the one who keeps it has left it. -/
  kept : ∀ i x, hold i = some x → r.seat x.slot x.kind = x.seat
  /-- Only seats on their way are kept. -/
  moving : ∀ i x, hold i = some x → x.seat = .starting ∨ x.seat = .stopping
  /-- Nobody else keeps the same seat. -/
  sole : ∀ i j x y, hold i = some x → hold j = some y → x.slot = y.slot → x.kind = y.kind → i = j

/-- Somebody who may still join a thread has it at this seat. -/
def Known (r : Registry) (hold : Nat → Option Holding) (s : SlotId) (k : ListenerKind)
    (t : ThreadId) : Prop :=
  r.seat s k = .running t ∨
    ∃ i x, hold i = some x ∧ x.slot = s ∧ x.kind = k ∧ x.thread? = some t

/-- What holds of a registry with its threads, those that were joined, and what is kept. -/
structure Custody (w : Listening) (joined : List ThreadId) (hold : Nat → Option Holding) : Prop
    extends Seats w.registry hold where
  /-- A listener's thread is known at a seat of its descriptor until it is joined. -/
  placed : ∀ t th k, w.crew.thread? t = some th → th.body.kind? = some k → t ∉ joined →
    ∃ s, w.registry.fdOf s = th.fd ∧ Known w.registry hold s k t
  /-- Threads that are known were created. -/
  created : ∀ s k t, Known w.registry hold s k t → t < w.crew.threads.length
  /-- Threads that were joined have ended. -/
  ended : ∀ t, t ∈ joined → t < w.crew.threads.length ∧ w.crew.hasEnded t = true

section Seats

variable {r r' : Registry} {hold : Nat → Option Holding} {i : Nat} {s : SlotId}
  {k : ListenerKind} {t : ThreadId}

/-- A slot with a seat that is kept was made. -/
theorem Seats.lt_of_hold (h : Seats r hold) {x : Holding} (hi : hold i = some x) :
    x.slot < r.slots.length := by
  apply Registry.lt_of_seat_ne (k := x.kind)
  rw [h.kept i x hi]
  rcases h.moving i x hi with hx | hx <;> rw [hx] <;> exact Seat.noConfusion

theorem Seats.seat_ne_of_known (h : Seats r hold) (hk : Known r hold s k t) :
    r.seat s k ≠ .idle := by
  rcases hk with hrun | ⟨i, x, hi, rfl, rfl, -⟩
  · rw [hrun]
    exact Seat.noConfusion
  · rw [h.kept i x hi]
    rcases h.moving i x hi with hx | hx <;> rw [hx] <;> exact Seat.noConfusion

/-- A seat knows one thread at most. -/
theorem Seats.known_unique (h : Seats r hold) {t' : ThreadId} (hk : Known r hold s k t)
    (hk' : Known r hold s k t') : t = t' := by
  have clash : ∀ {u : ThreadId} {i : Nat} {x : Holding}, r.seat x.slot x.kind = .running u →
      hold i = some x → False := by
    intro u i x hrun hi
    rw [h.kept i x hi] at hrun
    rcases h.moving i x hi with hx | hx <;> rw [hx] at hrun <;> cases hrun
  -- a thread on the seat itself and one that a call keeps exclude each other
  rcases hk with hrun | ⟨i, x, hi, rfl, rfl, hx⟩
  · rcases hk' with hrun' | ⟨j, y, hj, rfl, rfl, -⟩
    · exact Seat.running.inj (hrun.symm.trans hrun')
    · exact (clash hrun hj).elim
  · rcases hk' with hrun' | ⟨j, y, hj, hs, hkind, hy⟩
    · exact (clash hrun' hi).elim
    · obtain rfl := h.sole i j x y hi hj hs.symm hkind.symm
      obtain rfl := Option.some.inj (hi.symm.trans hj)
      exact Option.some.inj (hx.symm.trans hy)

/-- Nobody keeps a seat that is not on its way. -/
theorem Seats.not_held (h : Seats r hold)
    (hs : r.seat s k ≠ .starting ∧ r.seat s k ≠ .stopping) {j : Nat} {x : Holding}
    (hj : hold j = some x) : ¬ (x.slot = s ∧ x.kind = k) := by
  rintro ⟨rfl, rfl⟩
  rw [h.kept j x hj] at hs
  rcases h.moving j x hj with hx | hx
  · exact hs.1 hx
  · exact hs.2 hx

/-- The registry may change as long as its seats do not. -/
theorem Seats.onRegistry (h : Seats r hold) (hr : r'.Sound)
    (hseat : ∀ s k, r'.seat s k = r.seat s k) : Seats r' hold :=
  ⟨hr, fun i x hi => (hseat _ _).trans (h.kept i x hi), h.moving, h.sole⟩

/-- A thread stays known, unless the one who keeps it keeps it no more. -/
theorem Known.update (h : Known r hold s k t) {x' : Option Holding}
    (hkeep : ∀ x, hold i = some x → x.thread? ≠ some t) :
    Known r (Function.update hold i x') s k t := by
  rcases h with hrun | ⟨j, x, hj, hs, hk, hx⟩
  · exact Or.inl hrun
  · have hji : j ≠ i := by
      rintro rfl
      exact hkeep x hj hx
    exact Or.inr ⟨j, x, by rwa [Function.update_of_ne hji], hs, hk, hx⟩

end Seats

/-! ## Steps of calls -/

section Custody

variable {w : Listening} {joined : List ThreadId} {hold : Nat → Option Holding}

/-- The registry may change as long as its seats and the descriptors of its slots do not. -/
theorem Custody.onRegistry (h : Custody w joined hold) {r : Registry} (hr : r.Sound)
    (hseat : ∀ s k, r.seat s k = w.registry.seat s k)
    (hfd : ∀ s, s < w.registry.slots.length → r.fdOf s = w.registry.fdOf s) :
    Custody { w with registry := r } joined hold := by
  have hknown : ∀ s k t, Known r hold s k t ↔ Known w.registry hold s k t := by
    intro s k t
    simp only [Known, hseat]
  constructor
  · exact h.toSeats.onRegistry hr hseat
  · intro t th k ht hk hj
    rcases h.placed t th k ht hk hj with ⟨s, hs, hat⟩
    -- a slot that knows a thread was made before, so its descriptor is still the same
    have hlt := Registry.lt_of_seat_ne (h.seat_ne_of_known hat)
    exact ⟨s, (hfd s hlt).trans hs, (hknown s k t).mpr hat⟩
  · intro s k t hat
    exact h.created s k t ((hknown s k t).mp hat)
  · exact h.ended

/-- Threads may go on. -/
theorem Custody.onCrew (h : Custody w joined hold) {crew : Crew} (hc : w.crew.Follows crew) :
    Custody { w with crew } joined hold := by
  constructor
  · exact h.toSeats
  · intro t th' k ht hk hj
    rcases hc.thread t th' ht with ⟨th, hth, hfd, hkind, -⟩
    rcases h.placed t th k hth (hkind ▸ hk) hj with ⟨s, hs, hat⟩
    exact ⟨s, hs.trans hfd.symm, hat⟩
  · intro s k t hat
    exact lt_of_lt_of_eq (h.created s k t hat) hc.length_eq.symm
  · intro t ht
    rcases h.ended t ht with ⟨hlt, hend⟩
    exact ⟨lt_of_lt_of_eq hlt hc.length_eq.symm, hc.hasEnded hend⟩

end Custody

/-- One who keeps a seat, or is about to, may change it: the seat `y` it is given and what is kept
afterwards know the same threads as before. -/
structure Reseats (r : Registry) (hold : Nat → Option Holding) (i : Nat) (s : SlotId)
    (k : ListenerKind) (y : Seat) (x' : Option Holding) : Prop where
  made : s < r.slots.length
  current : y = .idle ∨ r.isCurrent s = true
  /-- Nobody else keeps the seat. -/
  others : ∀ j x, j ≠ i → hold j = some x → ¬ (x.slot = s ∧ x.kind = k)
  /-- No other seat was kept. -/
  before : ∀ x, hold i = some x → x.slot = s ∧ x.kind = k
  /-- What is kept afterwards is the seat as it was left. -/
  after : ∀ x, x' = some x → x.slot = s ∧ x.kind = k ∧ x.seat = y ∧ (y = .starting ∨ y = .stopping)
  same : ∀ t, (y = .running t ∨ ∃ x, x' = some x ∧ x.thread? = some t) ↔
    (r.seat s k = .running t ∨ ∃ x, hold i = some x ∧ x.thread? = some t)

namespace Reseats

variable {r : Registry} {hold : Nat → Option Holding} {i : Nat} {s : SlotId} {k : ListenerKind}
  {y : Seat} {x' : Option Holding}

/-- Whoever keeps a seat afterwards has just changed it, or kept another seat before. -/
theorem hold_cases (h : Reseats r hold i s k y x') {j : Nat} {x : Holding}
    (hj : Function.update hold i x' j = some x) :
    (j = i ∧ x' = some x) ∨ (j ≠ i ∧ hold j = some x ∧ ¬ (x.slot = s ∧ x.kind = k)) := by
  rcases update_cases (P := (· = some x)) hj with hself | ⟨hji, hbefore⟩
  · exact Or.inl hself
  · exact Or.inr ⟨hji, hbefore, h.others j x hji hbefore⟩

theorem seat_self (h : Reseats r hold i s k y x') : (r.setSeat s k y).seat s k = y :=
  Registry.seat_setSeat_self k y r h.made

theorem seat_other {s' : SlotId} {k' : ListenerKind} (hne : ¬ (s' = s ∧ k' = k)) :
    (r.setSeat s k y).seat s' k' = r.seat s' k' :=
  Registry.seat_setSeat_ne y r (fun hs hk => hne ⟨hs, hk⟩)

/-- The threads that the seat itself knows. -/
theorem known_self (h : Reseats r hold i s k y x') (t : ThreadId) :
    Known (r.setSeat s k y) (Function.update hold i x') s k t ↔ Known r hold s k t := by
  constructor
  · rintro (hrun | ⟨j, x, hj, hs, hk, hx⟩)
    · rw [h.seat_self] at hrun
      rcases (h.same t).mp (Or.inl hrun) with hrun | ⟨x, hi, hx⟩
      · exact Or.inl hrun
      · rcases h.before x hi with ⟨hs, hk⟩
        exact Or.inr ⟨i, x, hi, hs, hk, hx⟩
    · rcases h.hold_cases hj with ⟨rfl, hx'⟩ | ⟨-, -, hne⟩
      · rcases (h.same t).mp (Or.inr ⟨x, hx', hx⟩) with hrun | ⟨x, hi, hx⟩
        · exact Or.inl hrun
        · rcases h.before x hi with ⟨hs, hk⟩
          exact Or.inr ⟨_, x, hi, hs, hk, hx⟩
      · exact absurd ⟨hs, hk⟩ hne
  · intro hat
    have hown : r.seat s k = .running t ∨ ∃ x, hold i = some x ∧ x.thread? = some t := by
      rcases hat with hrun | ⟨j, x, hj, hs, hk, hx⟩
      · exact Or.inl hrun
      · by_cases hji : j = i
        · exact Or.inr ⟨x, hji ▸ hj, hx⟩
        · exact absurd ⟨hs, hk⟩ (h.others j x hji hj)
    rcases (h.same t).mpr hown with hrun | ⟨x, hx', hx⟩
    · exact Or.inl (h.seat_self.trans hrun)
    · rcases h.after x hx' with ⟨hs, hk, -⟩
      exact Or.inr ⟨i, x, by simpa using hx', hs, hk, hx⟩

/-- Every seat knows the threads that it knew. -/
theorem known_iff (h : Reseats r hold i s k y x') (s' : SlotId) (k' : ListenerKind)
    (t : ThreadId) :
    Known (r.setSeat s k y) (Function.update hold i x') s' k' t ↔ Known r hold s' k' t := by
  by_cases hsk : s' = s ∧ k' = k
  · rcases hsk with ⟨rfl, rfl⟩
    exact h.known_self t
  · -- at any other seat the same calls keep the same threads
    unfold Known
    rw [seat_other hsk]
    refine or_congr Iff.rfl ⟨?_, ?_⟩
    · rintro ⟨j, x, hj, rfl, rfl, hx⟩
      rcases h.hold_cases hj with ⟨-, hx'⟩ | ⟨-, hj', -⟩
      · rcases h.after x hx' with ⟨hs, hk, -⟩
        exact absurd ⟨hs, hk⟩ hsk
      · exact ⟨j, x, hj', rfl, rfl, hx⟩
    · rintro ⟨j, x, hj, rfl, rfl, hx⟩
      have hji : j ≠ i := by
        rintro rfl
        exact hsk (h.before x hj)
      exact ⟨j, x, by rwa [Function.update_of_ne hji], rfl, rfl, hx⟩

theorem seats (h : Reseats r hold i s k y x') (hs : Seats r hold) :
    Seats (r.setSeat s k y) (Function.update hold i x') := by
  constructor
  · exact hs.sound.setSeat h.current
  · intro j x hj
    rcases h.hold_cases hj with ⟨-, hx'⟩ | ⟨-, hj', hne⟩
    · rcases h.after x hx' with ⟨rfl, rfl, rfl, -⟩
      exact h.seat_self
    · exact (seat_other hne).trans (hs.kept j x hj')
  · intro j x hj
    rcases h.hold_cases hj with ⟨-, hx'⟩ | ⟨-, hj', -⟩
    · rcases h.after x hx' with ⟨-, -, rfl, hmoving⟩
      exact hmoving
    · exact hs.moving j x hj'
  · intro j j' x x₁ hj hj' hslot hkind
    rcases h.hold_cases hj with ⟨rfl, hx'⟩ | ⟨-, hold₁, hne₁⟩
    · rcases h.hold_cases hj' with ⟨rfl, -⟩ | ⟨-, -, hne⟩
      · rfl
      · rcases h.after x hx' with ⟨rfl, rfl, -⟩
        exact absurd ⟨hslot.symm, hkind.symm⟩ hne
    · rcases h.hold_cases hj' with ⟨rfl, hx'⟩ | ⟨-, hold₂, -⟩
      · rcases h.after x₁ hx' with ⟨rfl, rfl, -⟩
        exact absurd ⟨hslot, hkind⟩ hne₁
      · exact hs.sole j j' x x₁ hold₁ hold₂ hslot hkind

end Reseats

section Custody

variable {w : Listening} {joined : List ThreadId} {hold : Nat → Option Holding} {i : Nat}
  {s : SlotId} {k : ListenerKind}

theorem Custody.reseat (h : Custody w joined hold) {y : Seat} {x' : Option Holding}
    (hr : Reseats w.registry hold i s k y x') :
    Custody { w with registry := w.registry.setSeat s k y } joined
      (Function.update hold i x') := by
  constructor
  · exact hr.seats h.toSeats
  · intro t th k' ht hk hj
    rcases h.placed t th k' ht hk hj with ⟨s', hs', hat⟩
    exact ⟨s', by simpa using hs', (hr.known_iff s' k' t).mpr hat⟩
  · intro s' k' t hat
    exact h.created s' k' t ((hr.known_iff s' k' t).mp hat)
  · exact h.ended

/-- A free seat, or one that runs, is kept by nobody, so anybody may take it. -/
theorem Seats.take {r : Registry} (h : Seats r hold) (hi : hold i = none) {y : Seat}
    {t? : Option ThreadId} (hcur : r.isCurrent s = true)
    (hrest : (r.seat s k = .idle ∧ t? = none ∧ y = .starting) ∨
      ∃ t, r.seat s k = .running t ∧ t? = some t ∧ y = .stopping) :
    Reseats r hold i s k y (some ⟨s, k, y, t?⟩) := by
  have hfree : r.seat s k ≠ .starting ∧ r.seat s k ≠ .stopping := by
    rcases hrest with ⟨hidle, -⟩ | ⟨t, hrun, -⟩
    · simp [hidle]
    · simp [hrun]
  constructor
  · exact (Registry.isCurrent_iff.mp hcur).1
  · exact Or.inr hcur
  · intro j x _ hj
    exact h.not_held hfree hj
  · intro x hx
    rw [hi] at hx
    cases hx
  · intro x hx
    obtain rfl := Option.some.inj hx
    rcases hrest with ⟨-, -, rfl⟩ | ⟨_, -, -, rfl⟩ <;> simp
  · intro t
    rcases hrest with ⟨hidle, rfl, rfl⟩ | ⟨u, hrun, rfl, rfl⟩
    · simp [hidle, hi]
    · simp [hrun, hi]

/-- The one who keeps a seat gives it back, to the thread that it keeps or to nobody. -/
theorem Seats.give {r : Registry} (h : Seats r hold) {x y : Seat} {t? : Option ThreadId}
    (hi : hold i = some ⟨s, k, x, t?⟩)
    (hy : (y = .idle ∧ t? = none) ∨ ∃ t, y = .running t ∧ t? = some t) :
    Reseats r hold i s k y none := by
  have hkept : r.seat s k = x := h.kept i _ hi
  have hmoving : x = .starting ∨ x = .stopping := h.moving i _ hi
  have hbusy : r.seat s k ≠ .idle := by
    rcases hmoving with hx | hx <;> rw [hkept, hx] <;> exact Seat.noConfusion
  constructor
  · exact h.lt_of_hold hi
  · exact Or.inr (h.sound.current s k hbusy)
  · rintro j z hj hz ⟨hs, hk⟩
    exact hj (h.sole j i z _ hz hi hs hk)
  · intro z hz
    obtain rfl := Option.some.inj (hi.symm.trans hz)
    exact ⟨rfl, rfl⟩
  · intro z hz
    cases hz
  · intro t
    rw [hkept, hi]
    rcases hy with ⟨rfl, rfl⟩ | ⟨u, rfl, rfl⟩ <;> rcases hmoving with rfl | rfl <;> simp

/-- What is kept may be the thread or not, as far as the seats are concerned. -/
theorem Seats.rehold {r : Registry} (h : Seats r hold) {x : Holding} (hi : hold i = some x)
    (t? : Option ThreadId) :
    Seats r (Function.update hold i (some { x with thread? := t? })) := by
  have back : ∀ {j : Nat} {y : Holding},
      Function.update hold i (some { x with thread? := t? }) j = some y →
      ∃ z, hold j = some z ∧ y.slot = z.slot ∧ y.kind = z.kind ∧ y.seat = z.seat := by
    intro j y hj
    rcases update_cases (P := (· = some y)) hj with ⟨rfl, hself⟩ | ⟨-, hbefore⟩
    · obtain rfl := Option.some.inj hself
      exact ⟨x, hi, rfl, rfl, rfl⟩
    · exact ⟨y, hbefore, rfl, rfl, rfl⟩
  constructor
  · exact h.sound
  · intro j y hj
    rcases back hj with ⟨z, hz, hs, hk, hx⟩
    rw [hs, hk, hx]
    exact h.kept j z hz
  · intro j y hj
    rcases back hj with ⟨z, hz, -, -, hx⟩
    rw [hx]
    exact h.moving j z hz
  · intro j j' y y' hj hj' hslot hkind
    rcases back hj with ⟨z, hz, hs, hk, -⟩
    rcases back hj' with ⟨z', hz', hs', hk', -⟩
    exact h.sole j j' z z' hz hz' (hs ▸ hs' ▸ hslot) (hk ▸ hk' ▸ hkind)

/-- The thread of a kept seat is created. -/
theorem Custody.spawn (h : Custody w joined hold) {x : Seat} (hi : hold i = some ⟨s, k, x, none⟩)
    {host : Host} {th : Thread} (hfd : th.fd = w.registry.fdOf s) (hk : th.body.kind? = some k) :
    Custody { w with crew := { w.crew with host, threads := w.crew.threads ++ [th] } } joined
      (Function.update hold i (some ⟨s, k, x, some w.crew.threads.length⟩)) := by
  have hnew : Function.update hold i (some ⟨s, k, x, some w.crew.threads.length⟩) i = _ :=
    Function.update_self ..
  constructor
  · exact h.toSeats.rehold hi _
  · intro t thr k' ht hkind hj
    rcases Crew.thread?_append_cases (c := w.crew) rfl ht with ht | ⟨rfl, rfl⟩
    · rcases h.placed t thr k' ht hkind hj with ⟨s', hs', hat⟩
      refine ⟨s', hs', hat.update fun y hy => ?_⟩
      rw [Option.some.inj (hy.symm.trans hi)]
      exact nofun
    · obtain rfl := Option.some.inj (hk.symm.trans hkind)
      exact ⟨s, hfd.symm, Or.inr ⟨i, _, hnew, rfl, rfl, rfl⟩⟩
  · intro s' k' t hat
    show t < (w.crew.threads ++ [th]).length
    rw [List.length_append, List.length_singleton]
    rcases hat with hrun | ⟨j, y, hj, rfl, rfl, hy⟩
    · exact Nat.lt_succ_of_lt (h.created s' k' t (Or.inl hrun))
    · rcases update_cases (P := (· = some y)) hj with ⟨-, hself⟩ | ⟨-, hbefore⟩
      · obtain rfl := Option.some.inj hself
        obtain rfl := Option.some.inj hy
        exact Nat.lt_succ_self _
      · exact Nat.lt_succ_of_lt (h.created _ _ t (Or.inr ⟨j, y, hbefore, rfl, rfl, hy⟩))
  · intro t ht
    rcases h.ended t ht with ⟨hlt, hend⟩
    refine ⟨?_, ?_⟩
    · show t < (w.crew.threads ++ [th]).length
      simpa using Nat.lt_succ_of_lt hlt
    · show ((w.crew.threads ++ [th])[t]?.map (·.body.hasEnded)).getD true = true
      rw [List.getElem?_append_left hlt]
      exact hend

/-- The thread that goes with a kept seat is joined. -/
theorem Custody.join (h : Custody w joined hold) {x : Seat} {t : ThreadId}
    (hi : hold i = some ⟨s, k, x, some t⟩) (hend : w.crew.hasEnded t = true) :
    Custody w (t :: joined) (Function.update hold i (some ⟨s, k, x, none⟩)) := by
  have hat : Known w.registry hold s k t := Or.inr ⟨i, _, hi, rfl, rfl, rfl⟩
  constructor
  · exact h.toSeats.rehold hi none
  · intro u thr k' hu hkind hj
    -- any other thread is known where it was
    rcases not_or.mp (mt List.mem_cons.mpr hj) with ⟨hut, hj⟩
    rcases h.placed u thr k' hu hkind hj with ⟨s', hs', hknown⟩
    refine ⟨s', hs', hknown.update fun y hy hyu => ?_⟩
    obtain rfl := Option.some.inj (hi.symm.trans hy)
    exact hut (Option.some.inj hyu).symm
  · rintro s' k' u (hrun | ⟨j, y, hy, rfl, rfl, hyu⟩)
    · exact h.created s' k' u (Or.inl hrun)
    · rcases update_cases (P := (· = some y)) hy with ⟨-, hself⟩ | ⟨-, hbefore⟩
      · obtain rfl := Option.some.inj hself
        cases hyu
      · exact h.created _ _ u (Or.inr ⟨j, y, hbefore, rfl, rfl, hyu⟩)
  · intro u hu
    rcases List.mem_cons.mp hu with rfl | hu
    · exact ⟨h.created s k u hat, hend⟩
    · exact h.ended u hu

/-! ## The invariant of all interleavings -/

theorem Listener.thread_spec (l : Listener) (fd : Fd) (settings : ListenerSettings) :
    (l.thread fd settings).fd = fd ∧ (l.thread fd settings).body.kind? = some l.kind := by
  cases l <;> exact ⟨rfl, rfl⟩

/-- A step of a call preserves the invariant. -/
theorem Custody.move (h : Custody w joined hold) {x' : Option Holding} {ts : List ThreadId}
    {w' : Listening} (hm : Call.Move w (hold i) x' ts w') :
    Custody w' (ts ++ joined) (Function.update hold i x') := by
  generalize hx : hold i = x at hm
  cases hm with
  | passed hk =>
    rw [← hx, Function.update_eq_self]
    exact h.onCrew hk.follows
  | acquired fd =>
    rw [← hx, Function.update_eq_self]
    exact h.onRegistry (h.sound.acquire fd) (Registry.seat_acquire fd)
      (fun _ => Registry.fdOf_acquire fd)
  | @reservedFor fd s k r hr hidle =>
    -- the slot is found or made first, and its seat is taken then
    have hcur := (Registry.acquired_current h.sound hr).1
    have hmade : Custody { w with registry := r } joined hold := by
      obtain rfl : (w.registry.acquire fd).2 = r := by rw [hr]
      exact h.onRegistry (h.sound.acquire fd) (Registry.seat_acquire fd)
        (fun _ => Registry.fdOf_acquire fd)
    exact hmade.reseat (hmade.take hx hcur (Or.inl ⟨hidle, rfl, rfl⟩))
  | reservedOn hcur hidle => exact h.reseat (h.take hx hcur (Or.inl ⟨hidle, rfl, rfl⟩))
  | @spawned s l host hh =>
    rcases l.thread_spec (w.registry.fdOf s) w.registry.settings with ⟨hfd, hk⟩
    exact h.spawn hx hfd hk
  | joined hend => exact h.join hx hend
  | @seated s k x t => exact h.reseat (h.give hx (Or.inr ⟨t, rfl, rfl⟩))
  | freed => exact h.reseat (h.give hx (Or.inl ⟨rfl, rfl⟩))
  | @lifted s k t hrun =>
    have hcur := h.sound.current s k (by rw [hrun]; exact Seat.noConfusion)
    exact h.reseat (h.take hx hcur (Or.inr ⟨t, hrun, rfl, rfl⟩))
  | released s =>
    rw [← hx, Function.update_eq_self]
    exact h.onRegistry (h.sound.release s) (fun s' k => Registry.seat_release s s' k)
      (fun s' _ => Registry.fdOf_release s s')

/-- A thread stays known at its seat until it is joined. -/
theorem Seats.move_known (h : Seats w.registry hold) {x' : Option Holding} {ts : List ThreadId}
    {w' : Listening} (hm : Call.Move w (hold i) x' ts w') {t : ThreadId}
    (hat : Known w.registry hold s k t) :
    Known w'.registry (Function.update hold i x') s k t ∨ t ∈ ts := by
  generalize hx : hold i = x at hm
  cases hm with
  | passed =>
    rw [← hx, Function.update_eq_self]
    exact .inl hat
  | acquired fd =>
    rw [← hx, Function.update_eq_self]
    simp only [Known, Registry.seat_acquire]
    exact .inl hat
  | @reservedFor fd s k r hr hidle =>
    have hcur := (Registry.acquired_current h.sound hr).1
    obtain rfl : (w.registry.acquire fd).2 = r := by rw [hr]
    have hmade := h.onRegistry (h.sound.acquire fd) (Registry.seat_acquire fd)
    refine .inl (((hmade.take hx hcur (.inl ⟨hidle, rfl, rfl⟩)).known_iff _ _ _).mpr ?_)
    simp only [Known, Registry.seat_acquire]
    exact hat
  | reservedOn hcur hidle =>
    exact .inl (((h.take hx hcur (.inl ⟨hidle, rfl, rfl⟩)).known_iff _ _ _).mpr hat)
  | @lifted s k u hrun =>
    have hcur := h.sound.current s k (by rw [hrun]; exact Seat.noConfusion)
    exact .inl (((h.take hx hcur (.inr ⟨u, hrun, rfl, rfl⟩)).known_iff _ _ _).mpr hat)
  | @seated s k x u => exact .inl (((h.give hx (.inr ⟨u, rfl, rfl⟩)).known_iff _ _ _).mpr hat)
  | freed => exact .inl (((h.give hx (.inl ⟨rfl, rfl⟩)).known_iff _ _ _).mpr hat)
  | spawned =>
    refine .inl (hat.update fun y hy => ?_)
    rw [Option.some.inj (hy.symm.trans hx)]
    exact nofun
  | @joined s k x u =>
    by_cases hut : t = u
    · exact .inr (List.mem_singleton.mpr hut)
    · refine .inl (hat.update fun y hy hyt => hut ?_)
      obtain rfl := Option.some.inj (hy.symm.trans hx)
      exact (Option.some.inj hyt).symm
  | released s =>
    rw [← hx, Function.update_eq_self]
    simp only [Known, Registry.seat_release]
    exact .inl hat

end Custody

namespace Scene

variable {s s' : Scene}

/-- The invariant of all interleavings. -/
def Inv (s : Scene) : Prop := Custody s.listening s.joined s.hold

theorem init_inv (capacity : Nat) (settings : ListenerSettings) (host : Host)
    (gates : List (Fd × Gate)) : (start capacity settings host gates).Inv := by
  have hnone : ∀ i x, (start capacity settings host gates).hold i = some x → False := by
    intro i x h
    simp [start, hold] at h
  have hknown : ∀ s k t, ¬ Known (start capacity settings host gates).registry
      (start capacity settings host gates).hold s k t := by
    rintro s k t (hrun | ⟨i, x, hi, -⟩)
    · have hidle := Registry.seat_of_length_le (r := { capacity, settings }) (Nat.zero_le s) k
      exact Seat.noConfusion (hidle.symm.trans hrun)
    · exact hnone i x hi
  constructor
  · constructor
    · exact Registry.sound_empty capacity settings
    · exact fun i x hi => (hnone i x hi).elim
    · exact fun i x hi => (hnone i x hi).elim
    · exact fun i j x y hi => (hnone i x hi).elim
  · intro t th k ht
    cases ht
  · exact fun s k t hat => (hknown s k t hat).elim
  · intro t ht
    cases ht

theorem step_inv {a : Action} (h : s.Inv) (ha : s.act? a = some s') : s'.Inv := by
  unfold Inv at h ⊢
  rcases act?_cases ha with ⟨i, x, ts, hmove, hhold, hjoined⟩ | ⟨t, hstep, hreg, hhold, hjoined⟩ |
    ⟨host, gates, -, rfl⟩
  · rw [hhold, hjoined]
    exact h.move hmove
  · rw [hhold, hjoined]
    have hw : s'.listening = { s.listening with crew := s'.crew } := by
      show s'.listening = ⟨s'.crew, s.registry⟩
      rw [← hreg]
      rfl
    rw [hw]
    exact h.onCrew hstep.follows
  · exact h.onCrew ⟨rfl, fun t th ht => ⟨th, ht, rfl, rfl, id⟩⟩

/-- In every order of steps, a thread stays known at its seat until it is joined. -/
theorem Inv.step_known {a : Action} {slot : SlotId} {k : ListenerKind} {t : ThreadId} (h : s.Inv)
    (ha : s.act? a = some s') (hat : Known s.registry s.hold slot k t) :
    Known s'.registry s'.hold slot k t ∨ t ∈ s'.joined := by
  rcases act?_cases ha with ⟨i, x, ts, hmove, hhold, hjoined⟩ | ⟨u, -, hreg, hhold, -⟩ |
    ⟨host, gates, -, rfl⟩
  · rw [hhold, hjoined]
    exact (h.move_known hmove hat).imp_right (List.mem_append_left _)
  · rw [hreg, hhold]
    exact .inl hat
  · exact .inl hat

theorem Reachable.inv {capacity : Nat} {settings : ListenerSettings}
    (h : Reachable capacity settings s) : s.Inv := by
  induction h with
  | start host gates => exact init_inv capacity settings host gates
  | act a _ ha ih => exact step_inv ih ha

/-- Nobody changes the limits of a registry. -/
theorem Reachable.limits {capacity : Nat} {settings : ListenerSettings}
    (h : Reachable capacity settings s) :
    s.registry.capacity = capacity ∧ s.registry.settings = settings := by
  induction h with
  | start host gates => exact ⟨rfl, rfl⟩
  | @act s s' a _ ha ih =>
    rcases act?_cases ha with ⟨i, x, ts, hmove, -, -⟩ | ⟨t, -, hreg, -, -⟩ | ⟨host, gates, -, rfl⟩
    · suffices hsame : s'.registry.capacity = s.registry.capacity ∧
          s'.registry.settings = s.registry.settings from
        ⟨hsame.1.trans ih.1, hsame.2.trans ih.2⟩
      unfold registry
      generalize s'.listening = w' at hmove
      generalize s.hold i = y at hmove
      cases hmove with
      | passed | spawned | joined => exact ⟨rfl, rfl⟩
      | acquired fd => exact ⟨Registry.capacity_acquire fd, Registry.settings_acquire fd⟩
      | @reservedFor fd _ _ _ hr =>
        have hcap := Registry.capacity_acquire (r := s.listening.registry) fd
        have hset := Registry.settings_acquire (r := s.listening.registry) fd
        rw [hr] at hcap hset
        simpa using ⟨hcap, hset⟩
      | reservedOn | seated | freed | lifted => simp
      | released => simp
    · rw [hreg]
      exact ih
    · exact ih

/-! ## Listener threads -/

/-- A thread is a listener of a kind on a descriptor that was created and not joined yet. -/
def Listens (s : Scene) (t : ThreadId) (fd : Fd) (k : ListenerKind) : Prop :=
  t ∉ s.joined ∧ ∃ th, s.crew.thread? t = some th ∧ th.fd = fd ∧ th.body.kind? = some k

/-- A listener thread is known at a seat of a slot in the table. -/
theorem Inv.listener_known (h : s.Inv) {t : ThreadId} {fd : Fd} {k : ListenerKind}
    (hl : s.Listens t fd k) :
    ∃ slot, s.registry.isCurrent slot = true ∧ s.registry.fdOf slot = fd ∧
      Known s.registry s.hold slot k t := by
  rcases hl with ⟨hj, th, ht, rfl, hk⟩
  rcases h.placed t th k ht hk hj with ⟨slot, hfd, hat⟩
  exact ⟨slot, h.sound.current slot k (h.seat_ne_of_known hat), hfd, hat⟩

theorem Inv.listener_unique (h : s.Inv) {t t' : ThreadId} {fd : Fd} {k : ListenerKind}
    (hl : s.Listens t fd k) (hl' : s.Listens t' fd k) : t = t' := by
  rcases h.listener_known hl with ⟨slot, hcur, hfd, hat⟩
  rcases h.listener_known hl' with ⟨slot', hcur', hfd', hat'⟩
  obtain rfl := Registry.eq_of_current hcur hcur' (hfd.trans hfd'.symm)
  exact h.known_unique hat hat'

end Scene

end SerialLine
