import Mathlib.Data.List.Basic
import SerialLine.Proofs.Listener.Registry
import SerialLine.Proofs.Listener.Threads

/-!
# SerialLine.Proofs.Listener.Pending — the bytes that wait at a descriptor

A descriptor that carries a byte stream has a source, the queue of a channel or of a terminal,
which no other descriptor reads. A read takes the first of the bytes that wait and leaves the
rest, reads at other descriptors change nothing, and a wait reports the descriptor as long as
bytes are left.
-/

namespace SerialLine

namespace Host

variable {h h' : Host} {fd fd' : Fd}

/-! ## Replacing one entry -/

theorem lookup_assign_self {κ α : Type} [BEq κ] [LawfulBEq κ] (key : κ) (value : α)
    (entries : List (κ × α)) : (assign key value entries).lookup key = some value :=
  List.lookup_cons_self

theorem lookup_assign_ne {κ α : Type} [BEq κ] [LawfulBEq κ] {key key' : κ} (hne : key' ≠ key)
    (value : α) (entries : List (κ × α)) :
    (assign key value entries).lookup key' = entries.lookup key' := by
  unfold assign
  rw [List.lookup_cons, beq_false_of_ne hne]
  exact lookup_filter_key (!· == key) (by simpa using hne) entries

@[simp] theorem channel_setChannel_self (id : Nat) (c : Channel) (h : Host) :
    (h.setChannel id c).channel id = c := by
  simp [channel, setChannel, lookup_assign_self]

theorem channel_setChannel_ne {id id' : Nat} (hne : id' ≠ id) (c : Channel) (h : Host) :
    (h.setChannel id c).channel id' = h.channel id' := by
  simp [channel, setChannel, lookup_assign_ne hne]

@[simp] theorem pty_setPty_self (n : Nat) (t : Pty) (h : Host) : (h.setPty n t).pty n = t := by
  simp [pty, setPty, lookup_assign_self]

theorem pty_setPty_ne {n n' : Nat} (hne : n' ≠ n) (t : Pty) (h : Host) :
    (h.setPty n t).pty n' = h.pty n' := by
  simp [pty, setPty, lookup_assign_ne hne]

/-! ## Sources -/

/-- Where the bytes that a descriptor reads wait. -/
inductive Source where
  | channel (id : Nat)
  | terminal (number : Nat)
deriving DecidableEq

/-- The source of a descriptor. -/
def source? (h : Host) (fd : Fd) : Option Source :=
  match h.endpoint? fd with
  | some (.stream (some id) _ _) => some (.channel id)
  | some (.terminal n) => some (.terminal n)
  | _ => none

/-- The bytes that wait in a source. -/
def queued (h : Host) : Source → Bytes
  | .channel id => (h.channel id).queued
  | .terminal n => (h.pty n).input

/-- The bytes that wait in a source, if there is one. -/
def queuedIn (h : Host) (src? : Option Source) : Bytes := (src?.map h.queued).getD []

/-- The bytes that wait at a descriptor. -/
def waiting (h : Host) (fd : Fd) : Bytes := h.queuedIn (h.source? fd)

/-- A descriptor carries one byte stream: it is the only one that reads its source, and its bytes
are reported as soon as one of them is there. -/
structure Carries (h : Host) (fd : Fd) : Prop where
  valid : 0 ≤ fd
  sourced : (h.source? fd).isSome = true
  alone : ∀ fd', h.source? fd' = h.source? fd → fd' = fd
  /-- A terminal that holds bytes back until there are several is none of these. -/
  prompt : ∀ n, h.source? fd = some (.terminal n) → ((h.pty n).block.char .vmin).toNat ≤ 1

/-- The faults to come make no difference to what a descriptor carries. -/
theorem SameButFaults.carries (hs : h.SameButFaults h') (hc : h.Carries fd) : h'.Carries fd := by
  rcases hs with ⟨faults, rfl⟩
  exact ⟨hc.valid, hc.sourced, hc.alone, hc.prompt⟩

theorem SameButFaults.waiting_eq (hs : h.SameButFaults h') (fd : Fd) :
    h'.waiting fd = h.waiting fd := by
  rcases hs with ⟨faults, rfl⟩
  rfl

/-! ## Reading -/

/-- One host differs from another in the bytes that wait in a source at most. -/
structure SameButQueue (src? : Option Source) (h h' : Host) : Prop where
  descriptors : h'.descriptors = h.descriptors
  queued : ∀ src, some src ≠ src? → h'.queued src = h.queued src
  block : ∀ n, (h'.pty n).block = (h.pty n).block

theorem SameButQueue.refl (src? : Option Source) (h : Host) : SameButQueue src? h h :=
  ⟨rfl, fun _ _ => rfl, fun _ => rfl⟩

theorem sameButQueue_setChannel (id : Nat) (c : Channel) (h : Host) :
    SameButQueue (some (.channel id)) h (h.setChannel id c) where
  descriptors := rfl
  queued := by
    intro src hsrc
    cases src with
    | channel id' =>
      have hne : id' ≠ id := by
        rintro rfl
        exact hsrc rfl
      simp [Host.queued, channel_setChannel_ne hne]
    | terminal n => rfl
  block := fun _ => rfl

theorem sameButQueue_setPty {n : Nat} {t : Pty} (ht : t.block = (h.pty n).block) :
    SameButQueue (some (.terminal n)) h (h.setPty n t) where
  descriptors := rfl
  queued := by
    intro src hsrc
    cases src with
    | channel id => rfl
    | terminal n' =>
      have hne : n' ≠ n := by
        rintro rfl
        exact hsrc rfl
      simp [Host.queued, pty_setPty_ne hne]
  block := by
    intro n'
    by_cases hne : n' = n
    · subst hne
      simpa using ht
    · rw [pty_setPty_ne hne]

/-- A read takes the first bytes of a source and leaves the rest, or takes none. -/
theorem readChannel_spec (id room : Nat) (h : Host) :
    SameButQueue (some (.channel id)) h (h.readChannel id room).2 ∧
    ((∃ bytes, (h.readChannel id room).1 = .ok bytes ∧ bytes.length ≤ room ∧
        h.queued (.channel id) = bytes ++ (h.readChannel id room).2.queued (.channel id)) ∨
      ∃ f, (h.readChannel id room).1 = .error f ∧
        (h.readChannel id room).2.queued (.channel id) = h.queued (.channel id)) := by
  have hrefl := SameButQueue.refl (some (.channel id)) h
  unfold readChannel
  dsimp only
  split
  · exact ⟨hrefl, Or.inl ⟨[], rfl, Nat.zero_le _, rfl⟩⟩
  · split
    · refine ⟨sameButQueue_setChannel _ _ _, Or.inl ⟨_, rfl, List.length_take_le _ _, ?_⟩⟩
      simp [Host.queued]
    · split
      · refine ⟨sameButQueue_setChannel _ _ _, Or.inr ⟨_, rfl, ?_⟩⟩
        simp [Host.queued]
      · split
        · exact ⟨hrefl, Or.inr ⟨_, rfl, rfl⟩⟩
        · exact ⟨hrefl, Or.inl ⟨[], rfl, Nat.zero_le _, rfl⟩⟩

/-- A read takes the first bytes that wait at its descriptor and leaves the rest, or takes none. -/
theorem readFd_spec (fd : Fd) (room : Nat) (h : Host) :
    SameButQueue (h.source? fd) h (h.readFd fd room).2 ∧
    ((∃ bytes, (h.readFd fd room).1 = .ok bytes ∧ bytes.length ≤ room ∧
        h.queuedIn (h.source? fd) = bytes ++ (h.readFd fd room).2.queuedIn (h.source? fd)) ∨
      ∃ f, (h.readFd fd room).1 = .error f ∧
        (h.readFd fd room).2.queuedIn (h.source? fd) = h.queuedIn (h.source? fd)) := by
  unfold readFd source?
  cases h.endpoint? fd with
  | none => exact ⟨.refl _ h, Or.inr ⟨_, rfl, rfl⟩⟩
  | some e =>
    cases e with
    | terminal n =>
      dsimp only
      split
      · exact ⟨.refl _ h, Or.inl ⟨[], rfl, Nat.zero_le _, rfl⟩⟩
      · split
        · exact ⟨.refl _ h, Or.inr ⟨_, rfl, rfl⟩⟩
        · refine ⟨sameButQueue_setPty rfl, Or.inl ⟨_, rfl, List.length_take_le _ _, ?_⟩⟩
          simp [queuedIn, Host.queued]
    | stream input? output? socket =>
      cases input? with
      | none => exact ⟨.refl _ h, Or.inr ⟨_, rfl, rfl⟩⟩
      | some id => exact readChannel_spec id room h
    | null => exact ⟨.refl _ h, Or.inl ⟨[], rfl, Nat.zero_le _, rfl⟩⟩
    | file => exact ⟨.refl _ h, Or.inl ⟨[], rfl, Nat.zero_le _, rfl⟩⟩

theorem SameButQueue.source_eq {src? : Option Source} (hs : SameButQueue src? h h') (fd : Fd) :
    h'.source? fd = h.source? fd := by
  unfold source? endpoint?
  rw [hs.descriptors]

theorem SameButQueue.carries {src? : Option Source} (hs : SameButQueue src? h h')
    (hc : h.Carries fd) : h'.Carries fd := by
  constructor
  · exact hc.valid
  · rw [hs.source_eq]
    exact hc.sourced
  · intro fd' hsrc
    rw [hs.source_eq, hs.source_eq] at hsrc
    exact hc.alone fd' hsrc
  · intro n hn
    rw [hs.source_eq] at hn
    rw [hs.block]
    exact hc.prompt n hn

/-- A read at another descriptor leaves alone what waits at one that carries a stream. -/
theorem Carries.read_other (hc : h.Carries fd) (hne : fd' ≠ fd) (room : Nat) :
    (h.readFd fd' room).2.Carries fd ∧ (h.readFd fd' room).2.waiting fd = h.waiting fd := by
  have hs := (readFd_spec fd' room h).1
  refine ⟨hs.carries hc, ?_⟩
  unfold waiting
  rw [hs.source_eq]
  rcases Option.isSome_iff_exists.mp hc.sourced with ⟨src, hsrc⟩
  -- the other descriptor has another source, or it would be this one
  have hother : some src ≠ h.source? fd' := by
    intro heq
    exact hne (hc.alone fd' (heq.symm.trans hsrc.symm))
  rw [hsrc]
  exact hs.queued src hother

/-- A read at a descriptor takes the first of its bytes, or none. -/
theorem Carries.read (hc : h.Carries fd) (room : Nat) :
    (h.readFd fd room).2.Carries fd ∧
    ((∃ bytes, (h.readFd fd room).1 = .ok bytes ∧ bytes.length ≤ room ∧
        h.waiting fd = bytes ++ (h.readFd fd room).2.waiting fd) ∨
      ∃ f, (h.readFd fd room).1 = .error f ∧ (h.readFd fd room).2.waiting fd = h.waiting fd) := by
  rcases readFd_spec fd room h with ⟨hs, hread⟩
  refine ⟨hs.carries hc, ?_⟩
  unfold waiting
  rw [hs.source_eq]
  exact hread

/-- A wait reports the bytes that are there. -/
theorem Carries.reported (hc : h.Carries fd) (hw : h.waiting fd ≠ []) :
    (h.readiness fd).readable = true := by
  have hprompt := hc.prompt
  have hvalid : ¬ fd < 0 := Int.not_lt.mpr hc.valid
  revert hw hprompt
  unfold waiting source? readiness
  rw [if_neg hvalid]
  cases h.endpoint? fd with
  | none => exact fun hw => absurd rfl hw
  | some e =>
    cases e with
    | terminal n =>
      -- one byte is as much as the wait asks for
      intro hw hprompt
      have hone := hprompt n rfl
      have hpos : 0 < (h.pty n).input.length := List.length_pos_of_ne_nil hw
      show decide (max 1 _ ≤ _) = true
      rw [decide_eq_true_eq, Nat.max_eq_left hone]
      exact hpos
    | stream input? output? socket =>
      cases input? with
      | none => exact fun hw => absurd rfl hw
      | some id =>
        intro hw _
        have hqueued : (h.channel id).queued.isEmpty = false := by
          simpa [queuedIn, Host.queued] using hw
        simp [hqueued]
    | null => exact fun hw => absurd rfl hw
    | file => exact fun hw => absurd rfl hw

end Host

end SerialLine
