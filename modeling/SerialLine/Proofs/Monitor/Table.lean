import Mathlib.Data.List.Pairwise
import SerialLine.Monitor.Basic

/-!
# SerialLine.Proofs.Monitor.Table — the critical sections of a monitor

What each critical section does to the entries of a monitor, and the part of its invariant that
speaks of the monitor alone: `Monitor.Sound` says that there is room for all entries and that
paths that are the same share one.
-/

namespace SerialLine

namespace Path

variable {a b c : Path}

theorem same_iff : a.same b = true ↔ a.isAbsolute = b.isAbsolute ∧ a.components = b.components := by
  simp [same]

theorem same_refl (a : Path) : a.same a = true := same_iff.mpr ⟨rfl, rfl⟩

theorem same_symm (h : a.same b = true) : b.same a = true := by
  rcases same_iff.mp h with ⟨hroot, hnames⟩
  exact same_iff.mpr ⟨hroot.symm, hnames.symm⟩

theorem same_trans (h : a.same b = true) (h' : b.same c = true) : a.same c = true := by
  rcases same_iff.mp h with ⟨hroot, hnames⟩
  rcases same_iff.mp h' with ⟨hroot', hnames'⟩
  exact same_iff.mpr ⟨hroot.trans hroot', hnames.trans hnames'⟩

end Path

namespace Monitor

variable {m m' : Monitor} {p q : Path}

/-! ## Looking -/

theorem mem_of_entry? {x : Option Watcher} (h : m.entry? p = some x) :
    ∃ q, (q, x) ∈ m.entries ∧ q.same p = true := by
  rcases Option.map_eq_some_iff.mp h with ⟨e, hfind, rfl⟩
  have hsame : e.1.same p = true := by simpa using List.find?_some hfind
  exact ⟨e.1, List.mem_of_find?_eq_some hfind, hsame⟩

theorem not_same_of_not_monitoring (h : m.isMonitoring p = false) {e : Path × Option Watcher}
    (he : e ∈ m.entries) : ¬ e.1.same p = true := by
  have hfind : m.entries.find? (·.1.same p) = none := by
    simpa [isMonitoring, entry?] using h
  exact List.find?_eq_none.mp hfind e he

theorem mem_without {e : Path × Option Watcher} :
    e ∈ m.without p ↔ e ∈ m.entries ∧ ¬ e.1.same p = true := by
  simp [without]

/-- A path that has an entry leaves fewer behind. -/
theorem length_without_lt {e : Path × Option Watcher} (he : e ∈ m.entries)
    (hsame : e.1.same p = true) : (m.without p).length < m.entries.length :=
  List.length_filter_lt_length_iff_exists.mpr ⟨e, he, by simp [hsame]⟩

/-! ## The invariant of a monitor -/

/-- What holds of a monitor alone, whatever its clients are at. -/
structure Sound (m : Monitor) : Prop where
  /-- There are no more entries than there may be. -/
  size : m.entries.length ≤ m.capacity
  /-- No path has two entries. -/
  keys : m.entries.Pairwise fun e e' => ¬ e.1.same e'.1 = true

theorem sound_empty (capacity intervalMs : Nat) : Sound { capacity, intervalMs } where
  size := Nat.zero_le _
  keys := .nil

/-- Entries of one path are the same entry. -/
theorem Sound.eq_of_same (h : m.Sound) {e e' : Path × Option Watcher} (he : e ∈ m.entries)
    (he' : e' ∈ m.entries) (hsame : e.1.same e'.1 = true) : e = e' := by
  have : Std.Symm fun e e' : Path × Option Watcher => ¬ e.1.same e'.1 = true :=
    ⟨fun _ _ hne hsame => hne (Path.same_symm hsame)⟩
  by_contra hne
  exact h.keys.forall he he' hne hsame

/-- A path with a placeholder has no watcher in the table. -/
theorem Sound.not_same_of_placeholder (h : m.Sound) {x : Watcher} (hp : (p, none) ∈ m.entries)
    (hq : (q, some x) ∈ m.entries) : ¬ q.same p = true := by
  intro hsame
  have heq := (Prod.mk.inj (h.eq_of_same hq hp hsame)).2
  cases heq

/-- Entries that are taken out leave a sound table behind. -/
theorem Sound.sublist (h : m.Sound) {entries : List (Path × Option Watcher)}
    (hsub : entries.Sublist m.entries) : Sound { m with entries } where
  size := Nat.le_trans hsub.length_le h.size
  keys := h.keys.sublist hsub

theorem Sound.forget (h : m.Sound) (p : Path) : (m.forget p).Sound :=
  h.sublist List.filter_sublist

theorem Sound.takeAll (h : m.Sound) : m.takeAll.2.Sound :=
  h.sublist List.filter_sublist

/-- One more entry for a path that has none, if there is room. -/
theorem Sound.add (h : m.Sound) {x : Option Watcher} (hroom : m.entries.length < m.capacity)
    (hfree : ∀ e ∈ m.entries, ¬ e.1.same p = true) :
    Sound { m with entries := m.entries ++ [(p, x)] } where
  size := by simpa using Nat.succ_le_of_lt hroom
  keys := by
    refine List.pairwise_append.mpr ⟨h.keys, List.pairwise_singleton _ _, ?_⟩
    intro e he e' he'
    obtain rfl := List.mem_singleton.mp he'
    exact hfree e he

/-- A watcher takes the place of the entry of its path. -/
theorem Sound.record (h : m.Sound) (hp : (p, none) ∈ m.entries) (x : Watcher) :
    (m.record p x).Sound := by
  have hroom : (m.without p).length < m.capacity :=
    Nat.lt_of_lt_of_le (length_without_lt hp (Path.same_refl p)) h.size
  have hfree : ∀ e ∈ m.without p, ¬ e.1.same p = true := fun e he => (mem_without.mp he).2
  exact (h.forget p).add hroom hfree

/-! ## What a critical section finds -/

theorem reserve_ok (h : m.reserve p = .ok m') :
    (∀ e ∈ m.entries, ¬ e.1.same p = true) ∧ m.entries.length < m.capacity ∧
      m' = { m with entries := m.entries ++ [(p, none)] } := by
  unfold reserve at h
  split at h
  · cases h
  · rename_i hfree
    split at h
    · cases h
    · rename_i hroom
      refine ⟨?_, Nat.lt_of_not_le hroom, (Except.ok.inj h).symm⟩
      intro e he
      exact not_same_of_not_monitoring (Bool.eq_false_iff.mpr hfree) he

theorem take_cases (p : Path) (m : Monitor) :
    (∃ q x, (q, some x) ∈ m.entries ∧ q.same p = true ∧ m.take p = (.ok x, m.forget p)) ∨
    (∃ e, m.take p = (.error e, m)) := by
  unfold take
  cases hentry : m.entry? p with
  | none => exact Or.inr ⟨_, rfl⟩
  | some x =>
    cases x with
    | none => exact Or.inr ⟨_, rfl⟩
    | some x =>
      rcases mem_of_entry? hentry with ⟨q, hmem, hsame⟩
      exact Or.inl ⟨q, x, hmem, hsame, rfl⟩

theorem mem_takeAll_fst {x : Watcher} :
    x ∈ m.takeAll.1 ↔ ∃ p, (p, some x) ∈ m.entries := by
  simp [takeAll]

theorem mem_takeAll_snd {e : Path × Option Watcher} :
    e ∈ m.takeAll.2.entries ↔ e ∈ m.entries ∧ e.2 = none := by
  simp [takeAll]

end Monitor

end SerialLine
