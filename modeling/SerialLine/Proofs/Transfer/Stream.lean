import Mathlib.Data.List.Basic
import SerialLine.Transfer.Basic

/-!
# SerialLine.Proofs.Transfer.Stream — read operations conserve the stream

A device streams if its reads take bytes off the front of what is unread, and if a read that fails
takes none (`Device.Streams`). On such a device both read operations hand over exactly the bytes
that they took, however the calls are interrupted and the bytes are cut, and where they fail they
took none. `Transfer.Ended` says this of an operation, and each read that does not end one leaves
it to be said of the rest: `gather_ended` and `readOnce_ended`.
-/

namespace SerialLine

/-- A device whose reads take bytes off the front of what is unread. -/
structure Device.Streams {σ : Type} (dev : Device σ) (unread : σ → Bytes) : Prop where
  /-- A read hands over what it takes, and no more than there is room for. -/
  takes : ∀ {room s bytes s'}, dev.read room s = (.ok bytes, s') →
    unread s = bytes ++ unread s' ∧ bytes.length ≤ room
  /-- A read that fails takes nothing. -/
  keeps : ∀ {room s f s'}, dev.read room s = (.error f, s') → unread s' = unread s

/-! ## One operation on any device -/

namespace Transfer

/-- A read that hands bytes over leaves the gathering with them. -/
theorem Gathering.next_ok (g : Gathering) {bytes : Bytes} (hne : bytes ≠ []) :
    g.next (.ok bytes) = .next ⟨g.got ++ bytes, g.room - bytes.length⟩ := by
  cases bytes with
  | nil => exact absurd rfl hne
  | cons b bs => rfl

/-- A read that fails asks for another one, ends the gathering with what it has, or fails it
where it has nothing. -/
theorem Gathering.next_error (g : Gathering) (f : CallFault) :
    g.next (.error f) = .next g ∨ g.next (.error f) = .done (.ok g.got) ∨
      (g.got = [] ∧ g.next (.error f) = .done (.error (f.toError "read"))) := by
  unfold next
  by_cases hint : f.isInterruption = true
  · exact Or.inl (by simp [hint])
  · by_cases hstop : (f.isWouldBlock || !g.got.isEmpty) = true
    · exact Or.inr (Or.inl (by simp [hint, hstop]))
    · have hempty : g.got = [] := by
        have hnot : f.isWouldBlock = false ∧ g.got.isEmpty = true := by simpa using hstop
        exact List.isEmpty_iff.mp hnot.2
      exact Or.inr (Or.inr ⟨hempty, by simp [hint, hstop]⟩)

/-- After a single read that fails there is another one, or the operation ends without bytes. -/
theorem afterSingle_error (f : CallFault) :
    afterSingle (.error f) = .next () ∨ afterSingle (.error f) = .done (.ok []) ∨
      afterSingle (.error f) = .done (.error (f.toError "read")) := by
  unfold afterSingle
  by_cases hint : f.isInterruption = true
  · exact Or.inl (by simp [hint])
  · by_cases hblock : f.isWouldBlock = true
    · exact Or.inr (Or.inl (by simp [hint, hblock]))
    · exact Or.inr (Or.inr (by simp [hint, hblock]))

section Streams

variable {σ : Type} {dev : Device σ} {unread : σ → Bytes}

/-- What an operation has done by its end that had some bytes before, and room for more. -/
inductive Ended (unread : σ → Bytes) (got : Bytes) (room : Nat) (s s' : σ) :
    Outcome Bytes → Prop where
  /-- It hands over what it had and what it took. -/
  | ok {bytes : Bytes} (hall : got ++ unread s = bytes ++ unread s')
    (hfits : bytes.length ≤ got.length + room) : Ended unread got room s s' (.ok bytes)
  /-- It had nothing and took nothing. -/
  | error {e : Error} (hnone : got = []) (hkept : unread s' = unread s) :
    Ended unread got room s s' (.error e)

/-- What a read has done after which a gathering goes on. -/
structure Advanced (unread : σ → Bytes) (g g' : Gathering) (s s' : σ) : Prop where
  all : g'.got ++ unread s' = g.got ++ unread s
  fits : g'.got.length + g'.room = g.got.length + g.room
  none : g'.got = [] → g.got = []

theorem Advanced.of_kept (g : Gathering) {s s' : σ} (h : unread s' = unread s) :
    Advanced unread g g s s' := ⟨by rw [h], rfl, id⟩

/-- What a gathering does before it ends counts for its end. -/
theorem Ended.of_advanced {g g' : Gathering} {s s₁ s' : σ} {result : Outcome Bytes}
    (h : Ended unread g'.got g'.room s₁ s' result) (ha : Advanced unread g g' s s₁) :
    Ended unread g.got g.room s s' result := by
  cases h with
  | ok hall hfits =>
    constructor
    · rw [← ha.all]
      exact hall
    · rw [← ha.fits]
      exact hfits
  | error hnone hkept =>
    have hnone₀ : g.got = [] := ha.none hnone
    have hall : unread s₁ = unread s := by simpa [hnone, hnone₀] using ha.all
    exact .error hnone₀ (hkept.trans hall)

/-! ### Gathering -/

theorem gather_of_room {g : Gathering} (hroom : g.room ≠ 0) (calls : Nat) (s : σ) :
    gather dev (calls + 1) g s =
      match g.next (dev.read g.room s).1 with
      | .next g' => gather dev calls g' (dev.read g.room s).2
      | .done result => (some result, (dev.read g.room s).2) := by
  refine ((gather.eq_def dev (calls + 1) g s).trans (if_neg hroom)).trans ?_
  cases dev.read g.room s
  rfl

theorem gather_full {g : Gathering} (hroom : g.room = 0) (calls : Nat) (s : σ) :
    gather dev calls g s = (some (.ok g.got), s) := by
  rw [gather.eq_def, if_pos hroom]

/-- What one read of a gathering does. -/
theorem Gathering.next_streams (hdev : dev.Streams unread) {g : Gathering} {s s₁ : σ}
    {outcome : CallOutcome Bytes} (hread : dev.read g.room s = (outcome, s₁)) :
    (∃ g', g.next outcome = .next g' ∧ Advanced unread g g' s s₁) ∨
      ∃ result, g.next outcome = .done result ∧ Ended unread g.got g.room s s₁ result := by
  cases outcome with
  | error f =>
    have hkept : unread s₁ = unread s := hdev.keeps hread
    -- another read, an end with what there is, or a failure with nothing
    rcases g.next_error f with hnext | hnext | ⟨hnone, hnext⟩
    · exact Or.inl ⟨g, hnext, .of_kept g hkept⟩
    · exact Or.inr ⟨_, hnext, .ok (by rw [hkept]) (Nat.le_add_right _ _)⟩
    · exact Or.inr ⟨_, hnext, .error hnone hkept⟩
  | ok piece =>
    obtain ⟨htaken, hfits⟩ := hdev.takes hread
    by_cases hnil : piece = []
    · subst hnil
      exact Or.inr ⟨_, rfl, .ok (by rw [htaken]; rfl) (Nat.le_add_right _ _)⟩
    · refine Or.inl ⟨_, g.next_ok hnil, ?_, ?_, ?_⟩
      · rw [htaken, List.append_assoc]
      · simp only [List.length_append]
        omega
      · -- once it has bytes, a gathering does not fail
        intro hempty
        exact absurd (List.append_eq_nil_iff.mp hempty).2 hnil

/-- A gathering without room ends with what it has. -/
theorem ended_of_full {calls : Nat} {g : Gathering} {s s' : σ} {result : Outcome Bytes}
    (hroom : g.room = 0) (h : gather dev calls g s = (some result, s')) :
    Ended unread g.got g.room s s' result := by
  rw [gather_full hroom] at h
  obtain ⟨rfl, rfl⟩ : .ok g.got = result ∧ s = s' := by simpa using h
  exact .ok rfl (Nat.le_add_right _ _)

/-- A gathering that ends hands over what it had and what it took, or it failed without either. -/
theorem gather_ended (hdev : dev.Streams unread) {calls : Nat} {g : Gathering} {s s' : σ}
    {result : Outcome Bytes} (h : gather dev calls g s = (some result, s')) :
    Ended unread g.got g.room s s' result := by
  -- on the calls that are left; what earlier reads have got is in `g`
  induction calls generalizing g s with
  | zero =>
    by_cases hroom : g.room = 0
    · exact ended_of_full hroom h
    · rw [gather, if_neg hroom] at h
      cases h
  | succ calls ih =>
    by_cases hroom : g.room = 0
    · exact ended_of_full hroom h
    · rw [gather_of_room hroom] at h
      rcases hread : dev.read g.room s with ⟨outcome, s₁⟩
      rw [hread] at h
      rcases Gathering.next_streams hdev hread with ⟨g', hnext, ha⟩ | ⟨result', hnext, hended⟩
      · simp only [hnext] at h
        exact (ih h).of_advanced ha
      · simp only [hnext] at h
        obtain ⟨rfl, rfl⟩ : result' = result ∧ s₁ = s' := by simpa using h
        exact hended

/-! ### Single reads -/

/-- What one read of a single-read operation does. -/
theorem afterSingle_streams (hdev : dev.Streams unread) {room : Nat} {s s₁ : σ}
    {outcome : CallOutcome Bytes} (hread : dev.read room s = (outcome, s₁)) :
    (afterSingle outcome = .next () ∧ unread s₁ = unread s) ∨
      ∃ result, afterSingle outcome = .done result ∧ Ended unread [] room s s₁ result := by
  cases outcome with
  | error f =>
    have hkept : unread s₁ = unread s := hdev.keeps hread
    rcases afterSingle_error f with hnext | hnext | hnext
    · exact Or.inl ⟨hnext, hkept⟩
    · exact Or.inr ⟨_, hnext, .ok (by rw [hkept]) (Nat.zero_le _)⟩
    · exact Or.inr ⟨_, hnext, .error rfl hkept⟩
  | ok piece =>
    obtain ⟨htaken, hfits⟩ := hdev.takes hread
    exact Or.inr ⟨_, rfl, .ok htaken (by simpa using hfits)⟩

/-- A single read that ends hands over what it took, or it failed and took nothing. -/
theorem readOnce_ended (hdev : dev.Streams unread) {calls max : Nat} {s s' : σ}
    {result : Outcome Bytes} (h : readOnce dev calls max s = (some result, s')) :
    Ended unread [] (min max readLimit) s s' result := by
  induction calls generalizing s with
  | zero => cases h
  | succ calls ih =>
    rw [readOnce] at h
    rcases hread : dev.read (min max readLimit) s with ⟨outcome, s₁⟩
    rw [hread] at h
    rcases afterSingle_streams hdev hread with ⟨hnext, hkept⟩ | ⟨result', hnext, hended⟩
    · simp only [hnext] at h
      exact (ih h).of_advanced (.of_kept ⟨[], min max readLimit⟩ hkept)
    · simp only [hnext] at h
      obtain ⟨rfl, rfl⟩ : result' = result ∧ s₁ = s' := by simpa using h
      exact hended

end Streams

end Transfer

end SerialLine
