import Mathlib.Data.List.Basic
import SerialLine.Proofs.Text.Utf8

/-!
# SerialLine.Proofs.Text.Order — texts are ordered as their bytes are

Texts are compared by their code points. `Utf8.ofText_lt_ofText` says that this is the order of
their bytes in UTF-8: the bytes of a smaller character come first, whatever follows either.
-/

namespace SerialLine.Utf8

/-- The bytes of a smaller character come first, whatever follows. -/
theorem encoded_lt {c d : Char} (h : c < d) (rest rest' : Bytes) :
    String.utf8EncodeChar c ++ rest < String.utf8EncodeChar d ++ rest' := by
  have hval : c.val.toNat < d.val.toNat := h
  have hbound : d.val.toNat < 0x110000 := by
    have hvalid : d.val.toNat < 0xD800 ∨ 0xDFFF < d.val.toNat ∧ d.val.toNat < 0x110000 := d.valid
    omega
  unfold String.utf8EncodeChar
  generalize c.val.toNat = v at *
  generalize d.val.toNat = w at *
  dsimp only
  -- the first byte grows with the length; of one length, the first byte that differs decides
  split_ifs <;>
    simp (disch := omega) only [List.cons_append, List.nil_append, List.cons_lt_cons_iff,
      UInt8.lt_iff_toNat_lt, ← UInt8.toNat_inj, UInt8.toNat_ofNat', Nat.mod_eq_of_lt] <;> omega

/-- Every character has bytes. -/
theorem nil_lt_encoded (c : Char) (rest : Bytes) : [] < String.utf8EncodeChar c ++ rest := by
  cases hbytes : String.utf8EncodeChar c with
  | nil =>
    have hlength := String.length_utf8EncodeChar c
    have hpos := Char.utf8Size_pos c
    rw [hbytes, List.length_nil] at hlength
    omega
  | cons b bs => exact List.nil_lt_cons b (bs ++ rest)

/-- What all texts put in front makes no difference. -/
theorem append_lt_append {bs bs' : Bytes} (front : Bytes) (h : bs < bs') :
    front ++ bs < front ++ bs' := by
  induction front with
  | nil => exact h
  | cons b front ih =>
    rw [List.cons_append, List.cons_append, List.cons_lt_cons_iff]
    right
    exact ⟨rfl, ih⟩

theorem encoded_lt_encoded {cs ds : List Char} (h : cs < ds) :
    cs.flatMap String.utf8EncodeChar < ds.flatMap String.utf8EncodeChar := by
  induction cs generalizing ds with
  | nil =>
    cases ds with
    | nil => exact absurd h (List.lt_irrefl _)
    | cons d ds =>
      rw [List.flatMap_nil, List.flatMap_cons]
      exact nil_lt_encoded d _
  | cons c cs ih =>
    cases ds with
    | nil => exact absurd h (List.not_lt_nil _)
    | cons d ds =>
      rw [List.flatMap_cons, List.flatMap_cons]
      rcases List.cons_lt_cons_iff.mp h with hlt | ⟨rfl, htail⟩
      · exact encoded_lt hlt _ _
      · exact append_lt_append _ (ih htail)

/-- Texts are ordered as their bytes are. -/
theorem ofText_lt_ofText {s t : String} : Bytes.ofText s < Bytes.ofText t ↔ s < t := by
  have hmono {s t : String} (h : s < t) : Bytes.ofText s < Bytes.ofText t := by
    rw [ofText_eq, ofText_eq]
    exact encoded_lt_encoded (String.lt_iff.mp h)
  constructor
  · intro hbytes
    -- any other order of the texts would carry over to the bytes
    by_contra hnot
    by_cases hgt : t < s
    · exact absurd hbytes (List.lt_asymm (hmono hgt))
    · have hsame : s = t := String.le_antisymm hgt hnot
      rw [hsame] at hbytes
      exact absurd hbytes (List.lt_irrefl _)
  · exact hmono

end SerialLine.Utf8
