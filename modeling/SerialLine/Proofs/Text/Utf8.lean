import SerialLine.Text.Utf8

/-!
# SerialLine.Proofs.Text.Utf8 — what is written in UTF-8 is read back

The bytes of a text decode to the text: `Utf8.decode?_ofText`. The bytes of one character are one
piece, whatever follows them (`pieces_encoded`), so a text is cut where its characters end.
-/

namespace SerialLine.Utf8

/-! ## The bytes of one character -/

/-- A continuation byte in its range adds its low bits. -/
theorem continuation_ofNat (acc n x : Nat) {lo hi : UInt8} (rest : Bytes) (hlo : lo.toNat ≤ x)
    (hhi : x ≤ hi.toNat) :
    continuation acc lo hi (n + 1) (UInt8.ofNat x :: rest) =
      continuation (acc * 64 + x % 64) 0x80 0xBF n rest := by
  have hx : (UInt8.ofNat x).toNat = x :=
    UInt8.toNat_ofNat_of_lt' (Nat.lt_of_le_of_lt hhi (UInt8.toNat_lt hi))
  have hrange : lo ≤ UInt8.ofNat x ∧ UInt8.ofNat x ≤ hi := by
    rw [UInt8.le_iff_toNat_le, UInt8.le_iff_toNat_le, hx]
    exact ⟨hlo, hhi⟩
  rw [continuation, if_pos hrange, hx]

/-- A byte of six bits continues any character, where nothing more is asked of it. -/
theorem continuation_six (acc n x : Nat) (rest : Bytes) :
    continuation acc 0x80 0xBF (n + 1) (UInt8.ofNat (x % 64 + 128) :: rest) =
      continuation (acc * 64 + x % 64) 0x80 0xBF n rest := by
  have hlo : (0x80 : UInt8).toNat ≤ x % 64 + 128 := Nat.le_add_left _ _
  have hhi : x % 64 + 128 ≤ (0xBF : UInt8).toNat := by
    show x % 64 + 128 ≤ 191
    omega
  have hbits : (x % 64 + 128) % 64 = x % 64 := by omega
  rw [continuation_ofNat acc n _ rest hlo hhi, hbits]

/-- A first byte opens as many bytes as it says. -/
theorem piece_of_lead {b : UInt8} {n : Nat} {lo hi : UInt8} (rest : Bytes)
    (h : lead? b = some (n, lo, hi)) :
    piece b rest = continuation (leadBits b n) lo hi n rest := by
  simp only [piece, h]

theorem lead?_one : ∀ x < 128, lead? (UInt8.ofNat x) = some (0, 0x80, 0xBF) ∧
    leadBits (UInt8.ofNat x) 0 = x := by
  decide

theorem lead?_two : ∀ x < 32, 2 ≤ x → lead? (UInt8.ofNat (x + 192)) = some (1, 0x80, 0xBF) ∧
    leadBits (UInt8.ofNat (x + 192)) 1 = x := by
  decide

/-- Of three bytes, the second keeps clear of what two can say, and of surrogates. -/
theorem lead?_three : ∀ x < 16, lead? (UInt8.ofNat (x + 224)) =
      some (2, if x = 0 then 0xA0 else 0x80, if x = 13 then 0x9F else 0xBF) ∧
    leadBits (UInt8.ofNat (x + 224)) 2 = x := by
  decide

/-- Of four bytes, the second keeps clear of what three can say, and of what is no character. -/
theorem lead?_four : ∀ x < 5, lead? (UInt8.ofNat (x + 240)) =
      some (3, if x = 0 then 0x90 else 0x80, if x = 4 then 0x8F else 0xBF) ∧
    leadBits (UInt8.ofNat (x + 240)) 3 = x := by
  decide

section

variable {v : Nat} (rest : Bytes)

theorem piece_one (h : v ≤ 127) : piece (UInt8.ofNat v) rest = (.char (Char.ofNat v), rest) := by
  obtain ⟨hlead, hbits⟩ := lead?_one v (by omega)
  rw [piece_of_lead _ hlead, hbits, continuation]

theorem piece_two (hmore : 127 < v) (h : v ≤ 2047) :
    piece (UInt8.ofNat (v / 64 % 32 + 192)) (UInt8.ofNat (v % 64 + 128) :: rest) =
      (.char (Char.ofNat v), rest) := by
  obtain ⟨hlead, hbits⟩ := lead?_two (v / 64 % 32) (by omega) (by omega)
  have hsum : v / 64 % 32 * 64 + v % 64 = v := by omega
  rw [piece_of_lead _ hlead, hbits, continuation_six, continuation, hsum]

theorem piece_three (hmore : 2047 < v) (h : v ≤ 65535) (hvalid : v < 0xD800 ∨ 0xDFFF < v) :
    piece (UInt8.ofNat (v / 4096 % 16 + 224))
        (UInt8.ofNat (v / 64 % 64 + 128) :: UInt8.ofNat (v % 64 + 128) :: rest) =
      (.char (Char.ofNat v), rest) := by
  obtain ⟨hlead, hbits⟩ := lead?_three (v / 4096 % 16) (by omega)
  have hlo : (if v / 4096 % 16 = 0 then (0xA0 : UInt8) else 0x80).toNat ≤ v / 64 % 64 + 128 := by
    split
    · show 160 ≤ _
      omega
    · show 128 ≤ _
      omega
  have hhi : v / 64 % 64 + 128 ≤ (if v / 4096 % 16 = 13 then (0x9F : UInt8) else 0xBF).toNat := by
    split
    · show _ ≤ 159
      omega
    · show _ ≤ 191
      omega
  have hsum : (v / 4096 % 16 * 64 + (v / 64 % 64 + 128) % 64) * 64 + v % 64 = v := by omega
  rw [piece_of_lead _ hlead, hbits, continuation_ofNat _ _ _ _ hlo hhi, continuation_six,
    continuation, hsum]

theorem piece_four (hmore : 65535 < v) (h : v < 0x110000) :
    piece (UInt8.ofNat (v / 262144 % 8 + 240))
        (UInt8.ofNat (v / 4096 % 64 + 128) :: UInt8.ofNat (v / 64 % 64 + 128) ::
          UInt8.ofNat (v % 64 + 128) :: rest) =
      (.char (Char.ofNat v), rest) := by
  obtain ⟨hlead, hbits⟩ := lead?_four (v / 262144 % 8) (by omega)
  have hlo : (if v / 262144 % 8 = 0 then (0x90 : UInt8) else 0x80).toNat ≤
      v / 4096 % 64 + 128 := by
    split
    · show 144 ≤ _
      omega
    · show 128 ≤ _
      omega
  have hhi : v / 4096 % 64 + 128 ≤
      (if v / 262144 % 8 = 4 then (0x8F : UInt8) else 0xBF).toNat := by
    split
    · show _ ≤ 143
      omega
    · show _ ≤ 191
      omega
  have hsum : ((v / 262144 % 8 * 64 + (v / 4096 % 64 + 128) % 64) * 64 + v / 64 % 64) * 64 +
      v % 64 = v := by
    omega
  rw [piece_of_lead _ hlead, hbits, continuation_ofNat _ _ _ _ hlo hhi, continuation_six,
    continuation_six, continuation, hsum]

end

/-- The bytes of a character are one piece. -/
theorem pieces_encoded (c : Char) (rest : Bytes) :
    pieces (String.utf8EncodeChar c ++ rest) = .char c :: pieces rest := by
  have hvalid : c.val.toNat < 0xD800 ∨ 0xDFFF < c.val.toNat ∧ c.val.toNat < 0x110000 := c.valid
  have hc : Char.ofNat c.val.toNat = c := Char.ofNat_toNat c
  have hcut {b : UInt8} {tail : Bytes}
      (h : piece b (tail ++ rest) = (.char (Char.ofNat c.val.toNat), rest)) :
      pieces (b :: tail ++ rest) = .char c :: pieces rest := by
    rw [List.cons_append, pieces, h, hc]
  -- the four lengths of an encoding, as the code point grows
  unfold String.utf8EncodeChar
  by_cases h1 : c.val.toNat ≤ 127
  · simp only [h1, if_true]
    exact hcut (piece_one rest h1)
  by_cases h2 : c.val.toNat ≤ 2047
  · simp only [h1, h2, if_false, if_true]
    exact hcut (piece_two rest (by omega) h2)
  by_cases h3 : c.val.toNat ≤ 65535
  · simp only [h1, h2, h3, if_false, if_true]
    exact hcut (piece_three rest (by omega) h3 (by omega))
  · simp only [h1, h2, h3, if_false]
    exact hcut (piece_four rest (by omega) (by omega))

/-! ## Texts -/

theorem ofText_eq (s : String) : Bytes.ofText s = s.toList.flatMap String.utf8EncodeChar := by
  have hbytes : (String.ofList s.toList).toByteArray =
      (s.toList.flatMap String.utf8EncodeChar).toByteArray := rfl
  rw [String.ofList_toList] at hbytes
  rw [Bytes.ofText, String.toUTF8_eq_toByteArray, hbytes, List.data_toByteArray]

theorem pieces_ofChars (cs : List Char) :
    pieces (cs.flatMap String.utf8EncodeChar) = cs.map .char := by
  induction cs with
  | nil => simp [pieces]
  | cons c cs ih => rw [List.flatMap_cons, pieces_encoded, ih, List.map_cons]

theorem mapM_char? (cs : List Char) : (cs.map Piece.char).mapM Piece.char? = some cs := by
  induction cs with
  | nil => rfl
  | cons c cs ih => simp [Piece.char?, ih]

/-- The bytes of a text decode to the text. -/
theorem decode?_ofText (s : String) : decode? (Bytes.ofText s) = some s := by
  rw [decode?, ofText_eq, pieces_ofChars, mapM_char?, Option.map_some, String.ofList_toList]

end SerialLine.Utf8
