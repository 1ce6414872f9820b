import SerialLine.Proofs.Json.Grammar

/-!
# SerialLine.Proofs.Json.Scalars — numbers and strings end where the grammar says

A number and a string of the grammar are one token each, whatever stands behind them
(`IsNumber.token`, `IsBody.token`); a number only needs that what stands behind it does not go on
with it. `token_toDigits` and `Spells.token` say what they are read as.
-/

namespace SerialLine.Json

open Decimal (isDigit digitsValue)

/-- A text that goes on with no number that stands before it. -/
def Delimits (rest : List Char) : Prop :=
  ∀ c ∈ rest.head?, isDigit c = false ∧ c ≠ '.' ∧ c ≠ 'e' ∧ c ≠ 'E'

theorem delimits_nil : Delimits [] := by
  intro c hc
  cases hc

theorem Delimits.noDigit {rest : List Char} (h : Delimits rest) :
    ∀ c ∈ rest.head?, isDigit c = false := by
  intro c hc
  exact (h c hc).1

theorem Delimits.noPoint {rest : List Char} (h : Delimits rest) :
    ∀ c ∈ rest.head?, c ≠ '.' := by
  intro c hc
  exact (h c hc).2.1

/-! ## Numbers -/

section

variable {rest : List Char}

/-- Digits end at the first character that is none. -/
theorem span_digits {ds : List Char} (hds : ∀ d ∈ ds, isDigit d = true)
    (hrest : ∀ c ∈ rest.head?, isDigit c = false) :
    (ds ++ rest).takeWhile isDigit = ds ∧ (ds ++ rest).dropWhile isDigit = rest := by
  have hstop : rest.takeWhile isDigit = [] ∧ rest.dropWhile isDigit = rest := by
    cases rest with
    | nil => exact ⟨rfl, rfl⟩
    | cons c rest => simp [hrest c rfl]
  rw [List.takeWhile_append_of_pos hds, List.dropWhile_append_of_pos hds, hstop.1, hstop.2]
  simp

theorem readWhole_whole {whole : List Char} (hwhole : IsWhole whole)
    (hrest : ∀ c ∈ rest.head?, isDigit c = false) :
    readWhole (whole ++ rest) = .ok (whole, rest) := by
  obtain ⟨⟨hne, hdigits⟩, hzero⟩ := hwhole
  obtain ⟨d, ds, rfl⟩ := List.exists_cons_of_ne_nil hne
  by_cases hd : d = '0'
  · have hds : ds = [] := by simpa [hd] using hzero
    subst hd hds
    cases rest with
    | nil => rfl
    | cons c rest => simp [readWhole, hrest c rfl]
  · have hspan := span_digits hdigits hrest
    rw [List.cons_append] at hspan ⊢
    rw [readWhole, if_pos (hdigits d List.mem_cons_self), hspan.1, hspan.2]
    simpa using hd

theorem readFraction_absent (hrest : ∀ c ∈ rest.head?, c ≠ '.') :
    readFraction rest = .ok (none, rest) := by
  rw [readFraction.eq_def]
  split
  · exact absurd rfl (hrest '.' rfl)
  · rfl

theorem readFraction_fraction {fraction : List Char} (hfraction : IsFraction fraction) :
    ∃ read, ∀ rest, (∀ c ∈ rest.head?, isDigit c = false) → (∀ c ∈ rest.head?, c ≠ '.') →
      readFraction (fraction ++ rest) = .ok (read, rest) := by
  cases hfraction with
  | absent =>
    refine ⟨none, ?_⟩
    intro rest _ hpoint
    exact readFraction_absent hpoint
  | @present ds hds =>
    refine ⟨some ds, ?_⟩
    intro rest hdigit _
    have hspan := span_digits hds.2 hdigit
    simp [readFraction, hspan, hds.1]

theorem readExponent_absent (hrest : Delimits rest) :
    readExponent rest = .ok (none, rest) := by
  cases rest with
  | nil => rfl
  | cons c rest =>
    obtain ⟨-, -, he, hE⟩ := hrest c rfl
    simp [readExponent, he, hE]

theorem readExponent_exponent {exponent : List Char} (hexponent : IsExponent exponent) :
    ∃ read, ∀ rest, Delimits rest → readExponent (exponent ++ rest) = .ok (read, rest) := by
  cases hexponent with
  | absent =>
    refine ⟨none, ?_⟩
    intro rest hrest
    exact readExponent_absent hrest
  | @present e sign ds he hsign hds =>
    have hmark : (e = 'e' || e = 'E') = true := by simpa using he
    refine ⟨some (sign = ['-'], ds), ?_⟩
    intro rest hrest
    have hspan := span_digits hds.2 hrest.noDigit
    rcases hsign with rfl | rfl | rfl
    · -- without a sign the digits come at once
      obtain ⟨d, more, rfl⟩ := List.exists_cons_of_ne_nil hds.1
      have hd : isDigit d = true := hds.2 d List.mem_cons_self
      have hplus : d ≠ '+' := Toml.ne_of_isDigit hd rfl
      have hminus : d ≠ '-' := Toml.ne_of_isDigit hd rfl
      rw [List.cons_append] at hspan
      simp [readExponent, hmark, hplus, hminus, hspan]
    · simp [readExponent, hmark, hspan, hds.1]
    · simp [readExponent, hmark, hspan, hds.1]

/-- An exponent begins with no digit and no point. -/
theorem head_exponent {exponent : List Char} (hexponent : IsExponent exponent)
    (hrest : Delimits rest) :
    (∀ c ∈ (exponent ++ rest).head?, isDigit c = false) ∧
      ∀ c ∈ (exponent ++ rest).head?, c ≠ '.' := by
  cases hexponent with
  | absent => exact ⟨hrest.noDigit, hrest.noPoint⟩
  | present he =>
    constructor
    all_goals
      rintro c ⟨rfl⟩
      rcases he with rfl | rfl <;> decide

/-- A fraction begins with no digit. -/
theorem head_fraction {fraction : List Char} (hfraction : IsFraction fraction)
    (hrest : ∀ c ∈ rest.head?, isDigit c = false) :
    ∀ c ∈ (fraction ++ rest).head?, isDigit c = false := by
  cases hfraction with
  | absent => exact hrest
  | present =>
    rintro c ⟨rfl⟩
    decide

theorem token_digit {c : Char} {cs : List Char} (hc : isDigit c = true) :
    token c cs = numberToken false (c :: cs) := by
  unfold token
  split
  -- none of the characters with a token of their own is a digit
  all_goals first | exact absurd hc (by decide) | exact if_pos hc

theorem IsWhole.first {whole : List Char} (hwhole : IsWhole whole) :
    ∃ d ds, whole = d :: ds ∧ isDigit d = true := by
  obtain ⟨d, ds, rfl⟩ := List.exists_cons_of_ne_nil hwhole.1.1
  exact ⟨d, ds, rfl, hwhole.1.2 d List.mem_cons_self⟩

/-- The token of a number from its three parts. -/
theorem numberToken_parts {whole afterWhole afterFraction cs : List Char}
    {f : Option (List Char)} {e : Option (Bool × List Char)}
    (hwhole : readWhole cs = .ok (whole, afterWhole))
    (hfraction : readFraction afterWhole = .ok (f, afterFraction))
    (hexponent : readExponent afterFraction = .ok (e, rest)) (negative : Bool) :
    numberToken negative cs =
      (.number (NumberParts.value ⟨negative, whole, f, e, rest⟩) (.ok ()), some rest) := by
  simp only [numberToken, readNumber, hwhole, hfraction, hexponent, bind, Except.bind, pure,
    Except.pure]

/-- A number is one token. -/
theorem IsNumber.token {cs : List Char} (h : IsNumber cs) :
    ∃ c more read, cs = c :: more ∧ ∀ rest, Delimits rest →
      Json.token c (more ++ rest) = (.number read (.ok ()), some rest) := by
  obtain ⟨hsign, hwhole, hfraction, hexponent⟩ := h
  rename_i sign whole fraction exponent
  obtain ⟨f, hf⟩ := readFraction_fraction hfraction
  obtain ⟨e, he⟩ := readExponent_exponent hexponent
  -- what stands behind a number is no part of its value
  let read (negative : Bool) := NumberParts.value ⟨negative, whole, f, e, []⟩
  have hnumber (negative : Bool) (rest : List Char) (hrest : Delimits rest) :
      numberToken negative (whole ++ (fraction ++ (exponent ++ rest))) =
        (.number (read negative) (.ok ()), some rest) := by
    obtain ⟨hdigit, hpoint⟩ := head_exponent hexponent hrest
    have hw := readWhole_whole hwhole (head_fraction hfraction hdigit)
    exact numberToken_parts hw (hf _ hdigit hpoint) (he rest hrest) negative
  obtain ⟨d, ds, hcons, hd⟩ := hwhole.first
  rcases hsign with rfl | rfl
  · refine ⟨d, ds ++ (fraction ++ exponent), read false, by simp [hcons], ?_⟩
    intro rest hrest
    rw [token_digit hd]
    simpa [hcons] using hnumber false rest hrest
  · refine ⟨'-', whole ++ (fraction ++ exponent), read true, rfl, ?_⟩
    intro rest hrest
    simpa [Json.token] using hnumber true rest hrest

theorem lt_tooLarge {n : Nat} (hn : n < UInt64.size) : n < Decimal.tooLarge := by
  have hlimit : UInt64.size ≤ Decimal.tooLarge := by decide +kernel
  omega

/-- What a natural number below the limit of its kind is read as. -/
theorem token_toDigits {n : Nat} (hn : n < UInt64.size) :
    ∃ c more, Nat.toDigits 10 n = c :: more ∧ ∀ rest, Delimits rest →
      token c (more ++ rest) = (.number (.ok (.natural n)) (.ok ()), some rest) := by
  have hwhole := isWhole_toDigits n
  obtain ⟨c, more, hdigits, hc⟩ := hwhole.first
  refine ⟨c, more, hdigits, ?_⟩
  intro rest hrest
  have hvalue : NumberParts.value ⟨false, Nat.toDigits 10 n, none, none, rest⟩ =
      .ok (.natural n) := by
    have hmantissa : digitsValue (Nat.toDigits 10 n) = n := Toml.digitsValue_toDigits n
    have hdouble : ¬Decimal.tooLarge ≤ n := Nat.not_le.mpr (lt_tooLarge hn)
    simp [NumberParts.value, NumberParts.exceedsDouble, Decimal.exceedsDouble, hmantissa, hn,
      hdouble]
  have hread := readWhole_whole hwhole hrest.noDigit
  have hfraction := readFraction_absent hrest.noPoint
  rw [token_digit hc, ← List.cons_append, ← hdigits, ← hvalue]
  exact numberToken_parts hread hfraction (readExponent_absent hrest) false

end

/-! ## Strings -/

section

theorem IsFour.readFour {n : Nat} {ds : List Char} (h : IsFour n ds) (rest : List Char) :
    Json.readFour (ds ++ rest) = .ok (n, rest) := by
  obtain ⟨ha, hb, hc, hd⟩ := h
  simp [Json.readFour, ha, hb, hc, hd]

theorem skipString_plain {c : Char} (hc : IsPlain c) (cs : List Char) :
    skipString (c :: cs) = skipString cs := by
  obtain ⟨hcontrol, hquote, hslash⟩ := hc
  rw [skipString]
  · exact if_neg (by omega)
  all_goals simp [hquote, hslash]

theorem skipString_letter {e c : Char} (he : escapeLetter? e = some c) (cs : List Char) :
    skipString ('\\' :: e :: cs) = skipString cs := by
  rw [skipString]
  · simp [he]
  · rintro rfl
    cases he

theorem skipString_code {n : Nat} {ds : List Char} (hds : IsFour n ds) (cs : List Char) :
    skipString ('\\' :: 'u' :: (ds ++ cs)) = skipString cs := by
  rw [skipString]
  split
  · next h => rw [hds.readFour] at h; cases h
  · next h => rw [hds.readFour] at h; cases h; rfl

/-- A string ends at the first quote that is not escaped. -/
theorem IsBody.skipString {cs : List Char} (h : IsBody cs) (rest : List Char) :
    Json.skipString (cs ++ '"' :: rest) = .ok rest := by
  induction h with
  | nil => rw [List.nil_append, Json.skipString]
  | plain hc _ ih => rw [List.cons_append, skipString_plain hc, ih]
  | letter he _ ih => rw [List.cons_append, List.cons_append, skipString_letter he, ih]
  | code hds _ ih =>
    rw [List.cons_append, List.cons_append, List.append_assoc, skipString_code hds, ih]

theorem readString_plain {c : Char} (hc : IsPlain c) (got cs : List Char) :
    readString got (c :: cs) = readString (c :: got) cs := by
  obtain ⟨hcontrol, hquote, hslash⟩ := hc
  rw [readString]
  · exact if_neg (by omega)
  all_goals simp [hquote, hslash]

theorem readString_letter {e c : Char} (he : escapeLetter? e = some c) (got cs : List Char) :
    readString got ('\\' :: e :: cs) = readString (c :: got) cs := by
  rw [readString]
  · simp [he]
  · rintro rfl
    cases he

theorem readString_code {c : Char} {cs rest : List Char} (h : readCodePoint cs = .ok (c, rest))
    (got : List Char) : readString got ('\\' :: 'u' :: cs) = readString (c :: got) rest := by
  rw [readString]
  split
  · next h' => rw [h] at h'; cases h'
  · next h' => rw [h] at h'; cases h'; rfl

theorem readCodePoint_alone {n : Nat} {ds : List Char} (hds : IsFour n ds)
    (hn : n < 0xD800 ∨ 0xDFFF < n) (cs : List Char) :
    readCodePoint (ds ++ cs) = .ok (Char.ofNat n, cs) := by
  have hlow : ¬(0xDC00 ≤ n ∧ n ≤ 0xDFFF) := by omega
  have hhigh : ¬(0xD800 ≤ n ∧ n ≤ 0xDBFF) := by omega
  simp [readCodePoint, hds.readFour, hlow, hhigh, bind, Except.bind]

theorem readCodePoint_pair {high low : Nat} {ds es : List Char} (hds : IsFour high ds)
    (hes : IsFour low es) (hhigh : 0xD800 ≤ high ∧ high ≤ 0xDBFF)
    (hlow : 0xDC00 ≤ low ∧ low ≤ 0xDFFF) (cs : List Char) :
    readCodePoint (ds ++ '\\' :: 'u' :: (es ++ cs)) =
      .ok (Char.ofNat ((high - 0xD800) * 1024 + (low - 0xDC00) + 0x10000), cs) := by
  have hnotLow : ¬(0xDC00 ≤ high ∧ high ≤ 0xDFFF) := by omega
  simp [readCodePoint, readLowHalf, hds.readFour, hes.readFour, hnotLow, hhigh, hlow, bind,
    Except.bind]

/-- A string is read as the text that it spells. -/
theorem Spells.readString {text cs : List Char} (h : Spells text cs) (got rest : List Char) :
    Json.readString got (cs ++ '"' :: rest) = .ok (String.ofList (got.reverse ++ text), rest) := by
  induction h generalizing got with
  | nil => rw [List.nil_append, Json.readString, List.append_nil]
  | plain hc _ ih => simpa using (readString_plain hc got _).trans (ih _)
  | letter he _ ih => simpa using (readString_letter he got _).trans (ih _)
  | code hds hn _ ih =>
    simpa using (readString_code (readCodePoint_alone hds hn _) got).trans (ih _)
  | pair hds hes hhigh hlow _ ih =>
    simpa using (readString_code (readCodePoint_pair hds hes hhigh hlow _) got).trans (ih _)

/-- A string spells a text or is malformed, whatever stands behind it. -/
def Decided (cs : List Char) : Prop :=
  (∃ text, Spells text cs) ∨
    ∀ got rest, Json.readString got (cs ++ '"' :: rest) = .error .malformed

/-- What the high half of a surrogate pair is followed by is its low half or malformed. -/
def DecidedHalf (cs : List Char) : Prop :=
  (∀ high rest, readLowHalf high (cs ++ '"' :: rest) = .error .malformed) ∨
    ∃ low es more, cs = '\\' :: 'u' :: (es ++ more) ∧ IsFour low es ∧
      (0xDC00 ≤ low ∧ low ≤ 0xDFFF) ∧ Decided more

theorem readString_malformed {cs : List Char} (h : readCodePoint cs = .error .malformed)
    (got : List Char) : readString got ('\\' :: 'u' :: cs) = .error .malformed := by
  rw [readString]
  split
  · next h' => rw [h] at h'; cases h'; rfl
  · next h' => rw [h] at h'; cases h'

theorem readLowHalf_other {c : Char} (hc : c ≠ '\\') (high : Nat) (cs : List Char) :
    readLowHalf high (c :: cs) = .error .malformed := by
  simp [readLowHalf, hc]

/-- A piece that is read as one character leaves the decision to what follows it. -/
theorem Decided.piece {c : Char} {cs more : List Char} (h : Decided more)
    (hspells : ∀ {text}, Spells text more → Spells (c :: text) cs)
    (hread : ∀ got rest, Json.readString got (cs ++ '"' :: rest) =
      Json.readString (c :: got) (more ++ '"' :: rest)) : Decided cs := by
  rcases h with ⟨text, htext⟩ | hbad
  · left
    exact ⟨c :: text, hspells htext⟩
  · right
    intro got rest
    rw [hread, hbad]

/-- A code point that is malformed makes the string so. -/
theorem decided_of_malformed {cs : List Char}
    (h : ∀ rest, readCodePoint (cs ++ '"' :: rest) = .error .malformed) :
    Decided ('\\' :: 'u' :: cs) := by
  right
  intro got rest
  exact readString_malformed (h rest) got

/-- An escape with a number, for `IsBody.decided`. -/
theorem decided_code {n : Nat} {ds cs : List Char} (hds : IsFour n ds) (h : Decided cs)
    (hhalf : DecidedHalf cs) : Decided ('\\' :: 'u' :: (ds ++ cs)) := by
  by_cases halone : n < 0xD800 ∨ 0xDFFF < n
  · apply h.piece (.code hds halone)
    intro got rest
    simpa using readString_code (readCodePoint_alone hds halone _) got
  by_cases hlow : 0xDC00 ≤ n ∧ n ≤ 0xDFFF
  · apply decided_of_malformed
    intro rest
    simp [readCodePoint, hds.readFour, hlow, bind, Except.bind]
  have hhigh : 0xD800 ≤ n ∧ n ≤ 0xDBFF := by omega
  rcases hhalf with hbad | ⟨low, es, more, rfl, hes, hrange, hmore⟩
  · apply decided_of_malformed
    intro rest
    simp [readCodePoint, hds.readFour, hlow, hhigh, hbad, bind, Except.bind]
  · apply hmore.piece (.pair hds hes hhigh hrange)
    intro got rest
    simpa using readString_code (readCodePoint_pair hds hes hhigh hrange _) got

/-- Whether a string spells a text is decided by the string alone: an escape may need the one
after it, so both are carried through the induction. -/
theorem IsBody.decided {cs : List Char} (h : IsBody cs) : Decided cs ∧ DecidedHalf cs := by
  induction h with
  | nil =>
    constructor
    · exact .inl ⟨[], .nil⟩
    · left
      intro high rest
      exact readLowHalf_other (by decide) high rest
  | plain hc _ ih =>
    constructor
    · exact ih.1.piece (.plain hc) fun got rest => readString_plain hc got _
    · left
      intro high rest
      exact readLowHalf_other hc.2.2 high _
  | @letter e c cs he _ ih =>
    constructor
    · exact ih.1.piece (.letter he) fun got rest => readString_letter he got _
    · left
      intro high rest
      have hcode : e ≠ 'u' := by
        rintro rfl
        cases he
      simp [readLowHalf, hcode]
  | @code n ds cs hds _ ih =>
    constructor
    · exact decided_code hds ih.1 ih.2
    · by_cases hlow : 0xDC00 ≤ n ∧ n ≤ 0xDFFF
      · exact .inr ⟨n, ds, cs, rfl, hds, hlow, ih.1⟩
      · left
        intro high rest
        simp [readLowHalf, hds.readFour, hlow, bind, Except.bind]

/-- A string is one token. -/
theorem IsBody.token {cs : List Char} (h : IsBody cs) :
    ∃ read, ∀ rest, Json.token '"' (cs ++ '"' :: rest) = (.string read (.ok ()), some rest) := by
  rcases h.decided.1 with ⟨text, htext⟩ | hbad
  · refine ⟨.ok (String.ofList text), ?_⟩
    intro rest
    simp [Json.token, stringToken, h.skipString, htext.readString, Except.map]
  · refine ⟨.error .malformed, ?_⟩
    intro rest
    simp [Json.token, stringToken, h.skipString, hbad, Except.map]

/-- A string is one token, read as the text that it spells. -/
theorem Spells.token {text : String} {cs : List Char} (h : Spells text.toList cs)
    (rest : List Char) :
    Json.token '"' (cs ++ '"' :: rest) = (.string (.ok text) (.ok ()), some rest) := by
  have hread := h.readString [] rest
  simp [Json.token, stringToken, h.isBody.skipString, hread, Except.map]

end

end SerialLine.Json
