import SerialLine.Proofs.Toml.Quoted
import SerialLine.Toml.Document
import SerialLine.Toml.Printer

/-!
# SerialLine.Proofs.Toml.Values — a value is read back from the way it is written

`readValue_written`: at the end of a line, what stands behind a key is read as the value that was
written there. A number needs the most care, since a moment and a float may start with the same
digits: the line ends before either could go on.
-/

namespace SerialLine.Toml

open Decimal (isDigit digitsValue)

/-- What a written value is read as. -/
def Scalar.value : Scalar → Value
  | .flag b => .boolean b
  | .natural n => .integer n
  | .text s => .string s

/-! ## Digits up to the end of a line -/

section

variable {ds : List Char} (hds : ∀ c ∈ ds, isDigit c = true) (rest : List Char)

theorem ne_of_isDigit {c e : Char} (hc : isDigit c = true) (he : isDigit e = false) : c ≠ e := by
  rintro rfl
  simp [hc] at he

include hds

/-- Taking some of the digits leaves digits. -/
theorem fixed_digits {width n : Nat} {cs : List Char}
    (h : Moment.fixed width (ds ++ '\n' :: rest) = some (n, cs)) :
    ∃ left, (∀ c ∈ left, isDigit c = true) ∧ cs = left ++ '\n' :: rest := by
  simp only [Moment.fixed, Option.ite_none_right_eq_some, Bool.and_eq_true, decide_eq_true_eq,
    List.all_eq_true, Option.some.injEq, Prod.mk.injEq] at h
  obtain ⟨⟨hlength, hall⟩, -, rfl⟩ := h
  by_cases hwidth : width ≤ ds.length
  · exact ⟨ds.drop width, fun c hc => hds c (List.mem_of_mem_drop hc),
      List.drop_append_of_le_length hwidth⟩
  · -- too few of them: the end of the line would have to be a digit
    have hnewline : '\n' ∈ (ds ++ '\n' :: rest).take width := by
      obtain ⟨more, hmore⟩ : ∃ more, width = ds.length + (more + 1) :=
        ⟨width - ds.length - 1, by omega⟩
      simp [hmore, List.take_append]
    exact absurd (hall _ hnewline) (by decide)

theorem after?_digits {e : Char} {more : List Char} (he : isDigit e = false) (hline : e ≠ '\n') :
    after? (e :: more) (ds ++ '\n' :: rest) = none := by
  cases ds with
  | nil => exact if_neg hline
  | cons d ds => exact if_neg (ne_of_isDigit (hds d List.mem_cons_self) he).symm

/-- A date goes on with a dash. -/
theorem skipDate?_digits : Moment.skipDate? (ds ++ '\n' :: rest) = none := by
  unfold Moment.skipDate?
  cases hyear : Moment.fixed 4 (ds ++ '\n' :: rest) with
  | none => rfl
  | some found =>
    obtain ⟨left, hleft, hrest⟩ := fixed_digits hds rest hyear
    simp [hrest, after?_digits hleft rest (e := '-') rfl (by decide)]

/-- A time of day goes on with a colon. -/
theorem skipTime?_digits : Moment.skipTime? (ds ++ '\n' :: rest) = none := by
  unfold Moment.skipTime? Moment.pair
  cases hhour : Moment.fixed 2 (ds ++ '\n' :: rest) with
  | none => rfl
  | some found =>
    obtain ⟨left, hleft, hrest⟩ := fixed_digits hds rest hhour
    simp only [Option.bind_eq_bind, Option.bind_some]
    split
    · simp [hrest, after?_digits hleft rest (e := ':') rfl (by decide)]
    · rfl

theorem skipMoment?_digits : Moment.skip? (ds ++ '\n' :: rest) = none := by
  rw [Moment.skip?, skipDate?_digits hds rest, skipTime?_digits hds rest]

omit hds in
theorem moreDigits_cons {digit : Char → Bool} {got : List Char} {c : Char} {cs : List Char}
    (hc : c ≠ '_') :
    Number.moreDigits digit got (c :: cs) =
      if digit c then Number.moreDigits digit (c :: got) cs else some (got.reverse, c :: cs) := by
  rw [Number.moreDigits.eq_def]
  exact if_neg hc

theorem moreDigits_digits (got : List Char) :
    Number.moreDigits isDigit got (ds ++ '\n' :: rest) =
      some (got.reverse ++ ds, '\n' :: rest) := by
  induction ds generalizing got with
  | nil =>
    rw [List.nil_append, moreDigits_cons (by decide)]
    simp [isDigit]
  | cons d ds ih =>
    obtain ⟨hd, hmore⟩ := List.forall_mem_cons.mp hds
    have hscore : d ≠ '_' := ne_of_isDigit hd rfl
    rw [List.cons_append, moreDigits_cons hscore, if_pos hd, ih hmore]
    simp

end

/-! ## Numbers -/

section

variable (n : Nat) (rest : List Char)

theorem isDigit_of_mem_toDigits {c : Char} (hc : c ∈ Nat.toDigits 10 n) : isDigit c = true :=
  Nat.isDigit_of_mem_toDigits (by decide) (by decide) hc

theorem digitsValue_toDigits : digitsValue (Nat.toDigits 10 n) = n :=
  Nat.ofDigitChars_toDigits (by decide) (by decide)

theorem digitChar_eq_zero : ∀ n < 10, n.digitChar = '0' → n = 0 := by decide

/-- A number is written in digits, and only zero starts with a zero. -/
theorem toDigits_cons : ∃ c ds, Nat.toDigits 10 n = c :: ds ∧
    (isDigit c = true ∧ ∀ d ∈ ds, isDigit d = true) ∧ (c = '0' → n = 0) := by
  induction n using Nat.strongRecOn with
  | ind n ih =>
    by_cases hn : n < 10
    · have hdigits : Nat.toDigits 10 n = [n.digitChar] := Nat.toDigits_of_lt_base hn
      exact ⟨n.digitChar, [], hdigits, List.forall_mem_cons.mp fun d hd =>
        isDigit_of_mem_toDigits n (hdigits ▸ hd), digitChar_eq_zero n hn⟩
    · obtain ⟨c, ds, hdigits, -, hzero⟩ := ih (n / 10) (by omega)
      have hmore : Nat.toDigits 10 n = c :: (ds ++ [(n % 10).digitChar]) := by
        rw [Nat.toDigits_of_base_le (by decide) (by omega), hdigits, List.cons_append]
      refine ⟨c, _, hmore, List.forall_mem_cons.mp fun d hd =>
        isDigit_of_mem_toDigits n (hmore ▸ hd), fun hc => ?_⟩
      have := hzero hc
      omega

theorem wholeDigits_toDigits :
    Number.wholeDigits (Nat.toDigits 10 n ++ '\n' :: rest) =
      some (Nat.toDigits 10 n, '\n' :: rest) := by
  obtain ⟨c, ds, hdigits, ⟨hfirst, hmore⟩, hzero⟩ := toDigits_cons n
  by_cases hc : c = '0'
  · obtain rfl := hzero hc
    rfl
  · have hskip : Number.wholeDigits (c :: (ds ++ '\n' :: rest)) =
        Number.digits isDigit (c :: (ds ++ '\n' :: rest)) := by
      rw [Number.wholeDigits]
      simpa using hc
    rw [hdigits, List.cons_append, hskip, Number.digits, if_pos hfirst,
      moreDigits_digits hmore]
    rfl

theorem sign_toDigits :
    Number.sign (Nat.toDigits 10 n ++ '\n' :: rest) =
      (false, Nat.toDigits 10 n ++ '\n' :: rest) := by
  obtain ⟨c, ds, hdigits, ⟨hfirst, -⟩, -⟩ := toDigits_cons n
  have hplus : c ≠ '+' := ne_of_isDigit hfirst rfl
  have hminus : c ≠ '-' := ne_of_isDigit hfirst rfl
  rw [hdigits, List.cons_append, Number.sign]
  · simpa using hplus
  · simpa using hminus

/-- Without a fraction and an exponent it is no float. -/
theorem skipFloat?_toDigits : Number.skipFloat? (Nat.toDigits 10 n ++ '\n' :: rest) = none := by
  have hall : ∀ d ∈ Nat.toDigits 10 n, isDigit d = true := fun d hd => isDigit_of_mem_toDigits n hd
  have hdigits : Number.skipDigitFloat? (Nat.toDigits 10 n ++ '\n' :: rest) = none := by
    simp [Number.skipDigitFloat?, sign_toDigits, wholeDigits_toDigits, Number.fraction?,
      Number.exponent?]
  have hword : Number.skipWordFloat? (Nat.toDigits 10 n ++ '\n' :: rest) = none := by
    rw [Number.skipWordFloat?, sign_toDigits, after?_digits hall rest rfl (by decide),
      after?_digits hall rest rfl (by decide)]
    rfl
  simp [Number.skipFloat?, hdigits, hword]

/-- A number of more than one digit has no mark of a base behind the first. -/
theorem toDigits_ne_marked {e : Char} (he : isDigit e = false) (hline : e ≠ '\n')
    (first : Char) (more : List Char) :
    Nat.toDigits 10 n ++ '\n' :: rest ≠ first :: e :: more := by
  obtain ⟨c, ds, hdigits, ⟨-, hmore⟩, -⟩ := toDigits_cons n
  rw [hdigits]
  cases ds with
  | nil => simp [hline.symm]
  | cons d ds => simp [ne_of_isDigit (hmore d List.mem_cons_self) he]

theorem integer_toDigits (hn : (n : Int) ≤ Number.largest) :
    Number.integer (Nat.toDigits 10 n ++ '\n' :: rest) = some ((n : Int), '\n' :: rest) := by
  have hrange : Number.inRange? n = some (n : Int) := by
    have hleast : Number.least ≤ 0 := by decide
    rw [Number.inRange?, if_pos ⟨by omega, hn⟩]
  rw [Number.integer.eq_def]
  split
  · next h => exact (toDigits_ne_marked n rest rfl (by decide) _ _ h).elim
  · next h => exact (toDigits_ne_marked n rest rfl (by decide) _ _ h).elim
  · next h => exact (toDigits_ne_marked n rest rfl (by decide) _ _ h).elim
  · simp [sign_toDigits, wholeDigits_toDigits, digitsValue_toDigits, hrange]

theorem readNumber_toDigits (hn : (n : Int) ≤ Number.largest) :
    readNumber (Nat.toDigits 10 n ++ '\n' :: rest) = some (.integer n, '\n' :: rest) := by
  have hall : ∀ d ∈ Nat.toDigits 10 n, isDigit d = true := fun d hd => isDigit_of_mem_toDigits n hd
  simp [readNumber, skipMoment?_digits hall rest, skipFloat?_toDigits, integer_toDigits n rest hn]

end

/-! ## Values -/

/-- What starts neither an array nor a table holds no other value. -/
theorem readValue_scalar {c : Char} {cs : List Char} (depth : Nat) (hbracket : c ≠ '[')
    (hbrace : c ≠ '\x7b') : readValue depth (c :: cs) = readScalar (c :: cs) := by
  cases depth with
  | zero => simp [readValue, hbracket, hbrace]
  | succ depth => simp [readValue, hbracket, hbrace]

theorem written_text_cons (text : String) :
    ∃ c cs, Quoted.written text = c :: cs ∧ (c = '"' ∨ c = '\'') := by
  obtain ⟨more, hmore⟩ := Quoted.delimiter_eq (Quoted.styleFor text.toList)
  refine ⟨_, _, by rw [Quoted.written, Quoted.Style.write, hmore]; rfl, ?_⟩
  unfold Quoted.Style.quote
  split
  · exact .inl rfl
  · exact .inr rfl

/-- What stands behind a key is read as the value that was written there. -/
theorem readValue_written (depth : Nat) {v : Scalar} (hv : v.isWritable = true)
    (rest : List Char) :
    readValue depth (v.written ++ '\n' :: rest) = some (v.value, '\n' :: rest) := by
  cases v with
  | flag b => cases b <;> exact readValue_scalar depth (by decide) (by decide)
  | natural n =>
    obtain ⟨c, ds, hdigits, ⟨hfirst, -⟩, -⟩ := toDigits_cons n
    have hread := readNumber_toDigits n rest (by simpa [Scalar.isWritable] using hv)
    have hne {e : Char} (he : isDigit e = false) : c ≠ e := ne_of_isDigit hfirst he
    rw [hdigits, List.cons_append] at hread
    have hquote : ¬(c = '"' || c = '\'') = true := by
      simp [hne (e := '"') rfl, hne (e := '\'') rfl]
    rw [Scalar.written, hdigits, List.cons_append, readValue_scalar depth (hne rfl) (hne rfl),
      readScalar, if_neg hquote, if_pos (by simp [hfirst]), hread]
    rfl
  | text s =>
    have hread : Quoted.read (Quoted.written s ++ '\n' :: rest) = some (s, '\n' :: rest) :=
      Quoted.read_written (by simpa using Quoted.newline_ne_quote _)
    obtain ⟨c, cs, hwritten, hquote⟩ := written_text_cons s
    rw [hwritten, List.cons_append] at hread
    have hplain : c ≠ '[' ∧ c ≠ '\x7b' := by rcases hquote with rfl | rfl <;> decide
    rw [Scalar.written, hwritten, List.cons_append, readValue_scalar depth hplain.1 hplain.2,
      readScalar, if_pos (by simpa using hquote), hread]
    rfl

theorem skipBlanks_cons {c : Char} {cs : List Char} (hc : isBlank c = false) :
    skipBlanks (c :: cs) = c :: cs := by
  simp [skipBlanks, hc]

/-- A written value starts with no blank. -/
theorem skipBlanks_written (v : Scalar) (rest : List Char) :
    skipBlanks (v.written ++ rest) = v.written ++ rest := by
  obtain ⟨c, cs, hwritten, hblank⟩ : ∃ c cs, v.written = c :: cs ∧ isBlank c = false := by
    cases v with
    | flag b => cases b <;> exact ⟨_, _, rfl, rfl⟩
    | natural n =>
      obtain ⟨c, ds, hdigits, ⟨hfirst, -⟩, -⟩ := toDigits_cons n
      have hne {e : Char} (he : isDigit e = false) : c ≠ e := ne_of_isDigit hfirst he
      exact ⟨c, ds, hdigits, by simp [isBlank, hne (e := ' ') rfl, hne (e := '\t') rfl]⟩
    | text s =>
      obtain ⟨c, cs, hwritten, hquote⟩ := written_text_cons s
      exact ⟨c, cs, hwritten, by rcases hquote with rfl | rfl <;> rfl⟩
  rw [hwritten, List.cons_append, skipBlanks_cons hblank]

end SerialLine.Toml
