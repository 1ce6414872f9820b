import SerialLine.Toml.Quoted

/-!
# SerialLine.Proofs.Toml.Quoted — a text is read back from the way it is written

`Quoted.read_written`: whatever a text holds, the style that is picked for it can hold it, and
reading what is written gives the text and leaves what follows, unless that goes on with a quote.

What a style may write for a text is `Style.Spells`: pieces that each stand for one character
(`Style.Stands`), and quotes of the text as they are, of which no more may stand together than the
style has room for. Reading follows a spelling from piece to piece (`body_spelled`). The one place
where it looks ahead is a run of quotes: at the end of a text they run on into the closing ones,
anywhere else there are too few of them to close it (`Spells.quotes`).
-/

namespace SerialLine.Toml.Quoted

open Decimal (hexValue?)

/-- How many quotes may stand together in a text. -/
def Style.room (s : Style) : Nat := if s.lines then 2 else 0

/-- Characters that stand for a character of a text, whatever follows them. -/
structure Style.Stands (s : Style) (c first : Char) (more : List Char) : Prop where
  noQuote : first ≠ s.quote
  noReturn : first ≠ '\r'
  newline : first = '\n' → c = '\n'
  reads (got rest : List Char) :
    s.body .plain got (first :: (more ++ rest)) = s.body .plain (c :: got) rest

/-- Characters that a style may write for a text, where `run` quotes come right before them. -/
inductive Style.Spells (s : Style) : (run : Nat) → (cs spelling : List Char) → Prop where
  | nil {run : Nat} : Spells s run [] []
  | quote {run : Nat} {cs w : List Char} (room : run < s.room) (more : Spells s (run + 1) cs w) :
      Spells s run (s.quote :: cs) (s.quote :: w)
  | char {run : Nat} {c first : Char} {piece cs w : List Char} (stands : s.Stands c first piece)
      (more : Spells s 0 cs w) : Spells s run (c :: cs) (first :: (piece ++ w))

/-! ## Quotes that close a text, and quotes that do not -/

section

variable {s : Style} {n : Nat} {rest : List Char}

theorem takeWhile_quotes (hrest : rest.head? ≠ some s.quote) :
    (List.replicate n s.quote ++ rest).takeWhile (· = s.quote) = List.replicate n s.quote := by
  have hnone : rest.takeWhile (· = s.quote) = [] := by
    cases rest with
    | nil => rfl
    | cons c cs => exact List.takeWhile_cons_of_neg (by simpa using hrest)
  rw [List.takeWhile_append_of_pos (by simp), hnone, List.append_nil]

/-- Quotes that run on into the closing ones belong to the text. -/
theorem closing?_end (hn : n ≤ s.room) (hrest : rest.head? ≠ some s.quote) :
    s.closing? (List.replicate n s.quote ++ (s.delimiter ++ rest)) = some (n, rest) := by
  cases hlines : s.lines with
  | true =>
    have hn : n ≤ 2 := by simpa [Style.room, hlines] using hn
    have hthree : s.delimiter = List.replicate 3 s.quote := by simp [Style.delimiter, hlines]
    have hquotes : List.replicate n s.quote ++ (s.delimiter ++ rest) =
        List.replicate (n + 3) s.quote ++ rest := by
      rw [hthree, ← List.append_assoc, List.replicate_append_replicate]
    -- a reader takes five quotes at most: two of the text, and the three that close it
    have hmin : min (n + 3) 5 = n + 3 := by omega
    rw [hquotes, Style.closing?, takeWhile_quotes hrest]
    simp [hlines, hmin]
  | false =>
    obtain rfl : n = 0 := by simpa [Style.room, hlines] using hn
    simp [Style.closing?, Style.delimiter, hlines]

/-- Fewer quotes than that close nothing. -/
theorem closing?_inner {c : Char} (hn : n ≤ s.room) (hc : c ≠ s.quote) :
    s.closing? (List.replicate n s.quote ++ c :: rest) = none := by
  have hhead : (c :: rest).head? ≠ some s.quote := by simpa using hc
  rw [Style.closing?, takeWhile_quotes hhead, List.length_replicate]
  cases hlines : s.lines with
  | true =>
    have hn : n ≤ 2 := by simpa [Style.room, hlines] using hn
    have hfew : ¬3 ≤ n := by omega
    simp [hfew]
  | false =>
    obtain rfl : n = 0 := by simpa [Style.room, hlines] using hn
    simp

/-- The quotes at the start of a spelling: they are all of it, or something else ends them. -/
theorem Style.Spells.quotes {run : Nat} {cs w : List Char} (h : s.Spells run cs w)
    (hrun : run ≤ s.room) :
    (∃ n, run + n ≤ s.room ∧ cs = List.replicate n s.quote ∧ w = List.replicate n s.quote) ∨
      ∃ n c tail, run + n ≤ s.room ∧ c ≠ s.quote ∧ w = List.replicate n s.quote ++ c :: tail := by
  induction h with
  | nil => exact .inl ⟨0, hrun, rfl, rfl⟩
  | quote room more ih =>
    rcases ih room with ⟨n, hn, rfl, rfl⟩ | ⟨n, c, tail, hn, hc, rfl⟩
    · exact .inl ⟨n + 1, by omega, rfl, rfl⟩
    · exact .inr ⟨n + 1, c, tail, by omega, hc, rfl⟩
  | char stands more ih => exact .inr ⟨0, _, _, hrun, stands.noQuote, rfl⟩

end

/-! ## Reading a spelling -/

section

variable {s : Style} {c : Char} {cs : List Char} {mode : Mode} {chars : List Char}
  (got : List Char)

theorem body_close {n : Nat} {rest : List Char} (h : s.closing? cs = some (n, rest)) :
    s.body .plain got cs =
      some (String.ofList (got.reverse ++ List.replicate n s.quote), rest) := by
  cases cs with
  | nil => cases hlines : s.lines <;> simp [Style.closing?, hlines] at h
  | cons c cs => simp [Style.body, Mode.mayClose, h]

/-- A character that closes nothing is one of the text, or starts something. -/
theorem body_plain (hopen : s.closing? (c :: cs) = none)
    (hstep : s.plainStep c = some (mode, chars)) :
    s.body .plain got (c :: cs) = s.body mode (chars ++ got) cs := by
  simp [Style.body, Mode.mayClose, hopen, Style.step, hstep]

/-- Where the text may not end, nothing closes it. -/
theorem body_inside {before : Mode} (hbefore : before.mayClose = false)
    (hstep : s.step before c = some (mode, chars)) :
    s.body before got (c :: cs) = s.body mode (chars ++ got) cs := by
  simp [Style.body, hbefore, hstep]

end

section

variable {s : Style} {rest : List Char}

/-- A quote that closes nothing belongs to the text. -/
theorem plainStep_quote (s : Style) : s.plainStep s.quote = some (.plain, [s.quote]) := by
  rcases s with ⟨escapes, lines⟩
  cases escapes <;> cases lines <;> rfl

/-- Reading a spelling gives its text, and what follows the closing quotes. -/
theorem body_spelled {run : Nat} {cs w : List Char} (h : s.Spells run cs w)
    (hrun : run ≤ s.room) (hrest : rest.head? ≠ some s.quote) (got : List Char) :
    s.body .plain got (w ++ (s.delimiter ++ rest)) =
      some (String.ofList (got.reverse ++ cs), rest) := by
  induction h generalizing got with
  | nil => exact body_close got (closing?_end (Nat.zero_le s.room) hrest)
  | @quote run cs w room more ih =>
    rcases (Style.Spells.quote room more).quotes hrun with
      ⟨n, hn, htext, hall⟩ | ⟨n, c, tail, hn, hc, hsome⟩
    · -- nothing but quotes is left: they close the text
      rw [hall, htext]
      exact body_close got (closing?_end (by omega) hrest)
    · -- something else comes before enough of them could close it
      have hopen : s.closing? (s.quote :: w ++ (s.delimiter ++ rest)) = none := by
        rw [hsome, List.append_assoc, List.cons_append]
        exact closing?_inner (by omega) hc
      rw [List.cons_append] at hopen ⊢
      rw [body_plain got hopen (plainStep_quote s), ih room]
      simp
  | char stands more ih =>
    rw [List.cons_append, List.append_assoc, stands.reads, ih (Nat.zero_le s.room)]
    simp

end

/-! ## What stands for a character -/

section

variable {s : Style} {c : Char}

/-- A character for itself. -/
theorem stands_self (hquote : c ≠ s.quote) (hreturn : c ≠ '\r')
    (hstep : s.plainStep c = some (.plain, [c])) : s.Stands c c [] where
  noQuote := hquote
  noReturn := hreturn
  newline := id
  reads got _ := body_plain got (closing?_inner (Nat.zero_le s.room) hquote) hstep

theorem ne_return (h : isPlain c = true) : c ≠ '\r' := by
  rintro rfl
  cases h

theorem ne_newline (h : isPlain c = true) : c ≠ '\n' := by
  rintro rfl
  cases h

/-- A character without a meaning of its own. -/
theorem stands_plain (hquote : c ≠ s.quote) (hplain : isPlain c = true)
    (hback : s.escapes = true → c ≠ '\\') : s.Stands c c [] := by
  refine stands_self hquote (ne_return hplain) ?_
  have hescape : (s.escapes && decide (c = '\\')) = false := by
    cases hs : s.escapes with
    | false => rfl
    | true => simp [hback hs]
  simp [Style.plainStep, hescape, ne_newline hplain, ne_return hplain, hplain]

/-- A line end, in a style of several lines. -/
theorem stands_newline (hlines : s.lines = true) : s.Stands '\n' '\n' [] := by
  rcases s with ⟨escapes, lines⟩
  obtain rfl : lines = true := hlines
  cases escapes
  · exact stands_self (by decide) (by decide) rfl
  · exact stands_self (by decide) (by decide) rfl

section

variable (hs : s.escapes = true)

include hs

/-- What follows a backslash is read as an escape. -/
theorem body_backslash (got cs : List Char) :
    s.body .plain got ('\\' :: cs) = s.body .escape got cs := by
  have hquote : '\\' ≠ s.quote := by simp [Style.quote, hs]
  have hstep : s.plainStep '\\' = some (.escape, []) := by simp [Style.plainStep, hs]
  exact body_plain got (closing?_inner (Nat.zero_le s.room) hquote) hstep

/-- An escape by a letter. -/
theorem stands_letter {letter : Char} (h : escapeLetter? letter = some c) :
    s.Stands c '\\' [letter] where
  noQuote := by simp [Style.quote, hs]
  noReturn := by decide
  newline h := by cases h
  reads got rest := by
    have hstep : s.step .escape letter = some (.plain, [c]) := by
      simp [Style.step, Style.escapeStep, h]
    rw [body_backslash hs]
    exact body_inside got rfl hstep

end

/-! ### Code points -/

theorem hexValue?_upper : ∀ d < 16, hexValue? (Nat.digitChar d).toUpper = some d := by decide

theorem charOf?_toNat (c : Char) : charOf? c.toNat = some c := by
  have hvalid : c.toNat.isValidChar := c.valid
  rw [charOf?, if_pos hvalid, Char.ofNat_toNat]

/-- One more digit of a code point, with others to come. -/
theorem body_digit {missing d : Nat} (value : Nat) (got cs : List Char) (hd : d < 16) :
    s.body (.digits (missing + 2) value) got ((Nat.digitChar d).toUpper :: cs) =
      s.body (.digits (missing + 1) (16 * value + d)) got cs := by
  have hstep : s.step (.digits (missing + 2) value) (Nat.digitChar d).toUpper =
      some (.digits (missing + 1) (16 * value + d), []) := by
    simp [Style.step, hexValue?_upper d hd]
  exact body_inside got rfl hstep

/-- The last digit of a code point. -/
theorem body_lastDigit {d value : Nat} (got cs : List Char) (hd : d < 16)
    (hc : 16 * value + d = c.toNat) :
    s.body (.digits 1 value) got ((Nat.digitChar d).toUpper :: cs) =
      s.body .plain (c :: got) cs := by
  have hstep : s.step (.digits 1 value) (Nat.digitChar d).toUpper = some (.plain, [c]) := by
    simp [Style.step, hexValue?_upper d hd, hc, charOf?_toNat]
  exact body_inside got rfl hstep

/-- An escape by a code point of four digits. -/
theorem stands_fourDigits (hs : s.escapes = true) (hc : c.toNat < 65536) :
    s.Stands c '\\' ('u' :: fourDigits c.toNat) where
  noQuote := by simp [Style.quote, hs]
  noReturn := by decide
  newline h := by cases h
  reads got rest := by
    have hstart : s.step .escape 'u' = some (.digits 4 0, []) := rfl
    have hsum : 16 * (16 * (16 * (16 * 0 + c.toNat / 4096 % 16) + c.toNat / 256 % 16) +
        c.toNat / 16 % 16) + c.toNat % 16 = c.toNat := by
      omega
    have hdigit (n : Nat) : n % 16 < 16 := Nat.mod_lt n (by decide)
    rw [body_backslash hs, List.cons_append, body_inside got rfl hstart]
    simp only [fourDigits, List.map_cons, List.map_nil, List.cons_append, List.nil_append]
    rw [body_digit _ _ _ (hdigit _), body_digit _ _ _ (hdigit _), body_digit _ _ _ (hdigit _),
      body_lastDigit got rest (hdigit _) hsum]

end

/-! ## What is written -/

section

variable {s : Style}

theorem quote_of_escapes (hs : s.escapes = true) : s.quote = '"' := by simp [Style.quote, hs]

/-- Whatever a character is, it is written as something that stands for it. -/
theorem stands_escaped (hs : s.escapes = true) {c : Char} (hc : c ≠ '"') :
    ∃ first more, (escaped? s.lines c).getD [c] = first :: more ∧ s.Stands c first more := by
  unfold escaped?
  split
  · next h => exact ⟨_, _, rfl, stands_letter hs (by subst h; rfl)⟩
  split
  · next h => exact ⟨_, _, rfl, stands_letter hs (by subst h; rfl)⟩
  split
  · next h => exact ⟨_, _, rfl, stands_letter hs (by subst h; rfl)⟩
  split
  · next h =>
    subst h
    cases hlines : s.lines with
    | true => exact ⟨_, _, rfl, stands_newline hlines⟩
    | false => exact ⟨_, _, rfl, stands_letter hs rfl⟩
  split
  · next h => exact ⟨_, _, rfl, stands_letter hs (by subst h; rfl)⟩
  split
  · next h => exact ⟨_, _, rfl, stands_letter hs (by subst h; rfl)⟩
  split
  · next hback _ _ _ _ _ hplain =>
    have hquote : c ≠ s.quote := quote_of_escapes hs ▸ hc
    exact ⟨_, _, rfl, stands_plain hquote hplain fun _ => hback⟩
  · next hplain =>
    have hsmall : c.toNat < 65536 := by
      simp [isPlain] at hplain
      omega
    exact ⟨_, _, rfl, stands_fourDigits hs hsmall⟩

/-- Between double quotes any text can be spelled. -/
theorem spells_escapedFrom (hs : s.escapes = true) (run : Nat) (cs : List Char) :
    s.Spells run cs (escapedFrom s.lines s.room run cs) := by
  induction cs generalizing run with
  | nil => exact .nil
  | cons c cs ih =>
    unfold escapedFrom
    split
    · next hc =>
      obtain rfl : c = s.quote := hc.trans (quote_of_escapes hs).symm
      split
      · next hroom =>
        rw [← quote_of_escapes hs]
        exact .quote hroom (ih _)
      · have hstands : s.Stands s.quote '\\' ['"'] :=
          stands_letter hs (by rw [quote_of_escapes hs]; rfl)
        exact .char hstands (ih 0)
    · next hc =>
      obtain ⟨first, more, hpiece, hstands⟩ := stands_escaped hs hc
      rw [hpiece]
      exact .char hstands (ih 0)

end

/-! ### The style that is picked -/

/-- Whether a style can hold a text: with escapes it holds every text. -/
def Style.Holds (s : Style) (cs : List Char) : Prop :=
  s.escapes = true ∨
    longestRun s.quote cs ≤ s.room ∧
      ∀ c ∈ cs, needsEscape c = false ∧ (c = '\n' → s.lines = true)

/-- Counts the runs of a character, one character on: the longest so far, and the one that
stands now. -/
def countRun (q : Char) (best : Nat × Nat) (c : Char) : Nat × Nat :=
  if c = q then (max best.1 (best.2 + 1), best.2 + 1) else (best.1, 0)

theorem longestRun_eq (q : Char) (cs : List Char) :
    longestRun q cs = (cs.foldl (countRun q) (0, 0)).1 := rfl

theorem le_foldl_countRun (q : Char) (cs : List Char) (best : Nat × Nat) :
    best.1 ≤ (cs.foldl (countRun q) best).1 := by
  induction cs generalizing best with
  | nil => exact Nat.le_refl _
  | cons c cs ih =>
    refine Nat.le_trans ?_ (ih (countRun q best c))
    unfold countRun
    split
    · exact Nat.le_max_left ..
    · exact Nat.le_refl _

section

variable {s : Style} {cs : List Char}

theorem styleFor_holds (cs : List Char) : (styleFor cs).Holds cs := by
  unfold styleFor
  dsimp only
  split
  · exact .inl rfl
  split
  · next h =>
    simp only [Bool.and_eq_true, Bool.not_eq_true', decide_eq_true_eq, List.any_eq_false,
      Bool.not_eq_true, List.contains_eq_mem, decide_eq_false_iff_not] at h
    obtain ⟨⟨hcontrol, hsingle⟩, hnewline⟩ := h
    refine .inr ⟨Nat.le_of_eq hsingle, fun c hc => ⟨hcontrol c hc, ?_⟩⟩
    rintro rfl
    exact absurd hc hnewline
  split
  · exact .inl rfl
  split
  · next h =>
    simp only [Bool.and_eq_true, Bool.not_eq_true', decide_eq_true_eq, List.any_eq_false,
      Bool.not_eq_true] at h
    exact .inr ⟨h.2, fun c hc => ⟨h.1 c hc, fun _ => rfl⟩⟩
  · exact .inl rfl

/-- A text that needs no escapes is spelled as it is. -/
theorem spells_self (hs : s.escapes = false) {run : Nat} {best : Nat × Nat} (hrun : best.2 = run)
    (hruns : (cs.foldl (countRun s.quote) best).1 ≤ s.room)
    (hchars : ∀ c ∈ cs, needsEscape c = false ∧ (c = '\n' → s.lines = true)) :
    s.Spells run cs cs := by
  -- on the text, with the count of its runs so far: the run that stands now is one of them
  induction cs generalizing best run with
  | nil => exact .nil
  | cons c cs ih =>
    obtain ⟨hc, hmore⟩ := List.forall_mem_cons.mp hchars
    rw [List.foldl_cons] at hruns
    by_cases hquote : c = s.quote
    · subst hquote
      have hbest : countRun s.quote best s.quote = (max best.1 (run + 1), run + 1) := by
        simp [countRun, hrun]
      have hroom : run + 1 ≤ s.room := by
        have := le_foldl_countRun s.quote cs (countRun s.quote best s.quote)
        rw [hbest] at this hruns
        omega
      exact .quote hroom (ih (by rw [hbest]) hruns hmore)
    · have hstands : s.Stands c c [] := by
        by_cases hnewline : c = '\n'
        · subst hnewline
          exact stands_newline (hc.2 rfl)
        · have hplain : isPlain c = true := by
            by_cases htab : c = '\t'
            · subst htab
              rfl
            · simpa [needsEscape, htab, hnewline] using hc.1
          exact stands_plain hquote hplain (by simp [hs])
      exact .char hstands (ih (by simp [countRun, hquote]) hruns hmore)

theorem Style.Holds.spells (h : s.Holds cs) : s.Spells 0 cs (s.inner cs) := by
  by_cases hs : s.escapes = true
  · rw [Style.inner, if_pos hs]
    exact spells_escapedFrom hs 0 cs
  · rw [Style.inner, if_neg hs]
    obtain ⟨hruns, hchars⟩ := h.resolve_left hs
    rw [longestRun_eq] at hruns
    refine spells_self ?_ ?_ hruns hchars
    · simpa using hs
    · rfl

end

/-! ## Reading what is written -/

theorem after?_append (expected cs : List Char) : after? expected (expected ++ cs) = some cs := by
  induction expected with
  | nil => rfl
  | cons e es ih => simp [after?, ih]

theorem newline_ne_quote (s : Style) : '\n' ≠ s.quote := by
  unfold Style.quote
  split <;> decide

theorem return_ne_quote (s : Style) : '\r' ≠ s.quote := by
  unfold Style.quote
  split <;> decide

/-- What starts with something else does not start with a line end. -/
theorem lineEnd?_cons {c : Char} {cs : List Char} (hnewline : c ≠ '\n') (hreturn : c ≠ '\r') :
    lineEnd? (c :: cs) = none := by
  unfold lineEnd?
  split <;> simp_all

section

variable {s : Style} {cs w : List Char} {rest : List Char}

/-- The delimiter is not empty. -/
theorem delimiter_eq (s : Style) : ∃ more, s.delimiter = s.quote :: more := by
  unfold Style.delimiter
  split <;> exact ⟨_, rfl⟩

/-- Only the spelling of a text that starts with a line end does so too. -/
theorem Style.Spells.lineEnd? (h : s.Spells 0 cs w) (hnewline : '\n' ∉ cs) :
    Toml.lineEnd? (w ++ (s.delimiter ++ rest)) = none := by
  have hquote (tail : List Char) : Toml.lineEnd? (s.quote :: tail) = none :=
    lineEnd?_cons (newline_ne_quote s).symm (return_ne_quote s).symm
  cases h with
  | nil =>
    obtain ⟨more, hmore⟩ := delimiter_eq s
    rw [hmore]
    exact hquote _
  | quote => exact hquote _
  | char stands =>
    refine lineEnd?_cons (fun hfirst => hnewline ?_) stands.noReturn
    rw [stands.newline hfirst]
    exact List.mem_cons_self

theorem Style.read_write (h : s.Holds cs) (hrest : rest.head? ≠ some s.quote) :
    s.read (s.write cs ++ rest) = some (String.ofList cs, rest) := by
  have hbody := body_spelled h.spells (Nat.zero_le s.room) hrest []
  simp only [Style.read, Style.write, List.append_assoc, after?_append, Option.bind_eq_bind,
    Option.bind_some]
  cases hlines : s.lines with
  | false => simpa [hlines] using hbody
  | true =>
    by_cases hnewline : '\n' ∈ cs
    · simpa [hnewline, Toml.lineEnd?] using hbody
    · have hnone : Toml.lineEnd? (s.inner cs ++ (s.delimiter ++ rest)) = none :=
        h.spells.lineEnd? hnewline
      simpa [hnewline, hnone] using hbody

/-- What is written on one line is not taken for the start of several. -/
theorem take_three (h : s.Spells 0 cs w) (hlines : s.lines = false)
    (hrest : rest.head? ≠ some s.quote) (q : Char) :
    (s.quote :: (w ++ (s.quote :: rest))).take 3 ≠ [q, q, q] := by
  intro htake
  cases h with
  | nil =>
    cases rest with
    | nil => simp at htake
    | cons c rest => simp_all
  | quote room => simp [Style.room, hlines] at room
  | char stands =>
    have := stands.noQuote
    simp_all

/-- The delimiter tells in which style a text is written. -/
theorem read_eq (h : s.Holds cs) (hrest : rest.head? ≠ some s.quote) :
    read (s.write cs ++ rest) = s.read (s.write cs ++ rest) := by
  cases hlines : s.lines with
  | true =>
    obtain ⟨escapes, lines⟩ := s
    obtain rfl : lines = true := hlines
    cases escapes
    · simp [read, Style.write, Style.delimiter, Style.quote]
    · simp [read, Style.write, Style.delimiter, Style.quote]
  | false =>
    have hwrite : s.write cs ++ rest = s.quote :: (s.inner cs ++ (s.quote :: rest)) := by
      simp [Style.write, Style.delimiter, hlines]
    rw [hwrite, read, if_neg (take_three h.spells hlines hrest _),
      if_neg (take_three h.spells hlines hrest _)]
    obtain ⟨escapes, lines⟩ := s
    obtain rfl : lines = false := hlines
    cases escapes
    · rfl
    · rfl

/-- Every text is read back from the way it is written. -/
theorem read_written {text : String} (hrest : rest.head? ≠ some (styleFor text.toList).quote) :
    read (written text ++ rest) = some (text, rest) := by
  have h := styleFor_holds text.toList
  rw [written, read_eq h hrest, Style.read_write h hrest, String.ofList_toList]

end

end SerialLine.Toml.Quoted
