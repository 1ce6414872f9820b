import SerialLine.Json.Token
import SerialLine.Json.Value
import SerialLine.Proofs.Toml.Values

/-!
# SerialLine.Proofs.Json.Grammar — what a JSON text is

The grammar of JSON over characters, said apart from the reader: an object is a list of members
with blanks wherever they may stand, a name may be spelled with any escapes, and a value may be
nested to any depth. `ObjectText ms cs` records what the members are called and how their values
are written, in the order of the text.

`isNumber_toDigits` and `spells_escaped` put what the library writes into the grammar.
-/

namespace SerialLine.Json

open Decimal (isDigit hexValue?)

/-- Characters that may stand between tokens. -/
def IsBlank (cs : List Char) : Prop := ∀ c ∈ cs, isSpace c = true

/-! ## Numbers -/

/-- One digit or more. -/
def IsDigits (ds : List Char) : Prop := ds ≠ [] ∧ ∀ d ∈ ds, isDigit d = true

/-- The digits before the point: a zero leads only where it stands alone. -/
def IsWhole (ds : List Char) : Prop := IsDigits ds ∧ (ds.head? = some '0' → ds = ['0'])

/-- The fraction of a number, or nothing. -/
inductive IsFraction : List Char → Prop
  | absent : IsFraction []
  | present {ds : List Char} (hdigits : IsDigits ds) : IsFraction ('.' :: ds)

/-- The exponent of a number, or nothing. -/
inductive IsExponent : List Char → Prop
  | absent : IsExponent []
  | present {e : Char} {sign ds : List Char} (he : e = 'e' ∨ e = 'E')
      (hsign : sign = [] ∨ sign = ['+'] ∨ sign = ['-']) (hdigits : IsDigits ds) :
      IsExponent (e :: (sign ++ ds))

/-- A number. -/
inductive IsNumber : List Char → Prop
  | mk {sign whole fraction exponent : List Char} (hsign : sign = [] ∨ sign = ['-'])
      (hwhole : IsWhole whole) (hfraction : IsFraction fraction)
      (hexponent : IsExponent exponent) : IsNumber (sign ++ (whole ++ (fraction ++ exponent)))

/-! ## Strings -/

/-- Four hexadecimal digits and their number. -/
inductive IsFour : Nat → List Char → Prop
  | mk {a b c d : Char} {i j k l : Nat} (ha : hexValue? a = some i) (hb : hexValue? b = some j)
      (hc : hexValue? c = some k) (hd : hexValue? d = some l) :
      IsFour (4096 * i + 256 * j + 16 * k + l) [a, b, c, d]

/-- A character that stands for itself inside a string. -/
def IsPlain (c : Char) : Prop := 0x20 ≤ c.toNat ∧ c ≠ '"' ∧ c ≠ '\\'

/-- What may stand between the quotes of a string. -/
inductive IsBody : List Char → Prop
  | nil : IsBody []
  | plain {c : Char} {cs : List Char} (hc : IsPlain c) (h : IsBody cs) : IsBody (c :: cs)
  | letter {e c : Char} {cs : List Char} (he : escapeLetter? e = some c) (h : IsBody cs) :
      IsBody ('\\' :: e :: cs)
  | code {n : Nat} {ds cs : List Char} (hds : IsFour n ds) (h : IsBody cs) :
      IsBody ('\\' :: 'u' :: (ds ++ cs))

/-- What may stand between the quotes of a string, with the text that it spells. The halves of
a surrogate pair only come together. -/
inductive Spells : List Char → List Char → Prop
  | nil : Spells [] []
  | plain {c : Char} {text cs : List Char} (hc : IsPlain c) (h : Spells text cs) :
      Spells (c :: text) (c :: cs)
  | letter {e c : Char} {text cs : List Char} (he : escapeLetter? e = some c)
      (h : Spells text cs) : Spells (c :: text) ('\\' :: e :: cs)
  | code {n : Nat} {ds text cs : List Char} (hds : IsFour n ds) (hn : n < 0xD800 ∨ 0xDFFF < n)
      (h : Spells text cs) : Spells (Char.ofNat n :: text) ('\\' :: 'u' :: (ds ++ cs))
  | pair {high low : Nat} {ds es text cs : List Char} (hds : IsFour high ds)
      (hes : IsFour low es) (hhigh : 0xD800 ≤ high ∧ high ≤ 0xDBFF)
      (hlow : 0xDC00 ≤ low ∧ low ≤ 0xDFFF) (h : Spells text cs) :
      Spells (Char.ofNat ((high - 0xD800) * 1024 + (low - 0xDC00) + 0x10000) :: text)
        ('\\' :: 'u' :: (ds ++ '\\' :: 'u' :: (es ++ cs)))

/-! ## Values -/

/-- A value with blanks around it. -/
inductive ItemText (value : List Char) : List Char → Prop
  | mk {a b : List Char} (ha : IsBlank a) (hb : IsBlank b) : ItemText value (a ++ (value ++ b))

/-- A name in quotes, a colon and a value, with blanks around them. -/
inductive MemberText (name value : List Char) : List Char → Prop
  | mk {a b cs : List Char} (ha : IsBlank a) (hb : IsBlank b) (hcs : ItemText value cs) :
      MemberText name value (a ++ '"' :: (name ++ '"' :: (b ++ ':' :: cs)))

mutual

/-- A value. -/
inductive IsValue : List Char → Prop
  | nullWord : IsValue ['n', 'u', 'l', 'l']
  | trueWord : IsValue ['t', 'r', 'u', 'e']
  | falseWord : IsValue ['f', 'a', 'l', 's', 'e']
  | number {cs : List Char} (h : IsNumber cs) : IsValue cs
  | string {cs : List Char} (h : IsBody cs) : IsValue ('"' :: (cs ++ ['"']))
  | emptyArray {gap : List Char} (hgap : IsBlank gap) : IsValue ('[' :: (gap ++ [']']))
  | array {cs : List Char} (h : IsItems cs) : IsValue ('[' :: (cs ++ [']']))
  | emptyObject {gap : List Char} (hgap : IsBlank gap) : IsValue ('\x7b' :: (gap ++ ['\x7d']))
  | object {cs : List Char} (h : IsMembers cs) : IsValue ('\x7b' :: (cs ++ ['\x7d']))

/-- The items of an array that has some. -/
inductive IsItems : List Char → Prop
  | one {v cs : List Char} (hcs : ItemText v cs) (hv : IsValue v) : IsItems cs
  | more {v cs rest : List Char} (hcs : ItemText v cs) (hv : IsValue v) (hrest : IsItems rest) :
      IsItems (cs ++ ',' :: rest)

/-- The members of an object that has some. -/
inductive IsMembers : List Char → Prop
  | one {name v cs : List Char} (hcs : MemberText name v cs) (hname : IsBody name)
      (hv : IsValue v) : IsMembers cs
  | more {name v cs rest : List Char} (hcs : MemberText name v cs) (hname : IsBody name)
      (hv : IsValue v) (hrest : IsMembers rest) : IsMembers (cs ++ ',' :: rest)

end

/-- The members of an object that has some, by their names and the texts of their values. -/
inductive MembersText : List (String × List Char) → List Char → Prop
  | one {name : String} {spelled v cs : List Char} (hcs : MemberText spelled v cs)
      (hname : Spells name.toList spelled) (hv : IsValue v) : MembersText [(name, v)] cs
  | more {name : String} {spelled v cs rest : List Char} {ms : List (String × List Char)}
      (hcs : MemberText spelled v cs) (hname : Spells name.toList spelled) (hv : IsValue v)
      (hrest : MembersText ms rest) : MembersText ((name, v) :: ms) (cs ++ ',' :: rest)

/-- A text that is an object, by the names of its members and the texts of their values. -/
inductive ObjectText : List (String × List Char) → List Char → Prop
  | empty {before gap after : List Char} (hbefore : IsBlank before) (hgap : IsBlank gap)
      (hafter : IsBlank after) : ObjectText [] (before ++ '\x7b' :: (gap ++ '\x7d' :: after))
  | members {before cs after : List Char} {ms : List (String × List Char)}
      (hbefore : IsBlank before) (hcs : MembersText ms cs) (hafter : IsBlank after) :
      ObjectText ms (before ++ '\x7b' :: (cs ++ '\x7d' :: after))

/-! ## What the library writes -/

theorem isBlank_nil : IsBlank [] := by
  intro c hc
  cases hc

theorem isWhole_toDigits (n : Nat) : IsWhole (Nat.toDigits 10 n) := by
  obtain ⟨c, ds, hdigits, hall, hzero⟩ := Toml.toDigits_cons n
  constructor
  · rw [hdigits]
    exact ⟨List.cons_ne_nil c ds, List.forall_mem_cons.mpr hall⟩
  · intro hhead
    have hc : c = '0' := by simpa [hdigits] using hhead
    rw [hzero hc]
    rfl

theorem isNumber_toDigits (n : Nat) : IsNumber (Nat.toDigits 10 n) := by
  simpa using IsNumber.mk (.inl rfl) (isWhole_toDigits n) .absent .absent

theorem Spells.isBody {text cs : List Char} (h : Spells text cs) : IsBody cs := by
  induction h with
  | nil => exact .nil
  | plain hc _ ih => exact .plain hc ih
  | letter he _ ih => exact .letter he ih
  | code hds _ _ ih => exact .code hds ih
  | pair hds hes _ _ _ ih => exact .code hds (.code hes ih)

/-- The four digits of a control character. -/
theorem isFour_fourDigits : ∀ n < 0x20, IsFour n (fourDigits n) := by
  have hvalues : ∀ n < 0x20, hexValue? (n / 16 % 16).digitChar = some (n / 16) ∧
      hexValue? (n % 16).digitChar = some (n % 16) := by decide
  intro n hn
  have hleading : fourDigits n = ['0', '0', (n / 16 % 16).digitChar, (n % 16).digitChar] := by
    have hhigh : n / 4096 % 16 = 0 ∧ n / 256 % 16 = 0 := by omega
    simp [fourDigits, hhigh]
  have hzero : hexValue? '0' = some 0 := rfl
  have hfour := IsFour.mk hzero hzero (hvalues n hn).1 (hvalues n hn).2
  have hsum : 4096 * 0 + 256 * 0 + 16 * (n / 16) + n % 16 = n := by omega
  rw [hsum] at hfour
  rwa [hleading]

/-- An escaped character spells itself. -/
theorem spells_escapeChar (c : Char) {text cs : List Char} (h : Spells text cs) :
    Spells (c :: text) (escapeChar c ++ cs) := by
  unfold escapeChar
  -- the two delimiters and the five control characters that have a letter
  iterate 7
    split
    · next hc => rw [hc]; exact .letter rfl h
  split
  · next hc =>
    have hcode := Spells.code (isFour_fourDigits c.toNat hc) (.inl (by omega)) h
    rwa [Char.ofNat_toNat] at hcode
  · next hquote hslash _ _ _ _ _ hc => exact .plain ⟨by omega, hquote, hslash⟩ h

/-- What is written for a text spells it. -/
theorem spells_escaped (text : List Char) : Spells text (text.flatMap escapeChar) := by
  induction text with
  | nil => exact .nil
  | cons c text ih => exact spells_escapeChar c ih

end SerialLine.Json
