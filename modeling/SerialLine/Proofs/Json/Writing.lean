import SerialLine.Proofs.Json.Tokens

/-!
# SerialLine.Proofs.Json.Writing — what is written is a JSON text

`Value.isValue_compact`: the compact text of every value is a value of the grammar, and
`Value.objectText_compact`: that of an object has the members that were written, in their order.
The tokens of the scalars (`tokensOf_natural` and the like) say what they are read back as.
-/

namespace SerialLine.Json

theorem toList_toString (n : Nat) : (toString n).toList = Nat.toDigits 10 n := by
  rw [Nat.toString_eq_repr, Nat.toList_repr]

theorem toList_stringText (s : String) :
    (stringText s).toList = '"' :: (s.toList.flatMap escapeChar ++ ['"']) := by
  rw [stringText, String.toList_ofList, stringChars, List.cons_append]

/-- Blanks may be missing. -/
theorem itemText_self (v : List Char) : ItemText v v := by
  simpa using ItemText.mk isBlank_nil isBlank_nil

/-- A member as it is written. -/
theorem memberText_written (name : String) (v : List Char) :
    MemberText (name.toList.flatMap escapeChar) v ((stringText name ++ ":").toList ++ v) := by
  have hmember (spelled : List Char) : MemberText spelled v ('"' :: (spelled ++ '"' :: ':' :: v)) :=
    .mk isBlank_nil isBlank_nil (itemText_self v)
  simpa [toList_stringText] using hmember (name.toList.flatMap escapeChar)

theorem MembersText.isMembers {ms : List (String × List Char)} {cs : List Char}
    (h : MembersText ms cs) : IsMembers cs := by
  induction h with
  | one hcs hname hv => exact .one hcs hname.isBody hv
  | more hcs hname hv _ ih => exact .more hcs hname.isBody hv ih

namespace Value

theorem isNumber_compact (n : Int) : IsNumber (compact (.number n)).toList := by
  cases n with
  | ofNat n =>
    have htext : (compact (.number (.ofNat n))).toList = Nat.toDigits 10 n := toList_toString n
    rw [htext]
    exact isNumber_toDigits n
  | negSucc n =>
    have htext : (compact (.number (.negSucc n))).toList = '-' :: Nat.toDigits 10 (n + 1) := by
      have hsign : compact (.number (.negSucc n)) = "-" ++ (n + 1).repr := rfl
      rw [hsign, String.toList_append, Nat.toList_repr]
      rfl
    rw [htext]
    simpa using IsNumber.mk (.inr rfl) (isWhole_toDigits (n + 1)) .absent .absent

mutual

/-- What is written for a value is a value. -/
theorem isValue_compact : ∀ v : Value, IsValue v.compact.toList
  | .null => .nullWord
  | .bool true => .trueWord
  | .bool false => .falseWord
  | .number n => .number (isNumber_compact n)
  | .string s => by
    rw [compact, toList_stringText]
    exact .string (spells_escaped s.toList).isBody
  | .array [] => .emptyArray isBlank_nil
  | .array (v :: items) => by
    have hitems := isItems_compact (v :: items) (List.cons_ne_nil v items)
    rw [compact, String.toList_append, String.toList_append]
    exact .array hitems
  | .object [] => .emptyObject isBlank_nil
  | .object (m :: members) => by
    have hmembers := membersText_compact (m :: members) (List.cons_ne_nil m members)
    rw [compact, String.toList_append, String.toList_append]
    exact .object hmembers.isMembers

theorem isItems_compact : ∀ items : List Value, items ≠ [] →
    IsItems (",".intercalate (compactItems items)).toList
  | [v], _ => .one (itemText_self _) (isValue_compact v)
  | v :: w :: items, _ => by
    have hmore := IsItems.more (itemText_self _) (isValue_compact v)
      (isItems_compact (w :: items) (List.cons_ne_nil w items))
    simpa [compactItems, String.intercalate_cons_cons] using hmore

theorem membersText_compact : ∀ members : List (String × Value), members ≠ [] →
    MembersText (members.map fun m => (m.1, m.2.compact.toList))
      (",".intercalate (compactMembers members)).toList
  | [(name, v)], _ => by
    have hone := MembersText.one (memberText_written name _) (spells_escaped name.toList)
      (isValue_compact v)
    simpa [compactMembers] using hone
  | (name, v) :: m :: members, _ => by
    have hmore := MembersText.more (memberText_written name _) (spells_escaped name.toList)
      (isValue_compact v) (membersText_compact (m :: members) (List.cons_ne_nil m members))
    simpa [compactMembers, String.intercalate_cons_cons] using hmore

end

/-- What is written for an object is an object with these members in this order. -/
theorem objectText_compact (members : List (String × Value)) :
    ObjectText (members.map fun m => (m.1, m.2.compact.toList))
      (compact (.object members)).toList := by
  cases members with
  | nil => exact .empty isBlank_nil isBlank_nil isBlank_nil
  | cons m members =>
    rw [compact, String.toList_append, String.toList_append]
    have hmembers := membersText_compact (m :: members) (List.cons_ne_nil m members)
    exact .members isBlank_nil hmembers isBlank_nil

end Value

/-! ## What it is read back as -/

theorem tokensOf_natural {n : Nat} (hn : n < UInt64.size) :
    tokensOf (Value.number n).compact.toList = [.number (.ok (.natural n)) (.ok ())] := by
  have htext : (Value.number n).compact.toList = Nat.toDigits 10 n := toList_toString n
  obtain ⟨c, more, hdigits, htoken⟩ := token_toDigits hn
  rw [htext]
  exact Cuts.tokensOf (.scalar fun rest hrest => ⟨c, more, hdigits, htoken rest hrest⟩)

theorem tokensOf_bool (b : Bool) :
    tokensOf (Value.bool b).compact.toList = [.word (.ok (bif b then .true else .false))] := by
  cases b <;> rfl

theorem tokensOf_string (s : String) :
    tokensOf (Value.string s).compact.toList = [.string (.ok s) (.ok ())] := by
  rw [Value.compact, toList_stringText]
  exact (Cuts.quoted (spells_escaped s.toList).token).tokensOf

end SerialLine.Json
