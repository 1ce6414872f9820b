import SerialLine.Proofs.Json.Scalars

/-!
# SerialLine.Proofs.Json.Tokens — a text of the grammar is cut into the tokens of its grammar

`Cuts cs ts` says that `cs` is cut into the tokens `ts` wherever it stands. A text of the grammar
is cut into tokens that are again ordered by a grammar, `ValueTokens`, which holds no blanks and
no spellings any more (`IsValue.cuts`). For an object the tokens are known member by member
(`ObjectText.tokens`).
-/

namespace SerialLine.Json

/-! ## Cutting a text into tokens -/

/-- Reading `cs` gives the tokens `ts` and leaves `rest`. -/
inductive Lexed : List Char → List Token → List Char → Prop
  | done (cs : List Char) : Lexed cs [] cs
  | space {c : Char} {cs rest : List Char} {ts : List Token} (hc : isSpace c = true)
      (h : Lexed cs ts rest) : Lexed (c :: cs) ts rest
  | token {c : Char} {cs after rest : List Char} {t : Token} {ts : List Token}
      (ht : Json.token c cs = (t, some after)) (hshorter : after.length ≤ cs.length)
      (h : Lexed after ts rest) : Lexed (c :: cs) (t :: ts) rest

theorem Lexed.append {cs middle rest : List Char} {ts us : List Token} (h : Lexed cs ts middle)
    (hrest : Lexed middle us rest) : Lexed cs (ts ++ us) rest := by
  induction h with
  | done => exact hrest
  | space hc _ ih => exact .space hc (ih hrest)
  | token ht hshorter _ ih => exact .token ht hshorter (ih hrest)

theorem eq_of_isSpace {c : Char} (hc : isSpace c = true) :
    c = ' ' ∨ c = '\n' ∨ c = '\t' ∨ c = '\r' := by
  simpa [isSpace, or_assoc] using hc

/-- Blanks start no token. -/
theorem token_space {c : Char} (hc : isSpace c = true) (cs : List Char) :
    token c cs = (.alien, none) := by
  rcases eq_of_isSpace hc with rfl | rfl | rfl | rfl <;> rfl

theorem tokensUpTo_space {c : Char} (hc : isSpace c = true) (fuel : Nat) (cs : List Char) :
    tokensUpTo fuel (c :: cs) = tokensUpTo fuel cs := by
  cases fuel with
  | zero => rfl
  | succ fuel => rw [tokensUpTo, tokensUpTo, List.dropWhile_cons_of_pos hc]

theorem tokensUpTo_token {c : Char} {cs after : List Char} {t : Token}
    (ht : token c cs = (t, some after)) (fuel : Nat) :
    tokensUpTo (fuel + 1) (c :: cs) = t :: tokensUpTo fuel after := by
  have hc : ¬isSpace c = true := by
    intro hc
    rw [token_space hc] at ht
    cases ht
  rw [tokensUpTo, List.dropWhile_cons_of_neg hc]
  simp [ht]

theorem tokensUpTo_blank {cs : List Char} (hcs : IsBlank cs) (fuel : Nat) :
    tokensUpTo fuel cs = [] := by
  cases fuel with
  | zero => rfl
  | succ fuel =>
    have hnone : (cs ++ []).dropWhile isSpace = [] := List.dropWhile_append_of_pos hcs
    rw [List.append_nil] at hnone
    rw [tokensUpTo, hnone]

/-- A text is long enough to count its own tokens. -/
theorem Lexed.tokensUpTo {cs rest : List Char} {ts : List Token} (h : Lexed cs ts rest)
    (hrest : IsBlank rest) {fuel : Nat} (hfuel : cs.length ≤ fuel) :
    Json.tokensUpTo fuel cs = ts := by
  induction h generalizing fuel with
  | done => exact tokensUpTo_blank hrest fuel
  | @space c cs _ _ hc _ ih =>
    have hcs : cs.length ≤ fuel := Nat.le_trans (Nat.le_succ _) hfuel
    rw [tokensUpTo_space hc, ih hrest hcs]
  | @token c cs after _ t ts ht hshorter _ ih =>
    rw [List.length_cons] at hfuel
    cases fuel with
    | zero => omega
    | succ fuel =>
      -- a token is at least one character long, so the fuel never runs out before the text
      have hafter : after.length ≤ fuel := by omega
      rw [tokensUpTo_token ht, ih hrest hafter]

/-- The tokens of a text that stands alone. -/
def tokensOf (cs : List Char) : List Token := tokensUpTo cs.length cs

/-- The text is cut into these tokens wherever it stands. -/
def Cuts (cs : List Char) (ts : List Token) : Prop :=
  ∀ rest, Delimits rest → Lexed (cs ++ rest) ts rest

theorem Cuts.tokensOf {cs : List Char} {ts : List Token} (h : Cuts cs ts) :
    Json.tokensOf cs = ts := by
  have hlexed := h [] delimits_nil
  rw [List.append_nil] at hlexed
  exact hlexed.tokensUpTo isBlank_nil (Nat.le_refl _)

/-! ## What stands between values -/

theorem Lexed.blank {gap rest : List Char} (hgap : IsBlank gap) : Lexed (gap ++ rest) [] rest := by
  induction gap with
  | nil => exact .done rest
  | cons c gap ih =>
    obtain ⟨hc, hgap⟩ := List.forall_mem_cons.mp hgap
    exact .space hc (ih hgap)

/-- The six characters that are tokens of their own. -/
inductive IsMark : Char → Token → Prop
  | openBrace : IsMark '\x7b' .openBrace
  | closeBrace : IsMark '\x7d' .closeBrace
  | openBracket : IsMark '[' .openBracket
  | closeBracket : IsMark ']' .closeBracket
  | colon : IsMark ':' .colon
  | comma : IsMark ',' .comma

theorem Lexed.mark {c : Char} {t : Token} (h : IsMark c t) (rest : List Char) :
    Lexed (c :: rest) [t] rest := by
  have htoken : Json.token c rest = (t, some rest) := by cases h <;> rfl
  exact .token htoken (Nat.le_refl _) (.done rest)

theorem delimits_cons {c : Char} (hc : Decimal.isDigit c = false ∧ c ≠ '.' ∧ c ≠ 'e' ∧ c ≠ 'E')
    (rest : List Char) : Delimits (c :: rest) := by
  rintro d ⟨rfl⟩
  exact hc

/-- No number goes on with a mark. -/
theorem IsMark.delimits {c : Char} {t : Token} (h : IsMark c t) (rest : List Char) :
    Delimits (c :: rest) := by
  apply delimits_cons
  cases h <;> decide

theorem Delimits.blank {gap rest : List Char} (hgap : IsBlank gap) (hrest : Delimits rest) :
    Delimits (gap ++ rest) := by
  cases gap with
  | nil => exact hrest
  | cons c gap =>
    have hc := hgap c List.mem_cons_self
    apply delimits_cons
    rcases eq_of_isSpace hc with rfl | rfl | rfl | rfl <;> decide

theorem ItemText.cuts {v cs : List Char} {ts : List Token} (hcs : ItemText v cs)
    (hv : Cuts v ts) : Cuts cs ts := by
  obtain ⟨ha, hb⟩ := hcs
  intro rest hrest
  have hvalue := (hv _ (hrest.blank hb)).append (Lexed.blank hb)
  simpa using (Lexed.blank ha).append hvalue

/-- A member whose name is the token `name`. -/
theorem MemberText.cuts {spelled v cs : List Char} {name : Token} {ts : List Token}
    (hcs : MemberText spelled v cs)
    (hname : ∀ rest, token '"' (spelled ++ '"' :: rest) = (name, some rest)) (hv : Cuts v ts) :
    Cuts cs (name :: .colon :: ts) := by
  obtain ⟨ha, hb, hitem⟩ := hcs
  rename_i a b item
  intro rest hrest
  have hcolon := (Lexed.mark .colon _).append (hitem.cuts hv rest hrest)
  have hquoted : Lexed ('"' :: (spelled ++ '"' :: (b ++ ':' :: (item ++ rest))))
      (name :: .colon :: ts) rest := by
    refine .token (hname _) ?_ ((Lexed.blank hb).append hcolon)
    simp only [List.length_append, List.length_cons]
    omega
  simpa using (Lexed.blank ha).append hquoted

/-! ## The grammar of tokens -/

/-- A token that is a value of its own. -/
inductive ScalarToken : Token → Prop
  | word (w : Word) : ScalarToken (.word (.ok w))
  | number (read : Except Fault Number) : ScalarToken (.number read (.ok ()))
  | string (read : Except Fault String) : ScalarToken (.string read (.ok ()))

mutual

/-- The tokens of a value. -/
inductive ValueTokens : List Token → Prop
  | scalar {t : Token} (h : ScalarToken t) : ValueTokens [t]
  | emptyArray : ValueTokens [.openBracket, .closeBracket]
  | array {ts : List Token} (h : ItemTokens ts) :
      ValueTokens (.openBracket :: (ts ++ [.closeBracket]))
  | emptyObject : ValueTokens [.openBrace, .closeBrace]
  | object {ts : List Token} (h : MemberTokens ts) :
      ValueTokens (.openBrace :: (ts ++ [.closeBrace]))

/-- The tokens of the items of an array. -/
inductive ItemTokens : List Token → Prop
  | one {ts : List Token} (h : ValueTokens ts) : ItemTokens ts
  | more {ts us : List Token} (h : ValueTokens ts) (hrest : ItemTokens us) :
      ItemTokens (ts ++ .comma :: us)

/-- The tokens of the members of an object. -/
inductive MemberTokens : List Token → Prop
  | one {read : Except Fault String} {ts : List Token} (h : ValueTokens ts) :
      MemberTokens (.string read (.ok ()) :: .colon :: ts)
  | more {read : Except Fault String} {ts us : List Token} (h : ValueTokens ts)
      (hrest : MemberTokens us) :
      MemberTokens (.string read (.ok ()) :: .colon :: (ts ++ .comma :: us))

end

/-! ## From one grammar to the other -/

/-- A scalar is a token of its own. -/
theorem Cuts.scalar {cs : List Char} {t : Token}
    (h : ∀ rest, Delimits rest → ∃ c more, cs = c :: more ∧
      token c (more ++ rest) = (t, some rest)) : Cuts cs [t] := by
  intro rest hrest
  obtain ⟨c, more, rfl, ht⟩ := h rest hrest
  exact .token ht (by simp) (.done rest)

/-- Brackets around something. -/
theorem Cuts.between {opening closing : Char} {s e : Token} {cs : List Char} {ts : List Token}
    (hopening : IsMark opening s) (hclosing : IsMark closing e)
    (h : ∀ rest, Lexed (cs ++ closing :: rest) ts (closing :: rest)) :
    Cuts (opening :: (cs ++ [closing])) (s :: (ts ++ [e])) := by
  intro rest _
  have hinner := (h rest).append (Lexed.mark hclosing rest)
  simpa using (Lexed.mark hopening _).append hinner

/-- Brackets around what is cut into tokens itself. -/
theorem Cuts.inside {opening closing : Char} {s e : Token} {cs : List Char} {ts : List Token}
    (h : Cuts cs ts) (hopening : IsMark opening s) (hclosing : IsMark closing e) :
    Cuts (opening :: (cs ++ [closing])) (s :: (ts ++ [e])) := by
  apply Cuts.between hopening hclosing
  intro rest
  exact h _ (hclosing.delimits rest)

/-- A comma between two parts. -/
theorem Cuts.comma {cs rest : List Char} {ts us : List Token} (hcs : Cuts cs ts)
    (hrest : Cuts rest us) : Cuts (cs ++ ',' :: rest) (ts ++ .comma :: us) := by
  intro after hafter
  have hcomma := (Lexed.mark .comma _).append (hrest after hafter)
  simpa using (hcs _ (IsMark.comma.delimits _)).append hcomma

theorem IsNumber.cuts {cs : List Char} (h : IsNumber cs) :
    ∃ read, Cuts cs [.number read (.ok ())] := by
  obtain ⟨c, more, read, rfl, htoken⟩ := h.token
  exact ⟨read, .scalar fun rest hrest => ⟨c, more, rfl, htoken rest hrest⟩⟩

/-- What is known of the token of a string from the characters between its quotes. -/
theorem Cuts.quoted {cs : List Char} {t : Token}
    (h : ∀ rest, token '"' (cs ++ '"' :: rest) = (t, some rest)) :
    Cuts ('"' :: (cs ++ ['"'])) [t] :=
  .scalar fun rest _ => ⟨'"', cs ++ ['"'], rfl, by simpa using h rest⟩

mutual

-- the recursion follows the three kinds of the grammar of characters, one case for each rule
/-- A value is cut into the tokens of a value. -/
theorem IsValue.cuts {cs : List Char} : IsValue cs → ∃ ts, ValueTokens ts ∧ Cuts cs ts
  | .nullWord => ⟨_, .scalar (.word .null), .scalar fun _ _ => ⟨_, _, rfl, rfl⟩⟩
  | .trueWord => ⟨_, .scalar (.word .true), .scalar fun _ _ => ⟨_, _, rfl, rfl⟩⟩
  | .falseWord => ⟨_, .scalar (.word .false), .scalar fun _ _ => ⟨_, _, rfl, rfl⟩⟩
  | .number h => by
    obtain ⟨read, hcuts⟩ := h.cuts
    exact ⟨_, .scalar (.number read), hcuts⟩
  | .string h => by
    obtain ⟨read, htoken⟩ := h.token
    exact ⟨_, .scalar (.string read), .quoted htoken⟩
  | .emptyArray hgap =>
    ⟨_, .emptyArray, .between .openBracket .closeBracket fun _ => .blank hgap⟩
  | .array h => by
    obtain ⟨ts, hts, hcuts⟩ := h.cuts
    exact ⟨_, .array hts, hcuts.inside .openBracket .closeBracket⟩
  | .emptyObject hgap =>
    ⟨_, .emptyObject, .between .openBrace .closeBrace fun _ => .blank hgap⟩
  | .object h => by
    obtain ⟨ts, hts, hcuts⟩ := h.cuts
    exact ⟨_, .object hts, hcuts.inside .openBrace .closeBrace⟩

theorem IsItems.cuts {cs : List Char} : IsItems cs → ∃ ts, ItemTokens ts ∧ Cuts cs ts
  | .one hcs hv => by
    obtain ⟨ts, hts, hcuts⟩ := hv.cuts
    exact ⟨ts, .one hts, hcs.cuts hcuts⟩
  | .more hcs hv hrest => by
    obtain ⟨ts, hts, hcuts⟩ := hv.cuts
    obtain ⟨us, hus, hmore⟩ := hrest.cuts
    exact ⟨_, .more hts hus, (hcs.cuts hcuts).comma hmore⟩

theorem IsMembers.cuts {cs : List Char} : IsMembers cs → ∃ ts, MemberTokens ts ∧ Cuts cs ts
  | .one hcs hname hv => by
    obtain ⟨ts, hts, hcuts⟩ := hv.cuts
    obtain ⟨read, htoken⟩ := hname.token
    exact ⟨_, .one hts, hcs.cuts htoken hcuts⟩
  | .more hcs hname hv hrest => by
    obtain ⟨ts, hts, hcuts⟩ := hv.cuts
    obtain ⟨us, hus, hmore⟩ := hrest.cuts
    obtain ⟨read, htoken⟩ := hname.token
    exact ⟨_, .more hts hus, (hcs.cuts htoken hcuts).comma hmore⟩

end

/-! ## Objects -/

/-- The tokens of the members of an object that has some, by their names and the tokens of their
values. -/
inductive NamedTokens : List (String × List Token) → List Token → Prop
  | one {name : String} {ts : List Token} (h : ValueTokens ts) :
      NamedTokens [(name, ts)] (.string (.ok name) (.ok ()) :: .colon :: ts)
  | more {name : String} {ts us : List Token} {ns : List (String × List Token)}
      (h : ValueTokens ts) (hrest : NamedTokens ns us) :
      NamedTokens ((name, ts) :: ns)
        (.string (.ok name) (.ok ()) :: .colon :: (ts ++ .comma :: us))

/-- The tokens of an object, by the names of its members and the tokens of their values. -/
inductive ObjectTokens : List (String × List Token) → List Token → Prop
  | empty : ObjectTokens [] [.openBrace, .closeBrace]
  | members {ns : List (String × List Token)} {ts : List Token} (h : NamedTokens ns ts) :
      ObjectTokens ns (.openBrace :: (ts ++ [.closeBrace]))

/-- Members with the tokens of their values. -/
def valueTokens (ms : List (String × List Char)) : List (String × List Token) :=
  ms.map fun m => (m.1, tokensOf m.2)

theorem IsValue.tokens {cs : List Char} (h : IsValue cs) :
    ValueTokens (tokensOf cs) ∧ Cuts cs (tokensOf cs) := by
  obtain ⟨ts, hts, hcuts⟩ := h.cuts
  rw [hcuts.tokensOf]
  exact ⟨hts, hcuts⟩

theorem MembersText.cuts {ms : List (String × List Char)} {cs : List Char}
    (h : MembersText ms cs) : ∃ ts, NamedTokens (valueTokens ms) ts ∧ Cuts cs ts := by
  induction h with
  | one hcs hname hv =>
    obtain ⟨hts, hcuts⟩ := hv.tokens
    exact ⟨_, .one hts, hcs.cuts hname.token hcuts⟩
  | more hcs hname hv _ ih =>
    obtain ⟨hts, hcuts⟩ := hv.tokens
    obtain ⟨us, hus, hmore⟩ := ih
    exact ⟨_, .more hts hus, (hcs.cuts hname.token hcuts).comma hmore⟩

/-- An object is cut into the tokens of an object with the same members. -/
theorem ObjectText.tokens {ms : List (String × List Char)} {cs : List Char}
    (h : ObjectText ms cs) : ObjectTokens (valueTokens ms) (tokensOf cs) := by
  have hbraces {before inner after : List Char} {ts : List Token} (hbefore : IsBlank before)
      (hafter : IsBlank after)
      (hinner : Lexed (inner ++ '\x7d' :: after) ts ('\x7d' :: after)) :
      tokensOf (before ++ '\x7b' :: (inner ++ '\x7d' :: after)) =
        .openBrace :: (ts ++ [.closeBrace]) := by
    have hclosed := hinner.append (Lexed.mark .closeBrace after)
    have hopened := (Lexed.mark .openBrace _).append hclosed
    exact ((Lexed.blank hbefore).append hopened).tokensUpTo hafter (Nat.le_refl _)
  cases h with
  | empty hbefore hgap hafter =>
    rw [hbraces hbefore hafter (.blank hgap)]
    exact .empty
  | members hbefore hcs hafter =>
    obtain ⟨ts, hts, hcuts⟩ := hcs.cuts
    rw [hbraces hbefore hafter (hcuts _ (IsMark.closeBrace.delimits _))]
    exact .members hts

theorem tokens_eq (text : String) : tokens text = tokensOf text.toList := by
  rw [tokens, tokensOf, String.length_toList]

end SerialLine.Json
