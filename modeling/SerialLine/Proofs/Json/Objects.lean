import SerialLine.Proofs.Json.Tokens
import SerialLine.Json.Decoder

/-!
# SerialLine.Proofs.Json.Objects — what reading an object does with its members

A member of an unknown name is skipped whatever its value is (`ValueTokens.skipped`). The value
of a known one is either refused or makes an update, independently of what was read before
(`ValueTokens.yields`). From the two: `decode_object` follows the record through the members of
an object in any order, and `decode_repeated` refuses an object that has a known member twice.
-/

namespace SerialLine.Json

variable {σ : Type} (fields : List (FieldReader σ))

/-! ## Reading token after token -/

/-- Reads a list of tokens. -/
def reads (ts : List Token) (r : Reading σ) : Except Fault (Reading σ) :=
  ts.foldlM (step fields) r

theorem reads_append (ts us : List Token) (r : Reading σ) :
    reads fields (ts ++ us) r = reads fields ts r >>= reads fields us :=
  List.foldlM_append

variable {fields}

theorem reads_cons {t : Token} {r r' : Reading σ} (h : step fields r t = .ok r')
    (ts : List Token) : reads fields (t :: ts) r = reads fields ts r' := by
  rw [reads, List.foldlM_cons, h]
  rfl

theorem reads_stuck {t : Token} {r : Reading σ} {f : Fault} (h : step fields r t = .error f)
    (ts : List Token) : reads fields (t :: ts) r = .error f := by
  rw [reads, List.foldlM_cons, h]
  rfl

theorem reads_then {ts : List Token} {r r' : Reading σ} (h : reads fields ts r = .ok r')
    (us : List Token) : reads fields (ts ++ us) r = reads fields us r' := by
  rw [reads_append, h]
  rfl

theorem reads_refused {ts : List Token} {r : Reading σ} {f : Fault}
    (h : reads fields ts r = .error f) (us : List Token) :
    reads fields (ts ++ us) r = .error f := by
  rw [reads_append, h]
  rfl

/-- The same reading at another point. -/
def Reading.at (r : Reading σ) (mode : Mode σ) : Reading σ := { r with mode }

theorem afterSkipped_at (r : Reading σ) (mode : Mode σ) (frames : List Frame) :
    afterSkipped (r.at mode) frames = afterSkipped r frames := by
  cases frames <;> rfl

/-! ## Skipping a value -/

/-- Where a value may start that is skipped. -/
def Skipping.StartsValue (what : Skipping) : Prop := what = .value ∨ what = .firstItem

/-- Where a name may start that is skipped. -/
def Skipping.StartsName (what : Skipping) : Prop := what = .key ∨ what = .firstKey

section

variable {what : Skipping} (hwhat : what.StartsValue) (frames : List Frame) (r : Reading σ)
include hwhat

/-- A scalar is skipped at once. -/
theorem step_scalar {t : Token} (ht : ScalarToken t) :
    step fields (r.at (.skipping what frames)) t = .ok (afterSkipped r frames) := by
  rw [← afterSkipped_at r (.skipping what frames)]
  rcases hwhat with rfl | rfl <;> cases ht <;> rfl

theorem step_openBracket : step fields (r.at (.skipping what frames)) .openBracket =
    .ok (r.at (.skipping .firstItem (.inArray :: frames))) := by
  rcases hwhat with rfl | rfl <;> rfl

theorem step_openBrace : step fields (r.at (.skipping what frames)) .openBrace =
    .ok (r.at (.skipping .firstKey (.inObject :: frames))) := by
  rcases hwhat with rfl | rfl <;> rfl

end

section

variable (frames : List Frame) (r : Reading σ)

/-- An array ends after an item, or before it has one. -/
theorem step_closeBracket {what : Skipping} (hwhat : what = .afterValue ∨ what = .firstItem) :
    step fields (r.at (.skipping what (.inArray :: frames))) .closeBracket =
      .ok (afterSkipped r frames) := by
  rw [← afterSkipped_at r (.skipping what (.inArray :: frames))]
  rcases hwhat with rfl | rfl <;> rfl

/-- An object ends after a member, or before it has one. -/
theorem step_closeBrace {what : Skipping} (hwhat : what = .afterValue ∨ what = .firstKey) :
    step fields (r.at (.skipping what (.inObject :: frames))) .closeBrace =
      .ok (afterSkipped r frames) := by
  rw [← afterSkipped_at r (.skipping what (.inObject :: frames))]
  rcases hwhat with rfl | rfl <;> rfl

theorem reads_name {what : Skipping} (hwhat : what.StartsName) (read : Except Fault String)
    (ts : List Token) :
    reads fields (.string read (.ok ()) :: .colon :: ts) (r.at (.skipping what frames)) =
      reads fields ts (r.at (.skipping .value frames)) := by
  have hname : step fields (r.at (.skipping what frames)) (.string read (.ok ())) =
      .ok (r.at (.skipping .colon frames)) := by
    rcases hwhat with rfl | rfl <;> rfl
  have hcolon : step fields (r.at (.skipping .colon frames)) .colon =
      .ok (r.at (.skipping .value frames)) := rfl
  rw [reads_cons hname, reads_cons hcolon]

end

mutual

/-- A value is skipped as a whole, inside of any brackets. -/
theorem ValueTokens.skipped {ts : List Token} : ValueTokens ts → ∀ (what : Skipping)
    (frames : List Frame) (r : Reading σ), what.StartsValue →
    reads fields ts (r.at (.skipping what frames)) = .ok (afterSkipped r frames)
  | .scalar h, what, frames, r, hwhat => reads_cons (step_scalar hwhat frames r h) []
  | .emptyArray, what, frames, r, hwhat => by
    rw [reads_cons (step_openBracket hwhat frames r)]
    exact reads_cons (step_closeBracket frames r (.inr rfl)) []
  | .array h, what, frames, r, hwhat => by
    -- the items leave the bracket that they are inside of on top of the others
    have hitems := h.skipped .firstItem frames r (.inr rfl)
    rw [reads_cons (step_openBracket hwhat frames r), reads_then hitems]
    exact reads_cons (step_closeBracket frames r (.inl rfl)) []
  | .emptyObject, what, frames, r, hwhat => by
    rw [reads_cons (step_openBrace hwhat frames r)]
    exact reads_cons (step_closeBrace frames r (.inr rfl)) []
  | .object h, what, frames, r, hwhat => by
    have hmembers := h.skipped .firstKey frames r (.inr rfl)
    rw [reads_cons (step_openBrace hwhat frames r), reads_then hmembers]
    exact reads_cons (step_closeBrace frames r (.inl rfl)) []

theorem ItemTokens.skipped {ts : List Token} : ItemTokens ts → ∀ (what : Skipping)
    (frames : List Frame) (r : Reading σ), what.StartsValue →
    reads fields ts (r.at (.skipping what (.inArray :: frames))) =
      .ok (r.at (.skipping .afterValue (.inArray :: frames)))
  | .one h, what, frames, r, hwhat => h.skipped what (.inArray :: frames) r hwhat
  | .more h hrest, what, frames, r, hwhat => by
    have hvalue := h.skipped what (.inArray :: frames) r hwhat
    have hcomma : step fields (afterSkipped r (.inArray :: frames)) .comma =
        .ok (r.at (.skipping .value (.inArray :: frames))) := rfl
    rw [reads_then hvalue, reads_cons hcomma]
    exact hrest.skipped .value frames r (.inl rfl)

theorem MemberTokens.skipped {ts : List Token} : MemberTokens ts → ∀ (what : Skipping)
    (frames : List Frame) (r : Reading σ), what.StartsName →
    reads fields ts (r.at (.skipping what (.inObject :: frames))) =
      .ok (r.at (.skipping .afterValue (.inObject :: frames)))
  | .one h, what, frames, r, hwhat => by
    rw [reads_name _ r hwhat]
    exact h.skipped .value (.inObject :: frames) r (.inl rfl)
  | .more h hrest, what, frames, r, hwhat => by
    have hvalue := h.skipped .value (.inObject :: frames) r (.inl rfl)
    have hcomma : step fields (afterSkipped r (.inObject :: frames)) .comma =
        .ok (r.at (.skipping .key (.inObject :: frames))) := rfl
    rw [reads_name _ r hwhat, reads_then hvalue, reads_cons hcomma]
    exact hrest.skipped .key frames r (.inl rfl)

end

/-! ## Reading the value of a field -/

/-- The reading after a member that updates the record. -/
def Reading.updated (r : Reading σ) (update : σ → σ) : Reading σ :=
  { r with mode := .afterMember, record := update r.record }

/-- What the tokens `ts` do from a point inside the value of a member, whatever was read before:
they are refused, or they end the member with an update of the record. -/
def Mode.Yields (fields : List (FieldReader σ)) (mode : Mode σ) (ts : List Token)
    (result : Except Fault (σ → σ)) : Prop :=
  ∀ r : Reading σ, reads fields ts (r.at mode) = result.map r.updated

section

variable {mode mode' : Mode σ} {t : Token}

theorem yields_refused {f : Fault} (h : ∀ r : Reading σ, step fields (r.at mode) t = .error f)
    (ts : List Token) : mode.Yields fields (t :: ts) (.error f) :=
  fun r => reads_stuck (h r) ts

theorem yields_last {update : σ → σ}
    (h : ∀ r : Reading σ, step fields (r.at mode) t = .ok (r.updated update)) :
    mode.Yields fields [t] (.ok update) :=
  fun r => reads_cons (h r) []

theorem yields_next (h : ∀ r : Reading σ, step fields (r.at mode) t = .ok (r.at mode'))
    {ts : List Token} {result : Except Fault (σ → σ)} (hrest : mode'.Yields fields ts result) :
    mode.Yields fields (t :: ts) result :=
  fun r => (reads_cons (h r) ts).trans (hrest r)

end

/-- The value of a choice that is written as an object is `null`. -/
theorem ValueTokens.choiceNull {ts rest : List Token} (h : ValueTokens ts) {update : σ → σ}
    (hrest : ∃ result, (Mode.choiceClose .member update).Yields fields rest result) :
    ∃ result, (Mode.choiceNull .member update).Yields fields (ts ++ rest) result := by
  cases h with
  | scalar ht =>
    rcases ht with ⟨⟨⟩⟩ | read | read
    · obtain ⟨result, hresult⟩ := hrest
      exact ⟨result, yields_next (fun _ => rfl) hresult⟩
    -- every other value is refused at its first token
    all_goals exact ⟨_, yields_refused (fun _ => rfl) rest⟩
  | _ => exact ⟨_, yields_refused (fun _ => rfl) _⟩

/-- The name in a choice that is written as an object is one of its words. -/
theorem choiceKey_yields (set? : String → Option (σ → σ)) (read : Except Fault String)
    {ts : List Token}
    (h : ∀ update, ∃ result, (Mode.choiceNull .member update).Yields fields ts result) :
    ∃ result, (Mode.choiceKey .member set?).Yields fields
      (.string read (.ok ()) :: .colon :: ts) result := by
  cases read with
  | error f => exact ⟨.error f, yields_refused (fun _ => rfl) _⟩
  | ok word =>
    cases hword : set? word with
    | none =>
      refine ⟨.error .mismatch, yields_refused (fun r => ?_) _⟩
      simp [step, Reading.at, hword]
    | some update =>
      obtain ⟨result, hresult⟩ := h update
      have hcolon : (Mode.choiceColon .member update).Yields fields (.colon :: ts) result :=
        yields_next (fun _ => rfl) hresult
      refine ⟨result, yields_next (fun r => ?_) hcolon⟩
      simp [step, Reading.at, hword]

/-- A choice that is written as an object has one member. -/
theorem MemberTokens.choice {ts : List Token} (h : MemberTokens ts)
    (set? : String → Option (σ → σ)) :
    ∃ result, (Mode.choiceKey .member set?).Yields fields (ts ++ [.closeBrace]) result := by
  cases h with
  | one hvalue =>
    refine choiceKey_yields set? _ fun update => ?_
    exact hvalue.choiceNull ⟨_, yields_last fun _ => rfl⟩
  | @more _ ts us hvalue =>
    -- a second member is refused at the comma
    simp only [List.cons_append, List.append_assoc]
    refine choiceKey_yields set? _ fun update => ?_
    exact hvalue.choiceNull ⟨_, yields_refused (fun _ => rfl) (us ++ [.closeBrace])⟩

/-- A scalar decides the value of a field at once. -/
theorem scalar_yields (field : FieldReader σ) {t : Token} (ht : ScalarToken t) :
    ∃ result, (Mode.value .member field).Yields fields [t] result := by
  obtain ⟨name, kind, required⟩ := field
  cases kind with
  | flag set =>
    rcases ht with ⟨⟨⟩⟩ | read | read
    case word.true => exact ⟨.ok (set true), yields_last fun _ => rfl⟩
    case word.false => exact ⟨.ok (set false), yields_last fun _ => rfl⟩
    all_goals exact ⟨_, yields_refused (fun _ => rfl) []⟩
  | natural bound set =>
    rcases ht with w | ⟨f | ⟨n | n | _⟩⟩ | read
    case number.ok.natural =>
      by_cases hn : n ≤ bound
      · refine ⟨.ok (set n), yields_last fun r => ?_⟩
        simp [step, Reading.at, Reading.updated, readValue, hn, Place.next]
      · refine ⟨.error .mismatch, yields_refused (fun r => ?_) []⟩
        simp [step, Reading.at, readValue, hn]
    all_goals exact ⟨_, yields_refused (fun _ => rfl) []⟩
  | choice set? =>
    rcases ht with w | read | ⟨f | word⟩
    case string.ok =>
      cases hword : set? word with
      | none =>
        refine ⟨.error .mismatch, yields_refused (fun r => ?_) []⟩
        simp [step, Reading.at, readValue, hword]
      | some update =>
        refine ⟨.ok update, yields_last fun r => ?_⟩
        simp [step, Reading.at, Reading.updated, readValue, hword, Place.next]
    all_goals exact ⟨_, yields_refused (fun _ => rfl) []⟩

/-- No field is an array. -/
theorem openBracket_yields (field : FieldReader σ) (ts : List Token) :
    ∃ result, (Mode.value .member field).Yields fields (.openBracket :: ts) result := by
  obtain ⟨name, kind, required⟩ := field
  cases kind with
  | _ => exact ⟨_, yields_refused (fun _ => rfl) ts⟩

/-- Only a choice may be written as an object. -/
theorem openBrace_yields (field : FieldReader σ) {ts : List Token}
    (h : ∀ set?, ∃ result, (Mode.choiceKey .member set?).Yields fields ts result) :
    ∃ result, (Mode.value .member field).Yields fields (.openBrace :: ts) result := by
  obtain ⟨name, kind, required⟩ := field
  cases kind with
  | choice set? =>
    obtain ⟨result, hresult⟩ := h set?
    exact ⟨result, yields_next (fun _ => rfl) hresult⟩
  | _ => exact ⟨_, yields_refused (fun _ => rfl) ts⟩

/-- The value of a field is refused or makes an update, whatever was read before. -/
theorem ValueTokens.yields {ts : List Token} (h : ValueTokens ts)
    (fields : List (FieldReader σ)) (field : FieldReader σ) :
    ∃ result, (Mode.value .member field).Yields fields ts result := by
  cases h with
  | scalar ht => exact scalar_yields field ht
  | emptyArray => exact openBracket_yields field _
  | array => exact openBracket_yields field _
  | emptyObject => exact openBrace_yields field fun _ => ⟨_, yields_refused (fun _ => rfl) []⟩
  | object h => exact openBrace_yields field fun set? => h.choice set?

/-! ## Reading the members of an object -/

/-- The names among the members that are those of fields. -/
def knownNames (fields : List (FieldReader σ)) {α : Type} (ms : List (String × α)) :
    List String :=
  (ms.map (·.1)).filter fun name => fields.any (·.name == name)

/-- Where the name of a member may start. -/
def Mode.StartsMember (mode : Mode σ) : Prop := mode = .key ∨ mode = .firstKey

section

variable {mode : Mode σ} (hmode : mode.StartsMember) {name : String} {seen : List String}
  (record : σ)
include hmode

/-- A member of an unknown name leaves no trace. -/
theorem reads_unknown (hname : fields.find? (·.name == name) = none) {ts : List Token}
    (hts : ValueTokens ts) :
    reads fields (.string (.ok name) (.ok ()) :: .colon :: ts) ⟨mode, seen, record⟩ =
      .ok ⟨.afterMember, seen, record⟩ := by
  have hkey : step fields ⟨mode, seen, record⟩ (.string (.ok name) (.ok ())) =
      .ok ⟨.colon none, seen, record⟩ := by
    rcases hmode with rfl | rfl <;> simp [step, readKey, hname]
  have hcolon : step fields ⟨.colon none, seen, record⟩ .colon =
      .ok ⟨.skipping .value [], seen, record⟩ := rfl
  rw [reads_cons hkey, reads_cons hcolon]
  exact hts.skipped .value [] ⟨.start, seen, record⟩ (.inl rfl)

/-- A known name is refused the second time. -/
theorem reads_repeated {field : FieldReader σ} (hname : fields.find? (·.name == name) = some field)
    (hseen : name ∈ seen) (ts : List Token) :
    reads fields (.string (.ok name) (.ok ()) :: ts) ⟨mode, seen, record⟩ = .error .mismatch := by
  refine reads_stuck ?_ ts
  rcases hmode with rfl | rfl <;> simp [step, readKey, hname, hseen]

/-- A known name is noted the first time, and its value read. -/
theorem reads_known {field : FieldReader σ} (hname : fields.find? (·.name == name) = some field)
    (hseen : name ∉ seen) {ts : List Token} {result : Except Fault (σ → σ)}
    (hresult : (Mode.value .member field).Yields fields ts result) :
    reads fields (.string (.ok name) (.ok ()) :: .colon :: ts) ⟨mode, seen, record⟩ =
      result.map fun update => ⟨.afterMember, name :: seen, update record⟩ := by
  have hkey : step fields ⟨mode, seen, record⟩ (.string (.ok name) (.ok ())) =
      .ok ⟨.colon (some field), name :: seen, record⟩ := by
    rcases hmode with rfl | rfl <;> simp [step, readKey, hname, hseen]
  have hcolon : step fields ⟨.colon (some field), name :: seen, record⟩ .colon =
      .ok ⟨.value .member field, name :: seen, record⟩ := rfl
  rw [reads_cons hkey, reads_cons hcolon]
  exact hresult ⟨.start, name :: seen, record⟩

end

theorem knownNames_cons {α : Type} (m : String × α) (ms : List (String × α)) :
    knownNames fields (m :: ms) = knownNames fields [m] ++ knownNames fields ms := by
  simp [knownNames, List.filter_cons]
  split <;> rfl

/-- A name is unknown, or that of a field. -/
theorem knownNames_single (fields : List (FieldReader σ)) {α : Type} (name : String) (v : α) :
    (fields.find? (·.name == name) = none ∧ knownNames fields [(name, v)] = []) ∨
      ∃ field ∈ fields, field.name = name ∧ fields.find? (·.name == name) = some field ∧
        knownNames fields [(name, v)] = [name] := by
  cases hfound : fields.find? (·.name == name) with
  | none =>
    have hany : fields.any (·.name == name) = false := by simpa using hfound
    exact .inl ⟨rfl, by simp [knownNames, hany]⟩
  | some field =>
    have hmem := List.mem_of_find?_eq_some hfound
    have hname := List.find?_some hfound
    have hany : fields.any (·.name == name) = true := List.any_eq_true.mpr ⟨field, hmem, hname⟩
    exact .inr ⟨field, hmem, eq_of_beq hname, rfl, by simp [knownNames, hany]⟩

/-- Every value of a known member is read, and takes the record on to the view with its name. -/
def Follows (fields : List (FieldReader σ)) (view : List String → σ)
    (ns : List (String × List Token)) : Prop :=
  ∀ n ∈ ns, ∀ field ∈ fields, field.name = n.1 →
    ∃ update, (Mode.value .member field).Yields fields n.2 (.ok update) ∧
      ∀ seen, update (view seen) = view (n.1 :: seen)

section

variable {view : List String → σ} {name : String} {ts : List Token} {mode : Mode σ}
  {seen : List String}

/-- One member of the run below. -/
theorem reads_member (hts : ValueTokens ts) (hview : Follows fields view [(name, ts)])
    (hmode : mode.StartsMember)
    (hseen : (knownNames fields [(name, ts)] ++ seen).Nodup) :
    reads fields (.string (.ok name) (.ok ()) :: .colon :: ts) ⟨mode, seen, view seen⟩ =
      .ok ⟨.afterMember, knownNames fields [(name, ts)] ++ seen,
        view (knownNames fields [(name, ts)] ++ seen)⟩ := by
  rcases knownNames_single fields name ts with
    ⟨hnone, hknown⟩ | ⟨field, hmem, hname, hsome, hknown⟩
  · rw [hknown]
    exact reads_unknown hmode _ hnone hts
  · obtain ⟨update, hyields, hupdate⟩ := hview _ List.mem_cons_self field hmem hname
    rw [hknown] at hseen ⊢
    have hfresh : name ∉ seen := (List.nodup_cons.mp hseen).1
    rw [reads_known hmode _ hsome hfresh hyields]
    simp [Except.map, hupdate]

/-- One member of any value: it stops the reading, or its name was not seen before. -/
theorem reads_member_or (hts : ValueTokens ts) (hmode : mode.StartsMember) (hnodup : seen.Nodup)
    (record : σ) :
    (∃ f, reads fields (.string (.ok name) (.ok ()) :: .colon :: ts) ⟨mode, seen, record⟩ =
      .error f) ∨
    (knownNames fields [(name, ts)] ++ seen).Nodup ∧ ∃ record',
      reads fields (.string (.ok name) (.ok ()) :: .colon :: ts) ⟨mode, seen, record⟩ =
        .ok ⟨.afterMember, knownNames fields [(name, ts)] ++ seen, record'⟩ := by
  rcases knownNames_single fields name ts with
    ⟨hnone, hknown⟩ | ⟨field, -, -, hsome, hknown⟩
  · rw [hknown]
    exact .inr ⟨hnodup, record, reads_unknown hmode record hnone hts⟩
  · by_cases hseen : name ∈ seen
    · exact .inl ⟨_, reads_repeated hmode record hsome hseen _⟩
    · obtain ⟨result, hresult⟩ := hts.yields fields field
      have hread := reads_known hmode record hsome hseen hresult
      rw [hknown]
      cases result with
      | error f => exact .inl ⟨f, hread⟩
      | ok update => exact .inr ⟨List.nodup_cons.mpr ⟨hseen, hnodup⟩, _, hread⟩

theorem reverse_knownNames_cons (ns : List (String × List Token)) :
    (knownNames fields ((name, ts) :: ns)).reverse ++ seen =
      (knownNames fields ns).reverse ++ (knownNames fields [(name, ts)] ++ seen) := by
  rw [knownNames_cons, List.reverse_append, List.append_assoc]
  rcases knownNames_single fields name ts with ⟨-, hknown⟩ | ⟨_, -, -, -, hknown⟩ <;>
    simp [hknown]

/-- The record follows the view through all members, in the order of the text. -/
theorem NamedTokens.followed {ns : List (String × List Token)} (h : NamedTokens ns ts)
    (hview : Follows fields view ns) (hmode : mode.StartsMember)
    (hseen : ((knownNames fields ns).reverse ++ seen).Nodup) :
    reads fields ts ⟨mode, seen, view seen⟩ =
      .ok ⟨.afterMember, (knownNames fields ns).reverse ++ seen,
        view ((knownNames fields ns).reverse ++ seen)⟩ := by
  induction h generalizing mode seen with
  | one hts =>
    rw [reverse_knownNames_cons] at hseen ⊢
    exact reads_member hts hview hmode hseen
  | @more name ts us ns hts _ ih =>
    rw [reverse_knownNames_cons] at hseen ⊢
    have hfirst : Follows fields view [(name, ts)] := fun n hn =>
      hview n (List.mem_cons.mpr (.inl (List.mem_singleton.mp hn)))
    have hmember := reads_member hts hfirst hmode (List.nodup_append.mp hseen).2.1
    have hcomma : step fields ⟨.afterMember, knownNames fields [(name, ts)] ++ seen,
        view (knownNames fields [(name, ts)] ++ seen)⟩ .comma =
      .ok ⟨.key, knownNames fields [(name, ts)] ++ seen,
        view (knownNames fields [(name, ts)] ++ seen)⟩ := rfl
    rw [← List.cons_append, ← List.cons_append, reads_then hmember, reads_cons hcomma]
    exact ih (fun n hn => hview n (List.mem_cons_of_mem _ hn)) (.inl rfl) hseen

/-- A name that is known twice stops the reading. -/
theorem NamedTokens.refused {ns : List (String × List Token)} (h : NamedTokens ns ts)
    (hmode : mode.StartsMember) (record : σ) (hnodup : seen.Nodup)
    (hseen : ¬((knownNames fields ns).reverse ++ seen).Nodup) :
    ∃ f, reads fields ts ⟨mode, seen, record⟩ = .error f := by
  induction h generalizing mode seen record with
  | @one name ts hts =>
    rw [reverse_knownNames_cons] at hseen
    rcases reads_member_or hts hmode hnodup record with hstuck | ⟨hfresh, -⟩
    · exact hstuck
    · exact absurd hfresh hseen
  | @more name ts us ns hts _ ih =>
    rw [reverse_knownNames_cons] at hseen
    rw [← List.cons_append, ← List.cons_append]
    rcases reads_member_or hts hmode hnodup record with ⟨f, hf⟩ | ⟨hfresh, record', hmember⟩
    · exact ⟨f, reads_refused hf _⟩
    · have hcomma : step fields ⟨.afterMember, knownNames fields [(name, ts)] ++ seen, record'⟩
          .comma = .ok ⟨.key, knownNames fields [(name, ts)] ++ seen, record'⟩ := rfl
      rw [reads_then hmember, reads_cons hcomma]
      exact ih (.inl rfl) record' hfresh hseen

end

/-! ## Decoding an object -/

theorem decode_eq (fields : List (FieldReader σ)) (initial : σ) (text : String) :
    decode fields initial text =
      reads fields (tokensOf text.toList) ⟨.start, [], initial⟩ >>= Reading.atEnd := by
  rw [decode, tokens_eq]
  rfl

theorem knownNames_valueTokens (ms : List (String × List Char)) :
    knownNames fields (valueTokens ms) = knownNames fields ms := by
  simp [knownNames, valueTokens, Function.comp_def]

/-- An object without a required field is finished at its closing brace. -/
theorem finishObject_optional (hoptional : ∀ field ∈ fields, field.required = false)
    (r : Reading σ) : finishObject fields r = .ok (r.at .finished) := by
  have hall : fields.all (fun f => !f.required || r.seen.contains f.name) = true := by
    simpa [List.all_eq_true] using fun field hfield => .inl (hoptional field hfield)
  exact if_pos hall

theorem reads_opened (ts : List Token) (initial : σ) :
    reads fields (.openBrace :: ts) ⟨.start, [], initial⟩ =
      reads fields ts ⟨.firstKey, [], initial⟩ :=
  reads_cons rfl ts

theorem reads_closed (hoptional : ∀ field ∈ fields, field.required = false)
    {mode : Mode σ} (hmode : mode = .firstKey ∨ mode = .afterMember) (seen : List String)
    (record : σ) :
    reads fields [.closeBrace] ⟨mode, seen, record⟩ >>= Reading.atEnd = .ok record := by
  have hclosed : step fields ⟨mode, seen, record⟩ .closeBrace =
      .ok ⟨.finished, seen, record⟩ := by
    rcases hmode with rfl | rfl <;> exact finishObject_optional hoptional _
  rw [reads_cons hclosed]
  rfl

/-- An object whose fields may all be missing is read as the view of the names that are there. -/
theorem decode_object (hoptional : ∀ field ∈ fields, field.required = false)
    {view : List String → σ} {ms : List (String × List Char)} {text : String}
    (htext : ObjectText ms text.toList) (hview : Follows fields view (valueTokens ms))
    (hnodup : (knownNames fields ms).Nodup) :
    decode fields (view []) text = .ok (view (knownNames fields ms).reverse) := by
  have htokens := htext.tokens
  rw [← knownNames_valueTokens] at hnodup ⊢
  rw [decode_eq]
  generalize valueTokens ms = ns at hview hnodup htokens ⊢
  generalize tokensOf text.toList = ts at htokens ⊢
  cases htokens with
  | empty =>
    rw [reads_opened]
    exact reads_closed hoptional (.inl rfl) [] (view [])
  | members h =>
    have hfresh : ((knownNames fields ns).reverse ++ []).Nodup := by
      rwa [List.append_nil, (List.reverse_perm _).nodup_iff]
    have hmembers := h.followed hview (.inr rfl) hfresh
    rw [reads_opened, reads_then hmembers, List.append_nil]
    exact reads_closed hoptional (.inr rfl) _ _

/-- An object that has a known name twice is refused, whatever the values are. -/
theorem decode_repeated (fields : List (FieldReader σ)) (initial : σ)
    {ms : List (String × List Char)} {text : String} (htext : ObjectText ms text.toList)
    (hrepeated : ¬(knownNames fields ms).Nodup) :
    ∃ f, decode fields initial text = .error f := by
  have htokens := htext.tokens
  rw [← knownNames_valueTokens] at hrepeated
  rw [decode_eq]
  generalize valueTokens ms = ns at hrepeated htokens
  generalize tokensOf text.toList = ts at htokens ⊢
  cases htokens with
  | empty => exact absurd List.nodup_nil hrepeated
  | members h =>
    have hseen : ¬((knownNames fields ns).reverse ++ []).Nodup := by
      rwa [List.append_nil, (List.reverse_perm _).nodup_iff]
    obtain ⟨f, hf⟩ := h.refused (.inr rfl) initial List.nodup_nil hseen
    refine ⟨f, ?_⟩
    rw [reads_opened, reads_refused hf]
    rfl

end SerialLine.Json
