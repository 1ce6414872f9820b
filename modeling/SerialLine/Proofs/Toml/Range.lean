import SerialLine.Toml.Document
import SerialLine.Toml.Record

/-!
# SerialLine.Proofs.Toml.Range — the integers of a document are in range

`read?_fit`: however deep an integer stands in a document, in a dotted key, an array or a table
between braces, it fits 64 bits with sign. Every integer comes from one reader, which checks it
(`integer_inRange`); everything else puts values together. A record that is read from such a
document keeps what its number fields keep for numbers in range (`readRecord_keeps`).
-/

namespace SerialLine.Toml

/-- A value whose integers are all in range. -/
inductive Value.Fits : Value → Prop where
  | string {s : String} : Fits (.string s)
  | integer {n : Int} (low : Number.least ≤ n) (high : n ≤ Number.largest) : Fits (.integer n)
  | float : Fits .float
  | boolean {b : Bool} : Fits (.boolean b)
  | moment : Fits .moment
  | array {items : List Value} (all : ∀ v ∈ items, Fits v) : Fits (.array items)
  | tables {items : List (List (String × Value))} (all : ∀ ms ∈ items, ∀ m ∈ ms, Fits m.2) :
      Fits (.tables items)
  | table {origin : Origin} {members : List (String × Value)} (all : ∀ m ∈ members, Fits m.2) :
      Fits (.table origin members)

/-- A table whose integers are all in range. -/
def Members.Fit (ms : Members) : Prop := ∀ m ∈ ms, m.2.Fits

/-! ## Tables -/

section

variable {ms : Members} {name : String} {v : Value}

theorem Members.Fit.nil : Members.Fit [] := by
  intro m hm
  cases hm

theorem Members.Fit.append {more : Members} (h : ms.Fit) (hmore : more.Fit) : (ms ++ more).Fit :=
  fun m hm => (List.mem_append.mp hm).elim (h m) (hmore m)

theorem Members.Fit.single (hv : v.Fits) : Members.Fit [(name, v)] := by
  intro m hm
  obtain rfl := List.mem_singleton.mp hm
  exact hv

theorem Members.Fit.get? (h : ms.Fit) (hget : ms.get? name = some v) : v.Fits := by
  induction ms with
  | nil => cases hget
  | cons m ms ih =>
    obtain ⟨n, w⟩ := m
    obtain ⟨hw, hms⟩ := List.forall_mem_cons.mp h
    simp only [Members.get?, List.lookup_cons] at hget ih
    split at hget
    · exact Option.some.inj hget ▸ hw
    · exact ih hms hget

theorem Members.Fit.put (h : ms.Fit) (hv : v.Fits) : (ms.put name v).Fit := by
  induction ms with
  | nil => exact .single hv
  | cons m ms ih =>
    obtain ⟨n, w⟩ := m
    obtain ⟨hw, hms⟩ := List.forall_mem_cons.mp h
    unfold Members.put
    split
    · exact List.forall_mem_cons.mpr ⟨hv, hms⟩
    · exact List.forall_mem_cons.mpr ⟨hw, ih hms⟩

theorem Members.Fit.erase (h : ms.Fit) : (ms.erase name).Fit :=
  fun m hm => h m (List.mem_filter.mp hm).1

theorem changeLast?_all {α : Type} {P : α → Prop} {change : α → Option α} {l l' : List α}
    (hl : ∀ a ∈ l, P a) (hchange : ∀ a b, P a → change a = some b → P b)
    (h : changeLast? change l = some l') : ∀ a ∈ l', P a := by
  induction l using changeLast?.induct generalizing l' with
  | case1 => cases h
  | case2 a =>
    obtain ⟨b, hb, rfl⟩ := Option.map_eq_some_iff.mp h
    exact List.forall_mem_singleton.mpr (hchange a b (hl a List.mem_cons_self) hb)
  | case3 a rest _ ih =>
    obtain ⟨ha, hrest⟩ := List.forall_mem_cons.mp hl
    simp only [changeLast?] at h
    obtain ⟨more, hmore, rfl⟩ := Option.map_eq_some_iff.mp h
    exact List.forall_mem_cons.mpr ⟨ha, ih hrest hmore⟩

/-- Changing a table on the way down keeps the integers in range, if the change does. -/
theorem descend_fit {dotted : Bool} {change : Origin → Members → Option Members}
    (hchange : ∀ origin ms ms', ms.Fit → change origin ms = some ms' → ms'.Fit)
    {path : List String} {origin : Origin} {ms ms' : Members} (hms : ms.Fit)
    (h : descend dotted change path origin ms = some ms') : ms'.Fit := by
  induction path generalizing origin ms ms' with
  | nil => exact hchange origin ms ms' hms h
  | cons name path ih =>
    unfold descend at h
    split at h
    · -- what is missing on the way is made, and starts empty
      obtain ⟨inner, hinner, hput⟩ := Option.bind_eq_some_iff.mp h
      cases hput
      exact hms.append (.single (.table (ih .nil hinner)))
    · next o inner hget =>
      have hin : Members.Fit inner := by
        cases hms.get? hget with
        | table all => exact all
      split at h
      · cases h
      · obtain ⟨inner', hinner, hput⟩ := Option.bind_eq_some_iff.mp h
        cases hput
        exact hms.put (.table (ih hin hinner))
    · next items hget =>
      have hin : ∀ ms ∈ items, Members.Fit ms := by
        cases hms.get? hget with
        | tables all => exact all
      -- the way through an array of tables is through its last one
      obtain ⟨items', hitems, hput⟩ := Option.bind_eq_some_iff.mp h
      cases hput
      exact hms.put (.tables (changeLast?_all hin (fun _ _ => ih) hitems))
    · cases h

theorem Members.Fit.add? {ms' : Members} (h : ms.Fit) (hv : v.Fits)
    (hadd : ms.add? name v = some ms') : ms'.Fit := by
  unfold Members.add? at hadd
  split at hadd
  · cases hadd
  · cases hadd
    exact h.append (.single hv)

theorem Members.Fit.insertAt? {path : List String} {ms' : Members} (h : ms.Fit) (hv : v.Fits)
    (hinsert : ms.insertAt? path name v = some ms') : ms'.Fit := by
  refine descend_fit (fun origin inner inner' hinner hadd => ?_) h hinsert
  split at hadd
  · cases hadd
  · exact hinner.add? hv hadd

theorem Members.Fit.insertUnder? {header path : List String} {ms' : Members} (h : ms.Fit)
    (hv : v.Fits) (hinsert : ms.insertUnder? header path name v = some ms') : ms'.Fit :=
  descend_fit (fun _ _ _ hinner hadd => hinner.insertAt? hv hadd) h hinsert

theorem Members.Fit.openTable? {path : List String} {ms' : Members} (h : ms.Fit)
    (hopen : ms.openTable? path name = some ms') : ms'.Fit := by
  refine descend_fit (fun origin inner inner' hinner hopen => ?_) h hopen
  split at hopen
  · cases hopen
    exact hinner.append (.single (.table Members.Fit.nil))
  · next members hget =>
    cases hopen
    have hin : Members.Fit members := by
      cases hinner.get? hget with
      | table all => exact all
    exact hinner.erase.append (.single (.table hin))
  · cases hopen

theorem Members.Fit.openNext? {path : List String} {ms' : Members} (h : ms.Fit)
    (hopen : ms.openNext? path name = some ms') : ms'.Fit := by
  refine descend_fit (fun origin inner inner' hinner hopen => ?_) h hopen
  split at hopen
  · cases hopen
    exact hinner.append (.single (.tables (List.forall_mem_singleton.mpr Members.Fit.nil)))
  · next items hget =>
    cases hopen
    have hin : ∀ ms ∈ items, Members.Fit ms := by
      cases hinner.get? hget with
      | tables all => exact all
    have hmore : ∀ ms ∈ items ++ [[]], Members.Fit ms :=
      List.forall_mem_append.mpr ⟨hin, List.forall_mem_singleton.mpr .nil⟩
    exact hinner.put (.tables hmore)
  · cases hopen

end

mutual

theorem Value.Fits.closed {v : Value} (h : v.Fits) : v.closed.Fits := by
  cases h with
  | @table origin members all =>
    cases origin with
    | dotted => exact .table (Members.Fit.closed all)
    | _ => exact .table all
  | string => exact .string
  | integer low high => exact .integer low high
  | float => exact .float
  | boolean => exact .boolean
  | moment => exact .moment
  | array all => exact .array all
  | tables all => exact .tables all
termination_by sizeOf v

theorem Members.Fit.closed {ms : Members} (h : ms.Fit) : Members.Fit (closedMembers ms) := by
  match ms with
  | [] => exact .nil
  | (name, v) :: rest =>
    obtain ⟨hv, hrest⟩ := List.forall_mem_cons.mp h
    exact List.forall_mem_cons.mpr ⟨hv.closed, Members.Fit.closed hrest⟩
termination_by sizeOf ms

end

/-! ## Readers -/

/-- A reader gives only what has a property. -/
def Reader.Gives {α : Type} (r : Reader α) (P : α → Prop) : Prop :=
  ∀ cs a rest, r cs = some (a, rest) → P a

theorem inRange?_some {m n : Int} (h : Number.inRange? m = some n) :
    Number.least ≤ n ∧ n ≤ Number.largest := by
  simp only [Number.inRange?, Option.ite_none_right_eq_some, Option.some.injEq] at h
  obtain ⟨hrange, rfl⟩ := h
  exact hrange

theorem inBase_inRange (base : Nat) :
    Reader.Gives (Number.inBase base) fun n => Number.least ≤ n ∧ n ≤ Number.largest := by
  intro cs n rest h
  obtain ⟨⟨ds, left⟩, -, h⟩ := Option.bind_eq_some_iff.mp h
  obtain ⟨m, hm, h⟩ := Option.bind_eq_some_iff.mp h
  cases h
  exact inRange?_some hm

/-- The one reader of integers checks them. -/
theorem integer_inRange :
    Reader.Gives Number.integer fun n => Number.least ≤ n ∧ n ≤ Number.largest := by
  intro cs n rest h
  unfold Number.integer at h
  split at h
  · exact inBase_inRange 16 _ _ _ h
  · exact inBase_inRange 8 _ _ _ h
  · exact inBase_inRange 2 _ _ _ h
  · obtain ⟨⟨ds, left⟩, -, h⟩ := Option.bind_eq_some_iff.mp h
    obtain ⟨m, hm, h⟩ := Option.bind_eq_some_iff.mp h
    cases h
    exact inRange?_some hm

theorem readNumber_fits : Reader.Gives readNumber Value.Fits := by
  intro cs v rest h
  unfold readNumber at h
  split at h
  · cases h
    exact .moment
  split at h
  · cases h
    exact .float
  · obtain ⟨⟨n, left⟩, hn, h⟩ := Option.bind_eq_some_iff.mp h
    cases h
    obtain ⟨low, high⟩ := integer_inRange _ _ _ hn
    exact .integer low high

theorem readWord_fits : Reader.Gives readWord Value.Fits := by
  intro cs v rest h
  unfold readWord at h
  split at h
  · cases h
    exact .boolean
  split at h
  · cases h
    exact .boolean
  · obtain ⟨left, -, h⟩ := Option.bind_eq_some_iff.mp h
    cases h
    exact .float

theorem readScalar_fits : Reader.Gives readScalar Value.Fits := by
  intro cs v rest h
  unfold readScalar at h
  split at h
  · cases h
  split at h
  · obtain ⟨⟨s, left⟩, -, h⟩ := Option.bind_eq_some_iff.mp h
    cases h
    exact .string
  split at h
  · exact readNumber_fits _ _ _ h
  · exact readWord_fits _ _ _ h

section

variable {value : Reader Value} (hvalue : Reader.Gives value Value.Fits)

include hvalue

theorem readItems_fit (fuel : Nat) :
    Reader.Gives (readItems value fuel) fun vs => ∀ v ∈ vs, v.Fits := by
  induction fuel with
  | zero =>
    intro cs vs rest h
    cases h
  | succ fuel ih =>
    intro cs vs rest h
    unfold readItems at h
    split at h
    · cases h
      exact fun v hv => nomatch hv
    · obtain ⟨⟨v, left⟩, hv, h⟩ := Option.bind_eq_some_iff.mp h
      have hfits := hvalue _ _ _ hv
      dsimp only at h
      split at h
      · obtain ⟨⟨more, left'⟩, hmore, h⟩ := Option.bind_eq_some_iff.mp h
        cases h
        exact List.forall_mem_cons.mpr ⟨hfits, ih _ _ _ hmore⟩
      · cases h
        exact List.forall_mem_singleton.mpr hfits
      · cases h

theorem readPair_fits : Reader.Gives (readPair value) fun pair => pair.2.Fits := by
  intro cs pair rest h
  obtain ⟨⟨key, left⟩, -, h⟩ := Option.bind_eq_some_iff.mp h
  obtain ⟨left', -, h⟩ := Option.bind_eq_some_iff.mp h
  obtain ⟨⟨v, left''⟩, hv, h⟩ := Option.bind_eq_some_iff.mp h
  cases h
  exact hvalue _ _ _ hv

theorem readMembers_fit (fuel : Nat) {got : Members} (hgot : got.Fit) :
    Reader.Gives (readMembers value fuel got) Members.Fit := by
  induction fuel generalizing got with
  | zero =>
    intro cs ms rest h
    cases h
  | succ fuel ih =>
    intro cs ms rest h
    unfold readMembers at h
    obtain ⟨⟨⟨⟨path, name⟩, v⟩, left⟩, hv, h⟩ := Option.bind_eq_some_iff.mp h
    obtain ⟨got', hinsert, h⟩ := Option.bind_eq_some_iff.mp h
    have hgot' := hgot.insertAt? (readPair_fits hvalue _ _ _ hv) hinsert
    split at h
    · exact ih hgot' _ _ _ h
    · cases h
      exact hgot'
    · cases h

theorem readBraces_fits : Reader.Gives (readBraces value) Value.Fits := by
  intro cs v rest h
  unfold readBraces at h
  split at h
  · cases h
    exact .table Members.Fit.nil
  · obtain ⟨⟨ms, left⟩, hms, h⟩ := Option.bind_eq_some_iff.mp h
    cases h
    exact .table (readMembers_fit hvalue _ .nil _ _ _ hms).closed

end

theorem readValue_fits (depth : Nat) : Reader.Gives (readValue depth) Value.Fits := by
  induction depth with
  | zero =>
    intro cs v rest h
    unfold readValue at h
    split at h
    · cases h
    · cases h
    · exact readScalar_fits _ _ _ h
  | succ depth ih =>
    intro cs v rest h
    unfold readValue at h
    split at h
    · obtain ⟨⟨vs, left⟩, hvs, h⟩ := Option.bind_eq_some_iff.mp h
      cases h
      exact .array (readItems_fit ih _ _ _ _ hvs)
    · exact readBraces_fits ih _ _ _ h
    · exact readScalar_fits _ _ _ h

/-! ## Documents -/

namespace Document

variable {d d' : Document} {cs rest : List Char}

theorem opened_fit {next : Bool} {path : List String} {name : String} (hd : d.members.Fit)
    (h : d.opened next path name = some d') : d'.members.Fit := by
  cases next with
  | true =>
    obtain ⟨members, hopen, h⟩ := Option.bind_eq_some_iff.mp h
    cases h
    exact hd.openNext? hopen
  | false =>
    obtain ⟨members, hopen, h⟩ := Option.bind_eq_some_iff.mp h
    cases h
    exact hd.openTable? hopen

theorem readEntry_fit (hd : d.members.Fit) (h : d.readEntry cs = some (d', rest)) :
    d'.members.Fit := by
  unfold readEntry at h
  split at h
  · obtain ⟨⟨⟨path, name⟩, left⟩, -, h⟩ := Option.bind_eq_some_iff.mp h
    obtain ⟨left', -, h⟩ := Option.bind_eq_some_iff.mp h
    obtain ⟨d₁, hopen, h⟩ := Option.bind_eq_some_iff.mp h
    obtain ⟨left'', -, h⟩ := Option.bind_eq_some_iff.mp h
    cases h
    exact opened_fit hd hopen
  · obtain ⟨⟨⟨path, name⟩, left⟩, -, h⟩ := Option.bind_eq_some_iff.mp h
    obtain ⟨left', -, h⟩ := Option.bind_eq_some_iff.mp h
    obtain ⟨d₁, hopen, h⟩ := Option.bind_eq_some_iff.mp h
    obtain ⟨left'', -, h⟩ := Option.bind_eq_some_iff.mp h
    cases h
    exact opened_fit hd hopen
  · obtain ⟨⟨⟨⟨path, name⟩, v⟩, left⟩, hv, h⟩ := Option.bind_eq_some_iff.mp h
    obtain ⟨members, hinsert, h⟩ := Option.bind_eq_some_iff.mp h
    obtain ⟨left', -, h⟩ := Option.bind_eq_some_iff.mp h
    cases h
    exact hd.insertUnder? (readPair_fits (readValue_fits maxDepth) _ _ _ hv) hinsert

theorem readEntries_fit (fuel : Nat) (hd : d.members.Fit)
    (h : readEntries fuel d cs = some d') : d'.members.Fit := by
  induction fuel generalizing d cs with
  | zero => cases h
  | succ fuel ih =>
    unfold readEntries at h
    split at h
    · cases h
      exact hd
    · obtain ⟨⟨d₁, left⟩, hentry, h⟩ := Option.bind_eq_some_iff.mp h
      exact ih (readEntry_fit hd hentry) h

/-- Every integer of a document is in range. -/
theorem read?_fit {text : String} {ms : Members} (h : read? text = some ms) : ms.Fit := by
  obtain ⟨d, hd, h⟩ := Option.bind_eq_some_iff.mp h
  cases h
  exact readEntries_fit _ Members.Fit.nil hd

end Document

/-! ## Records -/

/-- Reading a field keeps a property of the record, from values in range. -/
def FieldReader.Keeps {σ : Type} (P : σ → Prop) (f : FieldReader σ) : Prop :=
  ∀ v s s', v.Fits → P s → f.read v s = some s' → P s'

section

variable {σ α : Type} {P : σ → Prop}

theorem foldlM_keeps {step : σ → α → Option σ} {l : List α}
    (hstep : ∀ a ∈ l, ∀ s s', P s → step s a = some s' → P s') {s s' : σ} (hs : P s)
    (h : l.foldlM step s = some s') : P s' := by
  induction l generalizing s with
  | nil =>
    cases h
    exact hs
  | cons a l ih =>
    obtain ⟨ha, hl⟩ := List.forall_mem_cons.mp hstep
    obtain ⟨s₁, hfirst, hmore⟩ := Option.bind_eq_some_iff.mp h
    exact ih hl (ha s s₁ hs hfirst) hmore

variable {fields : List (FieldReader σ)} (hfields : ∀ f ∈ fields, f.Keeps P)

include hfields

theorem readMember_keeps {m : String × Value} (hm : m.2.Fits) {s s' : σ} (hs : P s)
    (h : readMember fields s m = some s') : P s' := by
  unfold readMember at h
  split at h
  · next f hfind => exact hfields f (List.mem_of_find?_eq_some hfind) _ _ _ hm hs h
  · cases h
    exact hs

theorem readRecord_keeps {v : Value} (hv : v.Fits) {s s' : σ} (hs : P s)
    (h : readRecord fields v s = some s') : P s' := by
  cases hv with
  | table all => exact foldlM_keeps (fun m hm _ _ => readMember_keeps hfields (all m hm)) hs h
  | array all =>
    refine foldlM_keeps (fun p hp s₁ s₂ hs₁ hread => ?_) hs h
    obtain ⟨hfield, hitem⟩ := List.of_mem_zip hp
    exact hfields p.1 hfield _ _ _ (all p.2 hitem) hs₁ hread
  | tables all =>
    refine foldlM_keeps (fun p hp s₁ s₂ hs₁ hread => ?_) hs h
    obtain ⟨hfield, hitem⟩ := List.of_mem_zip hp
    exact hfields p.1 hfield _ _ _ (.table (all p.2 hitem)) hs₁ hread
  | moment =>
    cases h
    exact hs
  | string | integer | float | boolean => cases h

end

namespace FieldReader

variable {σ α : Type} {P : σ → Prop} {name : String}

theorem Keeps.flag {set : Bool → σ → σ} (hset : ∀ b s, P s → P (set b s)) :
    (FieldReader.flag name set).Keeps P := by
  intro v s s' _ hs h
  cases v with
  | boolean b =>
    cases h
    exact hset b s hs
  | _ => cases h

theorem Keeps.text {set : String → σ → σ} (hset : ∀ t s, P s → P (set t s)) :
    (FieldReader.text name set).Keeps P := by
  intro v s s' _ hs h
  cases v with
  | string t =>
    cases h
    exact hset t s hs
  | _ => cases h

theorem Keeps.choice {all : List α} {word : α → String} {set : α → σ → σ}
    (hset : ∀ a s, P s → P (set a s)) : (FieldReader.choice name all word set).Keeps P := by
  intro v s s' _ hs h
  obtain ⟨w, -, h⟩ := Option.bind_eq_some_iff.mp h
  obtain ⟨a, -, h⟩ := Option.bind_eq_some_iff.mp h
  cases h
  exact hset a s hs

/-- A number that is read is no larger than the largest integer. -/
theorem Keeps.natural {bound : Nat} {set : Nat → σ → σ}
    (hset : ∀ (n : Nat) s, (n : Int) ≤ Number.largest → P s → P (set n s)) :
    (FieldReader.natural name bound set).Keeps P := by
  intro v s s' hv hs h
  cases hv with
  | integer low high =>
    simp only [FieldReader.natural, Option.ite_none_right_eq_some, Option.some.injEq] at h
    obtain ⟨⟨hpositive, -⟩, rfl⟩ := h
    exact hset _ s (by omega) hs
  | _ => cases h

theorem Keeps.record {fields : List (FieldReader σ)} (hfields : ∀ f ∈ fields, f.Keeps P) :
    (FieldReader.record name fields).Keeps P :=
  fun _ _ _ hv hs h => readRecord_keeps hfields hv hs h

end FieldReader

end SerialLine.Toml
