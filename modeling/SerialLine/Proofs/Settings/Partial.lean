import Mathlib.Data.Finset.Dedup
import Mathlib.Data.Finset.Insert
import SerialLine.Proofs.Json.Objects
import SerialLine.Proofs.Json.Writing
import SerialLine.Settings.Json

/-!
# SerialLine.Proofs.Settings.Partial — a partial configuration overrides the default one

`decode_partialText`: an object with some members of a configuration, in any order and with any
other members between them, is read as the default configuration with these settings. With all
members this is the round trip. A setting that is given twice is refused.
-/

namespace SerialLine.Configuration

open Json (ObjectText Value)

/-- What the settings are called in files. -/
def names (c : Configuration) : List String := c.members.map (·.1)

/-- The configuration with the named settings of `c`, and the default ones elsewhere. Of the
speed only the number is kept. -/
def keeping (c : Configuration) (K : Finset String) : Configuration :=
  let d : Configuration := {}
  { baud := if "baud" ∈ K then .ofRate c.baud.rate else d.baud
    dataBits := if "data_bits" ∈ K then c.dataBits else d.dataBits
    stopBits := if "stop_bits" ∈ K then c.stopBits else d.stopBits
    parity := if "parity" ∈ K then c.parity else d.parity
    flowControl := if "flow_control" ∈ K then c.flowControl else d.flowControl
    xonChar := if "xon_char" ∈ K then c.xonChar else d.xonChar
    xoffChar := if "xoff_char" ∈ K then c.xoffChar else d.xoffChar
    reportParityErrors :=
      if "report_parity_errors" ∈ K then c.reportParityErrors else d.reportParityErrors
    reportBufferOverrun :=
      if "report_buffer_overrun" ∈ K then c.reportBufferOverrun else d.reportBufferOverrun
    minReadLength := if "min_read_length" ∈ K then c.minReadLength else d.minReadLength }

/-- A text that is an object with exactly the members of `c` that `K` names, as `c` is written,
in any order, beside any members that no configuration has. -/
def IsPartialText (c : Configuration) (K : Finset String) (text : String) : Prop :=
  ∃ ms, ObjectText ms text.toList ∧ (ms.filter fun m => m.1 ∈ c.names).Perm
    ((c.members.filter fun m => m.1 ∈ K).map fun m => (m.1, m.2.compact.toList))

/-! ## One setting -/

section

open Json (FieldReader Mode Reading.at Reading.updated readValue step tokensOf yields_last)

variable {fields : List (FieldReader Configuration)} {name : String} {required : Bool}

theorem yields_natural {bound n : Nat} (set : Nat → Configuration → Configuration)
    (hn : n ≤ bound) (hbound : bound < UInt64.size) :
    (Mode.value .member ⟨name, .natural bound set, required⟩).Yields fields
      (tokensOf (Value.number n).compact.toList) (.ok (set n)) := by
  rw [Json.tokensOf_natural (by omega)]
  refine yields_last fun r => ?_
  simp [step, Reading.at, Reading.updated, readValue, Json.Place.next, hn]

theorem yields_flag (b : Bool) (set : Bool → Configuration → Configuration) :
    (Mode.value .member ⟨name, .flag set, required⟩).Yields fields
      (tokensOf (Value.bool b).compact.toList) (.ok (set b)) := by
  rw [Json.tokensOf_bool]
  cases b <;> exact yields_last fun _ => rfl

theorem yields_choice {α : Type} {all : List α} {word : α → String} {v : α}
    (set : α → Configuration → Configuration)
    (hword : all.find? (word · == word v) = some v) :
    (Mode.value .member ⟨name, choiceOf all word set, required⟩).Yields fields
      (tokensOf (Value.string (word v)).compact.toList) (.ok (set v)) := by
  rw [Json.tokensOf_string]
  refine yields_last fun r => ?_
  simp [step, Reading.at, Reading.updated, readValue, Json.Place.next, choiceOf, hword]

end

/-- What a setting is written as is read as an update that puts it among the kept ones. -/
theorem field_keeping (c : Configuration) : ∀ field ∈ jsonFields, ∃ v update,
    c.members.lookup field.name = some v ∧
      (Json.Mode.value .member field).Yields jsonFields (Json.tokensOf v.compact.toList)
        (.ok update) ∧
      ∀ K, update (c.keeping K) = c.keeping (insert field.name K) := by
  have hrate : c.baud.rate.toNat ≤ UInt32.size - 1 := Nat.le_sub_one_of_lt c.baud.rate.toNat_lt
  have hbyte (b : UInt8) : b.toNat ≤ 255 := Nat.le_of_lt_succ b.toNat_lt
  simp only [jsonFields, List.forall_mem_cons]
  refine ⟨?baud, ?dataBits, ?stopBits, ?parity, ?flowControl, ?xonChar, ?xoffChar,
    ?reportParityErrors, ?reportBufferOverrun, ?minReadLength, by simp⟩
  case baud => exact ⟨_, _, rfl, yields_natural _ hrate (by decide), fun K => by simp [keeping]⟩
  case dataBits =>
    have hword : DataBits.all.find? (·.word == c.dataBits.word) = some c.dataBits := by
      cases c.dataBits <;> rfl
    exact ⟨_, _, rfl, yields_choice _ hword, fun K => by simp [keeping]⟩
  case stopBits =>
    have hword : StopBits.all.find? (·.word == c.stopBits.word) = some c.stopBits := by
      cases c.stopBits <;> rfl
    exact ⟨_, _, rfl, yields_choice _ hword, fun K => by simp [keeping]⟩
  case parity =>
    have hword : Parity.all.find? (·.word == c.parity.word) = some c.parity := by
      cases c.parity <;> rfl
    exact ⟨_, _, rfl, yields_choice _ hword, fun K => by simp [keeping]⟩
  case flowControl =>
    have hword : FlowControl.all.find? (·.word == c.flowControl.word) = some c.flowControl := by
      cases c.flowControl <;> rfl
    exact ⟨_, _, rfl, yields_choice _ hword, fun K => by simp [keeping]⟩
  case xonChar =>
    exact ⟨_, _, rfl, yields_natural _ (hbyte c.xonChar) (by decide), fun K => by simp [keeping]⟩
  case xoffChar =>
    exact ⟨_, _, rfl, yields_natural _ (hbyte c.xoffChar) (by decide), fun K => by simp [keeping]⟩
  case reportParityErrors =>
    exact ⟨_, _, rfl, yields_flag c.reportParityErrors _, fun K => by simp [keeping]⟩
  case reportBufferOverrun =>
    exact ⟨_, _, rfl, yields_flag c.reportBufferOverrun _, fun K => by simp [keeping]⟩
  case minReadLength =>
    exact ⟨_, _, rfl, yields_natural _ (hbyte c.minReadLength) (by decide),
      fun K => by simp [keeping]⟩

/-! ## All settings -/

theorem names_eq (c : Configuration) : c.names = jsonFields.map (·.name) := rfl

theorem names_nodup (c : Configuration) : c.names.Nodup := by
  rw [names_eq]
  decide

theorem lookup_members {c : Configuration} {m : String × Value} (hm : m ∈ c.members) :
    c.members.lookup m.1 = some m.2 := by
  revert m
  simp only [members, List.forall_mem_cons]
  exact ⟨rfl, rfl, rfl, rfl, rfl, rfl, rfl, rfl, rfl, rfl, fun _ h => nomatch h⟩

/-- Only the names of settings matter. -/
theorem keeping_congr (c : Configuration) {K L : Finset String}
    (h : ∀ name ∈ c.names, name ∈ K ↔ name ∈ L) : c.keeping K = c.keeping L := by
  simp only [names, members, List.map_cons, List.map_nil, List.forall_mem_cons] at h
  simp [keeping, h]

theorem keeping_empty (c : Configuration) : c.keeping ∅ = {} := by
  simp [keeping]

theorem keeping_names (c : Configuration) : c.keeping c.names.toFinset = c.normalized := by
  simp [keeping, names, members, normalized, Baud.normalized]

/-- The tag of the speed is not written. -/
theorem toJson_normalized (c : Configuration) : c.normalized.toJson = c.toJson := by
  simp [toJson, members, normalized]

theorem knownNames_eq {α : Type} (c : Configuration) (ms : List (String × α)) :
    Json.knownNames jsonFields ms = (ms.filter fun m => m.1 ∈ c.names).map (·.1) := by
  have hany (name : String) : jsonFields.any (·.name == name) = decide (name ∈ c.names) := by
    rw [names_eq, Bool.eq_iff_iff]
    simp
  rw [Json.knownNames, List.filter_map]
  simp only [Function.comp_def, hany]

/-- What is written for a configuration has all its members. -/
theorem isPartialText_compact (c : Configuration) :
    c.IsPartialText c.names.toFinset c.toJson.compact := by
  refine ⟨_, Json.Value.objectText_compact c.members, ?_⟩
  have hname {m : String × Value} (hm : m ∈ c.members) : m.1 ∈ c.names := List.mem_map_of_mem hm
  have hwritten : (c.members.map fun m => (m.1, m.2.compact.toList)).filter
      (fun m => m.1 ∈ c.names) = c.members.map fun m => (m.1, m.2.compact.toList) := by
    rw [List.filter_eq_self, List.forall_mem_map]
    simpa using fun _ _ hm => hname hm
  have hall : c.members.filter (fun m => m.1 ∈ c.names.toFinset) = c.members := by
    rw [List.filter_eq_self]
    simpa using fun _ _ hm => hname hm
  rw [hwritten, hall]

section

variable {c : Configuration} {K : Finset String} {ms : List (String × List Char)}
  (hperm : (ms.filter fun m => m.1 ∈ c.names).Perm
    ((c.members.filter fun m => m.1 ∈ K).map fun m => (m.1, m.2.compact.toList)))
include hperm

theorem written_of_mem {m : String × List Char} (hm : m ∈ ms) (hname : m.1 ∈ c.names) :
    ∃ v, (m.1, v) ∈ c.members ∧ m.2 = v.compact.toList := by
  have hkept : m ∈ ms.filter fun m => m.1 ∈ c.names :=
    List.mem_filter.mpr ⟨hm, decide_eq_true hname⟩
  rw [hperm.mem_iff] at hkept
  obtain ⟨⟨name, v⟩, hv, rfl⟩ := List.mem_map.mp hkept
  exact ⟨v, (List.mem_filter.mp hv).1, rfl⟩

/-- The settings that are read are those that `K` names, each once. -/
theorem knownNames_perm :
    (Json.knownNames jsonFields ms).Perm (c.names.filter fun name => name ∈ K) := by
  have hnames := hperm.map (·.1)
  rw [List.map_map, ← knownNames_eq] at hnames
  rw [names, List.filter_map]
  exact hnames

/-- Each value that is read puts its setting among the kept ones. -/
theorem follows_keeping :
    Json.Follows jsonFields (fun seen => c.keeping seen.toFinset) (Json.valueTokens ms) := by
  intro n hn field hfield hname
  obtain ⟨m, hm, rfl⟩ := List.mem_map.mp hn
  have hnames : m.1 ∈ c.names := by
    rw [names_eq, ← hname]
    exact List.mem_map_of_mem hfield
  obtain ⟨v, hv, hwritten⟩ := written_of_mem hperm hm hnames
  obtain ⟨v', update, hlookup, hyields, hupdate⟩ := field_keeping c field hfield
  have hsame : some v = some v' := by
    rw [← hlookup, hname]
    exact (lookup_members hv).symm
  cases hsame
  refine ⟨update, hwritten ▸ hyields, ?_⟩
  intro seen
  show update (c.keeping seen.toFinset) = c.keeping (m.1 :: seen).toFinset
  rw [hupdate, hname, List.toFinset_cons]

end

/-- A partial text is read as the configuration that keeps its settings. -/
theorem IsPartialText.ofJson? {c : Configuration} {K : Finset String} {text : String}
    (h : c.IsPartialText K text) : Configuration.ofJson? text = .ok (c.keeping K) := by
  obtain ⟨ms, htext, hperm⟩ := h
  have hoptional : ∀ field ∈ jsonFields, field.required = false := by simp [jsonFields]
  have hknown := knownNames_perm hperm
  have hnodup : (Json.knownNames jsonFields ms).Nodup :=
    hknown.nodup_iff.mpr ((names_nodup c).filter _)
  have hread := Json.decode_object hoptional htext (follows_keeping hperm) hnodup
  have hkept : c.keeping (Json.knownNames jsonFields ms).reverse.toFinset = c.keeping K := by
    apply keeping_congr
    intro name hname
    simp [hknown.mem_iff, hname]
  rwa [hkept, List.toFinset_nil, keeping_empty] at hread

/-- Decoding overrides the default configuration: an object with the members of `c` that `K`
names, in any order and with any unknown members between them, is read as the configuration that
keeps these settings of `c`. With all of them this is the round trip, after which the same text
is written again. An object with a setting that occurs twice is refused, whatever the values. -/
theorem decode_partialText (c : Configuration) :
    (∀ K text, c.IsPartialText K text → ofJson? text = .ok (c.keeping K)) ∧
    (c.IsPartialText c.names.toFinset c.toJson.compact ∧
      c.keeping c.names.toFinset = c.normalized ∧
      ofJson? c.toJson.compact = .ok c.normalized ∧
      c.normalized.toJson.compact = c.toJson.compact) ∧
    (∀ ms text, ObjectText ms text.toList →
      ¬((ms.filter fun m => m.1 ∈ c.names).map (·.1)).Nodup →
      ∃ fault, ofJson? text = .error fault) := by
  refine ⟨fun K text h => h.ofJson?, ⟨isPartialText_compact c, keeping_names c, ?_, ?_⟩, ?_⟩
  · rw [(isPartialText_compact c).ofJson?, keeping_names]
  · rw [toJson_normalized]
  · intro ms text htext hrepeated
    rw [← knownNames_eq] at hrepeated
    exact Json.decode_repeated jsonFields {} htext hrepeated

/-- Two settings behind an unknown member, in another order than they are written in; the data
bits are not among them. Beside it, a speed that is given twice. -/
theorem reordered_partial :
    let c : Configuration := { baud := .custom 115200, dataBits := .five, parity := .odd }
    let text := (Value.object [("unknown", .array [.number 1, .object [("nested", .null)]]),
      ("parity", .string "odd"), ("baud", .number 115200)]).compact
    c.IsPartialText {"baud", "parity"} text ∧
      ofJson? text = .ok { baud := .ofRate 115200, parity := .odd } ∧
      ∃ fault, ofJson? (Value.object [("baud", .number 50), ("unknown", .null),
        ("baud", .bool true)]).compact = .error fault := by
  intro c text
  have hpartial : c.IsPartialText {"baud", "parity"} text :=
    ⟨_, Json.Value.objectText_compact _, by decide⟩
  refine ⟨hpartial, ?_, ?_⟩
  · rw [(decode_partialText c).1 _ _ hpartial]
    rfl
  · have htext := Json.Value.objectText_compact
      [("baud", .number 50), ("unknown", .null), ("baud", .bool true)]
    exact (decode_partialText c).2.2 _ _ htext (by decide)

end SerialLine.Configuration
