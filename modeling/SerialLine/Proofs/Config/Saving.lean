import SerialLine.Proofs.Config.RoundTrip
import SerialLine.Proofs.Toml.Range

/-!
# SerialLine.Proofs.Config.Saving — what is loaded can be saved, but for counts that are too large

A count has 64 bits without a sign, an integer of a document 64 with one. Every count of a file
fits, as every integer of a document does (`countsFit_ofToml?`), and so do the defaults. The
environment has no such bound, and validation asks only for what is not zero. So a configuration
that was loaded can be saved exactly if no variable gives a count above the largest integer of a
document: `ConfigLoader.saveTo_of_loadFrom`.
-/

namespace SerialLine

open Decimal (boundedNatural?)
open Toml (FieldReader)

/-! ## Counts in range -/

namespace Config

/-- All counts can be written to a document. -/
def CountsFit (c : Config) : Prop :=
  ∀ key ∈ c.positiveKeys, (key.2.toNat : Int) ≤ Toml.Number.largest

theorem countsFit_iff {c : Config} :
    c.CountsFit ↔ (c.registry.capacity.toNat : Int) ≤ Toml.Number.largest ∧
      (c.listener.readChunkSize.toNat : Int) ≤ Toml.Number.largest ∧
      (c.listener.linePollIntervalMs.toNat : Int) ≤ Toml.Number.largest ∧
      (c.monitor.capacity.toNat : Int) ≤ Toml.Number.largest ∧
      (c.monitor.pollIntervalMs.toNat : Int) ≤ Toml.Number.largest := by
  simp [CountsFit, positiveKeys]

theorem countsFit_default : ({} : Config).CountsFit := by
  simp only [CountsFit]
  decide

/-- The keys of a port hold no counts. -/
theorem portFields_keep : ∀ f ∈ portFields, f.Keeps CountsFit := by
  simp only [portFields, List.forall_mem_cons, List.not_mem_nil, false_implies,
    implies_true, and_true]
  exact ⟨.natural fun _ _ _ h => h, .choice fun _ _ h => h,
    .choice fun _ _ h => h, .choice fun _ _ h => h, .choice fun _ _ h => h,
    .natural fun _ _ _ h => h, .natural fun _ _ _ h => h, .flag fun _ _ h => h,
    .flag fun _ _ h => h, .natural fun _ _ _ h => h⟩

theorem fields_keep : ∀ f ∈ fields, f.Keeps CountsFit := by
  have hcount {n : Nat} (hn : (n : Int) ≤ Toml.Number.largest) :
      ((UInt64.ofNat n).toNat : Int) ≤ Toml.Number.largest := by
    have hle : (UInt64.ofNat n).toNat ≤ n := Nat.mod_le ..
    omega
  simp only [fields, List.forall_mem_cons, List.not_mem_nil, false_implies,
    implies_true, and_true]
  -- a count is in range as the integers of a document are; no other field touches the counts
  refine ⟨.record ?_, .record ?_, .record ?_, .record ?_, .record ?_⟩
  all_goals simp only [List.forall_mem_cons, List.not_mem_nil, false_implies,
    implies_true, and_true]
  · exact .natural fun n c hn hc => by simp_all [countsFit_iff]
  · refine ⟨.natural fun n c hn hc => ?_, .natural fun n c hn hc => ?_⟩ <;>
      simp_all [countsFit_iff]
  · refine ⟨.natural fun n c hn hc => ?_, .natural fun n c hn hc => ?_⟩ <;>
      simp_all [countsFit_iff]
  · exact ⟨.flag fun _ _ h => h, .record portFields_keep⟩
  · exact ⟨.text fun _ _ h => h, .choice fun _ _ h => h⟩

/-- All counts of a file fit, as its integers do and the defaults do. -/
theorem countsFit_ofToml? {text : String} {c : Config} (h : ofToml? text = some c) :
    c.CountsFit := by
  obtain ⟨members, hmembers, hread⟩ := Option.bind_eq_some_iff.mp h
  exact Toml.readRecord_keeps fields_keep (.table (Toml.Document.read?_fit hmembers))
    countsFit_default hread

/-- The counts are the only numbers that may be too large for a document. -/
theorem toToml?_isSome_iff {c : Config} : c.toToml?.isSome = true ↔ c.CountsFit := by
  have hlargest : Toml.Number.largest = 2 ^ 63 - 1 := by decide
  have hrate : (c.defaults.port.baud.rate.toNat : Int) ≤ Toml.Number.largest := by
    have := c.defaults.port.baud.rate.toNat_lt
    omega
  have hbyte (n : UInt8) : (n.toNat : Int) ≤ Toml.Number.largest := by
    have := n.toNat_lt
    omega
  have hwritten : c.toToml?.isSome = c.sections.all fun s => s.entries.all (·.2.isWritable) := by
    rw [toToml?, Toml.written?]
    split
    · next h => rw [h]; rfl
    · next h => rw [Bool.eq_false_iff.mpr h]; rfl
  simp only [hwritten, countsFit_iff, sections, count, word, Toml.Scalar.isWritable, hrate, hbyte,
    List.all_cons, List.all_nil, decide_true, Bool.and_true, Bool.and_eq_true, decide_eq_true_eq]
  omega

end Config

theorem countsFit_readConfig {h : Host} {p : Path} {f : Config}
    (hread : h.readConfig p = .ok f) : f.CountsFit := by
  unfold Host.readConfig at hread
  split at hread
  · cases hread
  split at hread
  · next htoml =>
    obtain rfl := Except.ok.inj hread
    exact Config.countsFit_ofToml? htoml
  · cases hread

/-! ## Saving -/

/-- A file can be written at a path: the directory above it is there or can be made, and then some
text can be written. -/
def Host.CanWrite (h : Host) (p : Path) : Prop :=
  ∃ files text files', h.makeDirectoryAbove p = (.ok (), files) ∧
    ({ h with files } : Host).writeText p text = .ok files'

section

variable {h : Host} {p : Path}

/-- Whether a file can be written does not depend on what is to be written. -/
theorem writeFile_any {t t' : FileTree} {cwd : Place} {contents : Bytes}
    (hwrite : t.writeFile cwd p contents = .ok t') (other : Bytes) :
    ∃ t', t.writeFile cwd p other = .ok t' := by
  unfold FileTree.writeFile at hwrite ⊢
  cases hlookup : t.lookup cwd .writeFile p with
  | error code =>
    rw [hlookup] at hwrite
    cases hwrite
  | ok target =>
    rw [hlookup] at hwrite
    cases target with
    | free place => exact ⟨_, rfl⟩
    | found place e =>
      cases e with
      | directory | link => cases hwrite
      | file | null | terminal => exact ⟨_, rfl⟩

theorem writeText_any {text : String} {files : FileTree}
    (hwrite : h.writeText p text = .ok files) (other : String) :
    ∃ files, h.writeText p other = .ok files := by
  obtain ⟨hzero, hput⟩ := writeText_ok_iff.mp hwrite
  obtain ⟨t', ht'⟩ := writeFile_any hput (Bytes.ofText other)
  exact ⟨t', writeText_ok_iff.mpr ⟨hzero, ht'⟩⟩

/-- Where a file can be written, saving fails only for want of a document. -/
theorem writeConfig_of_canWrite (hp : h.CanWrite p) (c : Config) :
    (h.writeConfig c p).1 = if c.toToml?.isSome then .ok () else .error .unencodable := by
  obtain ⟨files, text, files', hmade, hwrite⟩ := hp
  simp only [Host.writeConfig, hmade]
  cases htext : c.toToml? with
  | none => rfl
  | some document =>
    obtain ⟨written, hwritten⟩ := writeText_any hwrite document
    simp only [hwritten]
    rfl

end

/-! ## Counts from the environment -/

/-- A number that a text writes is the only one. -/
theorem WritesNatural.unique {text : String} {m n : Nat} (hm : WritesNatural text m)
    (hn : WritesNatural text n) : m = n := by
  have hread (k : Nat) (hk : WritesNatural text k) (hle : k ≤ max m n) :
      boundedNatural? (max m n) text = some k := boundedNatural?_eq_some.mpr ⟨hk, hle⟩
  exact Option.some.inj ((hread m hm (Nat.le_max_left ..)).symm.trans
    (hread n hn (Nat.le_max_right ..)))

/-- The variables that hold counts. -/
def countVariables : List String :=
  ["REGISTRY_CAPACITY", "LISTENER_READ_CHUNK_SIZE", "LISTENER_LINE_POLL_INTERVAL_MS",
   "MONITOR_CAPACITY", "MONITOR_POLL_INTERVAL_MS"]

/-- A variable holds a count that is too large for a document. -/
def Host.GivesTooLarge (h : Host) (name : String) : Prop :=
  ∃ text n, h.setting? name = some text ∧ WritesCount (Text.trim text) n ∧
    Toml.Number.largest < (n.toNat : Int)

/-- A count that may be replaced fits if it did before and the variable does not hold one that is
too large. -/
theorem getD_fits_iff {h : Host} {name : String} {v? : Option UInt64} {old : UInt64}
    (hgives : h.Gives name WritesCount v?) (hold : (old.toNat : Int) ≤ Toml.Number.largest) :
    ((v?.getD old).toNat : Int) ≤ Toml.Number.largest ↔ ¬h.GivesTooLarge name := by
  cases v? with
  | none =>
    have hunset : h.setting? name = none := hgives
    simp [Host.GivesTooLarge, hunset, hold]
  | some n =>
    obtain ⟨text, hset, hn⟩ := hgives
    simp only [Option.getD_some, Host.GivesTooLarge, hset, Option.some.injEq]
    constructor
    · rintro hfits ⟨_, m, rfl, hm, hlarge⟩
      rw [UInt64.toNat_inj.mp (hm.unique hn)] at hlarge
      omega
    · intro hnone
      by_contra hlarge
      exact hnone ⟨text, n, rfl, hn, by omega⟩

theorem Replacements.GivenBy.countsFit_iff {r : Replacements} {h : Host} (given : r.GivenBy h)
    {f : Config} (hf : f.CountsFit) :
    (r.over f).CountsFit ↔ ∀ name ∈ countVariables, ¬h.GivesTooLarge name := by
  obtain ⟨h₁, h₂, h₃, h₄, h₅⟩ := Config.countsFit_iff.mp hf
  simp only [Config.countsFit_iff, countVariables, List.forall_mem_cons, Replacements.over,
    getD_fits_iff given.registryCapacity h₁, getD_fits_iff given.readChunkSize h₂,
    getD_fits_iff given.linePollIntervalMs h₃, getD_fits_iff given.monitorCapacity h₄,
    getD_fits_iff given.pollIntervalMs h₅, List.not_mem_nil, false_implies, implies_true, and_true]

namespace ConfigLoader

/-- What was loaded can be saved where a file can be written, unless some variable held a count
that is too large for a document. A count of the file is never too large. -/
theorem saveTo_of_loadFrom {h later : Host} {p q : Path} {l : ConfigLoader}
    (hload : loadFrom h p = .ok l) (hwrite : later.CanWrite q) :
    ((l.saveTo later q).1 = .ok () ↔ ∀ name ∈ countVariables, ¬h.GivesTooLarge name) ∧
      ((l.saveTo later q).1 = .error .unencodable ↔
        ∃ name ∈ countVariables, h.GivesTooLarge name) := by
  have hfits : l.config.CountsFit ↔ ∀ name ∈ countVariables, ¬h.GivesTooLarge name := by
    rw [loadFrom_eq] at hload
    obtain ⟨f, hread, hload⟩ := bind_eq_ok.mp hload
    obtain ⟨c, hsettled, hl⟩ := bind_eq_ok.mp hload
    cases hl
    obtain ⟨⟨r, given, rfl⟩, -⟩ := settled_ok_iff.mp hsettled
    exact given.countsFit_iff (countsFit_readConfig hread)
  have hsave : (l.saveTo later q).1 = if l.config.toToml?.isSome then .ok () else
      .error .unencodable := writeConfig_of_canWrite hwrite l.config
  rw [hsave]
  by_cases hdocument : l.config.toToml?.isSome = true
  · have hnone := hfits.mp (Config.toToml?_isSome_iff.mp hdocument)
    rw [if_pos hdocument]
    refine ⟨⟨fun _ => hnone, fun _ => rfl⟩, ?_, ?_⟩
    · intro herror
      cases herror
    · rintro ⟨name, hname, hlarge⟩
      exact (hnone name hname hlarge).elim
  · have hsome : ¬∀ name ∈ countVariables, ¬h.GivesTooLarge name := fun hnone =>
      hdocument (Config.toToml?_isSome_iff.mpr (hfits.mpr hnone))
    rw [if_neg hdocument]
    refine ⟨⟨?_, fun hnone => (hsome hnone).elim⟩, fun _ => by simpa using hsome, fun _ => rfl⟩
    intro hok
    cases hok

end ConfigLoader

/-! ### The largest count, and the one after it -/

/-- A host with an empty file, whose environment sets the capacity of the registry. -/
def Host.brimming (capacity : String) : Host :=
  .holding "" [("SERIAL_CORE_REGISTRY_CAPACITY", capacity)]

theorem brimming_given {capacity : String} {n : UInt64}
    (hn : WritesCount (Text.trim capacity) n) :
    ({ registryCapacity := some n } : Replacements).GivenBy (.brimming capacity) := by
  refine ⟨⟨capacity, ?_, hn⟩, ?_, ?_, ?_, ?_, ?_, ?_, ?_, ?_⟩
  all_goals
    refine (setting?_holding ..).trans ?_
    simp [variablePrefix]

theorem loadFrom_brimming {capacity : String} {n : UInt64}
    (hn : WritesCount (Text.trim capacity) n)
    (hvalid : ({ registry.capacity := n } : Config).validate = .ok ()) :
    ConfigLoader.loadFrom (.brimming capacity) Host.heldPath =
      .ok { path? := some Host.heldPath, config := { registry.capacity := n } } := by
  have hread : (Host.brimming capacity).readConfig Host.heldPath = .ok {} :=
    readConfig_holding _ _ (by decide)
  have hreplaces : (Host.brimming capacity).Replaces {} { registry.capacity := n } :=
    ⟨_, brimming_given hn, rfl⟩
  rw [ConfigLoader.loadFrom_of_readConfig hread, settled_ok_iff.mpr ⟨hreplaces, hvalid⟩]
  rfl

theorem canWrite_held : ({} : Host).CanWrite Host.heldPath :=
  ⟨_, "", _, makeDirectoryAbove_held, writeText_held ""⟩

/-- The largest integer of a document, as a capacity. -/
theorem writes_largest : WritesCount (Text.trim "9223372036854775807") 9223372036854775807 := by
  have hread : boundedNatural? Config.maxCount (Text.trim "9223372036854775807") =
      some (9223372036854775807 : UInt64).toNat := by
    decide
  exact (boundedNatural?_eq_some.mp hread).1

theorem writes_overLargest :
    WritesCount (Text.trim "9223372036854775808") 9223372036854775808 := by
  have hread : boundedNatural? Config.maxCount (Text.trim "9223372036854775808") =
      some (9223372036854775808 : UInt64).toNat := by
    decide
  exact (boundedNatural?_eq_some.mp hread).1

/-- With the largest integer as its capacity, what is loaded can be saved. -/
theorem brimful_saved :
    let l : ConfigLoader :=
      { path? := some Host.heldPath, config := { registry.capacity := 9223372036854775807 } }
    ConfigLoader.loadFrom (.brimming "9223372036854775807") Host.heldPath = .ok l ∧
      ({} : Host).CanWrite Host.heldPath ∧ (l.saveTo {} Host.heldPath).1 = .ok () := by
  intro l
  have hload := loadFrom_brimming writes_largest rfl
  have hnone := ((brimming_given writes_largest).countsFit_iff Config.countsFit_default).mp (by
    simp only [Config.CountsFit]
    decide)
  exact ⟨hload, canWrite_held, (ConfigLoader.saveTo_of_loadFrom hload canWrite_held).1.mpr hnone⟩

/-- With one more, it cannot. -/
theorem overfull_unsaved :
    let l : ConfigLoader :=
      { path? := some Host.heldPath, config := { registry.capacity := 9223372036854775808 } }
    ConfigLoader.loadFrom (.brimming "9223372036854775808") Host.heldPath = .ok l ∧
      ({} : Host).CanWrite Host.heldPath ∧
      (l.saveTo {} Host.heldPath).1 = .error .unencodable := by
  intro l
  refine ⟨loadFrom_brimming writes_overLargest rfl, canWrite_held, ?_⟩
  have hnone : l.config.toToml?.isSome = false := by decide
  exact (writeConfig_of_canWrite canWrite_held l.config).trans (by rw [hnone]; rfl)

end SerialLine
