import SerialLine.Proofs.Config.Overlay

/-!
# SerialLine.Proofs.Config.Defaults — the defaults under an environment

Where no file is read, the defaults stand in its place, and the environment replaces values of them.
What can be read of an environment may be less than what it sets: `Host.Salvages` is a configuration
with every value that can be read put in place, and the others left as they were. That is what one
gets if all variables can be read and the result is valid; one variable that cannot be read, or one
invalid value, and the defaults themselves are the configuration (`withDefaults_all_or_none`).
-/

namespace SerialLine

/-! ## What can be read of an environment -/

/-- A variable gives a value, or nothing that can be read. -/
def Host.GivesReadable {α : Type} (h : Host) (name : String) (Means : String → α → Prop) :
    Option α → Prop
  | none => ∀ text, h.setting? name = some text → ∀ v, ¬Means (Text.trim text) v
  | some v => ∃ text, h.setting? name = some text ∧ Means (Text.trim text) v

/-- These are the values of an environment that can be read, and there are no others. -/
structure Replacements.SalvagedFrom (r : Replacements) (h : Host) : Prop where
  registryCapacity : h.GivesReadable "REGISTRY_CAPACITY" WritesCount r.registryCapacity
  readChunkSize : h.GivesReadable "LISTENER_READ_CHUNK_SIZE" WritesCount r.readChunkSize
  linePollIntervalMs :
    h.GivesReadable "LISTENER_LINE_POLL_INTERVAL_MS" WritesCount r.linePollIntervalMs
  pollIntervalMs : h.GivesReadable "MONITOR_POLL_INTERVAL_MS" WritesCount r.pollIntervalMs
  monitorCapacity : h.GivesReadable "MONITOR_CAPACITY" WritesCount r.monitorCapacity
  baud : h.GivesReadable "DEFAULTS_BAUD" WritesRate r.baud
  exclusive : h.GivesReadable "DEFAULTS_EXCLUSIVE" WritesTruth r.exclusive
  level : h.setting? "LOGGING_LEVEL" = r.level
  format : h.GivesReadable "LOGGING_FORMAT" NamesFormat r.format

/-- The environment of a host makes one configuration of another, where what cannot be read is left
out. -/
def Host.Salvages (h : Host) (f c : Config) : Prop :=
  ∃ r : Replacements, r.SalvagedFrom h ∧ c = r.over f

section

variable {α : Type} {h : Host} {name what : String} {Means : String → α → Prop} {v? : Option α}

theorem exists_givesReadable (h : Host) (name : String) (Means : String → α → Prop) :
    ∃ v?, h.GivesReadable name Means v? := by
  by_cases hsome : ∃ text v, h.setting? name = some text ∧ Means (Text.trim text) v
  · obtain ⟨text, v, hset, hmeans⟩ := hsome
    exact ⟨some v, text, hset, hmeans⟩
  · refine ⟨none, ?_⟩
    intro text hset v hmeans
    exact hsome ⟨text, v, hset, hmeans⟩

/-- A value that an environment gives can be read. -/
theorem Host.Gives.readable (hgives : h.Gives name Means v?) : h.GivesReadable name Means v? := by
  cases v? with
  | none =>
    intro text hset
    have hunset : h.setting? name = none := hgives
    rw [hunset] at hset
    cases hset
  | some v => exact hgives

/-- Where a variable can be read, what can be read of it is what it gives. -/
theorem Host.GivesReadable.gives (hread : h.CanRead (.meaning name what Means))
    (hgives : h.GivesReadable name Means v?) : h.Gives name Means v? := by
  cases v? with
  | none =>
    show h.setting? name = none
    cases hset : h.setting? name with
    | none => rfl
    | some text =>
      obtain ⟨v, hmeans⟩ := hread text hset
      exact (hgives text hset v hmeans).elim
  | some v => exact hgives

end

namespace Replacements

variable {r : Replacements} {h : Host}

theorem exists_salvagedFrom (h : Host) : ∃ r : Replacements, r.SalvagedFrom h := by
  obtain ⟨registryCapacity, h₁⟩ := exists_givesReadable h "REGISTRY_CAPACITY" WritesCount
  obtain ⟨readChunkSize, h₂⟩ := exists_givesReadable h "LISTENER_READ_CHUNK_SIZE" WritesCount
  obtain ⟨linePollIntervalMs, h₃⟩ :=
    exists_givesReadable h "LISTENER_LINE_POLL_INTERVAL_MS" WritesCount
  obtain ⟨pollIntervalMs, h₄⟩ := exists_givesReadable h "MONITOR_POLL_INTERVAL_MS" WritesCount
  obtain ⟨monitorCapacity, h₅⟩ := exists_givesReadable h "MONITOR_CAPACITY" WritesCount
  obtain ⟨baud, h₆⟩ := exists_givesReadable h "DEFAULTS_BAUD" WritesRate
  obtain ⟨exclusive, h₇⟩ := exists_givesReadable h "DEFAULTS_EXCLUSIVE" WritesTruth
  obtain ⟨format, h₈⟩ := exists_givesReadable h "LOGGING_FORMAT" NamesFormat
  exact ⟨⟨registryCapacity, readChunkSize, linePollIntervalMs, pollIntervalMs, monitorCapacity,
    baud, exclusive, h.setting? "LOGGING_LEVEL", format⟩, ⟨h₁, h₂, h₃, h₄, h₅, h₆, h₇, rfl, h₈⟩⟩

theorem GivenBy.salvagedFrom (given : r.GivenBy h) : r.SalvagedFrom h where
  registryCapacity := given.registryCapacity.readable
  readChunkSize := given.readChunkSize.readable
  linePollIntervalMs := given.linePollIntervalMs.readable
  pollIntervalMs := given.pollIntervalMs.readable
  monitorCapacity := given.monitorCapacity.readable
  baud := given.baud.readable
  exclusive := given.exclusive.readable
  level := given.level
  format := given.format.readable

theorem SalvagedFrom.givenBy (salvaged : r.SalvagedFrom h)
    (hread : ∀ v ∈ Variable.inOrder, h.CanRead v) : r.GivenBy h := by
  simp only [Variable.inOrder, List.forall_mem_cons] at hread
  obtain ⟨h₁, h₂, h₃, h₄, h₅, h₆, h₇, h₈, -⟩ := hread
  exact {
    registryCapacity := salvaged.registryCapacity.gives h₁
    readChunkSize := salvaged.readChunkSize.gives h₂
    linePollIntervalMs := salvaged.linePollIntervalMs.gives h₃
    pollIntervalMs := salvaged.pollIntervalMs.gives h₄
    monitorCapacity := salvaged.monitorCapacity.gives h₅
    baud := salvaged.baud.gives h₆
    exclusive := salvaged.exclusive.gives h₇
    level := salvaged.level
    format := salvaged.format.gives h₈ }

end Replacements

/-! ## The configuration without a file -/

theorem Config.validate_default : Config.validate {} = .ok () := rfl

namespace ConfigLoader

variable {h : Host} {d : Config}

/-- The configuration without a file is the one that settles, if there is one. -/
theorem withDefaults_of_settled (hd : Config.settled h.lookupVariable {} = .ok d) :
    (withDefaults h).config = d := by
  rw [withDefaults, hd]
  rfl

theorem withDefaults_of_not_settled
    (hd : ∀ d, Config.settled h.lookupVariable {} ≠ .ok d) : (withDefaults h).config = {} := by
  rw [withDefaults]
  cases hsettled : Config.settled h.lookupVariable {} with
  | error e => rfl
  | ok d => exact (hd d hsettled).elim

/-- One variable that cannot be read takes all others with it. -/
theorem withDefaults_of_unreadable {v : Variable} (hv : v ∈ Variable.inOrder)
    (bad : ¬h.CanRead v) : (withDefaults h).config = {} := by
  apply withDefaults_of_not_settled
  intro d hsettled
  obtain ⟨hreplaces, -⟩ := settled_ok_iff.mp hsettled
  have hall : ∀ v ∈ Variable.inOrder, h.CanRead v := exists_replaces_iff.mp ⟨d, hreplaces⟩
  exact bad (hall v hv)

theorem withDefaults_valid (h : Host) : (withDefaults h).config.validate = .ok () := by
  cases hsettled : Config.settled h.lookupVariable {} with
  | error e =>
    have hnone : ∀ d, Config.settled h.lookupVariable {} ≠ .ok d := by
      intro d hd
      rw [hsettled] at hd
      cases hd
    rw [withDefaults_of_not_settled hnone]
    exact Config.validate_default
  | ok d =>
    rw [withDefaults_of_settled hsettled]
    exact (settled_ok_iff.mp hsettled).2

/-- The configuration without a file is the defaults with all that can be read of the environment,
if that is all that the environment sets and the result is valid. Otherwise it is the defaults as
they are, whatever else could be read. It is valid in every case. -/
theorem withDefaults_all_or_none (h : Host) :
    (∃ d, h.Salvages {} d) ∧
    (∀ d, h.Salvages {} d →
      ((∀ v ∈ Variable.inOrder, h.CanRead v) ∧ d.validate = .ok () →
        (withDefaults h).config = d) ∧
      (¬((∀ v ∈ Variable.inOrder, h.CanRead v) ∧ d.validate = .ok ()) →
        (withDefaults h).config = {})) ∧
    (withDefaults h).path? = none ∧ (withDefaults h).config.validate = .ok () := by
  refine ⟨?_, ?_, rfl, withDefaults_valid h⟩
  · obtain ⟨r, salvaged⟩ := Replacements.exists_salvagedFrom h
    exact ⟨r.over {}, r, salvaged, rfl⟩
  · rintro d ⟨r, salvaged, rfl⟩
    constructor
    · rintro ⟨hread, hvalid⟩
      have hreplaces : h.Replaces {} (r.over {}) := ⟨r, salvaged.givenBy hread, rfl⟩
      exact withDefaults_of_settled (settled_ok_iff.mpr ⟨hreplaces, hvalid⟩)
    · intro hnot
      by_cases hread : ∀ v ∈ Variable.inOrder, h.CanRead v
      · -- all can be read, so what they give is the configuration that is refused
        have given := salvaged.givenBy hread
        apply withDefaults_of_not_settled
        intro d hsettled
        have hover := given.overridden {}
        obtain ⟨hreplaces, hvalid⟩ := settled_ok_iff.mp hsettled
        rw [← overridden_ok_iff, hover] at hreplaces
        rw [← Except.ok.inj hreplaces] at hvalid
        exact hnot ⟨hread, hvalid⟩
      · obtain ⟨v, hv, bad⟩ : ∃ v ∈ Variable.inOrder, ¬h.CanRead v := by simpa using hread
        exact withDefaults_of_unreadable hv bad

/-- Where all can be read, the defaults are replaced: the file of that host is not looked at. -/
theorem replacing_defaults :
    let d : Config := { registry.capacity := 5, logging.level := " debug " }
    Host.replacing.Salvages {} d ∧ (∀ v ∈ Variable.inOrder, Host.replacing.CanRead v) ∧
      d.validate = .ok () ∧ (withDefaults Host.replacing).config = d := by
  intro d
  have hsalvages : Host.replacing.Salvages {} d := ⟨_, replacing_given.salvagedFrom, rfl⟩
  have hreplaces : Host.replacing.Replaces {} d := ⟨_, replacing_given, rfl⟩
  have hread : ∀ v ∈ Variable.inOrder, Host.replacing.CanRead v :=
    exists_replaces_iff.mp ⟨d, hreplaces⟩
  have hvalid : d.validate = .ok () := rfl
  have hall := (withDefaults_all_or_none Host.replacing).2.1 d hsalvages
  exact ⟨hsalvages, hread, hvalid, hall.1 ⟨hread, hvalid⟩⟩

end ConfigLoader

/-! ### One good variable and one bad -/

/-- A host whose environment sets one capacity to a number and another to a word. -/
def Host.halfReadable : Host :=
  .holding "" [("SERIAL_CORE_REGISTRY_CAPACITY", "5"), ("SERIAL_CORE_MONITOR_CAPACITY", "lots")]

theorem not_writesCount_lots (n : UInt64) : ¬WritesCount (Text.trim "lots") n := by
  intro hwrites
  have hread := boundedNatural?_eq_some.mpr ⟨hwrites, Nat.le_pred_of_lt n.toNat_lt⟩
  have hnone : Decimal.boundedNatural? (UInt64.size - 1) (Text.trim "lots") = none := by decide
  have hsome : Decimal.boundedNatural? (UInt64.size - 1) (Text.trim "lots") = some n.toNat := hread
  rw [hnone] at hsome
  cases hsome

/-- The number is salvaged, and the result is valid; yet it is forgotten with the word. -/
theorem halfReadable_forgotten :
    let d : Config := { registry.capacity := 5 }
    Host.halfReadable.Salvages {} d ∧ d.validate = .ok () ∧
      (ConfigLoader.withDefaults Host.halfReadable).config ≠ d := by
  intro d
  have hset (name : String) : Host.halfReadable.setting? name = _ := setting?_holding _ _ name
  have hunset {α : Type} {name : String} {Means : String → α → Prop}
      (h : Host.halfReadable.setting? name = none) :
      Host.halfReadable.GivesReadable name Means none := Host.Gives.readable h
  have hfive : WritesCount (Text.trim "5") 5 := by
    have hread : Decimal.boundedNatural? Config.maxCount (Text.trim "5") =
        some (5 : UInt64).toNat := by decide
    exact (boundedNatural?_eq_some.mp hread).1
  have hlots : Host.halfReadable.setting? "MONITOR_CAPACITY" = some "lots" := by
    rw [hset]
    decide
  have hsalvaged : ({ registryCapacity := some 5 } : Replacements).SalvagedFrom
      Host.halfReadable := by
    refine ⟨⟨"5", ?_, hfive⟩, hunset ?_, hunset ?_, hunset ?_, ?_, hunset ?_, hunset ?_, ?_,
      hunset ?_⟩
    case refine_5 =>
      intro text htext n
      rw [hlots] at htext
      obtain rfl := Option.some.inj htext
      exact not_writesCount_lots n
    all_goals
      rw [hset]
      decide
  refine ⟨⟨_, hsalvaged, rfl⟩, rfl, ?_⟩
  have hbad : ¬Host.halfReadable.CanRead (.meaning "MONITOR_CAPACITY" "capacity" WritesCount) := by
    intro hread
    obtain ⟨n, hn⟩ := hread "lots" hlots
    exact not_writesCount_lots n hn
  rw [ConfigLoader.withDefaults_of_unreadable (by simp [Variable.inOrder]) hbad]
  decide

end SerialLine
