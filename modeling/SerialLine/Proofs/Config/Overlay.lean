import Mathlib.Data.List.Forall2
import SerialLine.Config.Loader
import SerialLine.Proofs.Text.Utf8

/-!
# SerialLine.Proofs.Config.Overlay — what the environment makes of a configuration

What a variable gives is defined here apart from the code that reads it: a count or a speed in
decimal digits (`WritesNatural`), a truth value or a word. `Replacements` holds one such value for
each variable that is set, and `Replacements.over` puts them in place of a configuration's.

`Config.settled_ok_iff` and `Config.settled_error_iff` say what comes of a configuration under the
environment of a host: the replaced one, if every variable can be read and it is valid; else the
first variable that cannot be read, or else the first fault of the replaced configuration.
-/

namespace SerialLine

open Decimal (isDigit digitsValue boundedNatural?)

/-! ## What a text means -/

/-- A text that is a natural number: digits, perhaps behind a plus sign. -/
def WritesNatural (text : String) (n : Nat) : Prop :=
  ∃ ds : List Char, ds ≠ [] ∧ (∀ c ∈ ds, isDigit c = true) ∧
    (text.toList = ds ∨ text.toList = '+' :: ds) ∧ digitsValue ds = n

/-- A text that is a count. -/
def WritesCount (text : String) (n : UInt64) : Prop := WritesNatural text n.toNat

/-- A text that is a number of bits per second. -/
def WritesRate (text : String) (rate : UInt32) : Prop := WritesNatural text rate.toNat

/-- A text that is a truth value. -/
def WritesTruth (text : String) (b : Bool) : Prop := text = if b then "true" else "false"

/-- A text that names a format, in letters of either case. -/
def NamesFormat (text : String) (f : LogFormat) : Prop :=
  text.toList.map Char.toLower = f.word.toList

/-- There is one way to cut a sign off, since a plus sign is no digit. -/
theorem boundedNatural?_cut (bound : Nat) (text : String) :
    ∃ ds, (text.toList = ds ∨ text.toList = '+' :: ds) ∧
      (∀ digits, (∀ c ∈ digits, isDigit c = true) →
        text.toList = digits ∨ text.toList = '+' :: digits → digits = ds) ∧
      boundedNatural? bound text =
        if ds.isEmpty || !ds.all isDigit then none
        else if digitsValue ds ≤ bound then some (digitsValue ds) else none := by
  have hplus {rest : List Char} (hall : ∀ c ∈ '+' :: rest, isDigit c = true) : False :=
    absurd (hall '+' List.mem_cons_self) (by decide)
  cases htext : text.toList with
  | nil =>
    refine ⟨[], .inl rfl, fun digits _ h => ?_, by simp [boundedNatural?, htext]⟩
    rcases h with rfl | h
    · rfl
    · cases h
  | cons c cs =>
    by_cases hc : c = '+'
    · subst hc
      refine ⟨cs, .inr rfl, fun digits hall h => ?_, by simp [boundedNatural?, htext]⟩
      rcases h with rfl | h
      · exact (hplus hall).elim
      · exact (List.cons.inj h).2.symm
    · refine ⟨c :: cs, .inl rfl, fun digits _ h => ?_, by simp [boundedNatural?, htext, hc]⟩
      rcases h with rfl | h
      · rfl
      · exact (hc (List.cons.inj h).1).elim

theorem boundedNatural?_eq_some {bound n : Nat} {text : String} :
    boundedNatural? bound text = some n ↔ WritesNatural text n ∧ n ≤ bound := by
  obtain ⟨ds, hsign, hcut, heq⟩ := boundedNatural?_cut bound text
  rw [heq]
  constructor
  · intro h
    simp only [Option.ite_none_left_eq_some, Option.ite_none_right_eq_some, Bool.or_eq_true,
      List.isEmpty_iff, Bool.not_eq_true', not_or, Bool.not_eq_false, List.all_eq_true,
      Option.some.injEq] at h
    obtain ⟨⟨hne, hall⟩, hle, rfl⟩ := h
    exact ⟨⟨ds, hne, hall, hsign, rfl⟩, hle⟩
  · rintro ⟨⟨digits, hne, hall, hdigits, rfl⟩, hle⟩
    obtain rfl := hcut digits hall hdigits
    have hwritten : (digits.isEmpty || !digits.all isDigit) = false := by simpa [hne] using hall
    simp [hwritten, hle]

theorem ofText_eq_ok {text : String} {f : LogFormat} :
    (LogFormat.ofText text).toOption = some f ↔ NamesFormat text f := by
  have hlowered (w : String) : String.ofList (text.toList.map Char.toLower) = w ↔
      text.toList.map Char.toLower = w.toList := by
    constructor
    · rintro rfl
      simp
    · intro h
      rw [h, String.ofList_toList]
  unfold NamesFormat LogFormat.ofText
  rw [← hlowered]
  generalize String.ofList (text.toList.map Char.toLower) = lowered
  constructor
  · intro h
    cases hfind : LogFormat.all.find? (·.word == lowered) with
    | none => simp [hfind, Except.toOption] at h
    | some g =>
      obtain rfl : g = f := by simpa [hfind, Except.toOption] using h
      have hword := List.find?_some hfind
      exact (eq_of_beq hword).symm
  · rintro rfl
    cases f <;> rfl

/-! ## What an environment gives -/

/-- The text of a variable, if it is set. -/
def Host.setting? (h : Host) (name : String) : Option String :=
  h.lookupVariable (variablePrefix ++ name)

/-- A variable gives a value, blanks around it left out, or is not set. -/
def Host.Gives {α : Type} (h : Host) (name : String) (Means : String → α → Prop) :
    Option α → Prop
  | none => h.setting? name = none
  | some v => ∃ text, h.setting? name = some text ∧ Means (Text.trim text) v

/-- Values to put in place of a configuration's; what is missing stays. -/
structure Replacements where
  registryCapacity : Option UInt64 := none
  readChunkSize : Option UInt64 := none
  linePollIntervalMs : Option UInt64 := none
  pollIntervalMs : Option UInt64 := none
  monitorCapacity : Option UInt64 := none
  baud : Option UInt32 := none
  exclusive : Option Bool := none
  level : Option String := none
  format : Option LogFormat := none

/-- The configuration with the replacements made. -/
def Replacements.over (r : Replacements) (f : Config) : Config where
  registry.capacity := r.registryCapacity.getD f.registry.capacity
  listener.readChunkSize := r.readChunkSize.getD f.listener.readChunkSize
  listener.linePollIntervalMs := r.linePollIntervalMs.getD f.listener.linePollIntervalMs
  monitor.pollIntervalMs := r.pollIntervalMs.getD f.monitor.pollIntervalMs
  monitor.capacity := r.monitorCapacity.getD f.monitor.capacity
  defaults.exclusive := r.exclusive.getD f.defaults.exclusive
  defaults.port :=
    { f.defaults.port with baud := (r.baud.map Baud.ofRate).getD f.defaults.port.baud }
  logging.level := r.level.getD f.logging.level
  logging.format := r.format.getD f.logging.format

/-- The environment of a host gives these values; the level is taken as it stands. -/
structure Replacements.GivenBy (r : Replacements) (h : Host) : Prop where
  registryCapacity : h.Gives "REGISTRY_CAPACITY" WritesCount r.registryCapacity
  readChunkSize : h.Gives "LISTENER_READ_CHUNK_SIZE" WritesCount r.readChunkSize
  linePollIntervalMs : h.Gives "LISTENER_LINE_POLL_INTERVAL_MS" WritesCount r.linePollIntervalMs
  pollIntervalMs : h.Gives "MONITOR_POLL_INTERVAL_MS" WritesCount r.pollIntervalMs
  monitorCapacity : h.Gives "MONITOR_CAPACITY" WritesCount r.monitorCapacity
  baud : h.Gives "DEFAULTS_BAUD" WritesRate r.baud
  exclusive : h.Gives "DEFAULTS_EXCLUSIVE" WritesTruth r.exclusive
  level : h.setting? "LOGGING_LEVEL" = r.level
  format : h.Gives "LOGGING_FORMAT" NamesFormat r.format

/-- The environment of a host makes one configuration of another. -/
def Host.Replaces (h : Host) (f c : Config) : Prop := ∃ r : Replacements, r.GivenBy h ∧ c = r.over f

/-! ## Variables that cannot be read -/

/-- A variable that must be read: the end of its name, what it should hold, and the texts, without
blanks around them, that hold that. -/
structure Variable where
  name : String
  what : String
  Readable : String → Prop

/-- A variable whose texts mean something. -/
def Variable.meaning {α : Type} (name what : String) (Means : String → α → Prop) : Variable :=
  ⟨name, what, fun text => ∃ v, Means text v⟩

/-- The variables that must be read, in the order in which they are. -/
def Variable.inOrder : List Variable :=
  [.meaning "REGISTRY_CAPACITY" "capacity" WritesCount,
   .meaning "LISTENER_READ_CHUNK_SIZE" "chunk size" WritesCount,
   .meaning "LISTENER_LINE_POLL_INTERVAL_MS" "interval" WritesCount,
   .meaning "MONITOR_POLL_INTERVAL_MS" "interval" WritesCount,
   .meaning "MONITOR_CAPACITY" "capacity" WritesCount,
   .meaning "DEFAULTS_BAUD" "baud rate" WritesRate,
   .meaning "DEFAULTS_EXCLUSIVE" "boolean" WritesTruth,
   .meaning "LOGGING_FORMAT" "log format" NamesFormat]

/-- A variable that is not set, or can be read. -/
def Host.CanRead (h : Host) (v : Variable) : Prop :=
  ∀ text, h.setting? v.name = some text → v.Readable (Text.trim text)

/-- The error for the first of some variables that cannot be read. -/
inductive Host.FirstUnreadable (h : Host) : List Variable → ConfigError → Prop where
  | here {v : Variable} {vs : List Variable} (bad : ¬h.CanRead v) :
      FirstUnreadable h (v :: vs) (.badOverride (variablePrefix ++ v.name) ("invalid " ++ v.what))
  | later {v : Variable} {vs : List Variable} {e : ConfigError} (good : h.CanRead v)
      (more : FirstUnreadable h vs e) : FirstUnreadable h (v :: vs) e

/-! ## Faults -/

/-- The keys that cannot stay as they are, with the reasons, in the order of checking. -/
def Config.faults (c : Config) : List (String × String) :=
  (c.positiveKeys.filter (·.2 == 0)).map (·.1, "must be at least 1") ++
    match c.defaults.port.validate with
    | .ok () => []
    | .error e => [("defaults.port", e.message)]

theorem Config.invalidKey?_eq (c : Config) : c.invalidKey? = c.faults.head? := by
  unfold invalidKey? faults
  rw [← List.head?_filter]
  cases hkeys : c.positiveKeys.filter (·.2 == 0) with
  | nil => cases c.defaults.port.validate <;> rfl
  | cons key more => rfl

theorem Config.validate_ok_iff {c : Config} : c.validate = .ok () ↔ c.faults = [] := by
  rw [validate, invalidKey?_eq]
  cases c.faults with
  | nil => simp
  | cons fault more => simp

theorem Config.validate_error_iff {c : Config} {e : ConfigError} :
    c.validate = .error e ↔ ∃ key message, c.faults.head? = some (key, message) ∧
      e = .invalid key message := by
  rw [validate, invalidKey?_eq]
  cases c.faults with
  | nil => simp
  | cons fault more =>
    obtain ⟨key, message⟩ := fault
    simp [eq_comm]

/-! ## Single replacements -/

/-- What a replacement does: it reads what a text means, and puts that in place of a value. -/
structure Override.Puts {α : Type} (o : Override) (name what : String) (Means : String → α → Prop)
    (put : Option α → Config → Config) : Prop where
  name : o.name = name
  what : o.what = what
  kept (c : Config) : put none c = c
  read {text : String} {v : α} (c : Config) : Means text v → o.apply text c = some (put (some v) c)
  refused {text : String} (c : Config) : (∀ v, ¬Means text v) → o.apply text c = none

section

variable {α : Type} {o : Override} {name what : String} {Means : String → α → Prop}
  {put : Option α → Config → Config}

theorem natural_puts {bound : Nat} {set : Nat → Config → Config} {toNat : α → Nat}
    (hkept : ∀ c, put none c = c) (hset : ∀ v c, set (toNat v) c = put (some v) c)
    (hbound : ∀ v, toNat v ≤ bound) (hrange : ∀ n ≤ bound, ∃ v, toNat v = n) :
    (Override.natural name what bound set).Puts name what
      (fun text v => WritesNatural text (toNat v)) put where
  name := rfl
  what := rfl
  kept := hkept
  read {text v} c hmeans := by
    have hread := boundedNatural?_eq_some.mpr ⟨hmeans, hbound v⟩
    simp [Override.natural, hread, hset]
  refused {text} c hnone := by
    cases hread : boundedNatural? bound text with
    | none => simp [Override.natural, hread]
    | some n =>
      obtain ⟨hwrites, hle⟩ := boundedNatural?_eq_some.mp hread
      obtain ⟨v, rfl⟩ := hrange n hle
      exact (hnone v hwrites).elim

theorem count_puts {set : Nat → Config → Config} {put : Option UInt64 → Config → Config}
    (hkept : ∀ c, put none c = c) (hset : ∀ v c, set (UInt64.toNat v) c = put (some v) c) :
    (Override.natural name what Config.maxCount set).Puts name what WritesCount put :=
  natural_puts hkept hset (fun v => Nat.le_pred_of_lt v.toNat_lt)
    fun n hn => ⟨UInt64.ofNat n, UInt64.toNat_ofNat_of_lt (Nat.lt_of_le_pred (by decide) hn)⟩

theorem rate_puts {set : Nat → Config → Config} {put : Option UInt32 → Config → Config}
    (hkept : ∀ c, put none c = c) (hset : ∀ v c, set (UInt32.toNat v) c = put (some v) c) :
    (Override.natural name what (UInt32.size - 1) set).Puts name what WritesRate put :=
  natural_puts hkept hset (fun v => Nat.le_pred_of_lt v.toNat_lt)
    fun n hn => ⟨UInt32.ofNat n, UInt32.toNat_ofNat_of_lt (Nat.lt_of_le_pred (by decide) hn)⟩

theorem flag_puts {set : Bool → Config → Config} {put : Option Bool → Config → Config}
    (hkept : ∀ c, put none c = c) (hset : ∀ b c, set b c = put (some b) c) :
    (Override.flag name what set).Puts name what WritesTruth put where
  name := rfl
  what := rfl
  kept := hkept
  read {text b} c hmeans := by
    obtain rfl : text = if b then "true" else "false" := hmeans
    cases b <;> simp [Override.flag, hset]
  refused {text} c hnone := by
    have htrue : text ≠ "true" := hnone true
    have hfalse : text ≠ "false" := hnone false
    simp [Override.flag, htrue, hfalse]

section

variable {h : Host} {c : Config} (hputs : o.Puts name what Means put)

include hputs

theorem Override.Puts.run_eq :
    Override.run h.lookupVariable c o =
      match h.setting? name with
      | none => .ok c
      | some text =>
        match o.apply (Text.trim text) c with
        | some c => .ok c
        | none => .error (.badOverride (variablePrefix ++ name) ("invalid " ++ what)) := by
  rw [← hputs.name, ← hputs.what]
  rfl

/-- Where the variable gives a value, or is not set, the replacement is made. -/
theorem Override.Puts.run_ok {c' : Config} :
    Override.run h.lookupVariable c o = .ok c' ↔ ∃ v?, h.Gives name Means v? ∧ c' = put v? c := by
  rw [hputs.run_eq]
  constructor
  · intro hrun
    cases hset : h.setting? name with
    | none =>
      rw [hset] at hrun
      exact ⟨none, hset, by rw [hputs.kept, Except.ok.inj hrun]⟩
    | some text =>
      rw [hset] at hrun
      by_cases hmeans : ∃ v, Means (Text.trim text) v
      · obtain ⟨v, hv⟩ := hmeans
        simp only [hputs.read c hv, Except.ok.injEq] at hrun
        exact ⟨some v, ⟨text, hset, hv⟩, hrun.symm⟩
      · simp [hputs.refused c (not_exists.mp hmeans)] at hrun
  · rintro ⟨v?, hgives, rfl⟩
    cases v? with
    | none =>
      have hset : h.setting? name = none := hgives
      rw [hset, hputs.kept]
    | some v =>
      obtain ⟨text, hset, hv⟩ := hgives
      simp only [hset, hputs.read c hv]

theorem Override.Puts.run_given {v? : Option α} (hgives : h.Gives name Means v?) :
    Override.run h.lookupVariable c o = .ok (put v? c) :=
  hputs.run_ok.mpr ⟨v?, hgives, rfl⟩

/-- Where the variable can be read, the replacement is made. -/
theorem Override.Puts.run_readable (hread : h.CanRead (.meaning name what Means)) :
    ∃ c', Override.run h.lookupVariable c o = .ok c' := by
  cases hset : h.setting? name with
  | none => exact ⟨_, hputs.run_ok.mpr ⟨none, hset, rfl⟩⟩
  | some text =>
    obtain ⟨v, hv⟩ := hread text hset
    exact ⟨_, hputs.run_ok.mpr ⟨some v, ⟨text, hset, hv⟩, rfl⟩⟩

/-- Where it cannot, the error names it. -/
theorem Override.Puts.run_unreadable (hread : ¬h.CanRead (.meaning name what Means)) :
    Override.run h.lookupVariable c o =
      .error (.badOverride (variablePrefix ++ name) ("invalid " ++ what)) := by
  obtain ⟨text, hset, hnone⟩ : ∃ text, h.setting? name = some text ∧
      ¬∃ v, Means (Text.trim text) v := by
    simpa [Host.CanRead, Variable.meaning] using hread
  rw [hputs.run_eq]
  simp only [hset, hputs.refused c (not_exists.mp hnone)]

end

end

/-! ## All replacements -/

/-- A replacement fails exactly where a variable cannot be read. -/
def Override.Needs (o : Override) (v : Variable) : Prop :=
  ∀ (h : Host) (c : Config),
    (h.CanRead v → ∃ c', Override.run h.lookupVariable c o = .ok c') ∧
      (¬h.CanRead v → Override.run h.lookupVariable c o =
        .error (.badOverride (variablePrefix ++ v.name) ("invalid " ++ v.what)))

theorem Override.Puts.needs {α : Type} {o : Override} {name what : String}
    {Means : String → α → Prop} {put : Option α → Config → Config}
    (hputs : o.Puts name what Means put) : o.Needs (.meaning name what Means) :=
  fun _ _ => ⟨hputs.run_readable, hputs.run_unreadable⟩

/-- What each of the replacements does. -/
theorem typed_puts : ∃ o₁ o₂ o₃ o₄ o₅ o₆ o₇ o₈,
    Override.typed = [o₁, o₂, o₃, o₄, o₅, o₆, o₇, o₈] ∧
    o₁.Puts "REGISTRY_CAPACITY" "capacity" WritesCount
      (fun v? c => { c with registry.capacity := v?.getD c.registry.capacity }) ∧
    o₂.Puts "LISTENER_READ_CHUNK_SIZE" "chunk size" WritesCount
      (fun v? c => { c with listener.readChunkSize := v?.getD c.listener.readChunkSize }) ∧
    o₃.Puts "LISTENER_LINE_POLL_INTERVAL_MS" "interval" WritesCount
      (fun v? c => { c with
        listener.linePollIntervalMs := v?.getD c.listener.linePollIntervalMs }) ∧
    o₄.Puts "MONITOR_POLL_INTERVAL_MS" "interval" WritesCount
      (fun v? c => { c with monitor.pollIntervalMs := v?.getD c.monitor.pollIntervalMs }) ∧
    o₅.Puts "MONITOR_CAPACITY" "capacity" WritesCount
      (fun v? c => { c with monitor.capacity := v?.getD c.monitor.capacity }) ∧
    o₆.Puts "DEFAULTS_BAUD" "baud rate" WritesRate
      (fun v? c => { c with
        defaults.port.baud := (v?.map Baud.ofRate).getD c.defaults.port.baud }) ∧
    o₇.Puts "DEFAULTS_EXCLUSIVE" "boolean" WritesTruth
      (fun v? c => { c with defaults.exclusive := v?.getD c.defaults.exclusive }) ∧
    o₈.Puts "LOGGING_FORMAT" "log format" NamesFormat
      (fun v? c => { c with logging.format := v?.getD c.logging.format }) := by
  refine ⟨_, _, _, _, _, _, _, _, rfl, count_puts (fun _ => rfl) ?_, count_puts (fun _ => rfl) ?_,
    count_puts (fun _ => rfl) ?_, count_puts (fun _ => rfl) ?_, count_puts (fun _ => rfl) ?_,
    rate_puts (fun _ => rfl) ?_, flag_puts (fun _ => rfl) ?_, ?format⟩
  case format =>
    exact {
      name := rfl
      what := rfl
      kept := fun _ => rfl
      read := fun c hmeans => by simp [ofText_eq_ok.mpr hmeans]
      refused := fun {text} c hnone => by
        cases hread : (LogFormat.ofText text).toOption with
        | none => simp [hread]
        | some f => exact (hnone f (ofText_eq_ok.mp hread)).elim }
  all_goals
    intros
    simp

theorem bind_eq_ok {ε α β : Type} {x : Except ε α} {f : α → Except ε β} {b : β} :
    x >>= f = .ok b ↔ ∃ a, x = .ok a ∧ f a = .ok b := by
  cases x with
  | error e =>
    constructor
    · intro h
      cases h
    · rintro ⟨a, ha, -⟩
      cases ha
  | ok a =>
    constructor
    · exact fun h => ⟨a, rfl, h⟩
    · rintro ⟨_, ha, h⟩
      cases ha
      exact h

/-- The level is replaced last, and never refused. -/
theorem overridden_eq (h : Host) (f : Config) :
    f.overridden h.lookupVariable =
      Override.typed.foldlM (Override.run h.lookupVariable) f >>= fun c =>
        .ok { c with logging.level := (h.setting? "LOGGING_LEVEL").getD c.logging.level } := by
  unfold Config.overridden
  cases Override.typed.foldlM (Override.run h.lookupVariable) f with
  | error e => rfl
  | ok c =>
    simp only [bind, Except.bind, Host.setting?]
    cases h.lookupVariable (variablePrefix ++ "LOGGING_LEVEL") <;> rfl

/-- Where every variable gives a value, or is not set, all replacements are made. -/
theorem Replacements.GivenBy.overridden {r : Replacements} {h : Host} (given : r.GivenBy h)
    (f : Config) : f.overridden h.lookupVariable = .ok (r.over f) := by
  obtain ⟨o₁, o₂, o₃, o₄, o₅, o₆, o₇, o₈, htyped, h₁, h₂, h₃, h₄, h₅, h₆, h₇, h₈⟩ := typed_puts
  simp only [overridden_eq, htyped, List.foldlM_cons, List.foldlM_nil,
    h₁.run_given given.registryCapacity, h₂.run_given given.readChunkSize,
    h₃.run_given given.linePollIntervalMs, h₄.run_given given.pollIntervalMs,
    h₅.run_given given.monitorCapacity, h₆.run_given given.baud, h₇.run_given given.exclusive,
    h₈.run_given given.format, given.level, bind, Except.bind, pure, Except.pure]
  rfl

theorem exists_given {h : Host} {f c : Config} (hok : f.overridden h.lookupVariable = .ok c) :
    ∃ r : Replacements, r.GivenBy h := by
  obtain ⟨o₁, o₂, o₃, o₄, o₅, o₆, o₇, o₈, htyped, h₁, h₂, h₃, h₄, h₅, h₆, h₇, h₈⟩ := typed_puts
  simp only [overridden_eq, htyped, List.foldlM_cons, List.foldlM_nil, bind_eq_ok, h₁.run_ok,
    h₂.run_ok, h₃.run_ok, h₄.run_ok, h₅.run_ok, h₆.run_ok, h₇.run_ok, h₈.run_ok] at hok
  obtain ⟨_, ⟨_, ⟨registryCapacity, g₁, -⟩, _, ⟨readChunkSize, g₂, -⟩,
    _, ⟨linePollIntervalMs, g₃, -⟩, _, ⟨pollIntervalMs, g₄, -⟩, _, ⟨monitorCapacity, g₅, -⟩,
    _, ⟨baud, g₆, -⟩, _, ⟨exclusive, g₇, -⟩, _, ⟨format, g₈, -⟩, -⟩, -⟩ := hok
  exact ⟨⟨registryCapacity, readChunkSize, linePollIntervalMs, pollIntervalMs, monitorCapacity,
    baud, exclusive, h.setting? "LOGGING_LEVEL", format⟩, ⟨g₁, g₂, g₃, g₄, g₅, g₆, g₇, rfl, g₈⟩⟩

theorem overridden_ok_iff {h : Host} {f c : Config} :
    f.overridden h.lookupVariable = .ok c ↔ h.Replaces f c := by
  constructor
  · intro hok
    obtain ⟨r, given⟩ := exists_given hok
    exact ⟨r, given, Except.ok.inj (hok.symm.trans (given.overridden f))⟩
  · rintro ⟨r, given, rfl⟩
    exact given.overridden f

theorem typed_needs : List.Forall₂ Override.Needs Override.typed Variable.inOrder := by
  obtain ⟨o₁, o₂, o₃, o₄, o₅, o₆, o₇, o₈, htyped, h₁, h₂, h₃, h₄, h₅, h₆, h₇, h₈⟩ := typed_puts
  rw [htyped]
  exact .cons h₁.needs (.cons h₂.needs (.cons h₃.needs (.cons h₄.needs (.cons h₅.needs
    (.cons h₆.needs (.cons h₇.needs (.cons h₈.needs .nil)))))))

/-- Making replacements one after another stops at the first that cannot be read. -/
theorem foldlM_run_error {os : List Override} {vs : List Variable}
    (hneeds : List.Forall₂ Override.Needs os vs) {h : Host} {c : Config} {e : ConfigError} :
    os.foldlM (Override.run h.lookupVariable) c = .error e ↔ h.FirstUnreadable vs e := by
  induction hneeds generalizing c with
  | nil =>
    constructor
    · intro hrun
      cases hrun
    · intro hfirst
      cases hfirst
  | @cons o v os vs hneed _ ih =>
    -- the rest is tried on what this replacement made, which does not matter to what can be read
    rw [List.foldlM_cons]
    by_cases hread : h.CanRead v
    · obtain ⟨c', hrun⟩ := (hneed h c).1 hread
      rw [hrun]
      constructor
      · exact fun hmore => .later hread (ih.mp hmore)
      · intro hfirst
        cases hfirst with
        | here bad => exact (bad hread).elim
        | later good more => exact ih.mpr more
    · rw [(hneed h c).2 hread]
      constructor
      · intro herror
        cases herror
        exact .here hread
      · intro hfirst
        cases hfirst with
        | here bad => rfl
        | later good more => exact (hread good).elim

/-- Some variable cannot be read where one is the first of those. -/
theorem Host.exists_firstUnreadable_iff {h : Host} {vs : List Variable} :
    (∃ e, h.FirstUnreadable vs e) ↔ ∃ v ∈ vs, ¬h.CanRead v := by
  constructor
  · rintro ⟨e, hfirst⟩
    induction hfirst with
    | here bad => exact ⟨_, List.mem_cons_self, bad⟩
    | later _ _ ih =>
      obtain ⟨v, hv, bad⟩ := ih
      exact ⟨v, List.mem_cons_of_mem _ hv, bad⟩
  · rintro ⟨v, hv, bad⟩
    induction vs with
    | nil => cases hv
    | cons u us ih =>
      by_cases hread : h.CanRead u
      · have hne : v ≠ u := by
          rintro rfl
          exact bad hread
        obtain ⟨e, hfirst⟩ := ih (List.mem_of_ne_of_mem hne hv)
        exact ⟨e, .later hread hfirst⟩
      · exact ⟨_, .here hread⟩

theorem overridden_error_iff {h : Host} {f : Config} {e : ConfigError} :
    f.overridden h.lookupVariable = .error e ↔ h.FirstUnreadable Variable.inOrder e := by
  rw [← foldlM_run_error typed_needs, overridden_eq]
  cases Override.typed.foldlM (Override.run h.lookupVariable) f <;> simp [bind, Except.bind]

/-- The environment makes something of a configuration where every variable can be read. -/
theorem exists_replaces_iff {h : Host} {f : Config} :
    (∃ c, h.Replaces f c) ↔ ∀ v ∈ Variable.inOrder, h.CanRead v := by
  have hunread : (∃ e, h.FirstUnreadable Variable.inOrder e) ↔ _ := h.exists_firstUnreadable_iff
  simp only [← overridden_error_iff (f := f)] at hunread
  simp only [← overridden_ok_iff]
  cases hover : f.overridden h.lookupVariable with
  | error e =>
    obtain ⟨v, hv, bad⟩ := hunread.mp ⟨e, hover⟩
    constructor
    · rintro ⟨c, hok⟩
      cases hok
    · exact fun hall => (bad (hall v hv)).elim
  | ok c =>
    refine ⟨fun _ v hv => ?_, fun _ => ⟨c, rfl⟩⟩
    by_contra bad
    obtain ⟨e, herror⟩ := hunread.mpr ⟨v, hv, bad⟩
    rw [hover] at herror
    cases herror

/-! ## What comes of a configuration -/

theorem settled_ok_iff {h : Host} {f c : Config} :
    f.settled h.lookupVariable = .ok c ↔ h.Replaces f c ∧ c.validate = .ok () := by
  rw [← overridden_ok_iff]
  simp only [Config.settled, bind_eq_ok]
  constructor
  · rintro ⟨_, hover, ⟨⟩, hvalid, hsame⟩
    cases hsame
    exact ⟨hover, hvalid⟩
  · rintro ⟨hover, hvalid⟩
    exact ⟨c, hover, (), hvalid, rfl⟩

theorem settled_error_iff {h : Host} {f : Config} {e : ConfigError} :
    f.settled h.lookupVariable = .error e ↔
      h.FirstUnreadable Variable.inOrder e ∨
        ∃ c, h.Replaces f c ∧
          ∃ key message, c.faults.head? = some (key, message) ∧ e = .invalid key message := by
  rw [← overridden_error_iff (f := f)]
  simp only [← overridden_ok_iff, ← Config.validate_error_iff, Config.settled]
  cases hover : f.overridden h.lookupVariable with
  | error e' => simp [bind, Except.bind]
  | ok c => cases hvalid : c.validate <;> simp [bind, Except.bind, pure, Except.pure, hvalid]

namespace ConfigLoader

section

variable {h : Host} {f : Config} {path? : Option Path}

/-- A configuration that settles, with its path. -/
theorem settled_bind_ok_iff {l : ConfigLoader} :
    (f.settled h.lookupVariable >>= fun c => .ok { path?, config := c }) = .ok l ↔
      l.path? = path? ∧ h.Replaces f l.config ∧ l.config.validate = .ok () := by
  rw [← settled_ok_iff, bind_eq_ok]
  constructor
  · rintro ⟨c, hsettled, hl⟩
    cases hl
    exact ⟨rfl, hsettled⟩
  · rintro ⟨rfl, hsettled⟩
    exact ⟨l.config, hsettled, rfl⟩

theorem settled_bind_error_iff {e : ConfigError} :
    (f.settled h.lookupVariable >>= fun c => .ok ({ path?, config := c } : ConfigLoader)) =
        .error e ↔
      h.FirstUnreadable Variable.inOrder e ∨
        ∃ c, h.Replaces f c ∧
          ∃ key message, c.faults.head? = some (key, message) ∧ e = .invalid key message := by
  rw [← settled_error_iff]
  cases f.settled h.lookupVariable <;> simp [bind, Except.bind]

end

/-- A file is loaded by reading it, and settling what it holds. -/
theorem loadFrom_eq (h : Host) (p : Path) :
    loadFrom h p = h.readConfig p >>= fun f => f.settled h.lookupVariable >>= fun c =>
      .ok { path? := some p, config := c } := by
  unfold loadFrom Config.settled
  cases h.readConfig p with
  | error e => rfl
  | ok f =>
    cases hover : f.overridden h.lookupVariable with
    | error e => simp [bind, Except.bind, hover]
    | ok c =>
      cases hvalid : c.validate <;> simp [bind, Except.bind, pure, Except.pure, hover, hvalid]

theorem loadFrom_of_readConfig {h : Host} {p : Path} {f : Config} (hf : h.readConfig p = .ok f) :
    loadFrom h p = f.settled h.lookupVariable >>= fun c =>
      .ok { path? := some p, config := c } := by
  rw [loadFrom_eq, hf]
  rfl

/-- Loading a file that holds a configuration succeeds exactly if every variable can be read and
the replaced configuration is valid, which is then the one that is loaded, whatever the file has
in the places that are replaced. Otherwise the error names the first variable that cannot be read,
or, where all can, the first key that is at fault. -/
theorem loadFrom_overlays {h : Host} {p : Path} {f : Config} (hf : h.readConfig p = .ok f) :
    ((∃ l, loadFrom h p = .ok l) ↔
      (∀ v ∈ Variable.inOrder, h.CanRead v) ∧ ∃ c, h.Replaces f c ∧ c.validate = .ok ()) ∧
    (∀ l, loadFrom h p = .ok l ↔
      l.path? = some p ∧ h.Replaces f l.config ∧ l.config.validate = .ok ()) ∧
    (∀ e, loadFrom h p = .error e ↔
      h.FirstUnreadable Variable.inOrder e ∨
        ∃ c, h.Replaces f c ∧
          ∃ key message, c.faults.head? = some (key, message) ∧ e = .invalid key message) := by
  rw [loadFrom_of_readConfig hf, ← exists_replaces_iff (f := f)]
  refine ⟨?_, fun _ => settled_bind_ok_iff, fun _ => settled_bind_error_iff⟩
  simp only [settled_bind_ok_iff]
  constructor
  · rintro ⟨l, -, hreplaces, hvalid⟩
    exact ⟨⟨_, hreplaces⟩, _, hreplaces, hvalid⟩
  · rintro ⟨-, c, hreplaces, hvalid⟩
    exact ⟨⟨some p, c⟩, rfl, hreplaces, hvalid⟩

end ConfigLoader

/-! ## An example -/

/-- A host with one file in its working directory, and an environment of texts. -/
def Host.holding (text : String) (environment : List (String × String)) : Host where
  files := ⟨[([[0x63]], .file (Bytes.ofText text))]⟩
  environment := environment.map fun e => (e.1, Bytes.ofText e.2)

/-- The path of that file. -/
def Host.heldPath : Path := ⟨[0x63]⟩

theorem steps_heldPath : Host.heldPath.steps = [[0x63]] := by decide

/-- Before there is a file, its name is free. -/
theorem lookup_held_free (purpose : FileTree.Purpose) :
    FileTree.lookup ⟨[]⟩ [] purpose Host.heldPath = .ok (.free [[0x63]]) := by
  rw [FileTree.lookup, if_neg (by decide), if_neg (by decide), if_neg (by decide), steps_heldPath]
  simp [FileTree.walk, FileTree.isDirectory, FileTree.entry?, Path.stay, Path.dot,
    Path.dotDot, FileTree.maxName]

section

variable (text : String) (environment : List (String × String))

theorem find_holding : (Host.holding text environment).files.find [] Host.heldPath =
    .ok ([[0x63]], .file (Bytes.ofText text)) := by
  have hlookup : (Host.holding text environment).files.lookup [] .reach Host.heldPath =
      .ok (.found [[0x63]] (.file (Bytes.ofText text))) := by
    rw [FileTree.lookup, if_neg (by decide), if_neg (by decide), if_neg (by decide),
      steps_heldPath]
    simp [FileTree.walk, FileTree.isDirectory, FileTree.entry?, Host.holding, Path.stay, Path.dot,
      Path.dotDot, FileTree.maxName]
  rw [FileTree.find, hlookup]
  rfl

theorem readText_holding : (Host.holding text environment).readText Host.heldPath = .ok text := by
  have hread : (Host.holding text environment).files.readFile [] Host.heldPath =
      .ok (Bytes.ofText text) := by
    rw [FileTree.readFile, find_holding]
    rfl
  have hzero : ¬Host.heldPath.bytes.contains 0 = true := by decide
  rw [Host.readText, if_neg hzero, show (Host.holding text environment).cwd = [] from rfl, hread]
  simp only [Utf8.decode?_ofText]

theorem setting?_holding (name : String) :
    (Host.holding text environment).setting? name =
      environment.lookup (variablePrefix ++ name) := by
  simp only [Host.setting?, Host.lookupVariable, Host.holding]
  induction environment with
  | nil => rfl
  | cons e rest ih =>
    obtain ⟨n, v⟩ := e
    simp only [List.map_cons, List.lookup_cons]
    cases variablePrefix ++ name == n
    · exact ih
    · exact Utf8.decode?_ofText v

theorem readConfig_holding {f : Config} (hf : Config.ofToml? text = some f) :
    (Host.holding text environment).readConfig Host.heldPath = .ok f := by
  simp only [Host.readConfig, readText_holding, hf]

end

/-- A host whose file has a capacity of zero, which the environment replaces. -/
def Host.replacing : Host :=
  .holding "[registry]\ncapacity = 0\n"
    [("SERIAL_CORE_REGISTRY_CAPACITY", " +5\n"), ("SERIAL_CORE_LOGGING_LEVEL", " debug ")]

theorem replacing_given :
    ({ registryCapacity := some 5, level := some " debug " } : Replacements).GivenBy
      Host.replacing := by
  have hset (name : String) : Host.replacing.setting? name = _ := setting?_holding _ _ name
  have hfive : boundedNatural? Config.maxCount (Text.trim " +5\n") = some (5 : UInt64).toNat := by
    decide
  refine ⟨⟨" +5\n", ?_, (boundedNatural?_eq_some.mp hfive).1⟩, ?_, ?_, ?_, ?_, ?_, ?_, ?_, ?_⟩
  all_goals
    refine (hset _).trans ?_
    decide

/-- A capacity that would be refused does no harm where it is replaced. -/
theorem replacing_overlaid :
    Host.replacing.readConfig Host.heldPath = .ok { registry.capacity := 0 } ∧
      ConfigLoader.loadFrom Host.replacing Host.heldPath =
        .ok { path? := some Host.heldPath
              config := { registry.capacity := 5, logging.level := " debug " } } := by
  have hread : Host.replacing.readConfig Host.heldPath = .ok { registry.capacity := 0 } :=
    readConfig_holding _ _ (by decide)
  exact ⟨hread, ((ConfigLoader.loadFrom_overlays hread).2.1 _).mpr
    ⟨rfl, ⟨_, replacing_given, rfl⟩, Config.validate_ok_iff.mpr (by decide)⟩⟩

end SerialLine
