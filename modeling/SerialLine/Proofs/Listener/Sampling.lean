import Mathlib.Data.List.Basic
import SerialLine.Proofs.Listener.Threads

/-!
# SerialLine.Proofs.Listener.Sampling — samples and the changes among them

What can be seen of a sampling thread from outside are its samples, the timeouts of its waits and
the waits that failed. `SampleLog` is a record of them since the thread was created, and
`SampleLoop.Seen` says what each step of the loop adds to it.

`SampleLoop.Faithful` relates the record to the point that the thread is at, to what it has told
its starter and to what it has called its callback with: those are the samples that differ from the
one right before them. It holds of a new thread, and `Faithful.step` says that the loop keeps it.
-/

namespace SerialLine

/-! ## Records -/

/-- What can be seen of a sampling thread. -/
inductive SampleMark (α : Type) where
  | sample (outcome : Outcome α)
  | timeout
  | waitFailed (code : Errno)

/-- What is seen of a wait, given the fault that it met. An interruption starts it over. -/
def waitMark {α : Type} : Option Errno → Option (SampleMark α)
  | some code => if code = Errno.EINTR then none else some (.waitFailed code)
  | none => none

/-- What was seen of a sampling thread since it was created. -/
structure SampleLog (α : Type) where
  samples : List (Outcome α) := []
  timeouts : Nat := 0
  /-- The numbers that its waits have failed with. -/
  waitFailures : List Errno := []

/-- What is seen is written down. -/
def SampleLog.note {α : Type} (log : SampleLog α) : Option (SampleMark α) → SampleLog α
  | none => log
  | some (.sample outcome) => { log with samples := log.samples ++ [outcome] }
  | some .timeout => { log with timeouts := log.timeouts + 1 }
  | some (.waitFailed code) => { log with waitFailures := log.waitFailures ++ [code] }

@[simp] theorem SampleLog.note_none {α : Type} (log : SampleLog α) : log.note none = log := rfl

namespace SampleLoop

variable {α : Type} [DecidableEq α]

/-! ## Changes -/

/-- The values that differ from the one right before them. -/
def changes (values : List α) : List α :=
  (values.zip values.tail).filterMap fun (before, now) => if now = before then none else some now

theorem changes_cons (a b : α) (rest : List α) :
    changes (a :: b :: rest) = (if b = a then [] else [b]) ++ changes (b :: rest) := by
  by_cases hsame : b = a <;> simp [changes, hsame]

/-- One more value is a change if it differs from the last one. -/
theorem changes_concat {values : List α} {last : α} (hlast : values.getLast? = some last)
    (now : α) :
    changes (values ++ [now]) = changes values ++ if now = last then [] else [now] := by
  induction values with
  | nil => cases hlast
  | cons a rest ih =>
    cases rest with
    | nil =>
      obtain rfl : a = last := Option.some.inj hlast
      rw [List.singleton_append, changes_cons]
      exact List.append_nil _
    | cons b rest =>
      have hrest : (b :: rest).getLast? = some last := by
        rwa [List.getLast?_cons_cons] at hlast
      rw [List.cons_append, List.cons_append, changes_cons, changes_cons, ← List.cons_append,
        ih hrest, List.append_assoc]

/-! ## What a step shows -/

namespace Point

/-- The change that a thread is about to report. -/
def pending : Point α → List α
  | reporting now => [now]
  | _ => []

/-- The samples that a thread owes for timeouts. -/
def due : Point α → Nat
  | sampling _ => 1
  | _ => 0

/-- The last sample, where a thread remembers one. -/
def last? : Point α → Option α
  | announcing last | head last | waiting last | parked last | resetting last | rechecking last
  | sampling last | reporting last => some last
  | _ => none

/-- Whether a thread has left its loop. -/
def isOver : Point α → Bool
  | leaving | gone => true
  | _ => false

/-- Whether no sample was taken yet. -/
def isFresh : Point α → Bool
  | creating | firstSample => true
  | _ => false

/-- Whether a call of the user's code may hold a thread up here. -/
def mayHold : Point α → Bool
  | firstSample | head _ => true
  | _ => false

omit [DecidableEq α] in
/-- A thread that has left its loop calls no user's code. -/
theorem mayHold_of_isOver {p : Point α} (h : p.isOver = true) : p.mayHold = false := by
  cases p with
  | leaving | gone => rfl
  | _ => cases h

/-- Whether a thread samples here. -/
def isSampling : Point α → Bool
  | firstSample | sampling _ => true
  | _ => false

/-- What is seen of a thread that goes on, given what a sample would give and the fault that a wait
would meet. -/
def mark? (sample : Outcome α) (fault? : Option Errno) : Point α → Option (SampleMark α)
  | firstSample | sampling _ => some (.sample sample)
  | waiting _ => waitMark fault?
  | _ => none

/-- The points between two samples, at which a thread remembers this one. -/
inductive Between (last : α) : Point α → Prop where
  | head : Between last (.head last)
  | waiting : Between last (.waiting last)
  | parked : Between last (.parked last)
  | resetting : Between last (.resetting last)
  | rechecking : Between last (.rechecking last)

end Point

/-- What a thread tells its starter after the first sample. -/
def firstReport : Outcome α → List (Outcome Unit)
  | .ok _ => []
  | .error e => [.error e]

/-- What is seen of a sampling thread on its way between two points, what it tells its starter, and
what it hands to its callback. -/
inductive Seen (rechecks asked : Bool) :
    Point α → Option (SampleMark α) → Point α → List (Outcome Unit) → List α → Prop where
  | still (p : Point α) : Seen rechecks asked p none p [] []
  | created : Seen rechecks asked .creating none .firstSample [] []
  | refused (e : Error) : Seen rechecks asked .creating none .gone [.error e] []
  | panicked : Seen rechecks asked .firstSample none (.dead .starting) [] []
  | first (outcome : Outcome α) : Seen rechecks asked .firstSample (some (.sample outcome))
      (afterFirst outcome) (firstReport outcome) []
  | announced (last : α) : Seen rechecks asked (.announcing last) none (.head last) [.ok ()] []
  | looked (last : α) : Seen rechecks asked (.head last) none (afterHead asked last) [] []
  | entered (last : α) (fault? : Option Errno) : Seen rechecks asked (.waiting last)
      (waitMark fault?) (afterEntry last fault?) [] []
  | woken (last : α) : Seen rechecks asked (.parked last) none (afterWait true last) [] []
  | elapsed (last : α) :
      Seen rechecks asked (.parked last) (some .timeout) (afterWait false last) [] []
  | interrupted (last : α) (code : Errno) : Seen rechecks asked (.parked last)
      (waitMark (some code)) (afterEntry last (some code)) [] []
  | reset (last : α) : Seen rechecks asked (.resetting last) none (afterReset rechecks last) [] []
  | rechecked (last : α) :
      Seen rechecks asked (.rechecking last) none (afterRecheck asked last) [] []
  | sampled (last : α) (outcome : Outcome α) : Seen rechecks asked (.sampling last)
      (some (.sample outcome)) (afterSample last outcome) [] []
  | handed (now : α) {q : Point α} (hq : q = .head now ∨ q = .dead .running) :
      Seen rechecks asked (.reporting now) none q [] [now]
  | left : Seen rechecks asked .leaving none .gone [] []

/-- Nothing is seen any more of a thread that has ended, and it tells nothing. -/
theorem Seen.ended {rechecks asked : Bool} {p q : Point α} {mark? : Option (SampleMark α)}
    {told : List (Outcome Unit)} {handed : List α}
    (h : Seen rechecks asked p mark? q told handed) (hend : p.hasEnded = true) :
    q = p ∧ told = [] := by
  cases h with
  | still => exact ⟨rfl, rfl⟩
  | _ => cases hend

/-- A thread that has left its loop samples nothing and calls nothing any more. -/
theorem Seen.isOver {rechecks asked : Bool} {p q : Point α} {mark? : Option (SampleMark α)}
    {told : List (Outcome Unit)} {handed : List α}
    (h : Seen rechecks asked p mark? q told handed) (hover : p.isOver = true) :
    q.isOver = true ∧ handed = [] := by
  cases h with
  | still => exact ⟨hover, rfl⟩
  | left => exact ⟨rfl, rfl⟩
  | _ => cases hover

/-- A step calls the callback once at most. -/
theorem Seen.reverse_handed {rechecks asked : Bool} {p q : Point α}
    {mark? : Option (SampleMark α)} {told : List (Outcome Unit)} {handed : List α}
    (h : Seen rechecks asked p mark? q told handed) : handed.reverse = handed := by
  cases h <;> rfl

/-! ## The thread and its record -/

/-- How the record of a sampling thread fits the point that it is at, what it has told and what it
has reported. The samples are good ones, but the last may have failed. -/
structure Faithful (asked : Bool) (told : List (Outcome Unit)) (reported : List α)
    (log : SampleLog α) (good : List α) (bad? : Option Error) (p : Point α) : Prop where
  samples : log.samples = good.map .ok ++ (bad?.map .error).toList
  /-- What was reported, and what is about to be, are the changes. -/
  reports : reported ++ p.pending = changes good
  /-- After the first sample there is one for each timeout and no other. -/
  paced : log.samples.tail.length + p.due = log.timeouts
  remembers : ∀ last, p.last? = some last → good.getLast? = some last
  /-- A sample or a wait that fails makes the thread leave its loop. -/
  failed : bad?.isSome = true ∨ log.waitFailures ≠ [] → p.isOver = true
  /-- Nothing else does, but that it is asked to or is not armed. -/
  exits : p.isOver = true →
    asked = true ∨ bad?.isSome = true ∨ log.waitFailures ≠ [] ∨ log.samples = []
  fresh : p.isFresh = true → log.samples = [] ∧ told = []
  /-- No timeout comes before the thread has told how it started. -/
  unarmed : p.lifecycle = .starting → log.timeouts = 0
  started : p.lifecycle ≠ .starting → told ≠ []
  /-- It tells that it is armed after a good sample. -/
  armed : .ok () ∈ told → good ≠ []
  /-- If the first sample has failed, it has told why and ended. -/
  refused : ∀ e, log.samples = [.error e] → told = [.error e] ∧ p = .gone

namespace Faithful

variable {rechecks asked : Bool} {told told' : List (Outcome Unit)} {reported reported' : List α}
  {log : SampleLog α} {good : List α} {bad? : Option Error} {p q : Point α}

/-- Nothing was seen of a new thread. -/
theorem start (asked : Bool) : Faithful asked [] [] ({} : SampleLog α) [] none .creating where
  samples := rfl
  reports := rfl
  paced := rfl
  remembers := nofun
  failed := by simp
  exits := nofun
  fresh _ := ⟨rfl, rfl⟩
  unarmed _ := rfl
  started h := absurd rfl h
  armed := nofun
  refused := nofun

/-- A thread that was asked to end may leave its loop for that. -/
theorem ask {asked' : Bool} (h : Faithful asked told reported log good bad? p)
    (hasked : asked = true → asked' = true) : Faithful asked' told reported log good bad? p :=
  { h with exits := fun hover => (h.exits hover).imp_left hasked }

/-- A thread in its loop has met no failure. -/
theorem unfailed (h : Faithful asked told reported log good bad? p) (hp : p.isOver = false) :
    bad? = none ∧ log.waitFailures = [] ∧ log.samples = good.map .ok := by
  have hnot : ¬ (bad?.isSome = true ∨ log.waitFailures ≠ []) := by
    intro hfailed
    rw [h.failed hfailed] at hp
    cases hp
  rw [not_or, Option.not_isSome_iff_eq_none, not_not] at hnot
  obtain ⟨rfl, hfailures⟩ := hnot
  exact ⟨rfl, hfailures, h.samples.trans (List.append_nil _)⟩

/-- While a thread remembers a sample, the first one has not failed. -/
theorem not_refused {last : α} (h : Faithful asked told reported log good bad? p)
    (hp : p.isOver = false) (hlast : p.last? = some last) (e : Error) :
    log.samples ≠ [.error e] := by
  intro hsamples
  have hgood : (good.map Except.ok : List (Outcome α)).getLast? = some (.ok last) := by
    rw [List.getLast?_map, h.remembers last hlast]
    rfl
  rw [← (h.unfailed hp).2.2, hsamples] at hgood
  cases hgood

/-- A first sample that has failed is the only one. -/
theorem only_of_head {e : Error} (h : Faithful asked told reported log good bad? p)
    (hfirst : log.samples.head? = some (.error e)) : log.samples = [.error e] ∧ good = [] := by
  have hsamples := h.samples
  cases good with
  | cons first rest =>
    rw [hsamples] at hfirst
    cases hfirst
  | nil =>
    cases bad? with
    | none =>
      rw [hsamples] at hfirst
      cases hfirst
    | some e' =>
      rw [hsamples] at hfirst
      cases hfirst
      exact ⟨hsamples, rfl⟩

/-- A step on which nothing is seen and nothing is told, and which does not lead out of the loop
unless the thread is asked to end. -/
theorem goOn (h : Faithful asked told reported log good bad? p)
    (hreports : reported' ++ q.pending = reported ++ p.pending) (hdue : q.due = p.due)
    (hlast : ∀ last, q.last? = some last → p.last? = some last)
    (hover : p.isOver = true → q = .gone)
    (hleft : q.isOver = true → asked = true ∨ p.isOver = true)
    (hfresh : q.isFresh = true → p.isFresh = true)
    (hstage : q.lifecycle = .starting ↔ p.lifecycle = .starting) :
    Faithful asked told reported' log good bad? q where
  samples := h.samples
  reports := hreports.trans h.reports
  paced := by
    rw [hdue]
    exact h.paced
  remembers last hq := h.remembers last (hlast last hq)
  failed hfailed := by
    rw [hover (h.failed hfailed)]
    rfl
  exits hq := (hleft hq).elim .inl h.exits
  fresh hq := h.fresh (hfresh hq)
  unarmed hq := h.unarmed (hstage.mp hq)
  started hq := h.started fun hp => hq (hstage.mpr hp)
  armed := h.armed
  refused e hsamples := by
    obtain ⟨htold, rfl⟩ := h.refused e hsamples
    exact ⟨htold, hover rfl⟩

/-- The waker was refused. -/
theorem refuse (h : Faithful asked told reported log good bad? .creating) (e : Error) :
    Faithful asked (told ++ [.error e]) reported log good bad? .gone where
  samples := h.samples
  reports := h.reports
  paced := h.paced
  remembers := nofun
  failed _ := rfl
  exits _ := .inr (.inr (.inr (h.fresh rfl).1))
  fresh := nofun
  unarmed := nofun
  started _ := by simp
  armed := by
    intro htold
    rw [(h.fresh rfl).2] at htold
    simp at htold
  refused := by
    intro e' hsamples
    rw [(h.fresh rfl).1] at hsamples
    cases hsamples

/-- The first sample was taken. -/
theorem sampleFirst (h : Faithful asked told reported log good bad? .firstSample)
    (outcome : Outcome α) : ∃ good' bad?', Faithful asked (told ++ firstReport outcome) reported
      (log.note (some (.sample outcome))) good' bad?' (afterFirst outcome) := by
  obtain ⟨hnone, rfl⟩ := h.fresh rfl
  obtain ⟨rfl, hfailures, hgood⟩ := h.unfailed rfl
  have htimeouts : log.timeouts = 0 := h.unarmed rfl
  -- there was no sample, so there was no change
  obtain rfl : good = [] := by simpa [hnone] using hgood
  obtain rfl : reported = [] := by simpa [Point.pending, changes] using h.reports
  cases outcome with
  | ok first =>
    refine ⟨[first], none, ?_⟩
    constructor <;>
      simp [SampleLog.note, hnone, hfailures, htimeouts, changes, firstReport, afterFirst,
        Point.pending, Point.due, Point.last?, Point.isOver, Point.isFresh, Point.lifecycle]
  | error e =>
    refine ⟨[], some e, ?_⟩
    constructor <;>
      simp [SampleLog.note, hnone, hfailures, htimeouts, changes, firstReport, afterFirst,
        Point.pending, Point.due, Point.last?, Point.isOver, Point.isFresh, Point.lifecycle]

/-- The thread tells that it is armed. -/
theorem announce {last : α} (h : Faithful asked told reported log good bad? (.announcing last)) :
    Faithful asked (told ++ [.ok ()]) reported log good bad? (.head last) where
  samples := h.samples
  reports := h.reports
  paced := h.paced
  remembers := h.remembers
  failed hfailed := absurd (h.failed hfailed) nofun
  exits := nofun
  fresh := nofun
  unarmed := nofun
  started _ := by simp
  armed _ := by
    rintro rfl
    cases h.remembers last rfl
  refused e hsamples := absurd hsamples (h.not_refused rfl rfl e)

/-- An interval is over, so a sample is due. -/
theorem timeOut {last : α} (h : Faithful asked told reported log good bad? (.parked last)) :
    Faithful asked told reported (log.note (some .timeout)) good bad? (.sampling last) where
  samples := h.samples
  reports := h.reports
  paced := congrArg (· + 1) h.paced
  remembers := h.remembers
  failed hfailed := absurd (h.failed hfailed) nofun
  exits := nofun
  fresh := nofun
  unarmed := nofun
  started _ := h.started nofun
  armed := h.armed
  refused e hsamples := absurd hsamples (h.not_refused rfl rfl e)

section Between

variable {last : α} (h : Faithful asked told reported log good bad? p) (hp : p.Between last)

include h hp

/-- Between two samples a thread may go round its loop as it likes. -/
theorem round (hq : q.Between last) : Faithful asked told reported log good bad? q := by
  have hstage : q.lifecycle = .starting ↔ p.lifecycle = .starting := by
    cases hp <;> cases hq <;> exact iff_of_false nofun nofun
  have hlast : ∀ a, q.last? = some a → p.last? = some a := by
    cases hp <;> cases hq <;> exact fun _ => id
  refine h.goOn ?_ ?_ hlast ?_ ?_ ?_ hstage
  · cases hp <;> cases hq <;> rfl
  · cases hp <;> cases hq <;> rfl
  · cases hp <;> exact nofun
  · cases hq <;> exact nofun
  · cases hq <;> exact nofun

/-- It leaves when it is asked to. -/
theorem leave (hasked : asked = true) : Faithful asked told reported log good bad? .leaving := by
  refine h.goOn ?_ ?_ nofun ?_ (fun _ => .inl hasked) nofun ?_
  · cases hp <;> rfl
  · cases hp <;> rfl
  · cases hp <;> exact nofun
  · cases hp <;> exact iff_of_false nofun nofun

/-- A wait that fails makes it leave as well. -/
theorem failWait (code : Errno) :
    Faithful asked told reported (log.note (some (.waitFailed code))) good bad? .leaving where
  samples := h.samples
  reports := by
    rw [← h.reports]
    cases hp <;> rfl
  paced := by
    have hpaced := h.paced
    cases hp <;> exact hpaced
  remembers := nofun
  failed _ := rfl
  exits _ := .inr (.inr (.inl (by simp [SampleLog.note])))
  fresh := nofun
  unarmed := nofun
  started _ := by
    refine h.started ?_
    cases hp <;> exact nofun
  armed := h.armed
  refused e hsamples := by
    obtain ⟨-, rfl⟩ := h.refused e hsamples
    cases hp

/-- A wait begins, starts over, or fails. -/
theorem wait (fault? : Option Errno) : Faithful asked told reported (log.note (waitMark fault?))
    good bad? (afterEntry last fault?) := by
  cases fault? with
  | none => exact h.round hp .parked
  | some code =>
    by_cases hint : code = Errno.EINTR
    · simpa [waitMark, afterEntry, hint] using h.round hp .waiting
    · simpa [waitMark, afterEntry, hint] using h.failWait hp code

end Between

/-- The sample of a timeout was taken. -/
theorem sampleNext {last : α} (h : Faithful asked told reported log good bad? (.sampling last))
    (outcome : Outcome α) : ∃ good' bad?', Faithful asked told reported
      (log.note (some (.sample outcome))) good' bad?' (afterSample last outcome) := by
  obtain ⟨rfl, hfailures, hsamples⟩ := h.unfailed rfl
  have hlast : good.getLast? = some last := h.remembers last rfl
  have hreports : reported = changes good := by simpa [Point.pending] using h.reports
  have hpaced : log.samples.tail.length + 1 = log.timeouts := h.paced
  have htold : told ≠ [] := h.started nofun
  have hgood : good ≠ [] := by
    rintro rfl
    cases hlast
  have hsome : log.samples ≠ [] := by simpa [hsamples] using hgood
  -- the new sample is not the first one
  have hnext : (log.samples ++ [outcome]).tail.length = log.timeouts := by
    rw [List.tail_append_of_ne_nil hsome, List.length_append, ← hpaced]
    rfl
  have hnot : ∀ e, log.samples ++ [outcome] ≠ [.error e] := by
    intro e hone
    have hlen := congrArg List.length hone
    rw [List.length_append, List.length_singleton, List.length_singleton] at hlen
    exact hsome (List.length_eq_zero_iff.mp (Nat.add_right_cancel hlen))
  cases outcome with
  | error e =>
    refine ⟨good, some e, ?_⟩
    exact
      { samples := by rw [← hsamples]; rfl
        reports := h.reports
        paced := hnext
        remembers := nofun
        failed := fun _ => rfl
        exits := fun _ => .inr (.inl rfl)
        fresh := nofun
        unarmed := nofun
        started := fun _ => htold
        armed := fun _ => hgood
        refused := fun e hone => absurd hone (hnot e) }
  | ok now =>
    refine ⟨good ++ [now], none, ?_⟩
    -- where it goes, it remembers the new sample, and reports it if it is a change
    have hq : (afterSample last (.ok now)).pending = (if now = last then [] else [now]) ∧
        (afterSample last (.ok now)).due = 0 ∧ (afterSample last (.ok now)).last? = some now ∧
        (afterSample last (.ok now)).isOver = false ∧
        (afterSample last (.ok now)).isFresh = false ∧
        (afterSample last (.ok now)).lifecycle = .running := by
      by_cases hsame : now = last
      · subst hsame
        simp [afterSample, Point.pending, Point.due, Point.last?, Point.isOver, Point.isFresh,
          Point.lifecycle]
      · simp [afterSample, hsame, Point.pending, Point.due, Point.last?, Point.isOver,
          Point.isFresh, Point.lifecycle]
    generalize afterSample last (.ok now) = q at hq
    obtain ⟨hpending, hdue, hremembers, hover, hfresh, hstage⟩ := hq
    exact
      { samples := by simp [SampleLog.note, hsamples]
        reports := by rw [hpending, hreports, changes_concat hlast]
        paced := by rw [hdue]; exact hnext
        remembers := by
          intro last' hlast'
          obtain rfl := Option.some.inj (hremembers.symm.trans hlast')
          exact List.getLast?_concat
        failed := by simp [SampleLog.note, hfailures]
        exits := fun hleft => absurd (hover.symm.trans hleft) Bool.false_ne_true
        fresh := fun hnew => absurd (hfresh.symm.trans hnew) Bool.false_ne_true
        unarmed := by
          rw [hstage]
          intro hstarting
          cases hstarting
        started := fun _ => htold
        armed := by simp
        refused := fun e hone => absurd hone (hnot e) }

/-- Each step of the loop fits the record that it leaves. -/
theorem step {mark? : Option (SampleMark α)} {handed : List α}
    (h : Faithful asked told reported log good bad? p)
    (hseen : Seen rechecks asked p mark? q told' handed) :
    ∃ good' bad?', Faithful asked (told ++ told') (reported ++ handed) (log.note mark?) good' bad?'
      q := by
  -- on most steps nothing is told and nothing is reported
  have hquiet : ∀ {log' q}, Faithful asked told reported log' good bad? q →
      ∃ good' bad?', Faithful asked (told ++ []) (reported ++ []) log' good' bad?' q := by
    intro log' q h
    rw [List.append_nil, List.append_nil]
    exact ⟨good, bad?, h⟩
  cases hseen with
  | still => exact hquiet h
  | created =>
    exact hquiet (h.goOn rfl rfl nofun nofun nofun (fun _ => rfl) (iff_of_true rfl rfl))
  | refused e =>
    rw [List.append_nil]
    exact ⟨good, bad?, h.refuse e⟩
  | panicked => exact hquiet (h.goOn rfl rfl nofun nofun nofun nofun (iff_of_true rfl rfl))
  | first outcome =>
    rw [List.append_nil]
    exact h.sampleFirst outcome
  | announced last =>
    rw [List.append_nil]
    exact ⟨good, bad?, h.announce⟩
  | looked last =>
    cases asked with
    | true => exact hquiet (h.leave .head rfl)
    | false => exact hquiet (h.round .head .waiting)
  | entered last fault? => exact hquiet (h.wait .waiting fault?)
  | woken last => exact hquiet (h.round .parked .resetting)
  | elapsed last => exact hquiet h.timeOut
  | interrupted last code => exact hquiet (h.wait .parked (some code))
  | reset last =>
    cases rechecks with
    | true => exact hquiet (h.round .resetting .rechecking)
    | false => exact hquiet (h.round .resetting .head)
  | rechecked last =>
    cases asked with
    | true => exact hquiet (h.leave .rechecking rfl)
    | false => exact hquiet (h.round .rechecking .head)
  | sampled last outcome =>
    rw [List.append_nil, List.append_nil]
    exact h.sampleNext outcome
  | handed now hq =>
    rw [List.append_nil]
    refine ⟨good, bad?, ?_⟩
    rcases hq with rfl | rfl
    · exact h.goOn (List.append_nil _) rfl (fun _ => id) nofun nofun nofun
        (iff_of_false nofun nofun)
    · exact h.goOn (List.append_nil _) rfl nofun nofun nofun nofun (iff_of_false nofun nofun)
  | left =>
    exact hquiet (h.goOn rfl rfl nofun (fun _ => rfl) (fun _ => .inr rfl) nofun
      (iff_of_false nofun nofun))

end Faithful

end SampleLoop

/-! ## Steps of a thread -/

namespace Crew

open SampleLoop

variable {c c' : Crew} {t : ThreadId} {th : Thread}

/-- What is seen of a sampling thread that goes on. -/
theorem stepSampler_seen {α : Type} [DecidableEq α] {p : Point α} {rechecks : Bool}
    {item : α → Item} {sample : Host → Outcome α × (Point α → Body) × Host}
    {body : Point α → Body} (hfree : th.held = false)
    (h : c.stepSampler t th p rechecks item sample body = some c') :
    ∃ th' q told handed, c'.threads = c.threads.set t th' ∧
      c'.delivered = (handed.map item).map (t, ·) ++ c.delivered ∧
      Seen rechecks th.cancelled p (p.mark? (sample c.host).1 (c.host.takeFault .pollWaker).1) q
        told handed ∧
      th'.body = (if p.isSampling then (sample c.host).2.1 q else body q) ∧
      th'.reports = th.reports ++ told ∧ th'.cancelled = th.cancelled ∧
      (th'.held = true → q.mayHold = true) := by
  have hnot : th.held = true → ∀ {P : Prop}, P := by
    intro hheld
    rw [hfree] at hheld
    cases hheld
  have hquiet : th.reports = th.reports ++ [] := (List.append_nil _).symm
  cases p with
  | creating =>
    simp only [stepSampler] at h
    split at h
    · obtain rfl := Option.some.inj h
      exact ⟨_, _, [], [], rfl, rfl, .created, rfl, hquiet, rfl, fun hheld => hnot hheld⟩
    · obtain rfl := Option.some.inj h
      exact ⟨_, _, _, [], rfl, rfl, .refused _, rfl, rfl, rfl, fun hheld => hnot hheld⟩
  | firstSample =>
    obtain rfl := Option.some.inj h
    refine ⟨_, _, _, [], rfl, rfl, .first (sample c.host).1, rfl, ?_, rfl, fun hheld => hnot hheld⟩
    rcases sample c.host with ⟨_ | _, _, _⟩
    · rfl
    · exact hquiet
  | announcing last =>
    obtain rfl := Option.some.inj h
    exact ⟨_, _, _, [], rfl, rfl, .announced last, rfl, rfl, rfl, fun hheld => hnot hheld⟩
  | head last =>
    obtain rfl := Option.some.inj h
    exact ⟨_, _, [], [], rfl, rfl, .looked last, rfl, hquiet, rfl, fun hheld => hnot hheld⟩
  | waiting last =>
    obtain rfl := Option.some.inj h
    exact ⟨_, _, [], [], rfl, rfl, .entered last _, rfl, hquiet, rfl, fun hheld => hnot hheld⟩
  | parked last =>
    simp only [stepSampler] at h
    split at h
    · obtain rfl := Option.some.inj h
      exact ⟨_, _, [], [], rfl, rfl, .woken last, rfl, hquiet, rfl, fun hheld => hnot hheld⟩
    · cases h
  | resetting last =>
    obtain rfl := Option.some.inj h
    exact ⟨_, _, [], [], rfl, rfl, .reset last, rfl, hquiet, rfl, fun hheld => hnot hheld⟩
  | rechecking last =>
    obtain rfl := Option.some.inj h
    exact ⟨_, _, [], [], rfl, rfl, .rechecked last, rfl, hquiet, rfl, fun hheld => hnot hheld⟩
  | sampling last =>
    obtain rfl := Option.some.inj h
    exact ⟨_, _, [], [], rfl, rfl, .sampled last _, rfl, hquiet, rfl, fun hheld => hnot hheld⟩
  | reporting now =>
    obtain rfl := Option.some.inj h
    unfold deliver
    -- the callback returns, panics, or holds the thread up at the head of the loop
    rcases th.callback.call with ⟨callback, _ | _ | _⟩
    · exact ⟨_, _, [], [now], rfl, rfl, .handed now (.inl rfl), rfl, hquiet, rfl,
        fun hheld => hnot hheld⟩
    · exact ⟨_, _, [], [now], rfl, rfl, .handed now (.inr rfl), rfl, hquiet, rfl,
        fun hheld => hnot hheld⟩
    · exact ⟨_, _, [], [now], rfl, rfl, .handed now (.inl rfl), rfl, hquiet, rfl, fun _ => rfl⟩
  | leaving =>
    obtain rfl := Option.some.inj h
    exact ⟨_, _, [], [], rfl, rfl, .left, rfl, hquiet, rfl, fun hheld => hnot hheld⟩
  | gone | dead => cases h

end Crew

end SerialLine
