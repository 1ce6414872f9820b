import SerialLine.Proofs.Listener.Answering
import SerialLine.Proofs.Listener.HangUp
import SerialLine.Proofs.Listener.Sampling

/-!
# SerialLine.Proofs.Listener.Changes — event listeners report the changes of their lines

`Sampling` is any run of a scene from the step that creates the thread of an event listener, with
the record of what was seen of the thread since. Clients, other threads and the system around them
do whatever they can, a stop of the listener included. `Sampling.reports_changes` says that the
callback was called with the changes among the samples and nothing else, that a listener which has
left its loop is done, and that a call whose first sample failed has no other end than this failure.
-/

namespace SerialLine

open SampleLoop

/-! ## What events show -/

/-- The samples that a scripted device counts. -/
def LineSource.counted? (source : LineSource) : Option Nat := source.script?.map (·.lineReads)

/-- The samples that a mark stands for. -/
def SampleMark.count {α : Type} : Option (SampleMark α) → Nat
  | some (.sample _) => 1
  | _ => 0

theorem SampleLog.length_note {α : Type} (log : SampleLog α) (mark? : Option (SampleMark α)) :
    (log.note mark?).samples.length = log.samples.length + SampleMark.count mark? := by
  rcases mark? with _ | _ | _ | _
  · rfl
  · exact List.length_append
  · rfl
  · rfl

theorem SampleMark.count_waitMark {α : Type} (fault? : Option Errno) :
    count (waitMark fault? : Option (SampleMark α)) = 0 := by
  cases fault? with
  | none => rfl
  | some code => by_cases hint : code = Errno.EINTR <;> simp [waitMark, hint, count]

theorem SampleLoop.Point.count_mark? {α : Type} (sample : Outcome α) (fault? : Option Errno)
    (p : Point α) : SampleMark.count (p.mark? sample fault?) = if p.isSampling then 1 else 0 := by
  cases p with
  | waiting => exact SampleMark.count_waitMark fault?
  | _ => rfl

/-- A scripted device counts every sample. -/
theorem ScriptedDevice.sampleLines_counts (d : ScriptedDevice) :
    d.sampleLines.2.lineReads = d.lineReads + 1 := by
  unfold sampleLines
  dsimp only
  split <;> rfl

namespace Crew

/-- What an event shows of an event listener. -/
def mark? (t : ThreadId) (c : Crew) (e : Event) : Option (SampleMark LineStatus) :=
  if e.thread = t then
    match e, c.place? t with
    | .step _, some (fd, .event p source) =>
      -- the user's source may do something else than return for the first sample
      if p = .firstSample → source.onFirst? = none then
        p.mark? (sampleSource fd source c.host).1 (c.host.takeFault .pollWaker).1
      else none
    | .elapse _, some (_, .event (.parked _) _) => some .timeout
    | .fail _ code, some (_, .event (.parked _) _) => waitMark (some code)
    | _, _ => none
  else none

/-- What a thread has called its callback with. -/
def itemsOf (t : ThreadId) (c : Crew) : List Item :=
  (c.delivered.filter (·.1 = t)).reverse.map (·.2)

variable {c c' : Crew} {t u : ThreadId} {th : Thread} {p : SampleLoop.Point LineStatus}
  {source : LineSource}

theorem sampleSource_counted (fd : Fd) (source : LineSource) (host : Host) :
    (sampleSource fd source host).2.1.counted? = source.counted?.map (· + 1) := by
  unfold sampleSource
  cases hscript : source.script? with
  | some d => simp [LineSource.counted?, hscript, d.sampleLines_counts]
  | none => simp [LineSource.counted?, hscript]

/-- The calls of a thread come after those that it has made before. -/
theorem itemsOf_append {items : List Item} (hdel : c'.delivered = items.map (t, ·) ++ c.delivered) :
    c'.itemsOf t = c.itemsOf t ++ items.reverse := by
  have hown : (items.map (t, ·)).filter (fun x => decide (x.1 = t)) = items.map (t, ·) := by
    rw [List.filter_eq_self]
    intro x hx
    obtain ⟨item, -, rfl⟩ := List.mem_map.mp hx
    exact decide_eq_true rfl
  have hitems : ((items.map (t, ·)).reverse.map (·.2)) = items.reverse := by
    rw [← List.map_reverse, List.map_map]
    exact List.map_id _
  rw [itemsOf, hdel, List.filter_append, hown, List.reverse_append, List.map_append, hitems]
  rfl

/-- A step of one thread calls the callback of no other. -/
theorem StepsAt.itemsOf_other (h : StepsAt u c c') (hne : u ≠ t) : c'.itemsOf t = c.itemsOf t := by
  obtain ⟨_, _, items, -, -, -, hdel⟩ := h
  have hnone : (items.map (u, ·)).filter (fun x => decide (x.1 = t)) = [] := by
    rw [List.filter_eq_nil_iff]
    intro x hx
    obtain ⟨item, -, rfl⟩ := List.mem_map.mp hx
    simpa using hne
  rw [itemsOf, hdel, List.filter_append, hnone]
  rfl

/-- Only steps of a loop call callbacks. -/
theorem delivered_editThread (edit : Thread → Thread) (u : ThreadId) (c : Crew) :
    (c.editThread u edit).delivered = c.delivered := by
  rcases editThread_cases edit u c with hsame | ⟨thu, -, hedit⟩
  · rw [hsame]
  · rw [hedit]

theorem thread?_editThread (edit : Thread → Thread) (ht : c.thread? t = some th) :
    (c.editThread t edit).thread? t = some (edit th) := by
  rw [editThread, ht]
  exact thread?_set_self ht rfl

theorem itemsOf_congr (hdel : c'.delivered = c.delivered) : c'.itemsOf t = c.itemsOf t := by
  rw [itemsOf, itemsOf, hdel]

theorem after?_itemsOf_other {e : Event} (h : c.after? e = some c') (hne : e.thread ≠ t) :
    c'.itemsOf t = c.itemsOf t := by
  cases e with
  | step u => exact (step_edge h).itemsOf_other hne
  | elapse u => exact (elapse_edge h).itemsOf_other hne
  | fail u code => exact (fail_edge h).itemsOf_other hne
  | poke u | letGo u =>
    obtain rfl := Option.some.inj h
    exact itemsOf_congr (delivered_editThread _ u c)

/-- What an event makes of an event listener, and what it shows of it. -/
structure Turned (t : ThreadId) (c c' : Crew) (th th' : Thread)
    (p q : SampleLoop.Point LineStatus) (source source' : LineSource)
    (mark? : Option (SampleMark LineStatus)) (told : List (Outcome Unit))
    (handed : List LineStatus) : Prop where
  thread : c'.thread? t = some th'
  body : th'.body = .event q source'
  seen : Seen true th.cancelled p mark? q told handed
  items : c'.itemsOf t = c.itemsOf t ++ handed.map .lines
  reports : th'.reports = th.reports ++ told
  asked : th'.cancelled = th.cancelled
  counted : source'.counted? = source.counted?.map (· + SampleMark.count mark?)
  held : th'.held = true → q.mayHold = true

namespace Turned

variable {c c' : Crew} {t : ThreadId} {th th' : Thread} {p q : SampleLoop.Point LineStatus}
  {source source' : LineSource} {mark? : Option (SampleMark LineStatus)}

/-- No sample is taken, nothing is told and nothing is called. -/
theorem quiet (ht : c'.thread? t = some th') (hb : th'.body = .event q source')
    (hseen : Seen true th.cancelled p mark? q [] []) (hcount : SampleMark.count mark? = 0)
    (hcounted : source'.counted? = source.counted?) (hitems : c'.itemsOf t = c.itemsOf t)
    (hreports : th'.reports = th.reports) (hasked : th'.cancelled = th.cancelled)
    (hheld : th'.held = true → q.mayHold = true) :
    Turned t c c' th th' p q source source' mark? [] [] where
  thread := ht
  body := hb
  seen := hseen
  items := by rw [hitems]; exact (List.append_nil _).symm
  reports := by rw [hreports]; exact (List.append_nil _).symm
  asked := hasked
  counted := by rw [hcounted, hcount]; exact Option.map_id'.symm
  held := hheld

/-- Nothing is seen of a listener that stays where it is. -/
theorem still (ht : c'.thread? t = some th') (hb : th'.body = .event p source)
    (hitems : c'.itemsOf t = c.itemsOf t) (hreports : th'.reports = th.reports)
    (hasked : th'.cancelled = th.cancelled) (hheld : th'.held = true → p.mayHold = true) :
    Turned t c c' th th' p p source source none [] [] :=
  quiet ht hb (.still p) rfl rfl hitems hreports hasked hheld

end Turned

/-- What is seen of an event listener that goes on. -/
theorem stepEvent_turned (ht : c.thread? t = some th) (hb : th.body = .event p source)
    (hfree : th.held = false) (h : c.stepEvent t th p source = some c') :
    ∃ th' q source' told handed,
      Turned t c c' th th' p q source source' (c.mark? t (.step t)) told handed := by
  have hplace : c.place? t = some (th.fd, .event p source) := by
    rw [place?, ht, Option.map_some, hb]
  unfold stepEvent at h
  split at h
  · -- the first sample panics
    next hpanics =>
    obtain rfl := Option.some.inj h
    have hnone : c.mark? t (.step t) = none := by simp [mark?, Event.thread, hplace, hpanics]
    rw [hnone]
    exact ⟨_, _, source, [], [],
      .quiet (thread?_set_self ht rfl) rfl .panicked rfl rfl rfl rfl rfl
        fun hheld => absurd (hfree.symm.trans hheld) Bool.false_ne_true⟩
  · -- the first sample holds the thread up
    next hblocks =>
    obtain rfl := Option.some.inj h
    have hnone : c.mark? t (.step t) = none := by simp [mark?, Event.thread, hplace, hblocks]
    rw [hnone]
    exact ⟨_, _, { source with onFirst? := none }, [], [],
      .quiet (thread?_set_self ht rfl) rfl (.still _) rfl rfl rfl rfl rfl fun _ => rfl⟩
  · next p _ _ hpanics hblocks =>
    have hfirst : p = .firstSample → source.onFirst? = none := by
      rintro rfl
      cases hreaction : source.onFirst? with
      | none => rfl
      | some reaction =>
        cases reaction with
        | panics => exact absurd hreaction (hpanics rfl)
        | blocks => exact absurd hreaction (hblocks rfl)
    obtain ⟨th', q, told, handed, hset, hdel, hseen, hbody, hreports, hasked, hheld⟩ :=
      stepSampler_seen hfree h
    have hmark : c.mark? t (.step t) =
        p.mark? (sampleSource th.fd source c.host).1 (c.host.takeFault .pollWaker).1 := by
      simp only [mark?, Event.thread, if_true, hplace]
      exact if_pos hfirst
    rw [hmark]
    refine ⟨th', q, if p.isSampling then (sampleSource th.fd source c.host).2.1 else source, told,
      handed, ?_⟩
    exact
      { thread := thread?_set_self ht hset
        body := by rw [hbody]; split <;> rfl
        seen := hseen
        items := by rw [itemsOf_append hdel, ← List.map_reverse, hseen.reverse_handed]
        reports := hreports
        asked := hasked
        counted := by
          rw [p.count_mark?]
          split
          · exact sampleSource_counted th.fd source c.host
          · exact Option.map_id'.symm
        held := hheld }

/-- What happens to a crew makes of an event listener what is seen of it. -/
theorem after?_turned {e : Event} (he : c.after? e = some c') (ht : c.thread? t = some th)
    (hb : th.body = .event p source) (hheld : th.held = true → p.mayHold = true) :
    ∃ th' q source' told handed,
      Turned t c c' th th' p q source source' (c.mark? t e) told handed := by
  have hplace : c.place? t = some (th.fd, .event p source) := by
    rw [place?, ht, Option.map_some, hb]
  by_cases hthread : e.thread = t
  · cases e with
    | step u =>
      obtain rfl : u = t := hthread
      simp only [after?, step, ht, Option.bind_eq_bind, Option.bind_some, hb] at he
      split at he
      · cases he
      · next hfree => exact stepEvent_turned ht hb (by simpa using hfree) he
    | elapse u =>
      obtain rfl : u = t := hthread
      cases p with
      | parked last =>
        have hnot : th.held ≠ true := by
          intro held
          cases hheld held
        simp only [after?, elapse, ht, Option.bind_eq_bind, Option.bind_some, hb] at he
        obtain rfl := Option.some.inj he
        have hmark : c.mark? u (.elapse u) = some .timeout := by simp [mark?, Event.thread, hplace]
        rw [hmark]
        exact ⟨_, _, source, [], [],
          .quiet (thread?_set_self ht rfl) rfl (.elapsed last) rfl rfl rfl rfl rfl
            fun held => absurd held hnot⟩
      | _ => simp [after?, elapse, ht, hb] at he
    | fail u code =>
      obtain rfl : u = t := hthread
      cases p with
      | parked last =>
        have hnot : th.held ≠ true := by
          intro held
          cases hheld held
        simp only [after?, fail, ht, Option.bind_eq_bind, Option.bind_some, hb] at he
        obtain rfl := Option.some.inj he
        have hmark : c.mark? u (.fail u code) = waitMark (some code) := by
          simp [mark?, Event.thread, hplace]
        rw [hmark]
        exact ⟨_, _, source, [], [],
          .quiet (thread?_set_self ht rfl) rfl (.interrupted last code)
            (SampleMark.count_waitMark _) rfl rfl rfl rfl fun held => absurd held hnot⟩
      | _ => simp [after?, fail, ht, hb] at he
    | poke u =>
      obtain rfl : u = t := hthread
      obtain rfl := Option.some.inj he
      have hnone : c.mark? u (.poke u) = none := by simp [mark?]
      rw [hnone]
      exact ⟨{ th with waker := (th.waker.add 1).2 }, p, source, [], [],
        .still (thread?_editThread _ ht) hb (itemsOf_congr (delivered_editThread _ u c)) rfl rfl
          hheld⟩
    | letGo u =>
      obtain rfl : u = t := hthread
      obtain rfl := Option.some.inj he
      have hnone : c.mark? u (.letGo u) = none := by simp [mark?]
      rw [hnone]
      exact ⟨{ th with held := false }, p, source, [], [],
        .still (thread?_editThread _ ht) hb (itemsOf_congr (delivered_editThread _ u c)) rfl rfl
          fun held => absurd held Bool.false_ne_true⟩
  · have hnone : c.mark? t e = none := if_neg hthread
    rw [hnone]
    exact ⟨th, p, source, [], [], .still ((after?_other he hthread).trans ht) hb
      (after?_itemsOf_other he hthread) rfl rfl hheld⟩

/-! ## A listener and its record -/

/-- An event listener is there, and the record of it fits. -/
structure Recorded (t : ThreadId) (source₀ : LineSource) (c : Crew) (log : SampleLog LineStatus)
    (th : Thread) (p : SampleLoop.Point LineStatus) (source : LineSource)
    (reported good : List LineStatus) (bad? : Option Error) : Prop where
  thread : c.thread? t = some th
  body : th.body = .event p source
  items : c.itemsOf t = reported.map .lines
  faithful : Faithful th.cancelled th.reports reported log good bad? p
  /-- A scripted device has counted as many samples as are on record. -/
  counted : source.counted? = source₀.counted?.map (· + log.samples.length)
  held : th.held = true → p.mayHold = true

namespace Recorded

variable {source₀ : LineSource} {log : SampleLog LineStatus} {reported good : List LineStatus}
  {bad? : Option Error} {r : Outcome Unit}

theorem event {e : Event} (h : Recorded t source₀ c log th p source reported good bad?)
    (he : c.after? e = some c') : ∃ th' q source' reported' good' bad?',
      Recorded t source₀ c' (log.note (c.mark? t e)) th' q source' reported' good' bad?' := by
  obtain ⟨th', q, source', told, handed, hturn⟩ := after?_turned he h.thread h.body h.held
  obtain ⟨good', bad?', hfaithful⟩ := h.faithful.step hturn.seen
  refine ⟨th', q, source', reported ++ handed, good', bad?', ?_⟩
  exact
    { thread := hturn.thread
      body := hturn.body
      items := by rw [hturn.items, h.items, List.map_append]
      faithful := by
        rw [hturn.asked, hturn.reports]
        exact hfaithful
      counted := by
        rw [hturn.counted, h.counted, log.length_note, Option.map_map]
        congr 1
        funext n
        exact Nat.add_assoc _ _ _
      held := hturn.held }

theorem handled (h : Recorded t source₀ c log th p source reported good bad?)
    (hh : c.Handled c') : ∃ th', Recorded t source₀ c' log th' p source reported good bad? := by
  obtain ⟨th', ht', hth⟩ := hh.thread h.thread
  refine ⟨th', ?_⟩
  exact
    { thread := ht'
      body := hth.body.trans h.body
      items := (itemsOf_congr hh.delivered).trans h.items
      faithful := by
        rw [hth.reports]
        exact h.faithful.ask hth.asked
      counted := h.counted
      held := by
        rw [hth.held]
        exact h.held }

theorem outside (h : Recorded t source₀ c log th p source reported good bad?) (host : Host)
    (gates : List (Fd × Gate)) :
    Recorded t source₀ { c with host, gates } log th p source reported good bad? :=
  ⟨h.thread, h.body, h.items, h.faithful, h.counted, h.held⟩

/-- What a listener has told first stays so, and one that has ended without a word does not begin
to tell. -/
theorem report?_event {e : Event} (h : Recorded t source₀ c log th p source reported good bad?)
    (he : c.after? e = some c') (hr : c.report? t = some r) : c'.report? t = some r := by
  obtain ⟨th', q, source', told, handed, hturn⟩ := after?_turned he h.thread h.body h.held
  simp only [report?, h.thread] at hr
  simp only [report?, hturn.thread, hturn.reports]
  cases hreports : th.reports with
  | cons first rest =>
    rw [hreports] at hr
    exact hr
  | nil =>
    have hend : p.hasEnded = true := by
      by_contra hlive
      simp [hreports, h.body, Body.hasEnded, hlive] at hr
    obtain ⟨rfl, rfl⟩ := hturn.seen.ended hend
    rw [hreports, h.body] at hr
    rw [List.nil_append, hturn.body]
    exact hr

theorem report?_handled (h : Recorded t source₀ c log th p source reported good bad?)
    (hh : c.Handled c') (hr : c.report? t = some r) : c'.report? t = some r := by
  obtain ⟨th', ht', hth⟩ := hh.thread h.thread
  simpa only [report?, h.thread, ht', hth.reports, hth.body] using hr

/-- Where no user's code is called, nothing holds the thread up. -/
theorem free (h : Recorded t source₀ c log th p source reported good bad?)
    (hp : p.mayHold = false) : th.held = false := by
  by_contra hheld
  rw [Bool.not_eq_false] at hheld
  rw [h.held hheld] at hp
  cases hp

/-- Nothing holds up a listener that has to sample, to report a change, or to end. -/
theorem step_isSome (h : Recorded t source₀ c log th p source reported good bad?)
    (hp : p.due = 1 ∨ p.pending ≠ [] ∨ p = .leaving) : ∃ c', c.step t = some c' := by
  cases p with
  | sampling | reporting | leaving =>
    simp only [step, h.thread, Option.bind_eq_bind, Option.bind_some, h.free rfl, h.body]
    exact ⟨_, rfl⟩
  | _ => simp [Point.due, Point.pending] at hp

end Recorded

/-! ## Listeners that have left their loop -/

/-- An event listener has left its loop. -/
def HasLeft (t : ThreadId) (c : Crew) : Prop :=
  ∃ th p source, c.thread? t = some th ∧ th.body = .event p source ∧ p.isOver = true ∧
    th.held = false

theorem Recorded.hasLeft {source₀ : LineSource} {log : SampleLog LineStatus}
    {reported good : List LineStatus} {bad? : Option Error}
    (h : Recorded t source₀ c log th p source reported good bad?) (hover : p.isOver = true) :
    c.HasLeft t :=
  ⟨th, p, source, h.thread, h.body, hover, h.free (Point.mayHold_of_isOver hover)⟩

namespace HasLeft

theorem mark? (h : c.HasLeft t) (e : Event) : c.mark? t e = none := by
  obtain ⟨th, p, source, ht, hb, hover, -⟩ := h
  have hplace : c.place? t = some (th.fd, .event p source) := by
    rw [place?, ht, Option.map_some, hb]
  cases p with
  | leaving | gone => cases e <;> simp [Crew.mark?, hplace, Point.mark?]
  | _ => cases hover

theorem event {e : Event} (h : c.HasLeft t) (he : c.after? e = some c') :
    c'.HasLeft t ∧ c'.itemsOf t = c.itemsOf t := by
  obtain ⟨th, p, source, ht, hb, hover, hfree⟩ := h
  obtain ⟨th', q, source', told, handed, hturn⟩ :=
    after?_turned he ht hb (by rw [hfree]; exact nofun)
  obtain ⟨hover', rfl⟩ := hturn.seen.isOver hover
  refine ⟨⟨th', q, source', hturn.thread, hturn.body, hover', ?_⟩, ?_⟩
  · by_contra hheld
    rw [Bool.not_eq_false] at hheld
    have hmay := hturn.held hheld
    rw [Point.mayHold_of_isOver hover'] at hmay
    cases hmay
  · rw [hturn.items]
    exact List.append_nil _

theorem handled (h : c.HasLeft t) (hh : c.Handled c') : c'.HasLeft t := by
  obtain ⟨th, p, source, ht, hb, hover, hfree⟩ := h
  obtain ⟨th', ht', hth⟩ := hh.thread ht
  exact ⟨th', p, source, ht', hth.body.trans hb, hover, hth.held.trans hfree⟩

end HasLeft

end Crew

namespace Scene

variable {s s' : Scene} {t : ThreadId}

/-- Every call of a callback was made by a thread that is there. -/
theorem Reachable.fits {capacity : Nat} {settings : ListenerSettings}
    (h : s.Reachable capacity settings) : s.crew.Fits settings.chunk := by
  induction h with
  | start host gates =>
    constructor
    · intro x hx
      cases hx
    · intro t th n ht
      cases ht
  | act a h ha ih =>
    have hset := h.limits.2
    rcases act?_cases ha with ⟨i, x, ts, hmove, -, -⟩ | ⟨t, hstep, -, -, -⟩ | ⟨host, gates, -, rfl⟩
    · exact hset ▸ hmove.fits (hset.symm ▸ ih)
    · exact hstep.fits ih
    · exact ⟨ih.logged, ih.chunks⟩

/-- What a step shows of an event listener. -/
def mark? (t : ThreadId) (s : Scene) : Action → Option (SampleMark LineStatus)
  | .thread e => s.crew.mark? t e
  | _ => none

/-- Whatever happens from here, a thread samples nothing, calls nothing and waits for nothing any
more, and one step of its own at most is left to it. -/
structure Retires (t : ThreadId) (s : Scene) : Prop where
  silent : ∀ actions s', s.run? actions = some s' →
    s'.crew.itemsOf t = s.crew.itemsOf t ∧ ∀ a, s'.mark? t a = none
  ends : ∃ n ≤ 1, ∃ s', s.run? (List.replicate n (.thread (.step t))) = some s' ∧
    s'.crew.hasEnded t = true

theorem act?_hasLeft {a : Action} (h : s.crew.HasLeft t) (ha : s.act? a = some s') :
    s'.crew.HasLeft t ∧ s'.crew.itemsOf t = s.crew.itemsOf t := by
  rcases act?_crew ha with hhandled | ⟨e, -, he⟩ | ⟨host, gates, -, rfl⟩
  · exact ⟨h.handled hhandled, Crew.itemsOf_congr hhandled.delivered⟩
  · exact h.event he
  · exact ⟨h, rfl⟩

theorem run?_hasLeft {actions : List Action} (h : s.crew.HasLeft t)
    (hrun : s.run? actions = some s') :
    s'.crew.HasLeft t ∧ s'.crew.itemsOf t = s.crew.itemsOf t := by
  refine run_keeps (P := fun x => x.crew.HasLeft t ∧ x.crew.itemsOf t = s.crew.itemsOf t) ?_
    ⟨h, rfl⟩ hrun
  intro a _ x x' hx ha
  obtain ⟨hleft, hitems⟩ := act?_hasLeft hx.1 ha
  exact ⟨hleft, hitems.trans hx.2⟩

theorem act?_thread {e : Crew.Event} {c : Crew} (he : s.crew.after? e = some c) :
    ∃ s', s.act? (.thread e) = some s' ∧ s'.crew = c :=
  ⟨_, congrArg (Option.map _) he, rfl⟩

/-- A listener that has left its loop only has to end. -/
theorem retires_of_hasLeft (h : s.crew.HasLeft t) : s.Retires t := by
  refine ⟨fun actions s' hrun => ?_, ?_⟩
  · obtain ⟨hleft, hitems⟩ := run?_hasLeft h hrun
    refine ⟨hitems, fun a => ?_⟩
    cases a with
    | thread e => exact hleft.mark? e
    | _ => rfl
  · obtain ⟨th, p, source, ht, hb, hover, hfree⟩ := h
    cases p with
    | leaving =>
      have hstep : s.crew.after? (.step t) =
          some (s.crew.setThread t { th with body := .event .gone source }) := by
        simp only [Crew.after?, Crew.step, ht, Option.bind_eq_bind, Option.bind_some, hb]
        exact if_neg (by rw [hfree]; exact Bool.false_ne_true)
      obtain ⟨s', ha, hcrew⟩ := act?_thread hstep
      refine ⟨1, Nat.le_refl 1, s', ?_, ?_⟩
      · rw [run?, List.replicate_one, List.foldlM_cons, ha]
        rfl
      · rw [hcrew, Crew.hasEnded, Crew.thread?_set_self ht rfl]
        rfl
    | gone =>
      refine ⟨0, Nat.zero_le 1, s, rfl, ?_⟩
      rw [Crew.hasEnded, ht]
      simp [hb, Body.hasEnded, Point.hasEnded]
    | _ => cases hover

end Scene

/-! ## Runs -/

/-- The runs of a scene from the step by which a call creates the thread of an event listener, with
the record of what was seen of the thread. Everybody does whatever they can: intervals pass, waits
fail, wake-ups come from nobody, and clients stop the listener. -/
inductive Sampling (i : Nat) (t : ThreadId) (source : LineSource) (capacity : Nat)
    (settings : ListenerSettings) : Scene → SampleLog LineStatus → Prop where
  | created {s s' : Scene} {slot : SlotId} {callback : Callback} {giveBack : Bool}
    (h : s.Reachable capacity settings)
    (hat : s.tasks[i]? = some (.call (.spawning slot (.event callback source) giveBack)))
    (ha : s.act? (.proceed i) = some s')
    (hnew : s'.tasks[i]? = some (.call (.hearing slot .event t giveBack))) :
    Sampling i t source capacity settings s' {}
  | act {s s' : Scene} {log : SampleLog LineStatus} (a : Action)
    (h : Sampling i t source capacity settings s log) (ha : s.act? a = some s') :
    Sampling i t source capacity settings s' (log.note (s.mark? t a))

namespace Sampling

variable {i : Nat} {t : ThreadId} {source : LineSource} {capacity : Nat}
  {settings : ListenerSettings} {s s' : Scene} {log : SampleLog LineStatus}

/-- Nothing is on record of a new listener, and it has called nothing. -/
theorem start_recorded {slot : SlotId} {callback : Callback} {giveBack : Bool}
    (h : s.Reachable capacity settings)
    (hat : s.tasks[i]? = some (.call (.spawning slot (.event callback source) giveBack)))
    (ha : s.act? (.proceed i) = some s')
    (hnew : s'.tasks[i]? = some (.call (.hearing slot .event t giveBack))) :
    ∃ th, Crew.Recorded t source s'.crew {} th .creating source [] [] none := by
  have hlt := (List.getElem?_eq_some_iff.mp hat).1
  obtain ⟨task, htask, hrest⟩ := Option.bind_eq_some_iff.mp ha
  obtain ⟨⟨task', w⟩, hstep, hscene⟩ := Option.bind_eq_some_iff.mp hrest
  obtain rfl := Option.some.inj (hat.symm.trans htask)
  obtain ⟨⟨p', w'⟩, hcall, hmoved⟩ := Option.map_eq_some_iff.mp hstep
  obtain ⟨rfl, rfl⟩ := Prod.mk.inj hmoved
  obtain rfl := Option.some.inj hscene
  have hp' : p' = .hearing slot .event t giveBack := by
    simpa [List.getElem?_set_self hlt] using hnew
  cases Call.step_edge hcall with
  | unspawned => cases hp'
  | spawned hh =>
    obtain rfl : s.crew.threads.length = t := (Call.Position.hearing.inj hp').2.2.1
    -- the calls so far were made by threads with lower numbers
    have hitems : (s.crew.delivered.filter (·.1 = s.crew.threads.length)) = [] := by
      rw [List.filter_eq_nil_iff]
      intro x hx
      have hearlier := h.fits.logged x hx
      simpa using Nat.ne_of_lt hearlier
    refine ⟨(Listener.event callback source).thread (s.registry.fdOf slot) s.registry.settings, ?_⟩
    exact
      { thread := List.getElem?_concat_length
        body := rfl
        items := by
          rw [Crew.itemsOf]
          exact congrArg (fun calls => calls.reverse.map (·.2)) hitems
        faithful := .start _
        counted := Option.map_id'.symm
        held := nofun }

theorem inv (h : Sampling i t source capacity settings s log) :
    s.Registers i t ∧ ∃ th p source' reported good bad?,
      Crew.Recorded t source s.crew log th p source' reported good bad? := by
  induction h with
  | created h hat ha hnew =>
    obtain ⟨th, hrecorded⟩ := start_recorded h hat ha hnew
    exact ⟨⟨_, hnew, .hearing _ _ _⟩, th, .creating, source, [], [], none, hrecorded⟩
  | @act s s' log a _ ha ih =>
    obtain ⟨hregisters, th, p, source', reported, good, bad?, hrecorded⟩ := ih
    -- only what happens to threads is seen; what clients do to the listener at most asks it to end
    cases a with
    | thread e =>
      obtain ⟨crew, he, rfl⟩ := Option.map_eq_some_iff.mp ha
      exact ⟨hregisters.act ha fun _ => hrecorded.report?_event he, hrecorded.event he⟩
    | outside host gates =>
      obtain rfl := Option.some.inj ha
      exact ⟨hregisters.act ha fun _ => id, th, p, source', reported, good, bad?,
        hrecorded.outside host gates⟩
    | begin | shutdown | acquire | release | proceed =>
      have hhandled : s.crew.Handled s'.crew := by
        rcases Scene.act?_crew ha with hhandled | ⟨e, hthread, -⟩ | ⟨host, gates, houtside, -⟩
        · exact hhandled
        · cases hthread
        · cases houtside
      obtain ⟨th', hrecorded'⟩ := hrecorded.handled hhandled
      exact ⟨hregisters.act ha fun _ => hrecorded.report?_handled hhandled, th', p, source',
        reported, good, bad?, hrecorded'⟩

/-- An event listener reports the changes of its lines: the samples that differ from the one right
before them, in order and nothing else. The first sample is taken while it is armed and there is one
more for each timeout. A sample or a wait that fails ends it, and a call whose first sample failed
has no other end than this failure. -/
theorem reports_changes (h : Sampling i t source capacity settings s log) :
    ∃ th p source' good, ∃ bad? : Option Error,
      s.crew.thread? t = some th ∧ th.body = .event p source' ∧
      -- the samples are good ones, but the last may have failed
      log.samples = good.map .ok ++ (bad?.map .error).toList ∧
      -- one for each timeout, once the one that is due is taken
      log.samples.tail.length + p.due = log.timeouts ∧
      source'.counted? = source.counted?.map (· + log.samples.length) ∧
      -- the calls, once the one that is pending is made
      s.crew.itemsOf t ++ p.pending.map .lines = (changes good).map .lines ∧
      (p.due = 1 ∨ p.pending ≠ [] → ∃ s', s.act? (.thread (.step t)) = some s') ∧
      -- the ways out of the loop
      (bad?.isSome = true ∨ log.waitFailures ≠ [] → p.isOver = true) ∧
      (p.isOver = true → s.Retires t ∧
        (th.cancelled = true ∨ bad?.isSome = true ∨ log.waitFailures ≠ [] ∨ log.samples = [])) ∧
      -- what the starter is told
      (th.reports = [] → log.timeouts = 0) ∧ (.ok () ∈ th.reports → good ≠ []) ∧
      ∀ e, log.samples.head? = some (.error e) → s.crew.itemsOf t = [] ∧
        (∀ result, s.result? i = some result → result = .error e) ∧ s.FailsWithin i e 4 := by
  obtain ⟨hregisters, th, p, source', reported, good, bad?, hrecorded⟩ := h.inv
  have hfaithful := hrecorded.faithful
  refine ⟨th, p, source', good, bad?, hrecorded.thread, hrecorded.body, hfaithful.samples,
    hfaithful.paced, hrecorded.counted, ?_, ?_, hfaithful.failed, ?_, ?_, hfaithful.armed, ?_⟩
  · rw [hrecorded.items, ← List.map_append, hfaithful.reports]
  · intro hp
    obtain ⟨c', hstep⟩ := hrecorded.step_isSome (hp.imp_right .inl)
    obtain ⟨s', ha, -⟩ := Scene.act?_thread (e := .step t) hstep
    exact ⟨s', ha⟩
  · intro hover
    exact ⟨Scene.retires_of_hasLeft (hrecorded.hasLeft hover), hfaithful.exits hover⟩
  · intro hsilent
    by_contra htimeouts
    -- a thread that is past its start has told something
    refine hfaithful.started (fun hstage => htimeouts (hfaithful.unarmed hstage)) hsilent
  · intro e hfirst
    -- nothing was sampled after it, so there was no change, and the thread has ended
    obtain ⟨hone, rfl⟩ := hfaithful.only_of_head hfirst
    obtain ⟨htold, rfl⟩ := hfaithful.refused e hone
    refine ⟨?_, hregisters.fails ?_ ?_⟩
    · have hreported : reported ++ [] = changes [] := hfaithful.reports
      rw [hrecorded.items, ← List.append_nil reported, hreported]
      rfl
    · rw [Crew.report?, hrecorded.thread]
      simp only [htold]
    · rw [Crew.hasEnded, hrecorded.thread]
      simp [hrecorded.body, Body.hasEnded, Point.hasEnded]

/-- One more step of a run, and what is seen of the listener. -/
def next? (t : ThreadId) (x : Scene × SampleLog LineStatus) (a : Action) :
    Option (Scene × SampleLog LineStatus) :=
  (x.1.act? a).map fun s => (s, x.2.note (x.1.mark? t a))

theorem run {actions : List Action} {x x' : Scene × SampleLog LineStatus}
    (h : Sampling i t source capacity settings x.1 x.2)
    (hrun : actions.foldlM (next? t) x = some x') :
    Sampling i t source capacity settings x'.1 x'.2 := by
  refine run_keeps (P := fun x => Sampling i t source capacity settings x.1 x.2) ?_ h hrun
  intro a _ x x' hx hnext
  obtain ⟨s, ha, rfl⟩ := Option.map_eq_some_iff.mp hnext
  exact hx.act a ha

/-- A telephone that rings once before the device is lost. -/
def telephone : LineSource where
  script? := some
    { samples := [.ok {}, .ok {}, .ok { ring := true }, .error (.osCall "TIOCMGET" .EIO)] }

/-- The listener is armed, samples the silence once more, is woken for nothing, reports the ringing
and loses the device. -/
def ringing : List Action :=
  .replicate 3 (.thread (.step 0)) ++ .replicate 2 (.proceed 0) ++
    .replicate 2 (.thread (.step 0)) ++ [.thread (.elapse 0)] ++ .replicate 3 (.thread (.step 0)) ++
    [.thread (.poke 0)] ++ .replicate 5 (.thread (.step 0)) ++ [.thread (.elapse 0)] ++
    .replicate 4 (.thread (.step 0)) ++ [.thread (.elapse 0), .thread (.step 0)]

theorem ringing_reported : ∃ s log, Sampling 0 0 telephone 1 {} s log ∧
    log.samples = [.ok {}, .ok {}, .ok { ring := true }, .error (.osCall "TIOCMGET" .EIO)] ∧
    log.timeouts = 3 ∧ s.result? 0 = some (.ok 0) ∧
    s.crew.itemsOf 0 = [.lines { ring := true }] ∧ s.Retires 0 := by
  have hruns : ∃ s₀ s₁ x, (Scene.start 1 {} {} []).run?
        [.begin (.registering 3 (.event {} telephone)), .proceed 0] = some s₀ ∧
      s₀.tasks[0]? = some (.call (.spawning 0 (.event {} telephone) true)) ∧
      s₀.act? (.proceed 0) = some s₁ ∧
      s₁.tasks[0]? = some (.call (.hearing 0 .event 0 true)) ∧
      ringing.foldlM (next? 0) (s₁, {}) = some x ∧
      x.2.samples = [.ok {}, .ok {}, .ok { ring := true }, .error (.osCall "TIOCMGET" .EIO)] ∧
      x.2.timeouts = 3 ∧ x.1.result? 0 = some (.ok 0) ∧
      x.1.crew.itemsOf 0 = [.lines { ring := true }] :=
    ⟨_, _, _, rfl, rfl, rfl, rfl, rfl, rfl, rfl, rfl, rfl⟩
  obtain ⟨s₀, s₁, x, hregister, hat, hspawn, hnew, hringing, hsamples, htimeouts, hresult,
    hitems⟩ := hruns
  have hcreated : Sampling 0 0 telephone 1 {} s₁ {} :=
    .created ((Scene.Reachable.start {} []).run hregister) hat hspawn hnew
  have hend := hcreated.run hringing
  obtain ⟨th, p, source', good, bad?, -, -, hgood, -, -, -, -, hfailed, hover, -⟩ :=
    reports_changes hend
  have hbad : bad?.isSome = true := by
    rw [hsamples] at hgood
    cases bad? with
    | some e => rfl
    | none =>
      have hlast := congrArg List.getLast? hgood
      simp at hlast
  exact ⟨x.1, x.2, hend, hsamples, htimeouts, hresult, hitems, (hover (hfailed (.inl hbad))).1⟩

end Sampling

end SerialLine
