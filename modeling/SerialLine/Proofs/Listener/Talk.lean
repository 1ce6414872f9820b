import SerialLine.Proofs.Listener.WakeUp

/-!
# SerialLine.Proofs.Listener.Talk — what threads tell their starters

A thread tells its starter that it is armed when it has started and nothing but its callback can
make it panic any more. `Thread.Talk` says what a step does to what the thread has told and to its
callback; `Crew.after?_talks` derives it for everything that can happen to a thread. With
`Thread.Step` it gives `Thread.Told`, which holds of every thread at every moment.
-/

namespace SerialLine

/-- A callback that never panics. -/
def Callback.IsCalm (c : Callback) : Prop := ∀ n, c.special? ≠ some (n, .panics)

/-- Whether a thread calls its callback next. -/
def Body.isCalling : Body → Bool
  | .data (.delivering _) _ _ | .event (.reporting _) _ | .watch (.reporting _) _ => true
  | _ => false

/-! ## Where loops may panic -/

/-- Nothing leads back to the start of a data listener. -/
theorem DataLoop.Edge.started {th : Thread} {chunk : Nat} {h h' : Host} {p q : Point} {w : Waker}
    {handed : List Bytes} (e : Edge th chunk h p q w h' handed) (hp : p.lifecycle ≠ .starting) :
    q.lifecycle ≠ .starting := by
  cases e with
  | created | refused | announced => exact absurd rfl hp
  | handed _ hq => rcases hq with rfl | rfl <;> simp [Point.lifecycle]
  | entered _ fault? => cases fault? <;> grind [afterPoll, Point.lifecycle]
  | read | unread => grind [afterRead, Point.lifecycle]
  | _ => grind [afterHead, afterPoll, afterReport, afterRecheck, serve, Point.lifecycle]

/-- A data listener panics while it starts, or in its callback. -/
theorem DataLoop.Edge.dead {th : Thread} {chunk : Nat} {h h' : Host} {p : Point} {w : Waker}
    {handed : List Bytes} {stage : Lifecycle} (e : Edge th chunk h p (.dead stage) w h' handed) :
    p.lifecycle = .starting ∨ ∃ bytes, p = .delivering bytes := by
  generalize hq : Point.dead stage = q at e
  cases e with
  | created => exact .inl rfl
  | handed bytes => exact .inr ⟨bytes, rfl⟩
  | entered _ fault? => cases fault? <;> grind [afterPoll]
  | read | unread => grind [afterRead]
  | _ => grind [afterHead, afterPoll, afterReport, afterRecheck, serve]

/-- Nothing leads back to the start of a sampling thread. -/
theorem SampleLoop.Edge.started {α : Type} [DecidableEq α] {th : Thread} {rechecks : Bool}
    {p q : Point α} {w : Waker} {handed : List α} (e : Edge th rechecks p q w handed)
    (hp : p.lifecycle ≠ .starting) : q.lifecycle ≠ .starting := by
  cases e with
  | created | refused | first | heldFirst | panickedFirst | announced => exact absurd rfl hp
  | handed _ hq => rcases hq with rfl | rfl <;> exact nofun
  | sampled _ outcome => cases outcome <;> grind [afterSample, Point.lifecycle]
  | entered _ fault? => cases fault? <;> grind [afterEntry, Point.lifecycle]
  | _ => grind [afterHead, afterEntry, afterWait, afterReset, afterRecheck, Point.lifecycle]

/-- A sampling thread panics while it starts, or in its callback. -/
theorem SampleLoop.Edge.dead {α : Type} [DecidableEq α] {th : Thread} {rechecks : Bool}
    {p : Point α} {w : Waker} {handed : List α} {stage : Lifecycle}
    (e : Edge th rechecks p (.dead stage) w handed) :
    p.lifecycle = .starting ∨ ∃ now, p = .reporting now := by
  generalize hq : Point.dead stage = q at e
  cases e with
  | panickedFirst => exact .inl rfl
  | handed now => exact .inr ⟨now, rfl⟩
  | first outcome | sampled _ outcome => cases outcome <;> grind [afterFirst, afterSample]
  | entered _ fault? => cases fault? <;> grind [afterEntry]
  | _ => grind [afterHead, afterEntry, afterWait, afterReset, afterRecheck]

namespace Body

theorem hasPanicked_data {p : DataLoop.Point} {chunk : Nat} {gated : Bool} :
    (data p chunk gated).hasPanicked = true ↔ ∃ stage, p = .dead stage := by
  cases p <;> simp [hasPanicked]

theorem hasPanicked_event {p : SampleLoop.Point LineStatus} {source : LineSource} :
    (event p source).hasPanicked = true ↔ ∃ stage, p = .dead stage := by
  cases p <;> simp [hasPanicked]

theorem hasPanicked_watch {p : SampleLoop.Point Bool} {path : Path} :
    (watch p path).hasPanicked = true ↔ ∃ stage, p = .dead stage := by
  cases p <;> simp [hasPanicked]

theorem isCalling_event {p : SampleLoop.Point LineStatus} {source : LineSource} :
    (event p source).isCalling = true ↔ ∃ now, p = .reporting now := by
  cases p <;> simp [isCalling]

theorem isCalling_watch {p : SampleLoop.Point Bool} {path : Path} :
    (watch p path).isCalling = true ↔ ∃ now, p = .reporting now := by
  cases p <;> simp [isCalling]

theorem started_of_calling {b : Body} (h : b.isCalling = true) : b.lifecycle ≠ .starting := by
  unfold isCalling at h
  split at h
  · exact nofun
  · exact nofun
  · exact nofun
  · cases h

end Body

namespace Thread

variable {h₀ h' : Host} {th th' : Thread} {items : List Item}

theorem Step.started (hs : th.Step h₀ h' th' items) (hb : th.body.lifecycle ≠ .starting) :
    th'.body.lifecycle ≠ .starting := by
  cases hs with
  | data hb₀ e hb' =>
    rw [hb₀] at hb
    rw [hb']
    exact e.started hb
  | event hb₀ e _ hb' =>
    rw [hb₀] at hb
    rw [hb']
    exact e.started hb
  | watch hb₀ e _ hb' =>
    rw [hb₀] at hb
    rw [hb']
    exact e.started hb
  | poked | letGo => exact hb

/-- A thread panics while it starts, or in its callback. -/
theorem Step.panicked (hs : th.Step h₀ h' th' items) (hp : th'.body.hasPanicked = true) :
    th'.body = th.body ∨ th.body.lifecycle = .starting ∨ th.body.isCalling = true := by
  cases hs with
  | data hb e hb' =>
    rw [hb', Body.hasPanicked_data] at hp
    obtain ⟨stage, rfl⟩ := hp
    rw [hb]
    rcases e.dead with hstarting | ⟨bytes, rfl⟩
    · exact .inr (.inl hstarting)
    · exact .inr (.inr rfl)
  | event hb e _ hb' =>
    rw [hb', Body.hasPanicked_event] at hp
    obtain ⟨stage, rfl⟩ := hp
    rw [hb]
    rcases e.dead with hstarting | ⟨now, rfl⟩
    · exact .inr (.inl hstarting)
    · exact .inr (.inr rfl)
  | watch hb e _ hb' =>
    rw [hb', Body.hasPanicked_watch] at hp
    obtain ⟨stage, rfl⟩ := hp
    rw [hb]
    rcases e.dead with hstarting | ⟨now, rfl⟩
    · exact .inr (.inl hstarting)
    · exact .inr (.inr rfl)
  | poked | letGo => exact .inl rfl

/-! ## What threads tell -/

theorem isArmed_iff : th.isArmed = true ↔ th.reports.head? = some (.ok ()) := by
  unfold isArmed
  rcases th.reports with _ | ⟨_ | _, rest⟩ <;> simp

/-- What a step of a thread does to what it has told, and to its callback. -/
inductive Talk (th th' : Thread) : Prop where
  /-- A thread that is about to call its callback stays so. -/
  | quiet (hbody : th.body.isCalling = true → th'.body = th.body)
    (hcallback : th'.callback = th.callback) (hreports : th'.reports = th.reports)
  /-- What it tells it tells on its start, and last that it is armed. -/
  | told (r : Outcome Unit) (hbody : th.body.lifecycle = .starting)
    (hcallback : th'.callback = th.callback) (hreports : th'.reports = th.reports ++ [r])
    (harmed : r = .ok () → th'.body.lifecycle = .running ∧ th'.body.hasPanicked = false)
  | called (hbody : th.body.isCalling = true) (hcallback : th'.callback = th.callback.call.1)
    (hreports : th'.reports = th.reports)
    (hpanics : th'.body.hasPanicked = true → th.callback.call.2 = some .panics)

/-- What holds of every thread: once it has told that it is armed it has started, and only its
callback makes it panic. -/
structure Told (th : Thread) : Prop where
  started : th.isArmed = true → th.body.lifecycle ≠ .starting
  calm : th.isArmed = true → th.callback.IsCalm → th.body.hasPanicked = false

namespace Talk

theorem isCalm_iff (ht : th.Talk th') : th'.callback.IsCalm ↔ th.callback.IsCalm := by
  have hspecial : th'.callback.special? = th.callback.special? := by
    cases ht with
    | quiet _ hcallback | told _ _ hcallback => rw [hcallback]
    | called _ hcallback => rw [hcallback]; rfl
  unfold Callback.IsCalm
  rw [hspecial]

/-- What was told first stays told. -/
theorem isArmed (ht : th.Talk th') (harmed : th.isArmed = true) : th'.isArmed = true := by
  rw [isArmed_iff] at harmed ⊢
  cases ht with
  | quiet _ _ hreports | called _ _ hreports => rwa [hreports]
  | told r _ _ hreports => rw [hreports, List.head?_append, harmed, Option.some_or]

/-- A thread that has told now that it is armed had told so before, or has told nothing else. -/
theorem isArmed_cases (ht : th.Talk th') (harmed : th'.isArmed = true) :
    th.isArmed = true ∨ (th'.body.lifecycle = .running ∧ th'.body.hasPanicked = false) := by
  rw [isArmed_iff] at harmed ⊢
  cases ht with
  | quiet _ _ hreports | called _ _ hreports => exact .inl (by rwa [hreports] at harmed)
  | told r _ _ hreports hrunning =>
    rw [hreports, List.head?_append] at harmed
    cases hfirst : th.reports.head? with
    | none =>
      rw [hfirst] at harmed
      exact .inr (hrunning (Option.some.inj harmed))
    | some first =>
      rw [hfirst] at harmed
      exact .inl harmed

/-- A callback that is calm panics on no call. -/
theorem not_panicked (ht : th.Talk th') (hcalling : th.body.isCalling = true)
    (hgood : th.body.hasPanicked = false) (hcalm : th.callback.IsCalm) :
    th'.body.hasPanicked = false := by
  cases ht with
  | quiet hbody => rwa [hbody hcalling]
  | told r hbody => exact absurd hbody (Body.started_of_calling hcalling)
  | called _ _ _ hpanics =>
    rw [← Bool.not_eq_true]
    intro hpanicked
    obtain ⟨⟨n, reaction⟩, hspecial, hreaction⟩ := Option.bind_eq_some_iff.mp (hpanics hpanicked)
    split at hreaction
    · obtain rfl := Option.some.inj hreaction
      exact hcalm n hspecial
    · cases hreaction

end Talk

/-- Whatever happens to a thread, what holds of every thread goes on to hold. -/
theorem Told.step (h : th.Told) (hs : th.Step h₀ h' th' items) (ht : th.Talk th') : th'.Told where
  started := by
    intro harmed
    rcases ht.isArmed_cases harmed with hbefore | ⟨hrunning, -⟩
    · exact hs.started (h.started hbefore)
    · rw [hrunning]
      exact nofun
  calm := by
    intro harmed hcalm
    rcases ht.isArmed_cases harmed with hbefore | ⟨-, hwell⟩
    · have hwell := h.calm hbefore (ht.isCalm_iff.mp hcalm)
      rw [← Bool.not_eq_true]
      intro hpanicked
      -- it has started, so it was its callback, which is calm
      rcases hs.panicked hpanicked with hsame | hstarting | hcalling
      · rw [hsame, hwell] at hpanicked
        cases hpanicked
      · exact h.started hbefore hstarting
      · have hwell' := ht.not_panicked hcalling hwell (ht.isCalm_iff.mp hcalm)
        rw [hwell'] at hpanicked
        cases hpanicked
    · exact hwell

end Thread

namespace Crew

variable {c c' : Crew} {t : ThreadId} {th th' : Thread}

/-- A crew after a step of a thread, as far as what it tells and its callback are concerned. -/
def TalksAt (t : ThreadId) (c c' : Crew) : Prop :=
  ∃ th th', c.thread? t = some th ∧ c'.threads = c.threads.set t th' ∧ th.Talk th'

theorem talksAt_quiet (ht : c.thread? t = some th) (hset : c'.threads = c.threads.set t th')
    (hbody : th.body.isCalling = false) (hcallback : th'.callback = th.callback)
    (hreports : th'.reports = th.reports) : TalksAt t c c' :=
  ⟨th, th', ht, hset, .quiet (by rw [hbody]; exact nofun) hcallback hreports⟩

theorem deliver_talks (ht : c.thread? t = some th) (hbody : th.body.isCalling = true) (item : Item)
    {returned panicked : Body} (hreturned : returned.hasPanicked = false) :
    TalksAt t c (c.deliver t th item returned panicked) := by
  unfold deliver
  rcases hcall : th.callback.call with ⟨callback, _ | _ | _⟩
  · refine ⟨th, _, ht, rfl, .called hbody (by rw [hcall]) rfl fun hpanicked => ?_⟩
    rw [hreturned] at hpanicked
    cases hpanicked
  · exact ⟨th, _, ht, rfl, .called hbody (by rw [hcall]) rfl fun _ => by rw [hcall]⟩
  · refine ⟨th, _, ht, rfl, .called hbody (by rw [hcall]) rfl fun hpanicked => ?_⟩
    rw [hreturned] at hpanicked
    cases hpanicked

theorem stepData_talks {p : DataLoop.Point} {chunk : Nat} {gated : Bool}
    (ht : c.thread? t = some th) (hb : th.body = .data p chunk gated)
    (h : c.stepData t th p chunk gated = some c') : TalksAt t c c' := by
  cases p with
  | creating =>
    simp only [stepData] at h
    split at h
    · obtain rfl := Option.some.inj h
      exact talksAt_quiet ht rfl (by rw [hb]; rfl) rfl rfl
    · obtain rfl := Option.some.inj h
      exact ⟨th, _, ht, rfl, .told _ (by rw [hb]; rfl) rfl rfl (by simp)⟩
  | announcing =>
    obtain rfl := Option.some.inj h
    exact ⟨th, _, ht, rfl, .told _ (by rw [hb]; rfl) rfl rfl fun _ => ⟨rfl, rfl⟩⟩
  | parked =>
    simp only [stepData] at h
    split at h
    · obtain rfl := Option.some.inj h
      exact talksAt_quiet ht rfl (by rw [hb]; rfl) rfl rfl
    · cases h
  | gating hungUp =>
    simp only [stepData] at h
    split at h
    · obtain rfl := Option.some.inj h
      exact talksAt_quiet ht rfl (by rw [hb]; rfl) rfl rfl
    · split at h
      · obtain rfl := Option.some.inj h
        exact talksAt_quiet ht rfl (by rw [hb]; rfl) rfl rfl
      · cases h
  | reading hungUp =>
    simp only [stepData] at h
    obtain ⟨gates, hend⟩ := endRead_spec t th chunk gated hungUp
      (c.host.readFd th.fd (DataLoop.readRoom chunk)).1
      { c with host := (c.host.readFd th.fd (DataLoop.readRoom chunk)).2 }
    rw [hend] at h
    obtain rfl := Option.some.inj h
    exact talksAt_quiet ht rfl (by rw [hb]; rfl) rfl rfl
  | delivering bytes =>
    obtain rfl := Option.some.inj h
    exact deliver_talks ht (by rw [hb]; rfl) _ rfl
  | head | polling | resetting | rechecking | leaving =>
    obtain rfl := Option.some.inj h
    exact talksAt_quiet ht rfl (by rw [hb]; rfl) rfl rfl
  | gone | dead => cases h

/-- A step of a sampling thread, which may replace what it runs at a point by what its source
gives. -/
theorem stepSampler_talks {α : Type} [DecidableEq α] {p : SampleLoop.Point α} {rechecks : Bool}
    {item : α → Item} {sample : Host → Outcome α × (SampleLoop.Point α → Body) × Host}
    {body : SampleLoop.Point α → Body} (ht : c.thread? t = some th)
    (hcalling : th.body.isCalling = true ↔ ∃ now, p = .reporting now)
    (hstarting : p.lifecycle = .starting → th.body.lifecycle = .starting)
    (hhead : ∀ last, (body (.head last)).lifecycle = .running ∧
      (body (.head last)).hasPanicked = false)
    (h : c.stepSampler t th p rechecks item sample body = some c') : TalksAt t c c' := by
  have hquiet : (∀ now, p ≠ .reporting now) → th.body.isCalling = false := by
    intro hp
    rw [← Bool.not_eq_true, hcalling]
    rintro ⟨now, rfl⟩
    exact hp now rfl
  cases p with
  | creating =>
    simp only [stepSampler] at h
    split at h
    · obtain rfl := Option.some.inj h
      exact talksAt_quiet ht rfl (hquiet (by simp)) rfl rfl
    · obtain rfl := Option.some.inj h
      exact ⟨th, _, ht, rfl, .told _ (hstarting rfl) rfl rfl (by simp)⟩
  | firstSample =>
    simp only [stepSampler] at h
    obtain rfl := Option.some.inj h
    rcases hsample : sample c.host with ⟨e | first, body', host⟩
    · exact ⟨th, _, ht, rfl, .told (.error e) (hstarting rfl) rfl rfl (by simp)⟩
    · exact talksAt_quiet ht rfl (hquiet (by simp)) rfl rfl
  | announcing last =>
    obtain rfl := Option.some.inj h
    exact ⟨th, _, ht, rfl, .told _ (hstarting rfl) rfl rfl fun _ => hhead last⟩
  | parked last =>
    simp only [stepSampler] at h
    split at h
    · obtain rfl := Option.some.inj h
      exact talksAt_quiet ht rfl (hquiet (by simp)) rfl rfl
    · cases h
  | reporting now =>
    obtain rfl := Option.some.inj h
    exact deliver_talks ht (hcalling.mpr ⟨now, rfl⟩) _ (hhead now).2
  | head | waiting | resetting | rechecking | sampling | leaving =>
    obtain rfl := Option.some.inj h
    exact talksAt_quiet ht rfl (hquiet (by simp)) rfl rfl
  | gone | dead => cases h

theorem stepEvent_talks {p : SampleLoop.Point LineStatus} {source : LineSource}
    (ht : c.thread? t = some th) (hb : th.body = .event p source)
    (h : c.stepEvent t th p source = some c') : TalksAt t c c' := by
  unfold stepEvent at h
  split at h
  · obtain rfl := Option.some.inj h
    exact talksAt_quiet ht rfl (by rw [hb]; rfl) rfl rfl
  · obtain rfl := Option.some.inj h
    exact talksAt_quiet ht rfl (by rw [hb]; rfl) rfl rfl
  · refine stepSampler_talks ht ?_ ?_ (fun _ => ⟨rfl, rfl⟩) h
    · rw [hb, Body.isCalling_event]
    · rw [hb]
      exact id

theorem stepWatch_talks {p : SampleLoop.Point Bool} {path : Path} (ht : c.thread? t = some th)
    (hb : th.body = .watch p path) (h : c.stepWatch t th p path = some c') : TalksAt t c c' := by
  refine stepSampler_talks ht ?_ ?_ (fun _ => ⟨rfl, rfl⟩) h
  · rw [hb, Body.isCalling_watch]
  · rw [hb]
    exact id

theorem step_talks (h : c.step t = some c') : TalksAt t c c' := by
  rcases Option.bind_eq_some_iff.mp h with ⟨th, ht, hrest⟩
  split at hrest
  · cases hrest
  · split at hrest
    · next hb => exact stepData_talks ht hb hrest
    · next hb => exact stepEvent_talks ht hb hrest
    · next hb => exact stepWatch_talks ht hb hrest

theorem elapse_talks (h : c.elapse t = some c') : TalksAt t c c' := by
  rcases Option.bind_eq_some_iff.mp h with ⟨th, ht, hrest⟩
  split at hrest
  · next hb =>
    obtain rfl := Option.some.inj hrest
    exact talksAt_quiet ht rfl (by rw [hb]; rfl) rfl rfl
  · next hb =>
    obtain rfl := Option.some.inj hrest
    exact talksAt_quiet ht rfl (by rw [hb]; rfl) rfl rfl
  · cases hrest

theorem fail_talks {code : Errno} (h : c.fail t code = some c') : TalksAt t c c' := by
  rcases Option.bind_eq_some_iff.mp h with ⟨th, ht, hrest⟩
  split at hrest
  · next hb =>
    obtain rfl := Option.some.inj hrest
    exact talksAt_quiet ht rfl (by rw [hb]; rfl) rfl rfl
  · next hungUp chunk gated hb =>
    obtain ⟨gates, hend⟩ := endRead_spec t th chunk gated hungUp (.error (.errno code)) c
    rw [hend] at hrest
    obtain rfl := Option.some.inj hrest
    exact talksAt_quiet ht rfl (by rw [hb]; rfl) rfl rfl
  · next hb =>
    obtain rfl := Option.some.inj hrest
    exact talksAt_quiet ht rfl (by rw [hb]; rfl) rfl rfl
  · next hb =>
    obtain rfl := Option.some.inj hrest
    exact talksAt_quiet ht rfl (by rw [hb]; rfl) rfl rfl
  · cases hrest

/-- Whatever happens to a crew without a client, it happens to one thread at most. -/
theorem after?_talks {e : Event} (h : c.after? e = some c') :
    c' = c ∨ ∃ u thu thu' items, c.thread? u = some thu ∧ c'.threads = c.threads.set u thu' ∧
      thu.Step c.host c'.host thu' items ∧ thu.Talk thu' := by
  have hboth : ∀ {u}, StepsAt u c c' → TalksAt u c c' →
      ∃ u thu thu' items, c.thread? u = some thu ∧ c'.threads = c.threads.set u thu' ∧
        thu.Step c.host c'.host thu' items ∧ thu.Talk thu' := by
    -- both facts are about the one thread that has changed
    rintro u ⟨thu, thu', items, hu, hstep, hset, -⟩ ⟨thu₂, thu₂', hu₂, hset₂, htalk⟩
    obtain rfl := Option.some.inj (hu.symm.trans hu₂)
    have hself := (thread?_set_self hu hset).symm.trans (thread?_set_self hu hset₂)
    obtain rfl := Option.some.inj hself
    exact ⟨u, thu, thu', items, hu, hset, hstep, htalk⟩
  cases e with
  | step t => exact .inr (hboth (step_edge h) (step_talks h))
  | elapse t => exact .inr (hboth (elapse_edge h) (elapse_talks h))
  | fail t code => exact .inr (hboth (fail_edge h) (fail_talks h))
  | poke t =>
    obtain rfl := Option.some.inj h
    rcases editThread_cases (fun th => { th with waker := (th.waker.add 1).2 }) t c with
      hsame | ⟨th, ht, hedit⟩
    · exact .inl hsame
    · rw [poke, hedit]
      exact .inr ⟨t, th, _, [], ht, rfl, .poked, .quiet (fun _ => rfl) rfl rfl⟩
  | letGo t =>
    obtain rfl := Option.some.inj h
    rcases editThread_cases ({ · with held := false }) t c with hsame | ⟨th, ht, hedit⟩
    · exact .inl hsame
    · rw [letGo, hedit]
      exact .inr ⟨t, th, _, [], ht, rfl, .letGo, .quiet (fun _ => rfl) rfl rfl⟩

end Crew

end SerialLine
