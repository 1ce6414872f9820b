import SerialLine.Proofs.Listener.Changes
import SerialLine.Proofs.Listener.Retry

/-!
# SerialLine.Proofs.Listener.Launch — how a new thread comes up

A thread that was created for a listener makes its waker, takes its first sample if it is one that
samples, and tells its starter how it went. `Crew.startFault?` is what may keep it from coming up,
and `Crew.step_starts` says what each of these steps makes of the thread. `Crew.Launched` is what
holds of it from its creation on: it tells one thing at most, and one that does not tell that it is
armed has called nothing and never will.
-/

namespace SerialLine

/-! ## Steps of a start -/

/-- How far a thread has come with its start, and what has kept it from coming up. -/
inductive Thread.Startup (th : Thread) : Option Error → Prop where
  | starting (hstage : th.body.lifecycle = .starting) (hlive : th.body.hasEnded = false)
    (htold : th.reports = []) : Startup th none
  | armed (hstage : th.body.lifecycle ≠ .starting) (htold : th.reports = [.ok ()]) :
    Startup th none
  /-- It has told what it was, or was gone before it could tell anything. -/
  | failed {e : Error} (hend : th.body.hasEnded = true)
    (htold : th.reports = [.error e] ∨ (th.reports = [] ∧ e = .lifecycle "start")) :
    Startup th (some e)

/-- What a thread samples, as long as it is an event listener that has not sampled yet. -/
def Body.unsampled? : Body → Option (Option ScriptedDevice)
  | .event .creating source | .event .firstSample source => some source.script?
  | _ => none

theorem Body.unsampled?_of_started {b : Body} (h : b.lifecycle ≠ .starting) :
    b.unsampled? = none := by
  unfold unsampled?
  split
  · exact absurd rfl h
  · exact absurd rfl h
  · rfl

/-- Why a new thread may fail to come up. -/
inductive Thread.MayFail (new : Thread) : Error → Prop where
  | waker (code : Errno) : MayFail new (.osCall "eventfd" code)
  /-- It is gone before it can tell anything. -/
  | gone : MayFail new (.lifecycle "start")
  | sample {source : LineSource} {host : Host} {e : Error}
    (hscript : new.body.unsampled? = some source.script?)
    (hsample : (Crew.sampleSource new.fd source host).1 = .error e) : MayFail new e

/-- A thread that rests is left alone, but for its waker and what holds it up. -/
structure Thread.Rests (th th' : Thread) : Prop where
  fd : th'.fd = th.fd
  body : th'.body = th.body
  callback : th'.callback = th.callback
  reports : th'.reports = th.reports

theorem Thread.Rests.refl (th : Thread) : th.Rests th := ⟨rfl, rfl, rfl, rfl⟩

theorem Thread.Handled.rests {th th' : Thread} (h : th.Handled th') : th.Rests th' :=
  ⟨h.fd, h.body, h.callback, h.reports⟩

theorem Thread.Rests.startup {th th' : Thread} {fault? : Option Error} (hth : th.Rests th')
    (h : th.Startup fault?) : th'.Startup fault? := by
  have hbody := hth.body
  have hreports := hth.reports
  cases h with
  | starting hstage hlive htold =>
    exact .starting (hbody ▸ hstage) (hbody ▸ hlive) (hreports.trans htold)
  | armed hstage htold => exact .armed (hbody ▸ hstage) (hreports.trans htold)
  | failed hend htold => exact .failed (hbody ▸ hend) (hreports ▸ htold)

namespace Crew

variable {c c' : Crew} {t : ThreadId} {th th' : Thread} {fault? : Option Error}

/-- Why the next waker cannot be made. -/
def wakerFault? (c : Crew) : Option Error :=
  (c.host.takeFault .eventfd).1.map (.osCall "eventfd")

/-- What keeps a thread from coming up in the next step of its start: it has no waker, its first
sample fails, or it is gone before it can tell anything. -/
def startFault? (t : ThreadId) (c : Crew) : Option Error :=
  match c.thread? t with
  | none => none
  | some th =>
    match th.body with
    | .data .creating .. =>
      c.wakerFault?.or (if th.fd = -1 then some (.lifecycle "start") else none)
    | .event .creating _ => c.wakerFault?
    | .event .firstSample source =>
      match source.onFirst? with
      | some .panics => some (.lifecycle "start")
      | some .blocks => none
      | none =>
        match (sampleSource th.fd source c.host).1 with
        | .ok _ => none
        | .error e => some e
    | _ => none

theorem createWaker_spec (c : Crew) :
    (c.wakerFault? = none ∧ ∃ host, c.host.createWaker = (.ok {}, host)) ∨
    ∃ e, c.wakerFault? = some e ∧ ∃ host, c.host.createWaker = (.error e, host) := by
  unfold wakerFault? Host.createWaker
  rcases c.host.takeFault .eventfd with ⟨_ | code, host⟩
  · exact .inl ⟨rfl, host, rfl⟩
  · exact .inr ⟨_, rfl, host, rfl⟩

/-- Only a thread that starts can be kept from coming up. -/
theorem startFault?_of_started (ht : c.thread? t = some th)
    (hstage : th.body.lifecycle ≠ .starting) : c.startFault? t = none := by
  simp only [startFault?, ht]
  split
  · next hb => exact absurd (by rw [hb]; rfl) hstage
  · next hb => exact absurd (by rw [hb]; rfl) hstage
  · next hb => exact absurd (by rw [hb]; rfl) hstage
  · rfl

/-- What keeps a thread from coming up is one of the things that may. -/
theorem mayFail_of_startFault? {new : Thread} {e : Error} (ht : c.thread? t = some th)
    (hfd : th.fd = new.fd)
    (hscript : ∀ x, th.body.unsampled? = some x → new.body.unsampled? = some x)
    (he : c.startFault? t = some e) : new.MayFail e := by
  have hwaker : c.wakerFault? = some e → new.MayFail e := by
    intro hwaker
    obtain ⟨code, -, rfl⟩ := Option.map_eq_some_iff.mp hwaker
    exact .waker code
  simp only [startFault?, ht] at he
  split at he
  · rcases Option.or_eq_some_iff.mp he with hw | ⟨-, hgone⟩
    · exact hwaker hw
    · split at hgone
      · obtain rfl := Option.some.inj hgone
        exact .gone
      · cases hgone
  · exact hwaker he
  · next source hb =>
    split at he
    · obtain rfl := Option.some.inj he
      exact .gone
    · cases he
    · split at he
      · cases he
      · next hsample =>
        obtain rfl := Option.some.inj he
        have hscript' : new.body.unsampled? = some source.script? := by
          refine hscript _ ?_
          rw [hb]
          rfl
        exact .sample hscript' (hfd ▸ hsample)
  · cases he

/-- What a step of a start makes of a thread that has not told anything yet. -/
structure Starts (t : ThreadId) (c c' : Crew) (th th' : Thread) : Prop where
  thread : c'.thread? t = some th'
  delivered : c'.delivered = c.delivered
  callback : th'.callback = th.callback
  fd : th'.fd = th.fd
  kind : th'.body.kind? = th.body.kind?
  unsampled : ∀ x, th'.body.unsampled? = some x → th.body.unsampled? = some x
  startup : th'.Startup (c.startFault? t)

theorem stepData_starts {p : DataLoop.Point} {chunk : Nat} {gated : Bool}
    (ht : c.thread? t = some th) (hb : th.body = .data p chunk gated)
    (hstage : th.body.lifecycle = .starting) (hlive : th.body.hasEnded = false)
    (htold : th.reports = []) (h : c.stepData t th p chunk gated = some c') :
    ∃ th', Starts t c c' th th' := by
  have hkind : ∀ q : DataLoop.Point, (Body.data q chunk gated).kind? = th.body.kind? := by
    intro q
    rw [hb]
    rfl
  rw [hb] at hstage hlive
  cases p with
  | creating =>
    have hfault : c.startFault? t =
        c.wakerFault?.or (if th.fd = -1 then some (.lifecycle "start") else none) := by
      simp only [startFault?, ht, hb]
    simp only [stepData] at h
    rcases c.createWaker_spec with ⟨hnone, host, hw⟩ | ⟨e, he, host, hw⟩
    · rw [hw] at h
      obtain rfl := Option.some.inj h
      refine ⟨_, thread?_set_self ht rfl, rfl, rfl, rfl, hkind _, by rintro _ ⟨⟩, ?_⟩
      rw [hfault, hnone]
      -- an invalid descriptor is only met once the waker is there
      by_cases hfd : th.fd = -1
      · simp only [hfd, if_true]
        exact .failed rfl (.inr ⟨htold, rfl⟩)
      · simp only [hfd, if_false]
        exact .starting rfl rfl htold
    · rw [hw] at h
      obtain rfl := Option.some.inj h
      refine ⟨_, thread?_set_self ht rfl, rfl, rfl, rfl, hkind _, by rintro _ ⟨⟩, ?_⟩
      rw [hfault, he]
      exact .failed rfl (.inl (by rw [htold]; rfl))
  | announcing =>
    have hfault : c.startFault? t = none := by simp only [startFault?, ht, hb]
    obtain rfl := Option.some.inj h
    refine ⟨_, thread?_set_self ht rfl, rfl, rfl, rfl, hkind _, by rintro _ ⟨⟩, ?_⟩
    rw [hfault]
    exact .armed (by rintro ⟨⟩) (by rw [htold]; rfl)
  | dead => cases hlive
  | _ => cases hstage

theorem stepSampler_starts {p : SampleLoop.Point LineStatus} {source : LineSource}
    {sample : Host → Outcome LineStatus × (SampleLoop.Point LineStatus → Body) × Host}
    (ht : c.thread? t = some th) (hb : th.body = .event p source)
    (hstage : (Body.event p source).lifecycle = .starting)
    (hlive : (Body.event p source).hasEnded = false) (htold : th.reports = [])
    (hreturns : p = .firstSample → source.onFirst? = none)
    (hsample : ∀ host, sample host = ((sampleSource th.fd source host).1,
      (.event · (sampleSource th.fd source host).2.1), (sampleSource th.fd source host).2.2))
    (h : c.stepSampler t th p true .lines sample (.event · source) = some c') :
    ∃ th', Starts t c c' th th' := by
  have hkind : ∀ q source', (Body.event q source').kind? = th.body.kind? := by
    intro q source'
    rw [hb]
    rfl
  cases p with
  | creating =>
    have hfault : c.startFault? t = c.wakerFault? := by simp only [startFault?, ht, hb]
    simp only [stepSampler] at h
    rcases c.createWaker_spec with ⟨hnone, host, hw⟩ | ⟨e, he, host, hw⟩
    · rw [hw] at h
      obtain rfl := Option.some.inj h
      refine ⟨_, thread?_set_self ht rfl, rfl, rfl, rfl, hkind _ _, fun x hx => ?_, ?_⟩
      · rwa [hb]
      · rw [hfault, hnone]
        exact .starting rfl rfl htold
    · rw [hw] at h
      obtain rfl := Option.some.inj h
      refine ⟨_, thread?_set_self ht rfl, rfl, rfl, rfl, hkind _ _, by rintro _ ⟨⟩, ?_⟩
      rw [hfault, he]
      exact .failed rfl (.inl (by rw [htold]; rfl))
  | firstSample =>
    simp only [stepSampler, hsample] at h
    rcases hfirst : sampleSource th.fd source c.host with ⟨e | first, source', host⟩
    · have hfault : c.startFault? t = some e := by
        simp only [startFault?, ht, hb, hreturns rfl, hfirst]
      rw [hfirst] at h
      obtain rfl := Option.some.inj h
      refine ⟨_, thread?_set_self ht rfl, rfl, rfl, rfl, hkind _ _, by rintro _ ⟨⟩, ?_⟩
      rw [hfault]
      exact .failed rfl (.inl (by rw [htold]; rfl))
    · have hfault : c.startFault? t = none := by
        simp only [startFault?, ht, hb, hreturns rfl, hfirst]
      rw [hfirst] at h
      obtain rfl := Option.some.inj h
      refine ⟨_, thread?_set_self ht rfl, rfl, rfl, rfl, hkind _ _, by rintro _ ⟨⟩, ?_⟩
      rw [hfault]
      exact .starting rfl rfl htold
  | announcing =>
    have hfault : c.startFault? t = none := by simp only [startFault?, ht, hb]
    obtain rfl := Option.some.inj h
    refine ⟨_, thread?_set_self ht rfl, rfl, rfl, rfl, hkind _ _, by rintro _ ⟨⟩, ?_⟩
    rw [hfault]
    exact .armed (by rintro ⟨⟩) (by rw [htold]; rfl)
  | dead => cases hlive
  | _ => cases hstage

theorem stepEvent_starts {p : SampleLoop.Point LineStatus} {source : LineSource}
    (ht : c.thread? t = some th) (hb : th.body = .event p source)
    (hstage : th.body.lifecycle = .starting) (hlive : th.body.hasEnded = false)
    (htold : th.reports = []) (h : c.stepEvent t th p source = some c') :
    ∃ th', Starts t c c' th th' := by
  unfold stepEvent at h
  -- the user's source may do something else than return for the first sample
  split at h
  · next hpanics =>
    have hfault : c.startFault? t = some (.lifecycle "start") := by
      simp only [startFault?, ht, hb, hpanics]
    obtain rfl := Option.some.inj h
    refine ⟨_, thread?_set_self ht rfl, rfl, rfl, rfl, by rw [hb]; rfl, by rintro _ ⟨⟩, ?_⟩
    rw [hfault]
    exact .failed rfl (.inr ⟨htold, rfl⟩)
  · next hblocks =>
    have hfault : c.startFault? t = none := by simp only [startFault?, ht, hb, hblocks]
    obtain rfl := Option.some.inj h
    refine ⟨_, thread?_set_self ht rfl, rfl, rfl, rfl, by rw [hb]; rfl, fun x hx => ?_, ?_⟩
    · rwa [hb]
    · rw [hfault]
      exact .starting rfl rfl htold
  · next p _ _ hpanics hblocks =>
    rw [hb] at hstage hlive
    have hreturns : p = .firstSample → source.onFirst? = none := by
      intro hfirst
      cases hreaction : source.onFirst? with
      | none => rfl
      | some reaction =>
        cases reaction with
        | panics => exact absurd hreaction (hpanics hfirst)
        | blocks => exact absurd hreaction (hblocks hfirst)
    exact stepSampler_starts ht hb hstage hlive htold hreturns (fun _ => rfl) h

theorem step_starts {l : ListenerKind} (ht : c.thread? t = some th) (hkind : th.body.kind? = some l)
    (hstage : th.body.lifecycle = .starting) (hlive : th.body.hasEnded = false)
    (htold : th.reports = []) (h : c.step t = some c') : ∃ th', Starts t c c' th th' := by
  simp only [step, ht, Option.bind_eq_bind, Option.bind_some] at h
  split at h
  · cases h
  · split at h
    · next hb => exact stepData_starts ht hb hstage hlive htold h
    · next hb => exact stepEvent_starts ht hb hstage hlive htold h
    · next hb =>
      rw [hb] at hkind
      cases hkind

/-- What keeps a thread from coming up in an event: nothing, unless it is a step of the thread. -/
def faultIn? (t : ThreadId) (c : Crew) : Event → Option Error
  | .step u => if u = t then c.startFault? t else none
  | _ => none

theorem faultIn?_of_ne {e : Event} (hne : e ≠ .step t) : c.faultIn? t e = none := by
  cases e with
  | step u =>
    refine if_neg ?_
    rintro rfl
    exact hne rfl
  | _ => rfl

theorem faultIn?_of_started {e : Event} (ht : c.thread? t = some th)
    (hstage : th.body.lifecycle ≠ .starting) : c.faultIn? t e = none := by
  cases e with
  | step u =>
    simp only [faultIn?, startFault?_of_started ht hstage]
    exact ite_self none
  | _ => rfl

/-- Only its own steps make anything of a thread that starts. -/
theorem after?_starts {l : ListenerKind} {e : Event} (he : c.after? e = some c')
    (ht : c.thread? t = some th) (hkind : th.body.kind? = some l)
    (hstage : th.body.lifecycle = .starting) (hlive : th.body.hasEnded = false)
    (htold : th.reports = []) :
    (e = .step t ∧ ∃ th', Starts t c c' th th') ∨
    (e ≠ .step t ∧ c'.itemsOf t = c.itemsOf t ∧
      ∃ th', c'.thread? t = some th' ∧ th.Rests th') := by
  by_cases hthread : e.thread = t
  · have hparked : ∀ {P : Prop}, th.body.lifecycle ≠ .starting → P := fun hne => absurd hstage hne
    cases e with
    | step u =>
      obtain rfl : u = t := hthread
      exact .inl ⟨rfl, step_starts ht hkind hstage hlive htold he⟩
    | elapse u | fail u code =>
      -- a thread that starts does not wait yet
      obtain rfl : u = t := hthread
      simp only [after?, elapse, fail, ht, Option.bind_eq_bind, Option.bind_some] at he
      split at he
      all_goals first
        | (next hb => exact hparked (by rw [hb]; rintro ⟨⟩))
        | cases he
    | poke u | letGo u =>
      obtain rfl : u = t := hthread
      obtain rfl := Option.some.inj he
      exact .inr ⟨by simp, itemsOf_congr (delivered_editThread _ u c), _, thread?_editThread _ ht,
        rfl, rfl, rfl, rfl⟩
  · refine .inr ⟨?_, after?_itemsOf_other he hthread, th, (after?_other he hthread).trans ht,
      .refl th⟩
    rintro rfl
    exact hthread rfl

/-- A thread that has ended rests, and calls nothing any more. -/
theorem after?_ended {e : Event} (he : c.after? e = some c') (ht : c.thread? t = some th)
    (hend : th.body.hasEnded = true) :
    c'.itemsOf t = c.itemsOf t ∧ ∃ th', c'.thread? t = some th' ∧ th.Rests th' := by
  rcases after?_cases he with rfl | ⟨u, hstep⟩
  · exact ⟨rfl, th, ht, .refl th⟩
  · by_cases hut : u = t
    · subst hut
      obtain ⟨thu, th', items, hu, hturn, hset, hdel⟩ := hstep
      obtain rfl := Option.some.inj (ht.symm.trans hu)
      generalize c'.host = host at hturn
      cases hturn with
      | data hb e =>
        rw [hb, Body.hasEnded, e.not_ended] at hend
        cases hend
      | event hb e | watch hb e =>
        rw [hb, Body.hasEnded, e.not_ended] at hend
        cases hend
      | poked | letGo =>
        exact ⟨itemsOf_congr hdel, _, thread?_set_self ht hset, rfl, rfl, rfl, rfl⟩
    · refine ⟨hstep.itemsOf_other hut, th, ?_, .refl th⟩
      obtain ⟨_, _, _, -, -, hset, -⟩ := hstep
      exact (thread?_set_ne hset (Ne.symm hut)).trans ht

/-! ## A new thread -/

/-- A thread that was created for a listener: how far it has come, and that it has called nothing
if it did not tell that it is armed. -/
structure Launched (t : ThreadId) (new : Thread) (c : Crew) (fault? : Option Error) (th : Thread) :
    Prop where
  thread : c.thread? t = some th
  startup : th.Startup fault?
  fd : th.fd = new.fd
  kind : th.body.kind? = new.body.kind?
  unsampled : ∀ x, th.body.unsampled? = some x → new.body.unsampled? = some x
  cause : ∀ e, fault? = some e → new.MayFail e
  unarmed : th.isArmed = false → th.callback = new.callback ∧ c.itemsOf t = []

/-- A thread that was just created for a listener has not come anywhere. -/
theorem launched_new (l : Listener) {fd : Fd} {settings : ListenerSettings}
    (ht : c.thread? t = some (l.thread fd settings)) (hnone : c.itemsOf t = []) :
    Launched t (l.thread fd settings) c none (l.thread fd settings) where
  thread := ht
  startup := by cases l <;> exact .starting rfl rfl rfl
  fd := rfl
  kind := rfl
  unsampled := fun _ => id
  cause := nofun
  unarmed := fun _ => ⟨rfl, hnone⟩

/-- The calls so far were made by threads with lower numbers. -/
theorem Fits.itemsOf_new {chunk : Nat} (h : c.Fits chunk) : c.itemsOf c.threads.length = [] := by
  have hnone : c.delivered.filter (·.1 = c.threads.length) = [] := by
    rw [List.filter_eq_nil_iff]
    intro x hx
    simpa using Nat.ne_of_lt (h.logged x hx)
  rw [itemsOf, hnone]
  rfl

namespace Launched

variable {new : Thread}

/-- Nothing is made of a thread that rests. -/
theorem rests (h : Launched t new c fault? th) (ht' : c'.thread? t = some th') (hth : th.Rests th')
    (hitems : c'.itemsOf t = c.itemsOf t) : Launched t new c' fault? th' where
  thread := ht'
  startup := hth.startup h.startup
  fd := hth.fd.trans h.fd
  kind := (congrArg Body.kind? hth.body).trans h.kind
  unsampled := hth.body ▸ h.unsampled
  cause := h.cause
  unarmed := by
    intro hnot
    have hbefore : th.isArmed = false := by rwa [Thread.isArmed, hth.reports] at hnot
    obtain ⟨hcallback, hnone⟩ := h.unarmed hbefore
    exact ⟨hth.callback.trans hcallback, hitems.trans hnone⟩

/-- Whatever happens, a new thread goes on with its start, or has nothing to do with it any more. -/
theorem event {k : ListenerKind} {e : Event} (h : Launched t new c fault? th)
    (hnew : new.body.kind? = some k) (he : c.after? e = some c') :
    ∃ th', Launched t new c' (fault?.or (c.faultIn? t e)) th' := by
  have hkind := h.kind.trans hnew
  have hstartup := h.startup
  cases hstartup with
  | starting hstage hlive htold =>
    rcases after?_starts he h.thread hkind hstage hlive htold with
      ⟨rfl, th', hstarts⟩ | ⟨hne, hitems, th', ht', hrests⟩
    · have hnot : th.isArmed = false := by simp [Thread.isArmed, htold]
      obtain ⟨hcallback, hnone⟩ := h.unarmed hnot
      have hfault : none.or (c.faultIn? t (.step t)) = c.startFault? t := by simp [faultIn?]
      rw [hfault]
      exact ⟨th', hstarts.thread, hstarts.startup, hstarts.fd.trans h.fd, hstarts.kind.trans h.kind,
        fun x hx => h.unsampled x (hstarts.unsampled x hx),
        fun e => mayFail_of_startFault? h.thread h.fd h.unsampled,
        fun _ => ⟨hstarts.callback.trans hcallback, (itemsOf_congr hstarts.delivered).trans hnone⟩⟩
    · rw [faultIn?_of_ne hne]
      exact ⟨th', h.rests ht' hrests hitems⟩
  | armed hstage htold =>
    rw [faultIn?_of_started h.thread hstage]
    obtain ⟨th', ht', rfl | ⟨items, hstep, htalk⟩⟩ := thread_event he h.thread
    · refine ⟨_, ht', h.startup, h.fd, h.kind, h.unsampled, by simp, fun hnot => ?_⟩
      simp [Thread.isArmed, htold] at hnot
    · -- it has told that it is armed, and tells nothing after its start
      have hsame : th'.reports = th.reports := by
        cases htalk with
        | quiet _ _ hreports | called _ _ hreports => exact hreports
        | told _ hstarting => exact absurd hstarting hstage
      have hstage' := hstep.started hstage
      refine ⟨th', ht', .armed hstage' (hsame.trans htold), hstep.stays.1.trans h.fd,
        hstep.stays.2.1.trans h.kind, fun x hx => ?_, by simp, fun hnot => ?_⟩
      · rw [Body.unsampled?_of_started hstage'] at hx
        cases hx
      · simp [Thread.isArmed, hsame, htold] at hnot
  | failed hend =>
    obtain ⟨hitems, th', ht', hrests⟩ := after?_ended he h.thread hend
    exact ⟨th', h.rests ht' hrests hitems⟩

theorem handled (h : Launched t new c fault? th) (hh : c.Handled c') :
    ∃ th', Launched t new c' fault? th' := by
  obtain ⟨th', ht', hth⟩ := hh.thread h.thread
  exact ⟨th', h.rests ht' hth.rests (itemsOf_congr hh.delivered)⟩

/-- It has told something once at most. -/
theorem told_once (h : Launched t new c fault? th) : th.reports.length ≤ 1 := by
  cases h.startup with
  | starting _ _ htold | armed _ htold =>
    rw [htold]
    simp
  | failed _ htold =>
    rcases htold with htold | ⟨htold, -⟩ <;> simp [htold]

/-- Nothing has kept a thread from coming up that is armed. -/
theorem of_isArmed (h : Launched t new c fault? th) (harmed : c.IsArmed t) :
    fault? = none ∧ th.reports = [.ok ()] := by
  obtain ⟨th', ht', harmed⟩ := harmed
  obtain rfl := Option.some.inj (ht'.symm.trans h.thread)
  cases h.startup with
  | starting _ _ htold => simp [Thread.isArmed, htold] at harmed
  | armed _ htold => exact ⟨rfl, htold⟩
  | failed _ htold =>
    rcases htold with htold | ⟨htold, -⟩
    · simp [Thread.isArmed, htold] at harmed
    · simp [Thread.isArmed, htold] at harmed

/-- What its starter hears of it. -/
theorem report?_eq (h : Launched t new c fault? th) {r : Outcome Unit} (hr : c.report? t = some r) :
    (r = .ok () ∧ fault? = none ∧ th.reports = [.ok ()]) ∨
    ∃ e, r = .error e ∧ fault? = some e := by
  simp only [report?, h.thread] at hr
  cases h.startup with
  | starting _ hlive htold => simp [htold, hlive] at hr
  | armed _ htold =>
    rw [htold] at hr
    exact .inl ⟨(Option.some.inj hr).symm, rfl, htold⟩
  | @failed e hend htold =>
    refine .inr ⟨e, ?_, rfl⟩
    rcases htold with htold | ⟨htold, rfl⟩ <;> simpa [htold, hend, eq_comm] using hr

/-- What has kept it from coming up its starter hears, and it has ended. -/
theorem report?_of_fault {e : Error} (h : Launched t new c (some e) th) :
    c.report? t = some (.error e) ∧ th.body.hasEnded = true ∧ th.isArmed = false := by
  simp only [report?, h.thread]
  cases h.startup with
  | failed hend htold =>
    rcases htold with htold | ⟨htold, rfl⟩ <;> simp [Thread.isArmed, htold, hend]

end Launched

end Crew

end SerialLine
