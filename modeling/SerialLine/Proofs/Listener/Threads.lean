import Mathlib.Data.List.Basic
import SerialLine.Listener.Crew

/-!
# SerialLine.Proofs.Listener.Threads — what one step of a thread can do

`Crew.after?` gathers everything that happens to a crew without a client: a thread does the next
thing in its loop, an interval passes, a wait or a read fails, a wake-up comes from nobody, a call
into the user's code returns. Each of them concerns one thread.

`DataLoop.Edge` and `SampleLoop.Edge` say once what the loops can do at each of their points, and
`Crew.after?_cases` derives from them what an event can do to the whole crew. All invariants of
threads rest on this case analysis; none opens the loops again.
-/

namespace SerialLine

/-! ## Runs -/

/-- What every step of a run keeps holds at its end. -/
theorem run_keeps {σ α : Type} {step : σ → α → Option σ} {P : σ → Prop} {actions : List α}
    (hstep : ∀ a ∈ actions, ∀ s s', P s → step s a = some s' → P s') :
    ∀ {s s' : σ}, P s → actions.foldlM step s = some s' → P s' := by
  induction actions with
  | nil =>
    intro s s' h hrun
    obtain rfl := Option.some.inj hrun
    exact h
  | cons a rest ih =>
    intro s s' h hrun
    rcases Option.bind_eq_some_iff.mp hrun with ⟨s₁, ha, hrest⟩
    have hs₁ : P s₁ := hstep a List.mem_cons_self s s₁ h ha
    exact ih (fun b hb => hstep b (List.mem_cons_of_mem a hb)) hs₁ hrest

/-- What somebody in a list has, somebody still has after one of them was replaced by one who has
it where the other had. -/
theorem exists_mem_set {α : Type} {P : α → Prop} {l : List α} {i : Nat} {a b : α}
    (hi : l[i]? = some a) (hkeep : P a → P b) (h : ∃ x ∈ l, P x) : ∃ x ∈ l.set i b, P x := by
  rcases h with ⟨x, hmem, hx⟩
  rcases List.getElem?_of_mem hmem with ⟨j, hj⟩
  by_cases hij : i = j
  · subst hij
    obtain rfl := Option.some.inj (hi.symm.trans hj)
    have hlt := (List.getElem?_eq_some_iff.mp hi).1
    exact ⟨b, List.mem_set hlt b, hkeep hx⟩
  · have hget : (l.set i b)[j]? = some x := by
      rw [List.getElem?_set_ne hij, hj]
    exact ⟨x, List.mem_of_getElem? hget, hx⟩

/-! ## Hosts that differ in their faults -/

/-- One host differs from another in the faults to come at most. -/
def Host.SameButFaults (h h' : Host) : Prop := ∃ faults, h' = { h with faults }

theorem TerminalCalls.lineStatus_state {σ : Type} (calls : TerminalCalls σ) (fd : Fd) (s : σ) :
    ((calls.lineStatus fd).run.run s).2 = (calls.modemBits fd s).2 := by
  show (ExceptT.bind (calls.modemBits fd) _ s).2 = _
  unfold ExceptT.bind ExceptT.mk
  simp only [bind, StateT.bind]
  rcases calls.modemBits fd s with ⟨_ | _, _⟩ <;> rfl

namespace Host

theorem SameButFaults.refl (h : Host) : h.SameButFaults h := ⟨h.faults, rfl⟩

theorem takeFault_same (call : SystemCall) (h : Host) :
    h.SameButFaults (h.takeFault call).2 := ⟨_, rfl⟩

/-- A call that meets no fault leaves the schedule as it is. -/
theorem takeFault_none {h : Host} (hf : h.faults = []) (c : SystemCall) :
    h.takeFault c = (none, h) := by
  cases h
  obtain rfl := hf
  rfl

/-- A call that only looks leaves the host as it is, but for the fault that it meets. -/
theorem call_same {α : Type} {c : SystemCall} {act : Host → Except Errno (α × Host)}
    (hact : ∀ h x h', act h = .ok (x, h') → h' = h) (h : Host) :
    h.SameButFaults (call c act h).2 := by
  have hsame := takeFault_same c h
  unfold call
  cases htaken : h.takeFault c with
  | mk fault? h' =>
    rw [htaken] at hsame
    cases fault? with
    | some code => exact hsame
    | none =>
      cases hres : act h' with
      | error code => simpa [hres] using hsame
      | ok res =>
        have heq := hact h' res.1 res.2 hres
        simpa [hres, heq] using hsame

theorem sampleLines_same (fd : Fd) (h : Host) : h.SameButFaults (h.sampleLines fd).2 := by
  rw [sampleLines, TerminalCalls.lineStatus_state]
  refine call_same ?_ h
  intro h bits h' hok
  cases hbits : (h.modem fd).bits? with
  | none => simp [hbits] at hok
  | some _ =>
    simp only [hbits, Except.ok.injEq, Prod.mk.injEq] at hok
    exact hok.2.symm

theorem createWaker_cases (h : Host) :
    (∃ h', h.SameButFaults h' ∧ h.createWaker = (.ok {}, h')) ∨
    (∃ e h', h.SameButFaults h' ∧ h.createWaker = (.error e, h')) := by
  have hsame := takeFault_same .eventfd h
  unfold createWaker
  cases htaken : h.takeFault .eventfd with
  | mk fault? h' =>
    rw [htaken] at hsame
    cases fault? with
    | none => exact Or.inl ⟨h', hsame, rfl⟩
    | some code => exact Or.inr ⟨_, h', hsame, rfl⟩

end Host

/-! ## The loops -/

/-- What a data listener may do next: the point that it leaves and the one that it reaches, the
waker and the host that this leaves behind, and what is handed to its callback. -/
inductive DataLoop.Edge (th : Thread) (chunk : Nat) (h : Host) :
    Point → Point → Waker → Host → List Bytes → Prop where
  | created {q : Point} {h' : Host} (hh : h.SameButFaults h')
      (hq : q = .announcing ∨ q = .dead .starting) : Edge th chunk h .creating q {} h' []
  | refused {h' : Host} (hh : h.SameButFaults h') : Edge th chunk h .creating .gone th.waker h' []
  | announced : Edge th chunk h .announcing .head th.waker h []
  | looked : Edge th chunk h .head (afterHead th.cancelled) th.waker h []
  | entered {h' : Host} (hh : h.SameButFaults h') (fault? : Option Errno) :
      Edge th chunk h .polling (afterPoll fault?) th.waker h' []
  | reported {r : Readiness} (hr : r = { h.readiness th.fd with woken := th.waker.isReady })
      (hany : r.any = true) : Edge th chunk h .parked (afterReport r) th.waker h []
  | interrupted (code : Errno) : Edge th chunk h .parked (afterPoll (some code)) th.waker h []
  | reset (r : Readiness) : Edge th chunk h (.resetting r) (.rechecking r) th.waker.reset h []
  | rechecked (r : Readiness) :
      Edge th chunk h (.rechecking r) (afterRecheck th.cancelled r) th.waker h []
  | admitted (hungUp : Bool) : Edge th chunk h (.gating hungUp) (.reading hungUp) th.waker h []
  | read (hungUp : Bool) : Edge th chunk h (.reading hungUp)
      (afterRead hungUp (h.readFd th.fd (readRoom chunk)).1) th.waker
      (h.readFd th.fd (readRoom chunk)).2 []
  | unread (hungUp : Bool) (code : Errno) : Edge th chunk h (.reading hungUp)
      (afterRead hungUp (.error (.errno code))) th.waker h []
  | handed (bytes : Bytes) {q : Point} (hq : q = .head ∨ q = .dead .running) :
      Edge th chunk h (.delivering bytes) q th.waker h [bytes]
  | left : Edge th chunk h .leaving .gone th.waker h []

/-- What a sampling thread may do next: the point that it leaves and the one that it reaches, the
waker that this leaves behind, and what is handed to its callback. -/
inductive SampleLoop.Edge {α : Type} [DecidableEq α] (th : Thread) (rechecks : Bool) :
    Point α → Point α → Waker → List α → Prop where
  | created : Edge th rechecks .creating .firstSample {} []
  | refused : Edge th rechecks .creating .gone th.waker []
  | first (outcome : Outcome α) :
      Edge th rechecks .firstSample (afterFirst outcome) th.waker []
  | heldFirst : Edge th rechecks .firstSample .firstSample th.waker []
  | panickedFirst : Edge th rechecks .firstSample (.dead .starting) th.waker []
  | announced (last : α) : Edge th rechecks (.announcing last) (.head last) th.waker []
  | looked (last : α) : Edge th rechecks (.head last) (afterHead th.cancelled last) th.waker []
  | entered (last : α) (fault? : Option Errno) :
      Edge th rechecks (.waiting last) (afterEntry last fault?) th.waker []
  | woken (last : α) (hready : th.waker.isReady = true) :
      Edge th rechecks (.parked last) (afterWait true last) th.waker []
  | elapsed (last : α) : Edge th rechecks (.parked last) (afterWait false last) th.waker []
  | interrupted (last : α) (code : Errno) :
      Edge th rechecks (.parked last) (afterEntry last (some code)) th.waker []
  | reset (last : α) :
      Edge th rechecks (.resetting last) (afterReset rechecks last) th.waker.reset []
  | rechecked (last : α) :
      Edge th rechecks (.rechecking last) (afterRecheck th.cancelled last) th.waker []
  | sampled (last : α) (outcome : Outcome α) :
      Edge th rechecks (.sampling last) (afterSample last outcome) th.waker []
  | handed (now : α) {q : Point α} (hq : q = .head now ∨ q = .dead .running) :
      Edge th rechecks (.reporting now) q th.waker [now]
  | left : Edge th rechecks .leaving .gone th.waker []

/-! ## What the loops do and do not -/

/-- A loop that has ended has no next step. -/
theorem DataLoop.Edge.not_ended {th : Thread} {chunk : Nat} {h h' : Host} {p q : Point}
    {w : Waker} {handed : List Bytes} (e : Edge th chunk h p q w h' handed) :
    p.hasEnded = false := by
  cases e <;> rfl

theorem SampleLoop.Edge.not_ended {α : Type} [DecidableEq α] {th : Thread} {rechecks : Bool}
    {p q : Point α} {w : Waker} {handed : List α} (e : Edge th rechecks p q w handed) :
    p.hasEnded = false := by
  cases e <;> rfl

/-- No loop goes back to where it creates its waker. -/
theorem DataLoop.Edge.not_creating {th : Thread} {chunk : Nat} {h h' : Host} {p q : Point}
    {w : Waker} {handed : List Bytes} (e : Edge th chunk h p q w h' handed) : q ≠ .creating := by
  cases e with
  | created _ hq | handed _ hq => rcases hq with rfl | rfl <;> exact nofun
  | entered _ fault? => cases fault? <;> grind [afterPoll]
  | read | unread => grind [afterRead]
  | _ => grind [afterHead, afterPoll, afterReport, afterRecheck, serve]

theorem SampleLoop.Edge.not_creating {α : Type} [DecidableEq α] {th : Thread} {rechecks : Bool}
    {p q : Point α} {w : Waker} {handed : List α} (e : Edge th rechecks p q w handed) :
    q ≠ .creating := by
  cases e with
  | handed _ hq => rcases hq with rfl | rfl <;> exact nofun
  | first outcome | sampled _ outcome => cases outcome <;> grind [afterFirst, afterSample]
  | entered _ fault? => cases fault? <;> grind [afterEntry]
  | _ => grind [afterHead, afterEntry, afterWait, afterReset, afterRecheck]

namespace DataLoop

theorem afterRead_ok_ne_nil (hungUp : Bool) {bytes : Bytes} (hne : bytes ≠ []) :
    afterRead hungUp (.ok bytes) = .delivering bytes := by
  cases bytes with
  | nil => exact absurd rfl hne
  | cons b bs => rfl

/-- Only a read of some bytes leads to a call of the callback. -/
theorem afterRead_ne_delivering {hungUp : Bool} {outcome : CallOutcome Bytes}
    (h : ∀ bytes, outcome = .ok bytes → bytes = []) (bs : Bytes) :
    afterRead hungUp outcome ≠ .delivering bs := by
  cases outcome with
  | ok bytes =>
    obtain rfl := h bytes rfl
    cases hungUp <;> exact nofun
  | error f => grind [afterRead, Transfer.afterSingle]

/-- A step of a data listener reads, or calls the callback, or has nothing to do with bytes. -/
theorem Edge.bytes_cases {th : Thread} {chunk : Nat} {h h' : Host} {p q : Point} {w : Waker}
    {handed : List Bytes} (e : Edge th chunk h p q w h' handed) :
    (h.SameButFaults h' ∧ handed = [] ∧ ∀ bs, p ≠ .delivering bs ∧ q ≠ .delivering bs) ∨
    (∃ hungUp, p = .reading hungUp ∧
      q = afterRead hungUp (h.readFd th.fd (readRoom chunk)).1 ∧
      h' = (h.readFd th.fd (readRoom chunk)).2 ∧ handed = []) ∨
    (∃ bytes, p = .delivering bytes ∧ h' = h ∧ handed = [bytes] ∧ ∀ bs, q ≠ .delivering bs) := by
  have hrefl := Host.SameButFaults.refl h
  cases e with
  | created hh hq =>
    refine Or.inl ⟨hh, rfl, fun bs => ⟨nofun, ?_⟩⟩
    rcases hq with rfl | rfl <;> exact nofun
  | refused hh => exact Or.inl ⟨hh, rfl, fun bs => ⟨nofun, nofun⟩⟩
  | announced | reset | admitted | left => exact Or.inl ⟨hrefl, rfl, fun bs => ⟨nofun, nofun⟩⟩
  | looked => exact Or.inl ⟨hrefl, rfl, fun bs => ⟨nofun, by grind [afterHead]⟩⟩
  | entered hh fault? =>
    refine Or.inl ⟨hh, rfl, fun bs => ⟨nofun, ?_⟩⟩
    cases fault? <;> grind [afterPoll]
  | reported => exact Or.inl ⟨hrefl, rfl, fun bs => ⟨nofun, by grind [afterReport, serve]⟩⟩
  | interrupted => exact Or.inl ⟨hrefl, rfl, fun bs => ⟨nofun, by grind [afterPoll]⟩⟩
  | rechecked => exact Or.inl ⟨hrefl, rfl, fun bs => ⟨nofun, by grind [afterRecheck, serve]⟩⟩
  | read hungUp => exact Or.inr (Or.inl ⟨hungUp, rfl, rfl, rfl, rfl⟩)
  | unread =>
    refine Or.inl ⟨hrefl, rfl, fun bs => ⟨nofun, afterRead_ne_delivering ?_ bs⟩⟩
    intro bytes hok
    cases hok
  | handed bytes hq =>
    refine Or.inr (Or.inr ⟨bytes, rfl, rfl, rfl, ?_⟩)
    intro bs
    rcases hq with rfl | rfl <;> exact nofun

end DataLoop

/-! ## One thread of a crew -/

/-- What happens to one thread: the host before and after, the thread after, and the calls of its
callback. -/
inductive Thread.Step (h : Host) (th : Thread) : Host → Thread → List Item → Prop where
  | data {p q : DataLoop.Point} {chunk : Nat} {gated : Bool} {w : Waker} {h' : Host}
      {handed : List Bytes} {th' : Thread} (hb : th.body = .data p chunk gated)
      (e : DataLoop.Edge th chunk h p q w h' handed) (hb' : th'.body = .data q chunk gated)
      (hw : th'.waker = w) (hfd : th'.fd = th.fd) (hc : th'.cancelled = th.cancelled) :
      Step h th h' th' (handed.map .bytes)
  | event {p q : SampleLoop.Point LineStatus} {source source' : LineSource} {w : Waker}
      {h' : Host} {handed : List LineStatus} {th' : Thread} (hb : th.body = .event p source)
      (e : SampleLoop.Edge th true p q w handed) (hh : h.SameButFaults h')
      (hb' : th'.body = .event q source') (hw : th'.waker = w) (hfd : th'.fd = th.fd)
      (hc : th'.cancelled = th.cancelled) : Step h th h' th' (handed.map .lines)
  | watch {p q : SampleLoop.Point Bool} {path : Path} {w : Waker} {h' : Host}
      {handed : List Bool} {th' : Thread} (hb : th.body = .watch p path)
      (e : SampleLoop.Edge th false p q w handed) (hh : h.SameButFaults h')
      (hb' : th'.body = .watch q path) (hw : th'.waker = w) (hfd : th'.fd = th.fd)
      (hc : th'.cancelled = th.cancelled) : Step h th h' th' (handed.map .presence)
  | poked : Step h th h { th with waker := (th.waker.add 1).2 } []
  | letGo : Step h th h { th with held := false } []

namespace Crew

variable {c c' : Crew} {t : ThreadId} {th : Thread}

/-! ## Replacing a thread and adding one -/

theorem lt_of_thread (h : c.thread? t = some th) : t < c.threads.length :=
  (List.getElem?_eq_some_iff.mp h).1

theorem thread?_set_self {th' : Thread} (ht : c.thread? t = some th)
    (hset : c'.threads = c.threads.set t th') : c'.thread? t = some th' := by
  rw [thread?, hset]
  exact List.getElem?_set_self (lt_of_thread ht)

theorem thread?_set_ne {u : ThreadId} {th' : Thread} (hset : c'.threads = c.threads.set t th')
    (hne : u ≠ t) : c'.thread? u = c.thread? u := by
  rw [thread?, hset]
  exact List.getElem?_set_ne (Ne.symm hne)

/-- A thread after one was replaced is that one, or it was there before. -/
theorem thread?_set_cases {u : ThreadId} {th' thu : Thread} (ht : c.thread? t = some th)
    (hset : c'.threads = c.threads.set t th') (hu : c'.thread? u = some thu) :
    (u = t ∧ thu = th') ∨ (u ≠ t ∧ c.thread? u = some thu) := by
  by_cases hut : u = t
  · subst hut
    rw [thread?_set_self ht hset] at hu
    exact Or.inl ⟨rfl, (Option.some.inj hu).symm⟩
  · rw [thread?_set_ne hset hut] at hu
    exact Or.inr ⟨hut, hu⟩

/-- A thread after one was added is that one, or it was there before. -/
theorem thread?_append_cases {u : ThreadId} {thu : Thread}
    (hadd : c'.threads = c.threads ++ [th]) (hu : c'.thread? u = some thu) :
    c.thread? u = some thu ∨ (u = c.threads.length ∧ thu = th) := by
  rw [thread?, hadd] at hu
  rcases Nat.lt_trichotomy u c.threads.length with hlt | rfl | hgt
  · rw [List.getElem?_append_left hlt] at hu
    exact Or.inl hu
  · rw [List.getElem?_concat_length] at hu
    exact Or.inr ⟨rfl, (Option.some.inj hu).symm⟩
  · rw [List.getElem?_eq_none (by simpa using Nat.succ_le_of_lt hgt)] at hu
    cases hu

/-! ## Steps -/

/-- A crew after something has happened to one of its threads. -/
def StepsAt (t : ThreadId) (c c' : Crew) : Prop :=
  ∃ th th' items, c.thread? t = some th ∧ th.Step c.host c'.host th' items ∧
    c'.threads = c.threads.set t th' ∧ c'.delivered = items.map (t, ·) ++ c.delivered

/-- Calling a callback changes the thread's place in its loop, and logs the call. -/
theorem deliver_spec (t : ThreadId) (th : Thread) (item : Item) (returned panicked : Body)
    (c : Crew) :
    ∃ th', c.deliver t th item returned panicked =
        { c with threads := c.threads.set t th', delivered := (t, item) :: c.delivered } ∧
      (th'.body = returned ∨ th'.body = panicked) ∧ th'.waker = th.waker ∧ th'.fd = th.fd ∧
      th'.cancelled = th.cancelled := by
  unfold deliver
  -- a call returns, panics, or blocks until it is let go, and then it returns
  rcases th.callback.call with ⟨callback, _ | _ | _⟩
  · exact ⟨_, rfl, Or.inl rfl, rfl, rfl, rfl⟩
  · exact ⟨_, rfl, Or.inr rfl, rfl, rfl, rfl⟩
  · exact ⟨_, rfl, Or.inl rfl, rfl, rfl, rfl⟩

theorem endRead_spec (t : ThreadId) (th : Thread) (chunk : Nat) (gated hungUp : Bool)
    (outcome : CallOutcome Bytes) (c : Crew) :
    ∃ gates, c.endRead t th chunk gated hungUp outcome =
      { c with
        gates
        threads := c.threads.set t
          { th with body := .data (DataLoop.afterRead hungUp outcome) chunk gated } } := by
  unfold endRead
  by_cases hg : (gated && !(DataLoop.afterRead hungUp outcome).holdsGate) = true
  · exact ⟨_, by simp only [hg, if_true]; rfl⟩
  · exact ⟨_, by simp only [hg]; rfl⟩

/-- A step of a data listener that calls no callback. -/
theorem stepsAt_data {p q : DataLoop.Point} {chunk : Nat} {gated : Bool} {th' : Thread}
    (ht : c.thread? t = some th) (hb : th.body = .data p chunk gated)
    (hth : c'.threads = c.threads.set t th') (hdel : c'.delivered = c.delivered)
    (e : DataLoop.Edge th chunk c.host p q th'.waker c'.host [])
    (hb' : th'.body = .data q chunk gated) (hfd : th'.fd = th.fd)
    (hc : th'.cancelled = th.cancelled) : StepsAt t c c' :=
  ⟨th, th', [], ht, .data hb e hb' rfl hfd hc, hth, hdel⟩

theorem stepData_edge {p : DataLoop.Point} {chunk : Nat} {gated : Bool}
    (ht : c.thread? t = some th) (hb : th.body = .data p chunk gated)
    (h : c.stepData t th p chunk gated = some c') : StepsAt t c c' := by
  cases p with
  | creating =>
    simp only [stepData] at h
    rcases c.host.createWaker_cases with ⟨h', hh, hw⟩ | ⟨e, h', hh, hw⟩
    · rw [hw] at h
      obtain rfl := Option.some.inj h
      refine stepsAt_data ht hb rfl rfl (.created hh ?_) rfl rfl rfl
      split
      · exact Or.inr rfl
      · exact Or.inl rfl
    · rw [hw] at h
      obtain rfl := Option.some.inj h
      exact stepsAt_data ht hb rfl rfl (.refused hh) rfl rfl rfl
  | announcing =>
    obtain rfl := Option.some.inj h
    exact stepsAt_data ht hb rfl rfl .announced rfl rfl rfl
  | head =>
    obtain rfl := Option.some.inj h
    exact stepsAt_data ht hb rfl rfl .looked rfl rfl rfl
  | polling =>
    obtain rfl := Option.some.inj h
    exact stepsAt_data ht hb rfl rfl (.entered (Host.takeFault_same _ _) _) rfl rfl rfl
  | parked =>
    simp only [stepData] at h
    split at h
    · rename_i hany
      obtain rfl := Option.some.inj h
      exact stepsAt_data ht hb rfl rfl (.reported rfl hany) rfl rfl rfl
    · cases h
  | resetting r =>
    obtain rfl := Option.some.inj h
    exact stepsAt_data ht hb rfl rfl (.reset r) rfl rfl rfl
  | rechecking r =>
    obtain rfl := Option.some.inj h
    exact stepsAt_data ht hb rfl rfl (.rechecked r) rfl rfl rfl
  | gating hungUp =>
    simp only [stepData] at h
    split at h
    · obtain rfl := Option.some.inj h
      exact stepsAt_data ht hb rfl rfl (.admitted hungUp) rfl rfl rfl
    · split at h
      · obtain rfl := Option.some.inj h
        exact stepsAt_data ht hb rfl rfl (.admitted hungUp) rfl rfl rfl
      · cases h
  | reading hungUp =>
    simp only [stepData] at h
    obtain ⟨gates, hend⟩ := endRead_spec t th chunk gated hungUp
      (c.host.readFd th.fd (DataLoop.readRoom chunk)).1
      { c with host := (c.host.readFd th.fd (DataLoop.readRoom chunk)).2 }
    rw [hend] at h
    obtain rfl := Option.some.inj h
    exact stepsAt_data ht hb rfl rfl (.read hungUp) rfl rfl rfl
  | delivering bytes =>
    simp only [stepData] at h
    obtain ⟨th', hdel, hbody, hw, hfd, hc⟩ := deliver_spec t th (.bytes bytes)
      (.data .head chunk gated) (.data (.dead .running) chunk gated) c
    rw [hdel] at h
    obtain rfl := Option.some.inj h
    rcases hbody with hbody | hbody
    · exact ⟨th, th', [.bytes bytes], ht,
        .data hb (.handed bytes (Or.inl rfl)) hbody hw hfd hc, rfl, rfl⟩
    · exact ⟨th, th', [.bytes bytes], ht,
        .data hb (.handed bytes (Or.inr rfl)) hbody hw hfd hc, rfl, rfl⟩
  | leaving =>
    obtain rfl := Option.some.inj h
    exact stepsAt_data ht hb rfl rfl .left rfl rfl rfl
  | gone => cases h
  | dead stage => cases h

/-! ## Sampling threads -/

section Sampler

variable {α : Type} [DecidableEq α] {rechecks : Bool} {item : α → Item}
  {sample : Host → Outcome α × (SampleLoop.Point α → Body) × Host}
  {body : SampleLoop.Point α → Body} {p : SampleLoop.Point α}

/-- A step of a sampling thread, which may replace what it runs at a point by what its source
gives. -/
theorem stepSampler_edge (hsame : ∀ host : Host, host.SameButFaults (sample host).2.2)
    (h : c.stepSampler t th p rechecks item sample body = some c') :
    ∃ th' q handed, c'.threads = c.threads.set t th' ∧
      c'.delivered = (handed.map item).map (t, ·) ++ c.delivered ∧
      SampleLoop.Edge th rechecks p q th'.waker handed ∧ c.host.SameButFaults c'.host ∧
      (th'.body = body q ∨ th'.body = (sample c.host).2.1 q) ∧ th'.fd = th.fd ∧
      th'.cancelled = th.cancelled := by
  have hrefl := Host.SameButFaults.refl c.host
  cases p with
  | creating =>
    simp only [stepSampler] at h
    rcases c.host.createWaker_cases with ⟨h', hh, hw⟩ | ⟨e, h', hh, hw⟩
    · rw [hw] at h
      obtain rfl := Option.some.inj h
      exact ⟨_, _, [], rfl, rfl, .created, hh, Or.inl rfl, rfl, rfl⟩
    · rw [hw] at h
      obtain rfl := Option.some.inj h
      exact ⟨_, _, [], rfl, rfl, .refused, hh, Or.inl rfl, rfl, rfl⟩
  | firstSample =>
    obtain rfl := Option.some.inj h
    exact ⟨_, _, [], rfl, rfl, .first _, hsame _, Or.inr rfl, rfl, rfl⟩
  | announcing last =>
    obtain rfl := Option.some.inj h
    exact ⟨_, _, [], rfl, rfl, .announced last, hrefl, Or.inl rfl, rfl, rfl⟩
  | head last =>
    obtain rfl := Option.some.inj h
    exact ⟨_, _, [], rfl, rfl, .looked last, hrefl, Or.inl rfl, rfl, rfl⟩
  | waiting last =>
    obtain rfl := Option.some.inj h
    exact ⟨_, _, [], rfl, rfl, .entered last _, Host.takeFault_same _ _, Or.inl rfl, rfl, rfl⟩
  | parked last =>
    simp only [stepSampler] at h
    split at h
    · rename_i hready
      obtain rfl := Option.some.inj h
      exact ⟨_, _, [], rfl, rfl, .woken last hready, hrefl, Or.inl rfl, rfl, rfl⟩
    · cases h
  | resetting last =>
    obtain rfl := Option.some.inj h
    exact ⟨_, _, [], rfl, rfl, .reset last, hrefl, Or.inl rfl, rfl, rfl⟩
  | rechecking last =>
    obtain rfl := Option.some.inj h
    exact ⟨_, _, [], rfl, rfl, .rechecked last, hrefl, Or.inl rfl, rfl, rfl⟩
  | sampling last =>
    obtain rfl := Option.some.inj h
    exact ⟨_, _, [], rfl, rfl, .sampled last _, hsame _, Or.inr rfl, rfl, rfl⟩
  | reporting now =>
    simp only [stepSampler] at h
    obtain ⟨th', hdel, hbody, hw, hfd, hc⟩ := deliver_spec t th (item now)
      (body (.head now)) (body (.dead .running)) c
    rw [hdel] at h
    obtain rfl := Option.some.inj h
    rcases hbody with hbody | hbody
    · exact ⟨th', _, [now], rfl, rfl, hw ▸ .handed now (Or.inl rfl), hrefl, Or.inl hbody, hfd, hc⟩
    · exact ⟨th', _, [now], rfl, rfl, hw ▸ .handed now (Or.inr rfl), hrefl, Or.inl hbody, hfd, hc⟩
  | leaving =>
    obtain rfl := Option.some.inj h
    exact ⟨_, _, [], rfl, rfl, .left, hrefl, Or.inl rfl, rfl, rfl⟩
  | gone => cases h
  | dead stage => cases h

end Sampler

/-- A step of an event listener that calls no callback. -/
theorem stepsAt_event {p q : SampleLoop.Point LineStatus} {source source' : LineSource}
    {th' : Thread} (ht : c.thread? t = some th) (hb : th.body = .event p source)
    (hth : c'.threads = c.threads.set t th') (hdel : c'.delivered = c.delivered)
    (hh : c.host.SameButFaults c'.host) (e : SampleLoop.Edge th true p q th'.waker [])
    (hb' : th'.body = .event q source') (hfd : th'.fd = th.fd)
    (hc : th'.cancelled = th.cancelled) : StepsAt t c c' :=
  ⟨th, th', [], ht, .event hb e hh hb' rfl hfd hc, hth, hdel⟩

/-- A step of a presence watcher that calls no callback. -/
theorem stepsAt_watch {p q : SampleLoop.Point Bool} {path : Path} {th' : Thread}
    (ht : c.thread? t = some th) (hb : th.body = .watch p path)
    (hth : c'.threads = c.threads.set t th') (hdel : c'.delivered = c.delivered)
    (hh : c.host.SameButFaults c'.host) (e : SampleLoop.Edge th false p q th'.waker [])
    (hb' : th'.body = .watch q path) (hfd : th'.fd = th.fd)
    (hc : th'.cancelled = th.cancelled) : StepsAt t c c' :=
  ⟨th, th', [], ht, .watch hb e hh hb' rfl hfd hc, hth, hdel⟩

theorem sampleSource_same (fd : Fd) (source : LineSource) (h : Host) :
    h.SameButFaults (sampleSource fd source h).2.2 := by
  unfold sampleSource
  cases source.script? with
  | some d => exact Host.SameButFaults.refl h
  | none => exact Host.sampleLines_same fd h

theorem stepEvent_edge {p : SampleLoop.Point LineStatus} {source : LineSource}
    (ht : c.thread? t = some th) (hb : th.body = .event p source)
    (h : c.stepEvent t th p source = some c') : StepsAt t c c' := by
  have hrefl := Host.SameButFaults.refl c.host
  unfold stepEvent at h
  -- the user's source may do something else than return for the first sample
  split at h
  · obtain rfl := Option.some.inj h
    exact stepsAt_event ht hb rfl rfl hrefl .panickedFirst rfl rfl rfl
  · obtain rfl := Option.some.inj h
    exact stepsAt_event ht hb rfl rfl hrefl .heldFirst rfl rfl rfl
  · obtain ⟨th', q, handed, hth, hdel, e, hh, hbody, hfd, hc⟩ :=
      stepSampler_edge (fun host => sampleSource_same th.fd source host) h
    -- a sample leaves the source shorter, all other steps leave it as it is
    rcases hbody with hbody | hbody
    · exact ⟨th, th', _, ht, .event hb e hh hbody rfl hfd hc, hth, hdel⟩
    · exact ⟨th, th', _, ht, .event hb e hh hbody rfl hfd hc, hth, hdel⟩

theorem stepWatch_edge {p : SampleLoop.Point Bool} {path : Path} (ht : c.thread? t = some th)
    (hb : th.body = .watch p path) (h : c.stepWatch t th p path = some c') :
    StepsAt t c c' := by
  obtain ⟨th', q, handed, hth, hdel, e, hh, hbody, hfd, hc⟩ :=
    stepSampler_edge (fun host => Host.SameButFaults.refl host) h
  have hbody : th'.body = .watch q path := by rcases hbody with hbody | hbody <;> exact hbody
  exact ⟨th, th', _, ht, .watch hb e hh hbody rfl hfd hc, hth, hdel⟩

/-- One step of a thread, whatever it runs. -/
theorem step_edge (h : c.step t = some c') : StepsAt t c c' := by
  unfold step at h
  cases ht : c.thread? t with
  | none => simp [ht] at h
  | some th =>
    simp only [ht, Option.bind_eq_bind, Option.bind_some] at h
    split at h
    · cases h
    · split at h
      · rename_i hb
        exact stepData_edge ht hb h
      · rename_i hb
        exact stepEvent_edge ht hb h
      · rename_i hb
        exact stepWatch_edge ht hb h

/-- A wait or a read that fails. -/
theorem fail_edge {code : Errno} (h : c.fail t code = some c') : StepsAt t c c' := by
  have hrefl := Host.SameButFaults.refl c.host
  unfold fail at h
  cases ht : c.thread? t with
  | none => simp [ht] at h
  | some th =>
    simp only [ht, Option.bind_eq_bind, Option.bind_some] at h
    split at h
    · rename_i hb
      obtain rfl := Option.some.inj h
      exact stepsAt_data ht hb rfl rfl (.interrupted code) rfl rfl rfl
    · rename_i hungUp chunk gated hb
      rcases endRead_spec t th chunk gated hungUp (.error (.errno code)) c with ⟨gates, hend⟩
      rw [hend] at h
      obtain rfl := Option.some.inj h
      exact stepsAt_data ht hb rfl rfl (.unread hungUp code) rfl rfl rfl
    · rename_i last source hb
      obtain rfl := Option.some.inj h
      exact stepsAt_event ht hb rfl rfl hrefl (.interrupted last code) rfl rfl rfl
    · rename_i last path hb
      obtain rfl := Option.some.inj h
      exact stepsAt_watch ht hb rfl rfl hrefl (.interrupted last code) rfl rfl rfl
    · cases h

/-- An interval that passes. -/
theorem elapse_edge (h : c.elapse t = some c') : StepsAt t c c' := by
  have hrefl := Host.SameButFaults.refl c.host
  unfold elapse at h
  cases ht : c.thread? t with
  | none => simp [ht] at h
  | some th =>
    simp only [ht, Option.bind_eq_bind, Option.bind_some] at h
    split at h
    · rename_i last source hb
      obtain rfl := Option.some.inj h
      exact stepsAt_event ht hb rfl rfl hrefl (.elapsed last) rfl rfl rfl
    · rename_i last path hb
      obtain rfl := Option.some.inj h
      exact stepsAt_watch ht hb rfl rfl hrefl (.elapsed last) rfl rfl rfl
    · cases h

/-! ## Everything that happens without a client -/

/-- What happens to a crew without a client. -/
inductive Event where
  /-- A thread does the next thing in its loop. -/
  | step (t : ThreadId)
  /-- The interval of a sleeping thread passes. -/
  | elapse (t : ThreadId)
  /-- The wait or the read that a thread is in fails. -/
  | fail (t : ThreadId) (code : Errno)
  /-- A wake-up comes from nobody's call. -/
  | poke (t : ThreadId)
  /-- A call into the user's code returns. -/
  | letGo (t : ThreadId)

/-- The crew after an event; `none` if it cannot happen. -/
def after? (c : Crew) : Event → Option Crew
  | .step t => c.step t
  | .elapse t => c.elapse t
  | .fail t code => c.fail t code
  | .poke t => some (c.poke t)
  | .letGo t => some (c.letGo t)

theorem editThread_cases (edit : Thread → Thread) (t : ThreadId) (c : Crew) :
    c.editThread t edit = c ∨
    ∃ th, c.thread? t = some th ∧
      c.editThread t edit = { c with threads := c.threads.set t (edit th) } := by
  unfold editThread
  cases ht : c.thread? t with
  | none => exact Or.inl rfl
  | some th => exact Or.inr ⟨th, rfl, rfl⟩

/-- An event concerns one thread, or changes nothing. -/
theorem after?_cases {e : Event} (h : c.after? e = some c') :
    c' = c ∨ ∃ t, StepsAt t c c' := by
  cases e with
  | step t => exact Or.inr ⟨t, step_edge h⟩
  | elapse t => exact Or.inr ⟨t, elapse_edge h⟩
  | fail t code => exact Or.inr ⟨t, fail_edge h⟩
  | poke t =>
    obtain rfl := Option.some.inj h
    rcases editThread_cases (fun th => { th with waker := (th.waker.add 1).2 }) t c with
      hsame | ⟨th, ht, hedit⟩
    · exact Or.inl hsame
    · exact Or.inr ⟨t, th, _, [], ht, by rw [poke, hedit]; exact .poked, by rw [poke, hedit],
        by rw [poke, hedit]; rfl⟩
  | letGo t =>
    obtain rfl := Option.some.inj h
    rcases editThread_cases ({ · with held := false }) t c with hsame | ⟨th, ht, hedit⟩
    · exact Or.inl hsame
    · exact Or.inr ⟨t, th, _, [], ht, by rw [letGo, hedit]; exact .letGo, by rw [letGo, hedit],
        by rw [letGo, hedit]; rfl⟩

end Crew

end SerialLine
