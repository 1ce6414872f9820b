import Mathlib
import SerialLine.Proofs.Listener.Changes
import SerialLine.Proofs.Monitor.Overlap

/-!
# SerialLine.Proofs.Monitor.Presence — presence watchers follow their paths

`Lookout` is any run of a monitor from the step that creates the thread of a watcher, with the
record of what was seen of the thread since. Here calls to the system and waits may fail, and
clients, other watchers and the host do whatever they can.

A watcher has only two values to report, so what it reports alternates, and who knows the last call
of the callback knows what the latest sample was: `Lookout.tracks_presence`. A watcher does not look
at its cancellation right after it has taken its wake-ups, as event listeners do, but it looks
before it waits again, so it samples no more either.
-/

namespace SerialLine

open SampleLoop

/-! ## Changes among samples -/

namespace SampleLoop

variable {α : Type} [DecidableEq α]

/-- The first value and the changes after it are the values without their repetitions. -/
theorem cons_changes (first : α) (rest : List α) :
    first :: changes (first :: rest) = (first :: rest).destutter (· ≠ ·) := by
  induction rest generalizing first with
  | nil => rfl
  | cons b rest ih =>
    have hrest := ih b
    rw [List.destutter_cons'] at hrest
    rw [changes_cons, List.destutter_cons']
    by_cases hsame : b = first
    · subst hsame
      rw [if_pos rfl, List.nil_append, hrest, List.destutter'_cons_neg (h := by simp)]
    · have hne : first ≠ b := fun h => hsame h.symm
      rw [if_neg hsame, List.singleton_append, hrest, List.destutter'_cons_pos (h := hne)]

/-- The last change is to the last value. -/
theorem getLast?_cons_changes (first : α) (rest : List α) :
    (first :: changes (first :: rest)).getLast? = (first :: rest).getLast? := by
  induction rest generalizing first with
  | nil => rfl
  | cons b rest ih =>
    rw [changes_cons, List.getLast?_cons_cons, ← ih b]
    by_cases hsame : b = first
    · rw [if_pos hsame, List.nil_append, hsame]
    · rw [if_neg hsame, List.singleton_append, List.getLast?_cons_cons]

namespace Point

omit [DecidableEq α]

/-- Whether something may hold a thread up here: whoever has created it, or a call of the user's
code. -/
def mayStall : Point α → Bool
  | creating => true
  | p => p.mayHold

/-- Whether a thread is on its way out: it has left its loop, or it was asked to end and takes its
wake-ups or looks at what it was asked before it waits again. -/
def isDone (asked : Bool) : Point α → Bool
  | head _ | resetting _ | rechecking _ => asked
  | p => p.isOver

end Point

/-- A thread on its way out stays so, and reports no more. -/
theorem Seen.isDone {rechecks asked : Bool} {p q : Point α} {mark? : Option (SampleMark α)}
    {told : List (Outcome Unit)} {handed : List α}
    (h : Seen rechecks asked p mark? q told handed) (hdone : p.isDone asked = true) :
    q.isDone asked = true ∧ handed = [] := by
  cases h with
  | still => exact ⟨hdone, rfl⟩
  | looked | rechecked =>
    obtain rfl : asked = true := hdone
    exact ⟨rfl, rfl⟩
  | reset =>
    obtain rfl : asked = true := hdone
    cases rechecks <;> exact ⟨rfl, rfl⟩
  | left => exact ⟨rfl, rfl⟩
  | _ => cases hdone

end SampleLoop

/-! ## What events show -/

namespace Crew

/-- What an event shows of a presence watcher. -/
def presenceMark? (t : ThreadId) (c : Crew) (e : Event) : Option (SampleMark Bool) :=
  if e.thread = t then
    match e, c.place? t with
    | .step _, some (_, .watch p path) =>
      p.mark? (.ok (c.host.devicePresent path)) (c.host.takeFault .pollWaker).1
    | .elapse _, some (_, .watch (.parked _) _) => some .timeout
    | .fail _ code, some (_, .watch (.parked _) _) => waitMark (some code)
    | _, _ => none
  else none

/-- What an event makes of a presence watcher, and what it shows of it. -/
structure Observed (t : ThreadId) (path : Path) (c c' : Crew) (th th' : Thread)
    (p q : Point Bool) (mark? : Option (SampleMark Bool)) (told : List (Outcome Unit))
    (handed : List Bool) : Prop where
  thread : c'.thread? t = some th'
  body : th'.body = .watch q path
  seen : Seen false th.cancelled p mark? q told handed
  items : c'.itemsOf t = c.itemsOf t ++ handed.map .presence
  reports : th'.reports = th.reports ++ told
  asked : th'.cancelled = th.cancelled
  held : th'.held = true → q.mayStall = true

variable {c c' : Crew} {t : ThreadId} {th th' : Thread} {p q : Point Bool} {path : Path}

/-- Nothing is told and nothing is called. -/
theorem Observed.quiet {mark? : Option (SampleMark Bool)} (ht : c'.thread? t = some th')
    (hb : th'.body = .watch q path) (hseen : Seen false th.cancelled p mark? q [] [])
    (hitems : c'.itemsOf t = c.itemsOf t) (hreports : th'.reports = th.reports)
    (hasked : th'.cancelled = th.cancelled) (hheld : th'.held = true → q.mayStall = true) :
    Observed t path c c' th th' p q mark? [] [] where
  thread := ht
  body := hb
  seen := hseen
  items := by rw [hitems]; exact (List.append_nil _).symm
  reports := by rw [hreports]; exact (List.append_nil _).symm
  asked := hasked
  held := hheld

/-- What is seen of a watcher that goes on. -/
theorem stepWatch_observed (ht : c.thread? t = some th) (hb : th.body = .watch p path)
    (hfree : th.held = false) (h : c.stepWatch t th p path = some c') :
    ∃ th' q told handed,
      Observed t path c c' th th' p q (c.presenceMark? t (.step t)) told handed := by
  obtain ⟨th', q, told, handed, hset, hdel, hseen, hbody, hreports, hasked, hheld⟩ :=
    stepSampler_seen hfree h
  have hmark : c.presenceMark? t (.step t) =
      p.mark? (.ok (c.host.devicePresent path)) (c.host.takeFault .pollWaker).1 := by
    simp [presenceMark?, Event.thread, place?, ht, hb]
  rw [hmark]
  refine ⟨th', q, told, handed, ?_⟩
  exact
    { thread := thread?_set_self ht hset
      body := by rw [hbody]; split <;> rfl
      seen := hseen
      items := by rw [itemsOf_append hdel, ← List.map_reverse, hseen.reverse_handed]
      reports := hreports
      asked := hasked
      held := fun held => by
        have hmay := hheld held
        cases q <;> first | rfl | exact hmay }

/-- What happens to a crew makes of a watcher what is seen of it. -/
theorem after?_observed {e : Event} (he : c.after? e = some c') (ht : c.thread? t = some th)
    (hb : th.body = .watch p path) (hheld : th.held = true → p.mayStall = true) :
    ∃ th' q told handed, Observed t path c c' th th' p q (c.presenceMark? t e) told handed := by
  by_cases hthread : e.thread = t
  · subst hthread
    have hplace : c.place? e.thread = some (th.fd, .watch p path) := by
      rw [place?, ht, Option.map_some, hb]
    -- while it waits nothing holds a watcher up
    have hfree : ∀ last, p = .parked last → th.held ≠ true := by
      rintro last rfl held
      cases hheld held
    cases e with
    | step t =>
      simp only [after?, step, Event.thread] at he ht
      simp only [ht, Option.bind_eq_bind, Option.bind_some, hb] at he
      split at he
      · cases he
      · next hnot => exact stepWatch_observed ht hb (by simpa using hnot) he
    | elapse t =>
      cases p with
      | parked last =>
        simp only [after?, elapse, Event.thread] at he ht
        simp only [ht, Option.bind_eq_bind, Option.bind_some, hb] at he
        obtain rfl := Option.some.inj he
        have hmark : c.presenceMark? t (.elapse t) = some .timeout := by
          simp [presenceMark?, Event.thread, place?, ht, hb]
        rw [Event.thread, hmark]
        exact ⟨_, _, [], [], .quiet (thread?_set_self ht rfl) rfl (.elapsed last) rfl rfl rfl
          fun held => absurd held (hfree last rfl)⟩
      | _ => simp [after?, elapse, Event.thread] at he ht; simp [ht, hb] at he
    | fail t code =>
      cases p with
      | parked last =>
        simp only [after?, fail, Event.thread] at he ht
        simp only [ht, Option.bind_eq_bind, Option.bind_some, hb] at he
        obtain rfl := Option.some.inj he
        have hmark : c.presenceMark? t (.fail t code) = waitMark (some code) := by
          simp [presenceMark?, Event.thread, place?, ht, hb]
        rw [Event.thread, hmark]
        exact ⟨_, _, [], [],
          .quiet (thread?_set_self ht rfl) rfl (.interrupted last code) rfl rfl rfl
            fun held => absurd held (hfree last rfl)⟩
      | _ => simp [after?, fail, Event.thread] at he ht; simp [ht, hb] at he
    | poke t =>
      obtain rfl := Option.some.inj he
      have hnone : c.presenceMark? t (.poke t) = none := by simp [presenceMark?]
      rw [Event.thread, hnone]
      exact ⟨{ th with waker := (th.waker.add 1).2 }, p, [], [],
        .quiet (thread?_editThread _ ht) hb (.still p) (itemsOf_congr (delivered_editThread _ t c))
          rfl rfl hheld⟩
    | letGo t =>
      obtain rfl := Option.some.inj he
      have hnone : c.presenceMark? t (.letGo t) = none := by simp [presenceMark?]
      rw [Event.thread, hnone]
      exact ⟨{ th with held := false }, p, [], [],
        .quiet (thread?_editThread _ ht) hb (.still p) (itemsOf_congr (delivered_editThread _ t c))
          rfl rfl fun held => absurd held Bool.false_ne_true⟩
  · have hnone : c.presenceMark? t e = none := if_neg hthread
    rw [hnone]
    exact ⟨th, p, [], [], .quiet ((after?_other he hthread).trans ht) hb (.still p)
      (after?_itemsOf_other he hthread) rfl rfl hheld⟩

end Crew

/-! ## A watcher and its record -/

namespace Crew

/-- What becomes of a crew when no thread of it goes on: its threads stay, as clients leave them,
and no callback is called. -/
structure Tended (c c' : Crew) : Prop where
  thread : ∀ {t th}, c.thread? t = some th → ∃ th', c'.thread? t = some th' ∧ th.Handled th'
  delivered : c'.delivered = c.delivered
  length : c.threads.length ≤ c'.threads.length

theorem Keeps.length_le {c c' : Crew} (h : c.Keeps c') : c.threads.length ≤ c'.threads.length :=
  Nat.le_of_eq h.length_eq.symm

theorem tended_cancel (t : ThreadId) (c : Crew) : c.Tended (c.cancel t) :=
  ⟨(Handled.cancelled t).thread, (c.keeps_cancel t).delivered, (c.keeps_cancel t).length_le⟩

theorem tended_wake (t : ThreadId) (c : Crew) : c.Tended (c.wake t).2 :=
  ⟨(Handled.woken t).thread, (c.keeps_wake t).delivered, (c.keeps_wake t).length_le⟩

theorem tended_host (c : Crew) (host : Host) : c.Tended { c with host } :=
  ⟨fun ht => ⟨_, ht, .refl _⟩, rfl, Nat.le_refl _⟩

theorem tended_spawn (th : Thread) (c : Crew) : c.Tended (c.spawn th).2 := by
  obtain ⟨host, -, ⟨e, he⟩ | he⟩ := c.spawn_cases th
  · rw [he]
    exact c.tended_host host
  · rw [he]
    refine ⟨fun {t thOld} ht => ⟨thOld, ?_, .refl thOld⟩, rfl, ?_⟩
    · exact (List.getElem?_append_left (lt_of_thread ht)).trans ht
    · exact List.length_append.symm ▸ Nat.le_add_right _ _

/-- Every call of a callback was made by a thread that is there. -/
def IsLogged (c : Crew) : Prop := ∀ x ∈ c.delivered, x.1 < c.threads.length

theorem IsLogged.tended {c c' : Crew} (h : c.IsLogged) (hc : c.Tended c') : c'.IsLogged := by
  intro x hx
  rw [hc.delivered] at hx
  exact Nat.lt_of_lt_of_le (h x hx) hc.length

theorem IsLogged.event {c c' : Crew} {e : Event} (h : c.IsLogged) (he : c.after? e = some c') :
    c'.IsLogged := by
  rcases after?_cases he with rfl | ⟨t, th, th', items, ht, -, hset, hdel⟩
  · exact h
  · intro x hx
    rw [hset, List.length_set]
    rw [hdel] at hx
    rcases List.mem_append.mp hx with hnew | hold
    · obtain ⟨item, -, rfl⟩ := List.mem_map.mp hnew
      exact lt_of_thread ht
    · exact h x hold

/-- Nobody has called the callback of a thread that is not there. -/
theorem IsLogged.itemsOf_length {c : Crew} (h : c.IsLogged) : c.itemsOf c.threads.length = [] := by
  have hnone : c.delivered.filter (fun x => decide (x.1 = c.threads.length)) = [] := by
    rw [List.filter_eq_nil_iff]
    intro x hx
    simpa using Nat.ne_of_lt (h x hx)
  rw [itemsOf, hnone]
  rfl

/-- A presence watcher is there, and the record of it fits. -/
structure Noted (t : ThreadId) (path : Path) (c : Crew) (log : SampleLog Bool) (th : Thread)
    (p : Point Bool) (reported present : List Bool) : Prop where
  thread : c.thread? t = some th
  body : th.body = .watch p path
  items : c.itemsOf t = reported.map .presence
  faithful : Faithful th.cancelled th.reports reported log present none p
  held : th.held = true → p.mayStall = true

/-- A look at a path does not fail. -/
theorem presenceMark?_ne_error (t : ThreadId) (c : Crew) (ev : Event) (e : Error) :
    c.presenceMark? t ev ≠ some (.sample (.error e)) := by
  have hwait : ∀ fault? : Option Errno,
      (waitMark fault? : Option (SampleMark Bool)) ≠ some (.sample (.error e)) := by
    intro fault? hmark
    have hcount := congrArg SampleMark.count hmark
    rw [SampleMark.count_waitMark] at hcount
    cases hcount
  intro hmark
  unfold presenceMark? at hmark
  split at hmark
  · split at hmark
    · next point _ _ _ =>
      cases point with
      | waiting last => exact hwait _ hmark
      | _ => simp [Point.mark?] at hmark
    · cases hmark
    · exact hwait _ hmark
    · cases hmark
  · cases hmark

namespace Noted

variable {c c' : Crew} {t : ThreadId} {path : Path} {log : SampleLog Bool} {th : Thread}
  {p : Point Bool} {reported present : List Bool}

theorem event {e : Event} (h : Noted t path c log th p reported present)
    (he : c.after? e = some c') : ∃ th' q reported' present',
      Noted t path c' (log.note (c.presenceMark? t e)) th' q reported' present' ∧
      ∀ r ∈ th.reports, r ∈ th'.reports := by
  obtain ⟨th', q, told, handed, hseen⟩ := after?_observed he h.thread h.body h.held
  obtain ⟨present', bad?, hfaithful⟩ := h.faithful.step hseen.seen
  -- the samples so far were good, and so is the new one
  obtain rfl : bad? = none := by
    cases bad? with
    | none => rfl
    | some e' =>
      have hbad : (.error e' : Outcome Bool) ∈ (log.note (c.presenceMark? t e)).samples := by
        rw [hfaithful.samples]
        simp
      have hgood : (.error e' : Outcome Bool) ∉ log.samples := by
        rw [h.faithful.samples]
        simp
      have hmark := presenceMark?_ne_error t c e e'
      generalize c.presenceMark? t e = mark? at hbad hmark
      rcases mark? with _ | outcome | _ | _
      · exact absurd hbad hgood
      · rcases List.mem_append.mp hbad with hold | hnew
        · exact absurd hold hgood
        · rw [← List.mem_singleton.mp hnew] at hmark
          exact absurd rfl hmark
      · exact absurd hbad hgood
      · exact absurd hbad hgood
  refine ⟨th', q, reported ++ handed, present', ?_, fun r hr => ?_⟩
  · exact
    { thread := hseen.thread
      body := hseen.body
      items := by rw [hseen.items, h.items, List.map_append]
      faithful := by
        rw [hseen.asked, hseen.reports]
        exact hfaithful
      held := hseen.held }
  · rw [hseen.reports]
    exact List.mem_append_left _ hr

theorem tended (h : Noted t path c log th p reported present) (hc : c.Tended c') :
    ∃ th', Noted t path c' log th' p reported present ∧ th'.reports = th.reports := by
  obtain ⟨th', ht', hth⟩ := hc.thread h.thread
  refine ⟨th', ?_, hth.reports⟩
  exact
    { thread := ht'
      body := hth.body.trans h.body
      items := (itemsOf_congr hc.delivered).trans h.items
      faithful := by
        rw [hth.reports]
        exact h.faithful.ask hth.asked
      held := by
        rw [hth.held]
        exact h.held }

/-- Nothing holds up a watcher that has to sample or to report a change. -/
theorem step_isSome (h : Noted t path c log th p reported present)
    (hp : p.due = 1 ∨ p.pending ≠ []) : ∃ c', c.step t = some c' := by
  have hfree : p.mayStall = false → th.held = false := fun hp =>
    Bool.eq_false_iff.mpr fun held => Bool.false_ne_true (hp.symm.trans (h.held held))
  cases p with
  | sampling | reporting =>
    simp only [step, h.thread, Option.bind_eq_bind, Option.bind_some, hfree rfl, h.body]
    exact ⟨_, rfl⟩
  | _ => simp [Point.due, Point.pending] at hp

end Noted

/-- A watcher is on its way out. -/
def IsDone (t : ThreadId) (c : Crew) : Prop :=
  ∃ th p path, c.thread? t = some th ∧ th.body = .watch p path ∧ p.isDone th.cancelled = true ∧
    (th.held = true → p.mayStall = true)

namespace IsDone

variable {c c' : Crew} {t : ThreadId}

theorem presenceMark? (h : c.IsDone t) (e : Event) : c.presenceMark? t e = none := by
  obtain ⟨th, p, path, ht, hb, hdone, -⟩ := h
  have hplace : c.place? t = some (th.fd, .watch p path) := by
    rw [place?, ht, Option.map_some, hb]
  cases p with
  | head | resetting | rechecking | leaving | gone =>
    cases e <;> simp [Crew.presenceMark?, hplace, Point.mark?]
  | _ => cases hdone

theorem event {e : Event} (h : c.IsDone t) (he : c.after? e = some c') :
    c'.IsDone t ∧ c'.itemsOf t = c.itemsOf t := by
  obtain ⟨th, p, path, ht, hb, hdone, hheld⟩ := h
  obtain ⟨th', q, told, handed, hseen⟩ := after?_observed he ht hb hheld
  obtain ⟨hdone', rfl⟩ := hseen.seen.isDone hdone
  refine ⟨⟨th', q, path, hseen.thread, hseen.body, ?_, hseen.held⟩, ?_⟩
  · rw [hseen.asked]
    exact hdone'
  · rw [hseen.items]
    exact List.append_nil _

theorem tended (h : c.IsDone t) (hc : c.Tended c') : c'.IsDone t := by
  obtain ⟨th, p, path, ht, hb, hdone, hheld⟩ := h
  obtain ⟨th', ht', hth⟩ := hc.thread ht
  refine ⟨th', p, path, ht', hth.body.trans hb, ?_, by rwa [hth.held]⟩
  cases hasked : th.cancelled with
  | true =>
    rw [hth.asked hasked]
    rwa [hasked] at hdone
  | false =>
    rw [hasked] at hdone
    cases p with
    | leaving | gone => rfl
    | _ => cases hdone

end IsDone

end Crew

/-! ## A monitor on which anything may fail -/

namespace Watch

variable {w w' : Watching} {p p' : Position}

theorem Edge.tended (he : Edge w p p' w') : w.crew.Tended w'.crew := by
  have hleft := w.crew.tended_host w.crew.host
  cases he with
  | spawned hspawn | unspawned hspawn =>
    have hspawned := congrArg (fun r => w.crew.Tended r.2) hspawn
    exact hspawned.mp (w.crew.tended_spawn _)
  | cancelled => exact w.crew.tended_cancel _
  | woken hwake | unwoken hwake =>
    have hwoken := congrArg (fun r => w.crew.Tended r.2) hwake
    exact hwoken.mp (w.crew.tended_wake _)
  | _ => exact hleft

/-- Where a registration stands that has created a thread, given what the thread has told. -/
inductive AsTold (t : ThreadId) (told : List (Outcome Unit)) : Position → Prop where
  | hearing (path : Path) (descriptor : Fd) : AsTold t told (.hearing path descriptor t)
  | recording (path : Path) (x : Watcher) (h : .ok () ∈ told) : AsTold t told (.recording path x)
  | returned (h : .ok () ∈ told) : AsTold t told (.finished (.ok ()))
  | dismissing (path : Path) (u : ThreadId) (e : Error) : AsTold t told (.dismissing path u e)
  | forgetting (path : Path) (e : Error) : AsTold t told (.forgetting path e)
  | failed (e : Error) : AsTold t told (.finished (.error e))

theorem AsTold.mono {t : ThreadId} {told told' : List (Outcome Unit)} (h : AsTold t told p)
    (hsub : ∀ r ∈ told, r ∈ told') : AsTold t told' p := by
  cases h with
  | hearing path descriptor => exact .hearing path descriptor
  | recording path x h => exact .recording path x (hsub _ h)
  | returned h => exact .returned (hsub _ h)
  | dismissing path u e => exact .dismissing path u e
  | forgetting path e => exact .forgetting path e
  | failed e => exact .failed e

theorem Edge.asTold {t : ThreadId} {th : Thread} (he : Edge w p p' w')
    (ht : w.crew.thread? t = some th) (h : AsTold t th.reports p) : AsTold t th.reports p' := by
  cases h with
  | hearing =>
    cases he with
    | heard hreport =>
      refine .recording _ _ ?_
      simp only [Crew.report?, ht] at hreport
      cases hreports : th.reports with
      | cons first rest =>
        rw [hreports] at hreport
        exact List.mem_cons.mpr (.inl (Option.some.inj hreport).symm)
      | nil =>
        by_cases hend : th.body.hasEnded = true <;> simp [hreports, hend] at hreport
    | misheard => exact .dismissing _ _ _
  | recording _ _ h =>
    cases he
    exact .returned h
  | dismissing =>
    cases he
    exact .forgetting _ _
  | forgetting =>
    cases he
    exact .failed _
  | returned | failed => cases he

end Watch

namespace WatchScene

/-- A scene after a step, where calls to the system may fail and waits too; `none` if the step
cannot be taken. -/
def attempt? (s : WatchScene) : WatchAction → Option WatchScene
  | .thread e =>
    (s.watching.crew.after? e).map fun crew => { s with watching := { s.watching with crew } }
  | .outside host => some { s with watching := s.watching.mapCrew ({ · with host }) }
  | a => s.act? a

/-- What any order of such steps leads to, from an empty monitor. -/
inductive Attempted (capacity intervalMs : Nat) : WatchScene → Prop where
  | start (host : Host) : Attempted capacity intervalMs (start capacity intervalMs host)
  | act {s s' : WatchScene} (a : WatchAction) (h : Attempted capacity intervalMs s)
    (ha : s.attempt? a = some s') : Attempted capacity intervalMs s'

/-- What a step shows of a presence watcher. -/
def presenceMark? (t : ThreadId) (s : WatchScene) : WatchAction → Option (SampleMark Bool)
  | .thread e => s.watching.crew.presenceMark? t e
  | _ => none

/-- What a registration or an unregistration has answered, by the number of its task. -/
def result? (i : Nat) (s : WatchScene) : Option (Outcome Unit) :=
  match s.tasks[i]? with
  | some (.call p) => p.result?
  | _ => none

variable {s s' : WatchScene} {a : WatchAction} {i : Nat} {t : ThreadId}

/-- A step is something that happens to a thread, or the threads do not go on. -/
theorem attempt?_crew (ha : s.attempt? a = some s') :
    (∃ e, a = .thread e ∧ s.watching.crew.after? e = some s'.watching.crew) ∨
    ((∀ t, s.presenceMark? t a = none) ∧ s.watching.crew.Tended s'.watching.crew) := by
  have hleft := s.watching.crew.tended_host s.watching.crew.host
  cases a with
  | thread e =>
    obtain ⟨crew, he, rfl⟩ := Option.map_eq_some_iff.mp ha
    exact .inl ⟨e, rfl, he⟩
  | outside host =>
    obtain rfl := Option.some.inj ha
    exact .inr ⟨fun _ => rfl, s.watching.crew.tended_host host⟩
  | begin p =>
    simp only [attempt?, act?] at ha
    split at ha
    · obtain rfl := Option.some.inj ha
      exact .inr ⟨fun _ => rfl, hleft⟩
    · cases ha
  | shutdown order =>
    simp only [attempt?, act?] at ha
    split at ha
    · obtain rfl := Option.some.inj ha
      exact .inr ⟨fun _ => rfl, hleft⟩
    · cases ha
  | proceed j =>
    obtain ⟨task, -, hrest⟩ := Option.bind_eq_some_iff.mp ha
    obtain ⟨⟨task', w⟩, hstep, hscene⟩ := Option.bind_eq_some_iff.mp hrest
    obtain rfl := Option.some.inj hscene
    refine .inr ⟨fun _ => rfl, ?_⟩
    cases task with
    | call p =>
      obtain ⟨⟨p', w'⟩, hcall, hmoved⟩ := Option.map_eq_some_iff.mp hstep
      obtain ⟨rfl, rfl⟩ := Prod.mk.inj hmoved
      exact (Watch.step_edge hcall).tended
    | shutdown d =>
      obtain ⟨⟨d', w'⟩, hd, hmoved⟩ := Option.map_eq_some_iff.mp hstep
      obtain ⟨rfl, rfl⟩ := Prod.mk.inj hmoved
      cases Watch.Shutdown.step_edge hd with
      | turned | leftBehind => exact hleft
      | wentOn he => exact he.tended

theorem Attempted.isLogged {capacity intervalMs : Nat} (h : Attempted capacity intervalMs s) :
    s.watching.crew.IsLogged := by
  induction h with
  | start host =>
    intro x hx
    cases hx
  | act a _ ha ih =>
    rcases attempt?_crew ha with ⟨e, -, he⟩ | ⟨-, htended⟩
    · exact ih.event he
    · exact ih.tended htended

/-- Whatever happens, a registration goes on as its thread has told. -/
theorem attempt?_asTold {p : Watch.Position} {th : Thread} (ha : s.attempt? a = some s')
    (hat : s.tasks[i]? = some (.call p)) (ht : s.watching.crew.thread? t = some th)
    (htold : Watch.AsTold t th.reports p) :
    ∃ p', s'.tasks[i]? = some (.call p') ∧ Watch.AsTold t th.reports p' := by
  have hlt := (List.getElem?_eq_some_iff.mp hat).1
  cases a with
  | thread e =>
    obtain ⟨crew, -, rfl⟩ := Option.map_eq_some_iff.mp ha
    exact ⟨p, hat, htold⟩
  | outside host =>
    obtain rfl := Option.some.inj ha
    exact ⟨p, hat, htold⟩
  | begin =>
    simp only [attempt?, act?] at ha
    split at ha
    · obtain rfl := Option.some.inj ha
      exact ⟨p, (List.getElem?_append_left hlt).trans hat, htold⟩
    · cases ha
  | shutdown order =>
    simp only [attempt?, act?] at ha
    split at ha
    · obtain rfl := Option.some.inj ha
      exact ⟨p, (List.getElem?_append_left hlt).trans hat, htold⟩
    · cases ha
  | proceed j =>
    obtain ⟨task, htask, hrest⟩ := Option.bind_eq_some_iff.mp ha
    obtain ⟨⟨task', w⟩, hstep, hscene⟩ := Option.bind_eq_some_iff.mp hrest
    obtain rfl := Option.some.inj hscene
    -- of the tasks only the registration itself moves on
    by_cases hji : j = i
    · subst hji
      obtain rfl := Option.some.inj (hat.symm.trans htask)
      obtain ⟨⟨p', w'⟩, hcall, hmoved⟩ := Option.map_eq_some_iff.mp hstep
      obtain ⟨rfl, rfl⟩ := Prod.mk.inj hmoved
      exact ⟨p', List.getElem?_set_self hlt, (Watch.step_edge hcall).asTold ht htold⟩
    · exact ⟨p, (List.getElem?_set_ne hji).trans hat, htold⟩

/-- Whatever happens from here, a watcher samples nothing, waits for nothing and calls nothing. -/
def Rests (t : ThreadId) (s : WatchScene) : Prop :=
  ∀ actions : List WatchAction, ∀ s' : WatchScene, actions.foldlM attempt? s = some s' →
    s'.watching.crew.itemsOf t = s.watching.crew.itemsOf t ∧ ∀ a, s'.presenceMark? t a = none

theorem rests_of_isDone (h : s.watching.crew.IsDone t) : s.Rests t := by
  intro actions s' hrun
  have hend : s'.watching.crew.IsDone t ∧
      s'.watching.crew.itemsOf t = s.watching.crew.itemsOf t := by
    refine run_keeps (P := fun x => x.watching.crew.IsDone t ∧
      x.watching.crew.itemsOf t = s.watching.crew.itemsOf t) ?_ ⟨h, rfl⟩ hrun
    intro a _ x x' hx ha
    rcases attempt?_crew ha with ⟨e, -, he⟩ | ⟨-, htended⟩
    · obtain ⟨hdone, hitems⟩ := hx.1.event he
      exact ⟨hdone, hitems.trans hx.2⟩
    · exact ⟨hx.1.tended htended, (Crew.itemsOf_congr htended.delivered).trans hx.2⟩
  refine ⟨hend.2, fun a => ?_⟩
  cases a with
  | thread e => exact hend.1.presenceMark? e
  | _ => rfl

end WatchScene

/-! ## Runs -/

/-- The runs of a scene from the step by which a registration creates the thread of a watcher, with
the record of what was seen of the thread. Everybody does whatever they can: intervals pass, waits
fail, wake-ups come from nobody, and clients stop the watcher. -/
inductive Lookout (i : Nat) (t : ThreadId) (path : Path) (capacity intervalMs : Nat) :
    WatchScene → SampleLog Bool → Prop where
  | created {s s' : WatchScene} {descriptor : Fd} {callback : Callback} {stalled : Bool}
    (h : s.Attempted capacity intervalMs)
    (hat : s.tasks[i]? = some (.call (.spawning path descriptor callback stalled)))
    (ha : s.attempt? (.proceed i) = some s')
    (hnew : s'.tasks[i]? = some (.call (.hearing path descriptor t))) :
    Lookout i t path capacity intervalMs s' {}
  | act {s s' : WatchScene} {log : SampleLog Bool} (a : WatchAction)
    (h : Lookout i t path capacity intervalMs s log) (ha : s.attempt? a = some s') :
    Lookout i t path capacity intervalMs s' (log.note (s.presenceMark? t a))

namespace Lookout

variable {i : Nat} {t : ThreadId} {path : Path} {capacity intervalMs : Nat} {s s' : WatchScene}
  {log : SampleLog Bool}

/-- Nothing is on record of a new watcher, and it has called nothing. -/
theorem start_noted {descriptor : Fd} {callback : Callback} {stalled : Bool}
    (h : s.Attempted capacity intervalMs)
    (hat : s.tasks[i]? = some (.call (.spawning path descriptor callback stalled)))
    (ha : s.attempt? (.proceed i) = some s')
    (hnew : s'.tasks[i]? = some (.call (.hearing path descriptor t))) :
    ∃ th, Crew.Noted t path s'.watching.crew {} th .creating [] [] := by
  have hlt := (List.getElem?_eq_some_iff.mp hat).1
  obtain ⟨task, htask, hrest⟩ := Option.bind_eq_some_iff.mp ha
  obtain ⟨⟨task', w⟩, hstep, hscene⟩ := Option.bind_eq_some_iff.mp hrest
  obtain rfl := Option.some.inj (hat.symm.trans htask)
  obtain ⟨⟨p', w'⟩, hcall, hmoved⟩ := Option.map_eq_some_iff.mp hstep
  obtain ⟨rfl, rfl⟩ := Prod.mk.inj hmoved
  obtain rfl := Option.some.inj hscene
  have hp' : p' = .hearing path descriptor t := by
    simpa [List.getElem?_set_self hlt] using hnew
  cases Watch.step_edge hcall with
  | unspawned => cases hp'
  | spawned hspawn =>
    obtain rfl : s.watching.crew.threads.length = t := (Watch.Position.hearing.inj hp').2.2
    obtain ⟨host, -, ⟨e, he⟩ | he⟩ := s.watching.crew.spawn_cases
      (Watch.thread path descriptor callback s.watching.monitor.intervalMs stalled)
    · rw [he] at hspawn
      cases hspawn
    · rw [he] at hspawn
      obtain rfl := (Prod.mk.inj hspawn).2
      refine ⟨Watch.thread path descriptor callback s.watching.monitor.intervalMs stalled, ?_⟩
      exact
        { thread := List.getElem?_concat_length
          body := rfl
          items := h.isLogged.itemsOf_length
          faithful := .start _
          held := fun _ => rfl }

theorem inv (h : Lookout i t path capacity intervalMs s log) :
    ∃ th p reported present, Crew.Noted t path s.watching.crew log th p reported present ∧
      ∃ position, s.tasks[i]? = some (.call position) ∧ Watch.AsTold t th.reports position := by
  induction h with
  | created h hat ha hnew =>
    obtain ⟨th, hnoted⟩ := start_noted h hat ha hnew
    exact ⟨th, .creating, [], [], hnoted, _, hnew, .hearing _ _⟩
  | @act s s' log a _ ha ih =>
    obtain ⟨th, p, reported, present, hnoted, position, hat, htold⟩ := ih
    obtain ⟨position', hat', htold'⟩ := WatchScene.attempt?_asTold ha hat hnoted.thread htold
    rcases WatchScene.attempt?_crew ha with ⟨e, rfl, he⟩ | ⟨hmark, htended⟩
    · obtain ⟨th', q, reported', present', hnoted', hsub⟩ := hnoted.event he
      exact ⟨th', q, reported', present', hnoted', position', hat', htold'.mono hsub⟩
    · obtain ⟨th', hnoted', hreports⟩ := hnoted.tended htended
      rw [hmark t]
      exact ⟨th', p, reported, present, hnoted', position', hat', hreports ▸ htold'⟩

/-- A presence watcher reports the changes of what it finds at its path. The first sample is taken
before its registration has succeeded, and there is one more for each timeout. What it reports
alternates, beginning with what the first sample was not, and unless a change is about to be
reported the last report, or else the first sample, tells what the latest sample was. A watcher
leaves its loop when it was asked to or a wait has failed. Having left it, or having been asked to
end and being about to take its wake-ups or having taken them, it samples no more. -/
theorem tracks_presence (h : Lookout i t path capacity intervalMs s log) :
    ∃ th p reported present, s.watching.crew.thread? t = some th ∧ th.body = .watch p path ∧
      log.samples = present.map .ok ∧
      (s.result? i = some (.ok ()) → present ≠ []) ∧
      -- one for each timeout, once the one that is due is taken
      log.samples.tail.length + p.due = log.timeouts ∧ (th.reports = [] → log.timeouts = 0) ∧
      -- the calls, and the one that is pending
      s.watching.crew.itemsOf t = reported.map .presence ∧
      reported ++ p.pending = changes present ∧
      (∀ first later, present = first :: later →
        (first :: reported).IsChain (· ≠ ·) ∧
        (p.pending = [] → (first :: reported).getLast? = present.getLast?)) ∧
      (p.due = 1 ∨ p.pending ≠ [] → ∃ s', s.attempt? (.thread (.step t)) = some s') ∧
      -- the ways out of the loop
      (log.waitFailures ≠ [] → p.isOver = true) ∧
      (p.isOver = true →
        s.Rests t ∧ (th.cancelled = true ∨ log.waitFailures ≠ [] ∨ log.samples = [])) ∧
      ∀ last, th.cancelled = true → p = .resetting last ∨ p = .head last → s.Rests t := by
  obtain ⟨th, p, reported, present, hnoted, position, hat, htold⟩ := h.inv
  have hfaithful := hnoted.faithful
  have hdone : p.isDone th.cancelled = true → s.Rests t := fun hdone =>
    WatchScene.rests_of_isDone ⟨th, p, path, hnoted.thread, hnoted.body, hdone, hnoted.held⟩
  refine ⟨th, p, reported, present, hnoted.thread, hnoted.body,
    hfaithful.samples.trans (List.append_nil _), ?_, hfaithful.paced, ?_, hnoted.items,
    hfaithful.reports, ?_, ?_, fun hfailed => hfaithful.failed (.inr hfailed), ?_, ?_⟩
  · intro hresult
    simp only [WatchScene.result?, hat] at hresult
    cases htold with
    | returned h => exact hfaithful.armed h
    | _ => cases hresult
  · intro hsilent
    by_contra htimeouts
    -- a thread that is past its start has told something
    exact hfaithful.started (fun hstage => htimeouts (hfaithful.unarmed hstage)) hsilent
  · rintro first later rfl
    have hall : (first :: reported) ++ p.pending = first :: changes (first :: later) :=
      congrArg (first :: ·) hfaithful.reports
    refine ⟨?_, fun hpending => ?_⟩
    · have hchain := List.isChain_destutter (· ≠ ·) (first :: later)
      rw [← cons_changes, ← hall] at hchain
      exact hchain.left_of_append
    · rw [hpending, List.append_nil] at hall
      rw [hall]
      exact getLast?_cons_changes first later
  · intro hp
    obtain ⟨c', hstep⟩ := hnoted.step_isSome hp
    have hafter : s.watching.crew.after? (.step t) = some c' := hstep
    exact ⟨_, congrArg (Option.map _) hafter⟩
  · intro hover
    have hleft : p.isDone th.cancelled = true := by
      cases p with
      | leaving | gone => rfl
      | _ => cases hover
    refine ⟨hdone hleft, ?_⟩
    simpa using hfaithful.exits hover
  · rintro last hasked (rfl | rfl)
    · exact hdone hasked
    · exact hdone hasked

/-- One more step of a run, and what is seen of the watcher. -/
def next? (t : ThreadId) (x : WatchScene × SampleLog Bool) (a : WatchAction) :
    Option (WatchScene × SampleLog Bool) :=
  (x.1.attempt? a).map fun s => (s, x.2.note (x.1.presenceMark? t a))

theorem run {actions : List WatchAction} {x x' : WatchScene × SampleLog Bool}
    (h : Lookout i t path capacity intervalMs x.1 x.2)
    (hrun : actions.foldlM (next? t) x = some x') :
    Lookout i t path capacity intervalMs x'.1 x'.2 := by
  refine run_keeps (P := fun x => Lookout i t path capacity intervalMs x.1 x.2) ?_ h hrun
  intro a _ x x' hx hnext
  obtain ⟨s, ha, rfl⟩ := Option.map_eq_some_iff.mp hnext
  exact hx.act a ha

/-- A host with a device on the desk. -/
def furnished : Host := ({} : Host).putEntry WatchScene.desk .null

/-- The desk is empty when its watcher is armed. It is woken for nothing, a device is put on the
desk, the watcher reports it, and takes the wake-up of its unregistration. -/
def furnishing : List WatchAction :=
  List.flatten [.replicate 3 (.thread (.step 0)), .replicate 2 (.proceed 0),
    .replicate 2 (.thread (.step 0)), [.thread (.poke 0)], .replicate 4 (.thread (.step 0)),
    [.outside furnished, .thread (.elapse 0)], .replicate 4 (.thread (.step 0)),
    [.begin (.taking WatchScene.desk)], .replicate 3 (.proceed 1),
    .replicate 2 (.thread (.step 0))]

theorem furnishing_tracked :
    ∃ s log, Lookout 0 0 WatchScene.desk 1 250 s log ∧ log.samples = [.ok false, .ok true] ∧
      log.timeouts = 1 ∧ s.result? 0 = some (.ok ()) ∧
      s.watching.crew.itemsOf 0 = [.presence true] ∧ s.Rests 0 := by
  have hruns : ∃ s₀ s₁,
      [.begin (.reserving WatchScene.desk 6 {} false), .proceed 0].foldlM WatchScene.attempt?
        (WatchScene.start 1 250 {}) = some s₀ ∧
      s₀.tasks[0]? = some (.call (.spawning WatchScene.desk 6 {} false)) ∧
      s₀.attempt? (.proceed 0) = some s₁ ∧
      s₁.tasks[0]? = some (.call (.hearing WatchScene.desk 6 0)) ∧
      (furnishing.foldlM (next? 0) (s₁, {})).map (fun x =>
          (x.2.samples, x.2.timeouts, x.1.result? 0, x.1.watching.crew.itemsOf 0,
            (x.1.watching.crew.thread? 0).map fun th => (th.cancelled, th.body))) =
        some ([.ok false, .ok true], 1, some (.ok ()), [.presence true],
          some (true, .watch (.head true) WatchScene.desk)) := by
    refine ⟨_, _, rfl, rfl, rfl, rfl, ?_⟩
    cbv
  obtain ⟨s₀, s₁, hregister, hat, hspawn, hnew, hrun⟩ := hruns
  obtain ⟨⟨s, log⟩, hfurnishing, hend⟩ := Option.map_eq_some_iff.mp hrun
  simp only [Prod.mk.injEq] at hend
  obtain ⟨hsamples, htimeouts, hresult, hitems, hplace⟩ := hend
  have hreach : s₀.Attempted 1 250 :=
    run_keeps (fun a _ _ _ hs ha => WatchScene.Attempted.act a hs ha) (.start {}) hregister
  have hlookout := (Lookout.created hreach hat hspawn hnew).run hfurnishing
  obtain ⟨th, p, -, -, hthread, hbody, -, -, -, -, -, -, -, -, -, -, hrests⟩ :=
    tracks_presence hlookout
  -- the watcher has taken the wake-up and is about to look at what it was asked
  rw [hthread, Option.map_some, hbody] at hplace
  obtain ⟨hasked, hpoint⟩ := Prod.mk.inj (Option.some.inj hplace)
  obtain ⟨rfl, -⟩ := Body.watch.inj hpoint
  exact ⟨s, log, hlookout, hsamples, htimeouts, hresult, hitems, hrests true hasked (.inr rfl)⟩

end Lookout

end SerialLine
