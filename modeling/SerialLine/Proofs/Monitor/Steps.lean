import SerialLine.Monitor.Call
import SerialLine.Proofs.Listener.Interleaving
import SerialLine.Proofs.Monitor.Table

/-!
# SerialLine.Proofs.Monitor.Steps — every step that a monitor's clients and watchers can take

`Watch.Edge` has one constructor for each way out of each position of a call, with all that the
step has found out, and `Watch.Shutdown.Edge` does the same for a shutdown. Of the threads it is
enough to know that a watcher goes on watching the same path until it ends, and that on a host
without faults no step of theirs changes the host.
-/

namespace SerialLine

/-! ## Calls -/

namespace Watch

/-- What a call may do next: the position that it leaves, the one that it reaches, and the monitor
with its threads afterwards. -/
inductive Edge (w : Watching) : Position → Position → Watching → Prop where
  | reserved {p : Path} {descriptor : Fd} {callback : Callback} {stalled : Bool}
    (hfree : ∀ e ∈ w.monitor.entries, ¬ e.1.same p = true)
    (hroom : w.monitor.entries.length < w.monitor.capacity) :
    Edge w (.reserving p descriptor callback stalled) (.spawning p descriptor callback stalled)
      { w with monitor := { w.monitor with entries := w.monitor.entries ++ [(p, none)] } }
  | refused {p : Path} {descriptor : Fd} {callback : Callback} {stalled : Bool} {e : Error}
    (hres : w.monitor.reserve p = .error e) :
    Edge w (.reserving p descriptor callback stalled) (.finished (.error e)) w
  | spawned {p : Path} {descriptor : Fd} {callback : Callback} {stalled : Bool} {crew : Crew}
    (hspawn : w.crew.spawn (thread p descriptor callback w.monitor.intervalMs stalled) =
      (.ok w.crew.threads.length, crew)) :
    Edge w (.spawning p descriptor callback stalled)
      (.hearing p descriptor w.crew.threads.length) { w with crew }
  | unspawned {p : Path} {descriptor : Fd} {callback : Callback} {stalled : Bool} {e : Error}
    {crew : Crew}
    (hspawn : w.crew.spawn (thread p descriptor callback w.monitor.intervalMs stalled) =
      (.error e, crew)) :
    Edge w (.spawning p descriptor callback stalled) (.forgetting p e) { w with crew }
  | heard {p : Path} {descriptor : Fd} {t : ThreadId}
    (hreport : w.crew.report? t = some (.ok ())) :
    Edge w (.hearing p descriptor t) (.recording p { descriptor, thread := t }) w
  | misheard {p : Path} {descriptor : Fd} {t : ThreadId} {e : Error}
    (hreport : w.crew.report? t = some (.error e)) :
    Edge w (.hearing p descriptor t) (.dismissing p t e) w
  | dismissed {p : Path} {t : ThreadId} {e : Error} (hend : w.crew.hasEnded t = true) :
    Edge w (.dismissing p t e) (.forgetting p e) w
  | recorded {p : Path} {x : Watcher} :
    Edge w (.recording p x) (.finished (.ok ())) { w with monitor := w.monitor.record p x }
  | forgotten {p : Path} {e : Error} :
    Edge w (.forgetting p e) (.finished (.error e)) { w with monitor := w.monitor.forget p }
  | taken {p q : Path} {x : Watcher} (hmem : (q, some x) ∈ w.monitor.entries)
    (hsame : q.same p = true) :
    Edge w (.taking p) (.cancelling x.thread) { w with monitor := w.monitor.forget p }
  | untaken {p : Path} {e : Error} (htake : w.monitor.take p = (.error e, w.monitor)) :
    Edge w (.taking p) (.finished (.error e)) w
  | cancelled {t : ThreadId} :
    Edge w (.cancelling t) (.waking t) { w with crew := w.crew.cancel t }
  | woken {t : ThreadId} {crew : Crew} (hwake : w.crew.wake t = (.ok (), crew)) :
    Edge w (.waking t) (.joining t) { w with crew }
  | unwoken {t : ThreadId} {e : Error} {crew : Crew} (hwake : w.crew.wake t = (.error e, crew)) :
    Edge w (.waking t) (.finished (.error e)) { w with crew }
  | joined {t : ThreadId} {result : Outcome Unit} (hjoin : w.crew.joined? t = some result) :
    Edge w (.joining t) (.finished result) w

variable {w w' : Watching}

/-- The ways out of a position are all that there are. -/
theorem step_edge {p p' : Position} (h : step p w = some (p', w')) : Edge w p p' w' := by
  cases p with
  | reserving p descriptor callback stalled =>
    simp only [step] at h
    split at h
    · rename_i hres
      rcases Monitor.reserve_ok hres with ⟨hfree, hroom, rfl⟩
      rcases Prod.mk.inj (Option.some.inj h) with ⟨rfl, rfl⟩
      exact .reserved hfree hroom
    · rename_i hres
      rcases Prod.mk.inj (Option.some.inj h) with ⟨rfl, rfl⟩
      exact .refused hres
  | spawning p descriptor callback stalled =>
    simp only [step] at h
    have hcases := w.crew.spawn_cases
      (thread p descriptor callback w.monitor.intervalMs stalled)
    rcases hcases with ⟨host, -, ⟨e, hspawn⟩ | hspawn⟩
    · rw [hspawn] at h
      rcases Prod.mk.inj (Option.some.inj h) with ⟨rfl, rfl⟩
      exact .unspawned hspawn
    · rw [hspawn] at h
      rcases Prod.mk.inj (Option.some.inj h) with ⟨rfl, rfl⟩
      exact .spawned hspawn
  | hearing p descriptor t =>
    simp only [step] at h
    split at h
    · rename_i hreport
      rcases Prod.mk.inj (Option.some.inj h) with ⟨rfl, rfl⟩
      exact .heard hreport
    · rename_i hreport
      rcases Prod.mk.inj (Option.some.inj h) with ⟨rfl, rfl⟩
      exact .misheard hreport
    · cases h
  | dismissing p t e =>
    simp only [step] at h
    split at h
    · rename_i hend
      rcases Prod.mk.inj (Option.some.inj h) with ⟨rfl, rfl⟩
      exact .dismissed hend
    · cases h
  | recording p x =>
    rcases Prod.mk.inj (Option.some.inj h) with ⟨rfl, rfl⟩
    exact .recorded
  | forgetting p e =>
    rcases Prod.mk.inj (Option.some.inj h) with ⟨rfl, rfl⟩
    exact .forgotten
  | taking p =>
    simp only [step] at h
    rcases w.monitor.take_cases p with ⟨q, x, hmem, hsame, htake⟩ | ⟨e, htake⟩
    · rw [htake] at h
      rcases Prod.mk.inj (Option.some.inj h) with ⟨rfl, rfl⟩
      exact .taken hmem hsame
    · rw [htake] at h
      rcases Prod.mk.inj (Option.some.inj h) with ⟨rfl, rfl⟩
      exact .untaken htake
  | cancelling t =>
    rcases Prod.mk.inj (Option.some.inj h) with ⟨rfl, rfl⟩
    exact .cancelled
  | waking t =>
    simp only [step] at h
    rcases hwake : w.crew.wake t with ⟨e | _, crew⟩
    · rw [hwake] at h
      rcases Prod.mk.inj (Option.some.inj h) with ⟨rfl, rfl⟩
      exact .unwoken hwake
    · rw [hwake] at h
      rcases Prod.mk.inj (Option.some.inj h) with ⟨rfl, rfl⟩
      exact .woken hwake
  | joining t =>
    simp only [step] at h
    rcases Option.map_eq_some_iff.mp h with ⟨result, hjoin, hpos⟩
    rcases Prod.mk.inj hpos with ⟨rfl, rfl⟩
    exact .joined hjoin
  | finished result => cases h

namespace Shutdown

/-- What a shutdown may do next: it turns to a watcher, is done with one, or goes on stopping the
one at hand. -/
inductive Edge (w : Watching) : Shutdown → Shutdown → Watching → Prop where
  | turned {x : Watcher} {todo : List Watcher} :
    Edge w ⟨x :: todo, none⟩ ⟨todo, some (.cancelling x.thread)⟩ w
  | leftBehind {todo : List Watcher} {result : Outcome Unit} :
    Edge w ⟨todo, some (.finished result)⟩ ⟨todo, none⟩ w
  | wentOn {todo : List Watcher} {p p' : Position} {w' : Watching} (he : Watch.Edge w p p' w') :
    Edge w ⟨todo, some p⟩ ⟨todo, some p'⟩ w'

theorem step_edge {d d' : Shutdown} (h : d.step w = some (d', w')) : Edge w d d' w' := by
  rcases d with ⟨todo, _ | p⟩
  · cases todo with
    | nil => cases h
    | cons x todo =>
      rcases Prod.mk.inj (Option.some.inj h) with ⟨rfl, rfl⟩
      exact .turned
  · simp only [step] at h
    split at h
    · rename_i result hres
      rcases Prod.mk.inj (Option.some.inj h) with ⟨rfl, rfl⟩
      cases p with
      | finished result => exact .leftBehind
      | _ => cases hres
    · rcases Option.map_eq_some_iff.mp h with ⟨⟨p', w₁⟩, hstep, hpos⟩
      rcases Prod.mk.inj hpos with ⟨rfl, rfl⟩
      exact .wentOn (Watch.step_edge hstep)

end Shutdown

end Watch

/-! ## Threads -/

/-- A thread watches the same path as long as it is there. -/
theorem Thread.Step.path {h h' : Host} {th th' : Thread} {items : List Item}
    (hs : th.Step h h' th' items) : th'.body.path? = th.body.path? := by
  cases hs with
  | data hb _ hb' => rw [hb, hb']; rfl
  | event hb _ _ hb' => rw [hb, hb']; rfl
  | watch hb _ _ hb' => rw [hb, hb']; rfl
  | poked | letGo => rfl

/-! ## Hosts without faults -/

namespace Host

theorem createWaker_ok {h : Host} (hf : h.faults = []) : h.createWaker = (.ok {}, h) := by
  simp [createWaker, takeFault_none hf]

end Host

namespace Crew

variable {c c' : Crew} {t : ThreadId}

theorem spawn_ok (hf : c.host.faults = []) (th : Thread) :
    c.spawn th = (.ok c.threads.length, { c with threads := c.threads ++ [th] }) := by
  simp [spawn, Host.takeFault_none hf]

/-- Without faults a wake-up is heard, or the counter is full and the thread awake already. -/
theorem wake_ok (hf : c.host.faults = []) (t : ThreadId) :
    (c.wake t).1 = .ok () ∧ (c.wake t).2.host = c.host := by
  unfold wake
  cases c.thread? t with
  | none => exact ⟨rfl, rfl⟩
  | some th => simp [Host.wake, Host.takeFault_none hf, setThread]

theorem deliver_host (t : ThreadId) (th : Thread) (item : Item) (returned panicked : Body)
    (c : Crew) : (c.deliver t th item returned panicked).host = c.host := by
  rcases deliver_spec t th item returned panicked c with ⟨th', hdel, -⟩
  rw [hdel]

/-- A sampling thread changes no host without faults, unless its samples do. -/
theorem stepSampler_host {α : Type} [DecidableEq α] {th : Thread} {p : SampleLoop.Point α}
    {rechecks : Bool} {item : α → Item}
    {sample : Host → Outcome α × (SampleLoop.Point α → Body) × Host}
    {body : SampleLoop.Point α → Body} (hsample : (sample c.host).2.2 = c.host)
    (hf : c.host.faults = [])
    (h : c.stepSampler t th p rechecks item sample body = some c') : c'.host = c.host := by
  cases p with
  | creating =>
    simp only [stepSampler, Host.createWaker_ok hf] at h
    obtain rfl := Option.some.inj h
    rfl
  | firstSample | sampling last =>
    obtain rfl := Option.some.inj h
    exact hsample
  | announcing last | head last | resetting last | rechecking last | leaving =>
    obtain rfl := Option.some.inj h
    rfl
  | waiting last =>
    simp only [stepSampler, Host.takeFault_none hf] at h
    obtain rfl := Option.some.inj h
    rfl
  | parked last =>
    simp only [stepSampler] at h
    split at h
    · obtain rfl := Option.some.inj h
      rfl
    · cases h
  | reporting now =>
    obtain rfl := Option.some.inj h
    exact deliver_host ..
  | gone | dead stage => cases h

/-- Whether all threads are watchers. -/
def OnlyWatchers (c : Crew) : Prop :=
  ∀ t th, c.thread? t = some th → ∃ point p, th.body = .watch point p

theorem editThread_host (edit : Thread → Thread) (t : ThreadId) (c : Crew) :
    (c.editThread t edit).host = c.host := by
  rcases editThread_cases edit t c with hsame | ⟨th, -, hedit⟩
  · rw [hsame]
  · rw [hedit]

/-- Watchers change no host without faults. -/
theorem after?_host {e : Event} (hw : c.OnlyWatchers) (hf : c.host.faults = [])
    (h : c.after? e = some c') : c'.host = c.host := by
  cases e with
  | step t =>
    simp only [after?, step] at h
    rcases Option.bind_eq_some_iff.mp h with ⟨th, ht, hrest⟩
    rcases hw t th ht with ⟨point, p, hb⟩
    split at hrest
    · cases hrest
    · rw [hb] at hrest
      exact stepSampler_host rfl hf hrest
  | elapse t =>
    simp only [after?, elapse] at h
    rcases Option.bind_eq_some_iff.mp h with ⟨th, ht, hrest⟩
    split at hrest
    · obtain rfl := Option.some.inj hrest
      rfl
    · obtain rfl := Option.some.inj hrest
      rfl
    · cases hrest
  | fail t code =>
    simp only [after?, fail] at h
    rcases Option.bind_eq_some_iff.mp h with ⟨th, ht, hrest⟩
    rcases hw t th ht with ⟨point, p, hb⟩
    rw [hb] at hrest
    cases point with
    | parked last =>
      obtain rfl := Option.some.inj hrest
      rfl
    | _ => cases hrest
  | poke t | letGo t =>
    obtain rfl := Option.some.inj h
    exact editThread_host ..

theorem StepsAt.onlyWatchers (hw : c.OnlyWatchers) (h : StepsAt t c c') : c'.OnlyWatchers := by
  rcases h with ⟨th, th', items, ht, hstep, hset, -⟩
  -- the thread that goes on has a path as before, which no other kind of thread has
  intro u thu hu
  rcases thread?_set_cases ht hset hu with ⟨rfl, rfl⟩ | ⟨-, hu⟩
  · rcases hw u th ht with ⟨point, p, hb⟩
    have hpath := hstep.path
    rw [hb] at hpath
    cases hb' : thu.body with
    | watch point' p' => exact ⟨point', p', rfl⟩
    | data | event =>
      rw [hb'] at hpath
      cases hpath
  · exact hw u thu hu

theorem Keeps.onlyWatchers (hw : c.OnlyWatchers) (h : c.Keeps c') : c'.OnlyWatchers := by
  intro u thu hu
  rcases h.thread hu with ⟨th, hth, -, hb⟩
  rcases hw u th hth with ⟨point, p, hbody⟩
  exact ⟨point, p, hb.trans hbody⟩

end Crew

end SerialLine
