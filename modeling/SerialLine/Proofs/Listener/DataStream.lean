import SerialLine.Proofs.Listener.Custody
import SerialLine.Proofs.Listener.Pending

/-!
# SerialLine.Proofs.Listener.DataStream — what arrives is handed over once and in order

One descriptor carries a byte stream. Data listeners on it come and go, in any interleaving of
their clients, and bytes arrive in between. The bytes that were handed to the callbacks of all of
them, those that a listener has read and not handed over yet, and those that still wait at the
descriptor make up what arrived.

`Crew.Flow` says how one step moves bytes along these three places. That nobody else has bytes
in hand when a listener reads or calls its callback is what the registry guarantees: a descriptor
has one data listener at most between its creation and its join.
-/

namespace SerialLine

/-- The most bytes that a data listener of a thread reads at once. -/
def Body.chunk? : Body → Option Nat
  | data _ chunk _ => some chunk
  | _ => none

theorem Thread.Step.chunk_eq {h h' : Host} {th th' : Thread} {items : List Item}
    (hs : th.Step h h' th' items) :
    th'.body.chunk? = th.body.chunk? := by
  cases hs with
  | data hb _ hb' => rw [hb, hb']; rfl
  | event hb _ _ hb' => rw [hb, hb']; rfl
  | watch hb _ _ hb' => rw [hb, hb']; rfl
  | poked => rfl
  | letGo => rfl

/-- A data listener of a descriptor is at a point of its loop. -/
def Thread.IsAt (th : Thread) (fd : Fd) (p : DataLoop.Point) : Prop :=
  th.fd = fd ∧ ∃ chunk gated, th.body = .data p chunk gated

namespace Crew

/-- A data listener of a descriptor is at a point of its loop. -/
def IsAt (c : Crew) (fd : Fd) (t : ThreadId) (p : DataLoop.Point) : Prop :=
  ∃ th, c.thread? t = some th ∧ th.IsAt fd p

/-- A data listener of a descriptor is parked in a wait that has nothing to report. -/
def Sleeps (c : Crew) (fd : Fd) (t : ThreadId) : Prop :=
  ∃ th, c.thread? t = some th ∧ th.IsAt fd .parked ∧
    Readiness.any { c.host.readiness fd with woken := th.waker.isReady } = false

/-- The bytes that a callback was called with, if it was one of a descriptor. -/
def chunkOf? (c : Crew) (fd : Fd) (e : ThreadId × Item) : Option Bytes :=
  match e.2 with
  | .bytes bytes => if (c.thread? e.1).map (·.fd) = some fd then some bytes else none
  | _ => none

/-- What the callbacks of a descriptor's data listeners were called with, call by call. -/
def handed (c : Crew) (fd : Fd) : List Bytes := c.delivered.reverse.filterMap (c.chunkOf? fd)

end Crew

/-! ## Runs -/

/-- The runs of a scene in which a descriptor carries one byte stream, with what has arrived
on it. All but arrivals are steps of clients, threads and the registry. -/
inductive StreamRun (fd : Fd) (capacity : Nat) (settings : ListenerSettings) :
    Scene → Bytes → Prop where
  | start (host : Host) (gates : List (Fd × Gate)) (hc : host.Carries fd) :
    StreamRun fd capacity settings (.start capacity settings host gates) (host.waiting fd)
  | act {s s' : Scene} {arrived : Bytes} (a : Action) (h : StreamRun fd capacity settings s arrived)
    (hin : a.isInside = true) (ha : s.act? a = some s') :
    StreamRun fd capacity settings s' arrived
  | arrive {s : Scene} {arrived : Bytes} (bytes : Bytes) (host : Host) (gates : List (Fd × Gate))
    (h : StreamRun fd capacity settings s arrived) (hc : host.Carries fd)
    (hw : host.waiting fd = s.crew.host.waiting fd ++ bytes) :
    StreamRun fd capacity settings (s.withHost host gates) (arrived ++ bytes)

theorem StreamRun.reachable {fd : Fd} {capacity : Nat} {settings : ListenerSettings} {s : Scene}
    {arrived : Bytes} (h : StreamRun fd capacity settings s arrived) :
    Scene.Reachable capacity settings s := by
  induction h with
  | start host gates => exact .start host gates
  | act a _ _ ha ih => exact ih.act a ha
  | arrive _ host gates _ _ _ ih => exact ih.act (.outside host gates) rfl

/-- A parked listener sleeps as long as it has no next step. -/
theorem Crew.sleeps_iff_step {c : Crew} {fd : Fd} {t : ThreadId} {th : Thread}
    (ht : c.thread? t = some th) (hat : th.IsAt fd .parked) (hheld : th.held = false) :
    c.Sleeps fd t ↔ c.step t = none := by
  rcases hat with ⟨rfl, chunk, gated, hb⟩
  have hstep : c.step t = c.stepData t th .parked chunk gated := by
    simp [step, ht, hheld, hb]
  rw [hstep]
  simp only [Sleeps, stepData, ht]
  constructor
  · rintro ⟨th', hth', -, hnothing⟩
    obtain rfl := Option.some.inj hth'
    simp [hnothing]
  · intro hnone
    refine ⟨th, rfl, ⟨rfl, chunk, gated, hb⟩, ?_⟩
    by_contra hany
    simp [hany] at hnone

/-! ## What was handed over -/

namespace Crew

variable {c c' : Crew} {fd : Fd} {t : ThreadId} {th th' : Thread}

theorem chunkOf?_congr {e : ThreadId × Item}
    (h : (c'.thread? e.1).map (·.fd) = (c.thread? e.1).map (·.fd)) :
    c'.chunkOf? fd e = c.chunkOf? fd e := by
  unfold chunkOf?
  rw [h]

/-- Calls that were made are not changed by what threads do later. -/
theorem handed_append {items : List (ThreadId × Item)}
    (hfd : ∀ e ∈ c.delivered, (c'.thread? e.1).map (·.fd) = (c.thread? e.1).map (·.fd))
    (hdel : c'.delivered = items ++ c.delivered) :
    c'.handed fd = c.handed fd ++ items.reverse.filterMap (c'.chunkOf? fd) := by
  have hsame : c.delivered.reverse.filterMap (c'.chunkOf? fd) = c.handed fd := by
    refine List.filterMap_congr ?_
    intro e he
    exact chunkOf?_congr (hfd e (List.mem_reverse.mp he))
  rw [handed, hdel, List.reverse_append, List.filterMap_append, hsame]

theorem handed_congr
    (hfd : ∀ e ∈ c.delivered, (c'.thread? e.1).map (·.fd) = (c.thread? e.1).map (·.fd))
    (hdel : c'.delivered = c.delivered) : c'.handed fd = c.handed fd := by
  have hnil : c'.delivered = [] ++ c.delivered := by rw [hdel, List.nil_append]
  rw [handed_append hfd hnil]
  exact List.append_nil _

/-! ## Where listeners are -/

section Set

variable {u : ThreadId} {p : DataLoop.Point}

theorem isAt_set_self (ht : c.thread? t = some th) (hset : c'.threads = c.threads.set t th') :
    c'.IsAt fd t p ↔ th'.IsAt fd p := by
  simp [IsAt, thread?_set_self ht hset]

theorem isAt_set_ne (hset : c'.threads = c.threads.set t th') (hne : u ≠ t) :
    c'.IsAt fd u p ↔ c.IsAt fd u p := by
  simp [IsAt, thread?_set_ne hset hne]

theorem isAt_set_iff (ht : c.thread? t = some th) (hset : c'.threads = c.threads.set t th')
    (hsame : th'.IsAt fd p ↔ th.IsAt fd p) : c'.IsAt fd u p ↔ c.IsAt fd u p := by
  by_cases hut : u = t
  · subst hut
    rw [isAt_set_self ht hset, hsame]
    simp [IsAt, ht]
  · exact isAt_set_ne hset hut

theorem fd_set (ht : c.thread? t = some th) (hset : c'.threads = c.threads.set t th')
    (hfd : th'.fd = th.fd) (u : ThreadId) :
    (c'.thread? u).map (·.fd) = (c.thread? u).map (·.fd) := by
  by_cases hut : u = t
  · subst hut
    rw [thread?_set_self ht hset, ht, Option.map_some, Option.map_some, hfd]
  · rw [thread?_set_ne hset hut]

end Set

/-! ## One step -/

/-- How one step moves the bytes of a descriptor: not at all, from the descriptor into a
listener's hands, or from there to its callback. -/
inductive Flow (fd : Fd) (room : Nat) (c c' : Crew) : Prop where
  | quiet (hw : c'.host.waiting fd = c.host.waiting fd) (hh : c'.handed fd = c.handed fd)
    (hat : ∀ t bytes, c'.IsAt fd t (.delivering bytes) ↔ c.IsAt fd t (.delivering bytes))
  | took (t : ThreadId) (bytes : Bytes) (hsize : 1 ≤ bytes.length ∧ bytes.length ≤ room)
    (hfree : ∀ u bs, ¬ c.IsAt fd u (.delivering bs))
    (hw : c.host.waiting fd = bytes ++ c'.host.waiting fd) (hh : c'.handed fd = c.handed fd)
    (hat : ∀ u bs, c'.IsAt fd u (.delivering bs) ↔ u = t ∧ bs = bytes)
  | gave (t : ThreadId) (bytes : Bytes) (hat : c.IsAt fd t (.delivering bytes))
    (hw : c'.host.waiting fd = c.host.waiting fd) (hh : c'.handed fd = c.handed fd ++ [bytes])
    (hfree : ∀ u bs, ¬ c'.IsAt fd u (.delivering bs))

/-- A descriptor has one data listener at most that has not ended. -/
def Single (fd : Fd) (c : Crew) : Prop :=
  ∀ t t' p p', c.IsAt fd t p → c.IsAt fd t' p' → p.hasEnded = false → p'.hasEnded = false → t = t'

/-- A step that moves no bytes of a descriptor, and calls no callback of its listeners. -/
theorem Flow.idle {room : Nat} {items : List Item} (ht : c.thread? t = some th)
    (hset : c'.threads = c.threads.set t th')
    (hlog : c'.handed fd = c.handed fd ++ (items.map (t, ·)).reverse.filterMap (c'.chunkOf? fd))
    (hquiet : ∀ item ∈ items, c'.chunkOf? fd (t, item) = none)
    (hw : c'.host.waiting fd = c.host.waiting fd)
    (hat : ∀ bytes, th'.IsAt fd (.delivering bytes) ↔ th.IsAt fd (.delivering bytes)) :
    Flow fd room c c' := by
  refine .quiet hw ?_ (fun u bytes => isAt_set_iff ht hset (hat bytes))
  have hnone : (items.map (t, ·)).reverse.filterMap (c'.chunkOf? fd) = [] := by
    rw [List.filterMap_eq_nil_iff]
    intro e he
    rcases List.mem_map.mp (List.mem_reverse.mp he) with ⟨item, hitem, rfl⟩
    exact hquiet item hitem
  rw [hlog, hnone, List.append_nil]

theorem isAt_unique {p p' : DataLoop.Point} (h : c.IsAt fd t p) (h' : c.IsAt fd t p') : p = p' := by
  rcases h with ⟨th, ht, -, chunk, gated, hb⟩
  rcases h' with ⟨th', ht', -, chunk', gated', hb'⟩
  obtain rfl := Option.some.inj (ht.symm.trans ht')
  exact (Body.data.inj (hb.symm.trans hb')).1

/-- A data listener of the descriptor reads. Nobody has bytes in hand, so what it takes is all that
is in anybody's hands afterwards. -/
theorem Flow.ofRead {chunk : Nat} {gated hungUp : Bool}
    (hc : c.host.Carries fd) (hsingle : Single fd c) (ht : c.thread? t = some th)
    (hset : c'.threads = c.threads.set t th') (hfd : th'.fd = th.fd) (hat : th.fd = fd)
    (hb : th.body = .data (.reading hungUp) chunk gated)
    (hb' : th'.body = .data (DataLoop.afterRead hungUp
      (c.host.readFd th.fd (DataLoop.readRoom chunk)).1) chunk gated)
    (hhost : c'.host = (c.host.readFd th.fd (DataLoop.readRoom chunk)).2)
    (hh : c'.handed fd = c.handed fd) :
    c'.host.Carries fd ∧ Flow fd (DataLoop.readRoom chunk) c c' := by
  subst hat
  have hreading : c.IsAt th.fd t (.reading hungUp) := ⟨th, ht, rfl, chunk, gated, hb⟩
  have hfree : ∀ u bs, ¬ c.IsAt th.fd u (.delivering bs) := by
    intro u bs hu
    obtain rfl := hsingle t u _ _ hreading hu rfl rfl
    exact DataLoop.Point.noConfusion (isAt_unique hreading hu)
  rcases hc.read (DataLoop.readRoom chunk) with ⟨hc', hread⟩
  rw [← hhost] at hc' hread
  refine ⟨hc', ?_⟩
  -- a read that takes nothing leaves everybody's hands empty
  have hnothing : c'.host.waiting th.fd = c.host.waiting th.fd →
      (∀ bs, (c.host.readFd th.fd (DataLoop.readRoom chunk)).1 = .ok bs → bs = []) →
      Flow th.fd (DataLoop.readRoom chunk) c c' := by
    intro hw hempty
    refine .quiet hw hh (fun u bs => isAt_set_iff ht hset (iff_of_false ?_ ?_))
    · rintro ⟨-, _, _, hdel⟩
      exact DataLoop.afterRead_ne_delivering hempty bs (Body.data.inj (hb'.symm.trans hdel)).1
    · rintro ⟨-, _, _, hdel⟩
      exact DataLoop.Point.noConfusion (Body.data.inj (hb.symm.trans hdel)).1
  rcases hread with ⟨bytes, hok, hlen, hw⟩ | ⟨f, herr, hw⟩
  · by_cases hne : bytes = []
    · subst hne
      refine hnothing hw.symm ?_
      intro bs hbs
      exact (Except.ok.inj (hok.symm.trans hbs)).symm
    · rw [hok, DataLoop.afterRead_ok_ne_nil hungUp hne] at hb'
      refine .took t bytes ⟨List.length_pos_of_ne_nil hne, hlen⟩ hfree hw hh ?_
      intro u bs
      by_cases hut : u = t
      · subst hut
        rw [isAt_set_self ht hset]
        constructor
        · rintro ⟨-, _, _, hdel⟩
          exact ⟨rfl, (DataLoop.Point.delivering.inj (Body.data.inj (hb'.symm.trans hdel)).1).symm⟩
        · rintro ⟨-, rfl⟩
          exact ⟨hfd, chunk, gated, hb'⟩
      · rw [isAt_set_ne hset hut]
        exact iff_of_false (hfree u bs) (fun h => hut h.1)
  · refine hnothing hw ?_
    intro bs hbs
    rw [herr] at hbs
    cases hbs

/-- A data listener of the descriptor calls its callback. -/
theorem Flow.ofCall {room : Nat} {chunk : Nat} {gated : Bool} {bytes : Bytes} {q : DataLoop.Point}
    (hsingle : Single fd c) (ht : c.thread? t = some th)
    (hset : c'.threads = c.threads.set t th') (hat : th.fd = fd)
    (hb : th.body = .data (.delivering bytes) chunk gated) (hb' : th'.body = .data q chunk gated)
    (hq : ∀ bs, q ≠ .delivering bs) (hw : c'.host.waiting fd = c.host.waiting fd)
    (hh : c'.handed fd = c.handed fd ++ [bytes]) : Flow fd room c c' := by
  have hin : c.IsAt fd t (.delivering bytes) := ⟨th, ht, hat, chunk, gated, hb⟩
  refine .gave t bytes hin hw hh ?_
  intro u bs hu
  by_cases hut : u = t
  · subst hut
    rcases (isAt_set_self ht hset).mp hu with ⟨-, _, _, hdel⟩
    exact hq bs (Body.data.inj (hb'.symm.trans hdel)).1
  · exact hut (hsingle u t _ _ ((isAt_set_ne hset hut).mp hu) hin rfl rfl)

section Edge

variable {chunk : Nat} {gated : Bool} {p q : DataLoop.Point} {w : Waker} {handed : List Bytes}

/-- A data listener of the descriptor does the next thing in its loop. -/
theorem Flow.ofEdge (e : DataLoop.Edge th chunk c.host p q w c'.host handed)
    (hc : c.host.Carries fd) (hsingle : Single fd c) (ht : c.thread? t = some th)
    (hset : c'.threads = c.threads.set t th') (hfd : th'.fd = th.fd) (hat : th.fd = fd)
    (hb : th.body = .data p chunk gated) (hb' : th'.body = .data q chunk gated)
    (hlog : c'.handed fd = c.handed fd ++
      ((handed.map Item.bytes).map (t, ·)).reverse.filterMap (c'.chunkOf? fd))
    (hown : ∀ bytes, c'.chunkOf? fd (t, .bytes bytes) = some bytes) :
    c'.host.Carries fd ∧ Flow fd (DataLoop.readRoom chunk) c c' := by
  rcases e.bytes_cases with ⟨hh, rfl, hpq⟩ | ⟨hungUp, rfl, rfl, hhost, rfl⟩ |
    ⟨bytes, rfl, hhost, rfl, hq⟩
  · refine ⟨hh.carries hc, .idle ht hset hlog (by simp) (hh.waiting_eq fd) ?_⟩
    intro bs
    refine iff_of_false ?_ ?_
    · rintro ⟨-, _, _, hdel⟩
      exact (hpq bs).2 (Body.data.inj (hb'.symm.trans hdel)).1
    · rintro ⟨-, _, _, hdel⟩
      exact (hpq bs).1 (Body.data.inj (hb.symm.trans hdel)).1
  · exact Flow.ofRead hc hsingle ht hset hfd hat hb hb' hhost (by simpa using hlog)
  · rw [hhost]
    refine ⟨hc, .ofCall hsingle ht hset hat hb hb' hq (by rw [hhost]) ?_⟩
    rw [hlog]
    simp [hown]

/-- A data listener of another descriptor reads from another source. -/
theorem Carries.edge_other (e : DataLoop.Edge th chunk c.host p q w c'.host handed)
    (hc : c.host.Carries fd) (hat : th.fd ≠ fd) :
    c'.host.Carries fd ∧ c'.host.waiting fd = c.host.waiting fd := by
  rcases e.bytes_cases with ⟨hh, -, -⟩ | ⟨_, -, -, hhost, -⟩ | ⟨_, -, hhost, -, -⟩
  · exact ⟨hh.carries hc, hh.waiting_eq fd⟩
  · rw [hhost]
    exact hc.read_other hat _
  · rw [hhost]
    exact ⟨hc, rfl⟩

end Edge

/-- Whatever happens to a thread moves the bytes of a descriptor on by one place at most. -/
theorem StepsAt.flow {chunk : Nat} (h : StepsAt t c c') (hc : c.host.Carries fd)
    (hsingle : Single fd c)
    (hchunk : ∀ th n, c.thread? t = some th → th.body.chunk? = some n → n = chunk) :
    c'.host.Carries fd ∧ Flow fd (DataLoop.readRoom chunk) c c' := by
  rcases h with ⟨th, th', items, ht, hstep, hset, hdel⟩
  have hfd : th'.fd = th.fd := hstep.stays.1
  have hlog : c'.handed fd =
      c.handed fd ++ (items.map (t, ·)).reverse.filterMap (c'.chunkOf? fd) :=
    handed_append (fun e _ => fd_set ht hset hfd e.1) hdel
  have hchunkOf : ∀ bytes, c'.chunkOf? fd (t, .bytes bytes) =
      if th.fd = fd then some bytes else none := by
    intro bytes
    have hsame := fd_set ht hset hfd t
    rw [ht] at hsame
    simp [chunkOf?, hsame]
  generalize hhost : c'.host = host at hstep
  cases hstep with
  | @data p q chunk' gated w _ handed _ hb e hb' =>
    subst hhost
    obtain rfl : chunk' = chunk := hchunk th chunk' ht (by rw [hb]; rfl)
    by_cases hat : th.fd = fd
    · refine Flow.ofEdge e hc hsingle ht hset hfd hat hb hb' hlog ?_
      intro bytes
      rw [hchunkOf, if_pos hat]
    -- listeners of other descriptors call other callbacks
    · rcases Carries.edge_other e hc hat with ⟨hc', hw⟩
      refine ⟨hc', .idle ht hset hlog ?_ hw ?_⟩
      · intro item hitem
        rcases List.mem_map.mp hitem with ⟨bytes, -, rfl⟩
        rw [hchunkOf, if_neg hat]
      · intro bs
        exact iff_of_false (fun h => hat (hfd.symm.trans h.1)) (fun h => hat h.1)
  | event hb _ hh hb' =>
    subst hhost
    refine ⟨hh.carries hc, .idle ht hset hlog ?_ (hh.waiting_eq fd) ?_⟩
    · intro item hitem
      rcases List.mem_map.mp hitem with ⟨lines, -, rfl⟩
      rfl
    · intro bs
      simp [Thread.IsAt, hb, hb']
  | watch hb _ hh hb' =>
    subst hhost
    refine ⟨hh.carries hc, .idle ht hset hlog ?_ (hh.waiting_eq fd) ?_⟩
    · intro item hitem
      rcases List.mem_map.mp hitem with ⟨present, -, rfl⟩
      rfl
    · intro bs
      simp [Thread.IsAt, hb, hb']
  | poked => exact ⟨hhost ▸ hc, .idle ht hset hlog (by simp) (by rw [hhost]) (fun _ => Iff.rfl)⟩
  | letGo => exact ⟨hhost ▸ hc, .idle ht hset hlog (by simp) (by rw [hhost]) (fun _ => Iff.rfl)⟩

/-! ## Steps of clients -/

/-- Where a thread is. -/
def place? (c : Crew) (t : ThreadId) : Option (Fd × Body) :=
  (c.thread? t).map fun th => (th.fd, th.body)

theorem isAt_iff_place {p : DataLoop.Point} :
    c.IsAt fd t p ↔ ∃ chunk gated, c.place? t = some (fd, .data p chunk gated) := by
  constructor
  · rintro ⟨th, ht, rfl, chunk, gated, hb⟩
    exact ⟨chunk, gated, by rw [place?, ht, Option.map_some, hb]⟩
  · rintro ⟨chunk, gated, hplace⟩
    rcases Option.map_eq_some_iff.mp hplace with ⟨th, ht, heq⟩
    rcases Prod.mk.inj heq with ⟨hfd, hb⟩
    exact ⟨th, ht, hfd, chunk, gated, hb⟩

theorem Keeps.place_eq (h : c.Keeps c') (t : ThreadId) : c'.place? t = c.place? t := by
  have hget := congrArg (·[t]?) h.bodies
  simpa [place?, thread?] using hget

theorem fd_eq_of_place {t : ThreadId} (h : c'.place? t = c.place? t) :
    (c'.thread? t).map (·.fd) = (c.thread? t).map (·.fd) := by
  have hfst := congrArg (·.map Prod.fst) h
  simpa [place?, Function.comp_def] using hfst

theorem Keeps.flow {room : Nat} (h : c.Keeps c') : Flow fd room c c' := by
  refine .quiet (h.host.waiting_eq fd) ?_ ?_
  · exact handed_congr (fun e _ => fd_eq_of_place (h.place_eq e.1)) h.delivered
  · intro t bytes
    simp only [isAt_iff_place, h.place_eq]

/-- A thread is created, which has nothing in hand. -/
theorem spawn_flow {room : Nat} {host : Host} {l : Listener} {fd' : Fd}
    {settings : ListenerSettings} (hh : c.host.SameButFaults host)
    (hlogged : ∀ e ∈ c.delivered, e.1 < c.threads.length) :
    Flow fd room c { c with host, threads := c.threads ++ [l.thread fd' settings] } := by
  refine .quiet (hh.waiting_eq fd) ?_ ?_
  · refine handed_congr (fun e he => ?_) rfl
    show ((c.threads ++ [l.thread fd' settings])[e.1]?).map (·.fd) = _
    rw [List.getElem?_append_left (hlogged e he)]
    rfl
  · intro t bytes
    constructor
    · rintro ⟨th, ht, hfd, chunk, gated, hb⟩
      rcases thread?_append_cases (c := c) rfl ht with ht | ⟨-, rfl⟩
      · exact ⟨th, ht, hfd, chunk, gated, hb⟩
      -- a new thread has not even a waker
      · cases l <;> cases hb
    · rintro ⟨th, ht, hat⟩
      exact ⟨th, (List.getElem?_append_left (lt_of_thread ht)).trans ht, hat⟩

end Crew

/-- A step of a client moves no bytes. -/
theorem Call.Move.flow {w w' : Listening} {x x' : Option Holding} {ts : List ThreadId} {fd : Fd}
    {room : Nat} (hm : Call.Move w x x' ts w') (hc : w.crew.host.Carries fd)
    (hlogged : ∀ e ∈ w.crew.delivered, e.1 < w.crew.threads.length) :
    w'.crew.host.Carries fd ∧ w.crew.Flow fd room w'.crew := by
  cases hm with
  | passed hk => exact ⟨hk.host.carries hc, hk.flow⟩
  | spawned hh => exact ⟨hh.carries hc, Crew.spawn_flow hh hlogged⟩
  | acquired | reservedFor | reservedOn | joined | seated | freed | lifted | released =>
    exact ⟨hc, .quiet rfl rfl fun _ _ => Iff.rfl⟩

/-! ## The ledger -/

/-- What holds of the bytes of a descriptor: what was handed over, what is in somebody's hands
and what waits make up what arrived, and no piece is empty or too large. -/
structure Crew.Ledger (fd : Fd) (room : Nat) (c : Crew) (arrived : Bytes) : Prop where
  sizes : ∀ bytes ∈ c.handed fd, 1 ≤ bytes.length ∧ bytes.length ≤ room
  inHand : ∀ t bytes, c.IsAt fd t (.delivering bytes) →
    (1 ≤ bytes.length ∧ bytes.length ≤ room) ∧
      (c.handed fd).flatten ++ bytes ++ c.host.waiting fd = arrived
  rest : (∀ t bytes, ¬ c.IsAt fd t (.delivering bytes)) →
    (c.handed fd).flatten ++ c.host.waiting fd = arrived

namespace Crew

variable {c c' : Crew} {fd : Fd} {room : Nat} {arrived : Bytes}

/-- Moving bytes on by one place keeps the ledger. -/
theorem Ledger.flow (h : c.Ledger fd room arrived) (hf : Flow fd room c c') :
    c'.Ledger fd room arrived := by
  cases hf with
  | quiet hw hh hat =>
    constructor
    · rw [hh]
      exact h.sizes
    · intro t bytes hin
      rw [hh, hw]
      exact h.inHand t bytes ((hat t bytes).mp hin)
    · intro hfree
      rw [hh, hw]
      exact h.rest fun t bytes hin => hfree t bytes ((hat t bytes).mpr hin)
  | took t bytes hsize hfree hw hh hat =>
    constructor
    · rw [hh]
      exact h.sizes
    · intro u bs hin
      rcases (hat u bs).mp hin with ⟨rfl, rfl⟩
      refine ⟨hsize, ?_⟩
      calc (c'.handed fd).flatten ++ bs ++ c'.host.waiting fd
          = (c.handed fd).flatten ++ (bs ++ c'.host.waiting fd) := by
            rw [hh, List.append_assoc]
        _ = (c.handed fd).flatten ++ c.host.waiting fd := by rw [← hw]
        _ = arrived := h.rest hfree
    · intro hnobody
      exact absurd ((hat t bytes).mpr ⟨rfl, rfl⟩) (hnobody t bytes)
  | gave t bytes hat hw hh hfree =>
    rcases h.inHand t bytes hat with ⟨hsize, hsum⟩
    constructor
    · intro bs hbs
      rw [hh] at hbs
      rcases List.mem_append.mp hbs with hbs | hbs
      · exact h.sizes bs hbs
      · obtain rfl := List.mem_singleton.mp hbs
        exact hsize
    · intro u bs hin
      exact absurd hin (hfree u bs)
    · intro _
      calc (c'.handed fd).flatten ++ c'.host.waiting fd
          = (c.handed fd).flatten ++ bytes ++ c.host.waiting fd := by
            rw [hh, hw, List.flatten_append, List.flatten_singleton]
        _ = arrived := hsum

/-- Bytes that arrive are added to what waits. -/
theorem Ledger.arrive (h : c.Ledger fd room arrived) {bytes : Bytes} {host : Host}
    {gates : List (Fd × Gate)} (hw : host.waiting fd = c.host.waiting fd ++ bytes) :
    ({ c with host, gates } : Crew).Ledger fd room (arrived ++ bytes) := by
  constructor
  · exact h.sizes
  · intro t bs hin
    rcases h.inHand t bs hin with ⟨hsize, hsum⟩
    refine ⟨hsize, ?_⟩
    show (c.handed fd).flatten ++ bs ++ host.waiting fd = arrived ++ bytes
    rw [hw, ← hsum]
    simp only [List.append_assoc]
  · intro hfree
    show (c.handed fd).flatten ++ host.waiting fd = arrived ++ bytes
    rw [hw, ← h.rest hfree]
    simp only [List.append_assoc]

/-- All calls were made by threads of the crew, and all its data listeners read as much. -/
structure Fits (chunk : Nat) (c : Crew) : Prop where
  logged : ∀ e ∈ c.delivered, e.1 < c.threads.length
  chunks : ∀ t th n, c.thread? t = some th → th.body.chunk? = some n → n = chunk

theorem StepsAt.fits {chunk : Nat} {t : ThreadId} (h : StepsAt t c c') (hc : c.Fits chunk) :
    c'.Fits chunk := by
  rcases h with ⟨th, th', items, ht, hstep, hset, hdel⟩
  constructor
  · intro e he
    rw [hset, List.length_set]
    -- a call is logged with the number of the thread that stepped
    rw [hdel] at he
    rcases List.mem_append.mp he with he | he
    · rcases List.mem_map.mp he with ⟨item, -, rfl⟩
      exact lt_of_thread ht
    · exact hc.logged e he
  · intro u thu n hu hn
    rcases thread?_set_cases ht hset hu with ⟨rfl, rfl⟩ | ⟨-, hu⟩
    · exact hc.chunks u th n ht (hstep.chunk_eq ▸ hn)
    · exact hc.chunks u thu n hu hn

end Crew

theorem Call.Move.fits {w w' : Listening} {x x' : Option Holding} {ts : List ThreadId}
    (hm : Call.Move w x x' ts w') (hc : w.crew.Fits w.registry.settings.chunk) :
    w'.crew.Fits w.registry.settings.chunk := by
  cases hm with
  | @passed _ crew hk =>
    constructor
    · intro e he
      rw [hk.length_eq]
      exact hc.logged e (hk.delivered ▸ he)
    · intro t th' n ht hn
      rcases hk.thread ht with ⟨th, hth, -, hb⟩
      exact hc.chunks t th n hth (hb ▸ hn)
  | @spawned s l host hh =>
    constructor
    · intro e he
      show e.1 < (w.crew.threads ++ [l.thread (w.registry.fdOf s) w.registry.settings]).length
      simpa using Nat.lt_succ_of_lt (hc.logged e he)
    · intro t th n ht hn
      rcases Crew.thread?_append_cases (c := w.crew) rfl ht with ht | ⟨-, rfl⟩
      · exact hc.chunks t th n ht hn
      · cases l with
        | data => exact (Option.some.inj hn).symm
        | event => cases hn
  | acquired | reservedFor | reservedOn | joined | seated | freed | lifted | released => exact hc

/-- A descriptor has one data listener at most that has not ended, since those that were joined
have ended. -/
theorem Scene.Inv.single {s : Scene} (h : s.Inv) (fd : Fd) : s.crew.Single fd := by
  have hlistens : ∀ {t p}, s.crew.IsAt fd t p → p.hasEnded = false → s.Listens t fd .data := by
    rintro t p ⟨th, ht, hfd, chunk, gated, hb⟩ halive
    refine ⟨?_, th, ht, hfd, by rw [hb]; rfl⟩
    intro hj
    have hend := (h.ended t hj).2
    unfold Crew.hasEnded at hend
    rw [show s.listening.crew.thread? t = some th from ht] at hend
    simp [hb, Body.hasEnded, halive] at hend
  intro t t' p p' hp hp' halive halive'
  exact h.listener_unique (hlistens hp halive) (hlistens hp' halive')

namespace StreamRun

variable {fd : Fd} {capacity : Nat} {settings : ListenerSettings} {s : Scene} {arrived : Bytes}

/-- The invariant of all runs on a byte stream. -/
theorem inv (h : StreamRun fd capacity settings s arrived) :
    s.crew.host.Carries fd ∧ s.crew.Fits settings.chunk ∧
      s.crew.Ledger fd (DataLoop.readRoom settings.chunk) arrived := by
  induction h with
  | start host gates hc =>
    have hnobody : ∀ t p, ¬ (Scene.start capacity settings host gates).crew.IsAt fd t p := by
      rintro t p ⟨th, ht, -⟩
      cases ht
    refine ⟨hc, ⟨?_, ?_⟩, ⟨?_, ?_, ?_⟩⟩
    · intro e he
      cases he
    · intro t th n ht
      cases ht
    · intro bytes hbytes
      cases hbytes
    · intro t bytes hin
      exact absurd hin (hnobody t _)
    · intro _
      rfl
  | @act s s' arrived a hrun hin ha ih =>
    rcases ih with ⟨hc, hfits, hledger⟩
    -- the registry sees to it that nobody else reads, and that all read as much
    have hinv := hrun.reachable.inv
    have hset := hrun.reachable.limits.2
    rcases Scene.act?_cases ha with ⟨i, x, ts, hmove, -, -⟩ | ⟨t, hstep, -, -, -⟩ |
      ⟨host, gates, rfl, -⟩
    · rcases hmove.flow hc hfits.logged with ⟨hc', hflow⟩
      exact ⟨hc', hset ▸ hmove.fits (hset.symm ▸ hfits), hledger.flow hflow⟩
    · rcases hstep.flow hc (hinv.single fd) (hfits.chunks t) with ⟨hc', hflow⟩
      exact ⟨hc', hstep.fits hfits, hledger.flow hflow⟩
    · cases hin
  | arrive bytes host gates _ hc hw ih =>
    rcases ih with ⟨-, hfits, hledger⟩
    exact ⟨hc, ⟨hfits.logged, hfits.chunks⟩, hledger.arrive hw⟩

/-- While a listener sleeps nobody has bytes in hand, and none wait. -/
theorem sleeping (h : StreamRun fd capacity settings s arrived) {t : ThreadId}
    (hs : s.crew.Sleeps fd t) : (s.crew.handed fd).flatten = arrived := by
  rcases h.inv with ⟨hc, -, hledger⟩
  rcases hs with ⟨th, ht, hat, hnothing⟩
  have hparked : s.crew.IsAt fd t .parked := ⟨th, ht, hat⟩
  have hfree : ∀ u bytes, ¬ s.crew.IsAt fd u (.delivering bytes) := by
    intro u bytes hu
    obtain rfl := h.reachable.inv.single fd t u _ _ hparked hu rfl rfl
    exact DataLoop.Point.noConfusion (Crew.isAt_unique hparked hu)
  have hempty : s.crew.host.waiting fd = [] := by
    by_contra hne
    simp [Readiness.any, hc.reported hne] at hnothing
  rw [← hledger.rest hfree, hempty, List.append_nil]

/-- What data listeners were handed is the stream as far as it was read: nothing is lost, repeated
or out of order, and no piece is empty or larger than it may be. -/
theorem handed_in_order (h : StreamRun fd capacity settings s arrived) :
    (s.crew.handed fd).flatten <+: arrived ∧
    ((∀ t bytes, ¬ s.crew.IsAt fd t (.delivering bytes)) →
      (s.crew.handed fd).flatten ++ s.crew.host.waiting fd = arrived) ∧
    (∀ t bytes, s.crew.IsAt fd t (.delivering bytes) →
      (s.crew.handed fd).flatten ++ bytes ++ s.crew.host.waiting fd = arrived) ∧
    (∀ bytes ∈ s.crew.handed fd, 1 ≤ bytes.length ∧ bytes.length ≤ min settings.chunk 3072) ∧
    (∀ t, s.crew.Sleeps fd t → (s.crew.handed fd).flatten = arrived) := by
  rcases h.inv with ⟨-, -, hledger⟩
  refine ⟨?_, hledger.rest, ?_, hledger.sizes, fun t hs => h.sleeping hs⟩
  -- bytes in hand come between what was handed over and what waits
  · by_cases hfree : ∀ t bytes, ¬ s.crew.IsAt fd t (.delivering bytes)
    · rw [← hledger.rest hfree]
      exact List.prefix_append _ _
    · obtain ⟨t, bytes, hin⟩ : ∃ t bytes, s.crew.IsAt fd t (.delivering bytes) := by
        simpa using hfree
      rw [← (hledger.inHand t bytes hin).2, List.append_assoc]
      exact List.prefix_append _ _
  · intro t bytes hin
    exact (hledger.inHand t bytes hin).2

theorem run {actions : List Action} {s' : Scene} (h : StreamRun fd capacity settings s arrived)
    (hin : actions.all Action.isInside = true) (hrun : s.run? actions = some s') :
    StreamRun fd capacity settings s' arrived :=
  run_keeps (P := (StreamRun fd capacity settings · arrived))
    (fun a ha _ _ hs hact => hs.act a (List.all_eq_true.mp hin a ha) hact) h hrun

/-- A host with a pipe at one descriptor. -/
def piped (queued : Bytes) : Host where
  descriptors := [(3, .stream (some 0) none false)]
  channels := [(0, { queued })]

theorem piped_carries (queued : Bytes) : (piped queued).Carries 3 := by
  refine ⟨by decide, rfl, ?_, nofun⟩
  intro fd' hsource
  by_contra hne
  have hkey : (fd' == (3 : Fd)) = false := beq_false_of_ne hne
  simp [Host.source?, Host.endpoint?, piped, List.lookup_cons, hkey] at hsource

/-- A client registers a data listener, which calls its callback once. -/
def relay : List Action :=
  [.begin (.registering 3 (.data {} false)), .proceed 0, .proceed 0, .thread (.step 0),
    .thread (.step 0), .proceed 0, .proceed 0] ++ .replicate 6 (.thread (.step 0))

/-- The client stops its listener and registers another one, which calls its callback and goes
back to its wait. -/
def relayAgain : List Action :=
  [.begin (.unregistering 3 .data), .proceed 1, .proceed 1, .proceed 1, .proceed 1,
    .thread (.step 0), .thread (.step 0), .proceed 1, .proceed 1, .proceed 1,
    .begin (.registering 3 (.data {} false)), .proceed 2, .proceed 2, .thread (.step 1),
    .thread (.step 1), .proceed 2, .proceed 2] ++ .replicate 8 (.thread (.step 1))

theorem relay_in_order :
    ∃ s, StreamRun 3 1 { chunk := 2 } s [1, 2, 3, 4] ∧ s.crew.handed 3 = [[1, 2], [3, 4]] ∧
      s.crew.Sleeps 3 1 ∧ (s.crew.handed 3).flatten = [1, 2, 3, 4] := by
  have hruns : ∃ s₁ s₂, (Scene.start 1 { chunk := 2 } (piped [1, 2, 3]) []).run? relay = some s₁ ∧
      s₁.crew.host.waiting 3 = [3] ∧
      (s₁.withHost (piped [3, 4]) []).run? relayAgain = some s₂ ∧
      s₂.crew.handed 3 = [[1, 2], [3, 4]] ∧ s₂.crew.Sleeps 3 1 :=
    ⟨_, _, rfl, rfl, rfl, rfl, _, rfl, ⟨rfl, _, _, rfl⟩, rfl⟩
  rcases hruns with ⟨s₁, s₂, hrun₁, hwaiting, hrun₂, hhanded, hsleeps⟩
  have hstart : StreamRun 3 1 { chunk := 2 } _ [1, 2, 3] :=
    .start (piped [1, 2, 3]) [] (piped_carries _)
  have harrived : StreamRun 3 1 { chunk := 2 } (s₁.withHost (piped [3, 4]) []) [1, 2, 3, 4] :=
    (hstart.run rfl hrun₁).arrive [4] (piped [3, 4]) [] (piped_carries _) (by rw [hwaiting]; rfl)
  have hrun := harrived.run rfl hrun₂
  exact ⟨s₂, hrun, hhanded, hsleeps, (handed_in_order hrun).2.2.2.2 1 hsleeps⟩

end StreamRun

end SerialLine
