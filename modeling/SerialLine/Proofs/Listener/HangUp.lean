import Mathlib.Algebra.Order.Floor.Div
import Mathlib.GroupTheory.GroupAction.Ring
import SerialLine.Proofs.Listener.Draining
import SerialLine.Proofs.Listener.Gate
import SerialLine.Proofs.Listener.Handling
import SerialLine.Proofs.Listener.WakeUp

/-!
# SerialLine.Proofs.Listener.HangUp — a listener that is hung up on

A data listener ends for a hang-up only when a wait reports it without any bytes, or a read that
was asked for with it gives none. So what was left when the peer hung up is handed over before.
-/

namespace SerialLine

/-! ## Why a listener ends -/

namespace DataLoop

theorem serve_leaving {r : Readiness} (h : serve r = .leaving) :
    r.readable = false ∧ r.hungUp = true := by
  cases hread : r.readable <;> cases hhung : r.hungUp <;> simp [serve, hread, hhung] at h ⊢

/-- But for its waits and its reads a listener ends where it is asked to or knows that nothing is
left. -/
theorem Edge.leaving {th : Thread} {chunk : Nat} {h h' : Host} {p : Point} {w : Waker}
    {handed : List Bytes} {hungUp : Bool} {waiting : Bytes}
    (e : Edge th chunk h p .leaving w h' handed) (hinf : p.Informed hungUp waiting) :
    p = .polling ∨ p = .parked ∨ (∃ believed, p = .reading believed) ∨ th.cancelled = true ∨
      (hungUp = true ∧ waiting = []) := by
  generalize hq : Point.leaving = q at e
  cases e with
  | created _ hq' | handed _ hq' => rcases hq' with rfl | rfl <;> cases hq
  | refused | announced | reset | admitted | left => cases hq
  | entered => exact .inl rfl
  | reported | interrupted => exact .inr (.inl rfl)
  | read believed | unread believed => exact .inr (.inr (.inl ⟨believed, rfl⟩))
  | looked =>
    cases hasked : th.cancelled with
    | true => exact .inr (.inr (.inr (.inl rfl)))
    | false => simp [afterHead, hasked] at hq
  | rechecked r =>
    cases hasked : th.cancelled with
    | true => exact .inr (.inr (.inr (.inl rfl)))
    | false =>
      have hserve : serve r = .leaving := by simpa [afterRecheck, hasked] using hq.symm
      obtain ⟨hread, hhung⟩ := serve_leaving hserve
      exact .inr (.inr (.inr (.inr ⟨(hinf hhung).1, (hinf hhung).2 hread⟩)))

end DataLoop

namespace Crew

variable {c c' : Crew} {t : ThreadId} {th th' : Thread} {p : DataLoop.Point} {chunk : Nat}
  {gated : Bool}

theorem after?_other {e : Event} (h : c.after? e = some c') (hne : e.thread ≠ t) :
    c'.thread? t = c.thread? t := by
  rcases after?_passes h with rfl | ⟨thu, thu', -, hset, -⟩
  · rfl
  · exact thread?_set_ne hset hne.symm

/-- A thread that was moved on to a point is there. -/
theorem point_set {th₁ : Thread} {q q' : DataLoop.Point} {chunk' : Nat} {gated' : Bool}
    (ht : c.thread? t = some th) (hset : c'.threads = c.threads.set t th₁)
    (hb : th₁.body = .data q chunk gated) (ht' : c'.thread? t = some th')
    (hb' : th'.body = .data q' chunk' gated') : q' = q := by
  rw [thread?_set_self ht hset] at ht'
  obtain rfl := Option.some.inj ht'
  exact (Body.data.inj (hb'.symm.trans hb)).1

/-- After a read that has not failed a listener ends if it believes in a hang-up and nothing
waits. -/
theorem afterRead_leaving {believed : Bool} {waiting : Bytes} {outcome : CallOutcome Bytes}
    (h : DataLoop.afterRead believed outcome = .leaving) (hgood : readFails waiting outcome = false)
    (hempty : ∀ bytes, outcome = .ok bytes → bytes = [] → waiting = []) :
    believed = true ∧ waiting = [] := by
  cases outcome with
  | ok bytes =>
    cases bytes with
    | nil =>
      refine ⟨?_, hempty [] rfl rfl⟩
      cases believed with
      | true => rfl
      | false => cases h
    | cons b bs => cases h
  | error f =>
    cases hint : f.isInterruption with
    | true => simp [DataLoop.afterRead, Transfer.afterSingle, hint] at h
    | false =>
      cases hblock : f.isWouldBlock with
      | false => simp [readFails, hint, hblock] at hgood
      | true =>
        refine ⟨?_, by simpa [readFails, hint, hblock] using hgood⟩
        cases believed with
        | true => rfl
        | false => simp [DataLoop.afterRead, Transfer.afterSingle, hint, hblock] at h

theorem place_eq (ht : c.thread? t = some th) (hb : th.body = .data p chunk gated) :
    c.place? t = some (th.fd, .data p chunk gated) := by
  rw [place?, ht, Option.map_some, hb]

/-- A thread that changes, but not what it runs on which descriptor, stays where it is. -/
theorem place_edit {u : ThreadId} (edit : Thread → Thread)
    (hkeep : ∀ th, (edit th).fd = th.fd ∧ (edit th).body = th.body) :
    (c.editThread u edit).place? t = c.place? t := by
  rcases editThread_cases edit u c with hsame | ⟨thu, hu, hedit⟩
  · rw [hsame]
  · unfold place?
    by_cases htu : t = u
    · subst htu
      rw [hu, thread?_set_self hu (congrArg Crew.threads hedit), Option.map_some, Option.map_some,
        (hkeep thu).1, (hkeep thu).2]
    · rw [thread?_set_ne (congrArg Crew.threads hedit) htu]

/-- What happens to a data listener is a step in its loop, or leaves it where it is. -/
theorem StepsAt.data_cases (h : StepsAt t c c') (ht : c.thread? t = some th)
    (hb : th.body = .data p chunk gated) (ht' : c'.thread? t = some th') :
    th'.fd = th.fd ∧ th'.cancelled = th.cancelled ∧
    ((∃ q w handed, DataLoop.Edge th chunk c.host p q w c'.host handed ∧
        th'.body = .data q chunk gated ∧
        c'.delivered = (handed.map Item.bytes).map (t, ·) ++ c.delivered) ∨
      (th'.body = th.body ∧ c'.host = c.host ∧ c'.delivered = c.delivered)) := by
  rcases h with ⟨th₀, th₁, items, ht₀, hs, hset, hdel⟩
  obtain rfl := Option.some.inj (ht.symm.trans ht₀)
  obtain rfl : th₁ = th' := by
    rw [thread?_set_self ht hset] at ht'
    exact Option.some.inj ht'
  refine ⟨hs.stays.1, hs.cancelled_eq, ?_⟩
  generalize hhost : c'.host = host at hs
  cases hs with
  | data hb₀ e hb₁ =>
    rw [hb] at hb₀
    cases hb₀
    exact .inl ⟨_, _, _, e, hb₁, hdel⟩
  | event hb₀ =>
    rw [hb] at hb₀
    cases hb₀
  | watch hb₀ =>
    rw [hb] at hb₀
    cases hb₀
  | poked | letGo => exact .inr ⟨rfl, rfl, hdel⟩

section Leaving

variable (ht : c.thread? t = some th) (hb : th.body = .data p chunk gated)
  (ht' : c'.thread? t = some th') (hb' : th'.body = .data .leaving chunk gated)
  (hinf : p.Informed (c.host.hasHungUp th.fd) (c.host.waiting th.fd))

include ht hb ht' hb' hinf

theorem stepData_leaving (h : c.stepData t th p chunk gated = some c')
    (hgood : c.isFailure t (.step t) = false) (hchunk : 1 ≤ chunk) (hc : c.host.Carries th.fd)
    (hp : p ≠ .leaving) :
    th.cancelled = true ∨ (c.host.hasHungUp th.fd = true ∧ c.host.waiting th.fd = []) := by
  have hplace := place_eq ht hb
  obtain ⟨w, handed, hedge⟩ :
      ∃ w handed, DataLoop.Edge th chunk c.host p .leaving w c'.host handed := by
    rcases (StepsAt.data_cases (stepData_edge ht hb h) ht hb ht').2.2 with
      ⟨q, w, handed, e, hq, -⟩ | ⟨hsame, -⟩
    · obtain rfl := (Body.data.inj (hq.symm.trans hb')).1
      exact ⟨w, handed, e⟩
    · exact absurd (Body.data.inj (hb.symm.trans (hsame.symm.trans hb'))).1 hp
  rcases hedge.leaving hinf with rfl | rfl | ⟨believed, rfl⟩ | hend
  · -- a wait that fails at once
    simp only [stepData] at h
    obtain rfl := Option.some.inj h
    have hq := point_set ht rfl rfl ht' hb'
    simp only [isFailure, hplace, beq_self_eq_true, Bool.true_and] at hgood
    cases hfault : (c.host.takeFault .pollDescriptor).1 with
    | none => simp [hfault, DataLoop.afterPoll] at hq
    | some code =>
      by_cases hcode : code = Errno.EINTR
      · simp [hfault, DataLoop.afterPoll, hcode] at hq
      · simp [hfault, hcode] at hgood
  · -- a wait that reports a hang-up and nothing to read
    simp only [stepData] at h
    split at h
    · obtain rfl := Option.some.inj h
      have hq := point_set ht rfl rfl ht' hb'
      unfold DataLoop.afterReport at hq
      split at hq
      · cases hq
      · obtain ⟨hread, hhung⟩ := DataLoop.serve_leaving hq.symm
        refine .inr ⟨hhung, ?_⟩
        by_contra hne
        have hreadable := hc.reported hne
        simp [hreadable] at hread
    · cases h
  · -- a read of nothing
    simp only [stepData] at h
    obtain ⟨gates, hend⟩ := endRead_spec t th chunk gated believed
      (c.host.readFd th.fd (DataLoop.readRoom chunk)).1
      { c with host := (c.host.readFd th.fd (DataLoop.readRoom chunk)).2 }
    rw [hend] at h
    obtain rfl := Option.some.inj h
    have hq := point_set ht rfl rfl ht' hb'
    simp only [isFailure, hplace, beq_self_eq_true, Bool.true_and] at hgood
    have hempty : ∀ bytes, (c.host.readFd th.fd (DataLoop.readRoom chunk)).1 = .ok bytes →
        bytes = [] → c.host.waiting th.fd = [] := by
      rintro bytes hok rfl
      by_contra hne
      have hroom : 0 < DataLoop.readRoom chunk := Nat.lt_min.mpr ⟨hchunk, by decide⟩
      have htake := (Host.readFd_take hroom hne).1
      rw [hok] at htake
      rcases List.take_eq_nil_iff.mp (Except.ok.inj htake).symm with hzero | hnil
      · omega
      · exact hne hnil
    obtain ⟨hbelieved, hnothing⟩ := afterRead_leaving hq.symm hgood hempty
    exact .inr ⟨hinf hbelieved, hnothing⟩
  · exact hend

theorem fail_leaving {code : Errno} (h : c.fail t code = some c')
    (hgood : c.isFailure t (.fail t code) = false) :
    th.cancelled = true ∨ (c.host.hasHungUp th.fd = true ∧ c.host.waiting th.fd = []) := by
  have hplace := place_eq ht hb
  cases p with
  | parked =>
    simp only [fail, ht, Option.bind_eq_bind, Option.bind_some, hb] at h
    obtain rfl := Option.some.inj h
    have hq := point_set ht rfl rfl ht' hb'
    by_cases hcode : code = Errno.EINTR
    · simp [DataLoop.afterPoll, hcode] at hq
    · simp [isFailure, hplace, hcode] at hgood
  | reading believed =>
    simp only [fail, ht, Option.bind_eq_bind, Option.bind_some, hb] at h
    obtain ⟨gates, hend⟩ := endRead_spec t th chunk gated believed (.error (.errno code)) c
    rw [hend] at h
    obtain rfl := Option.some.inj h
    have hq := point_set ht rfl rfl ht' hb'
    simp only [isFailure, hplace, beq_self_eq_true, Bool.true_and] at hgood
    obtain ⟨hbelieved, hnothing⟩ := afterRead_leaving hq.symm hgood (by simp)
    exact .inr ⟨hinf hbelieved, hnothing⟩
  | _ => simp [fail, ht, hb] at h

end Leaving

/-- A data listener that has met no failure ends because it was asked to, or because its peer has
hung up and nothing is left to read. -/
theorem after?_leaving {e : Event} (h : c.after? e = some c') (hgood : c.isFailure t e = false)
    (ht : c.thread? t = some th) (hb : th.body = .data p chunk gated) (hchunk : 1 ≤ chunk)
    (hc : c.host.Carries th.fd)
    (hinf : p.Informed (c.host.hasHungUp th.fd) (c.host.waiting th.fd))
    (ht' : c'.thread? t = some th') (hb' : th'.body = .data .leaving chunk gated)
    (hp : p ≠ .leaving) :
    th.cancelled = true ∨ (c.host.hasHungUp th.fd = true ∧ c.host.waiting th.fd = []) := by
  have hthread : e.thread = t := by
    by_contra hne
    rw [after?_other h hne, ht] at ht'
    obtain rfl := Option.some.inj ht'
    exact hp (Body.data.inj (hb.symm.trans hb')).1
  cases e with
  | step u =>
    obtain rfl : u = t := hthread
    have hstep : c.stepData u th p chunk gated = some c' := by
      simp only [after?, step, ht, Option.bind_eq_bind, Option.bind_some, hb] at h
      split at h
      · cases h
      · exact h
    exact stepData_leaving ht hb ht' hb' hinf hstep hgood hchunk hc hp
  | elapse u =>
    obtain rfl : u = t := hthread
    simp [after?, elapse, ht, hb] at h
  | fail u code =>
    obtain rfl : u = t := hthread
    exact fail_leaving ht hb ht' hb' hinf h hgood
  | poke | letGo =>
    obtain rfl := Option.some.inj h
    have hsame := (place_eq ht' hb').symm.trans (place_edit _ fun _ => ⟨rfl, rfl⟩)
    rw [place_eq ht hb] at hsame
    exact absurd (Body.data.inj (Prod.mk.inj (Option.some.inj hsame)).2).1.symm hp

end Crew

/-! ## Runs keep the notes -/

namespace Crew

variable {c c' : Crew} {fd : Fd} {t u : ThreadId} {chunk : Nat} {log : DrainLog}

theorem StepsAt.hasHungUp (h : StepsAt u c c') (fd : Fd) :
    c'.host.hasHungUp fd = c.host.hasHungUp fd := by
  rcases h with ⟨th, th', items, -, hs, -⟩
  generalize c'.host = host at hs
  cases hs with
  | data _ e =>
    rcases e.bytes_cases with ⟨hh, -⟩ | ⟨_, -, -, rfl, -⟩ | ⟨_, -, rfl, -⟩
    · exact hh.hasHungUp_eq fd
    · exact Host.readFd_hasHungUp _ _ _
    · rfl
  | event _ _ hh | watch _ _ hh => exact hh.hasHungUp_eq fd
  | poked | letGo => rfl

/-- While a data listener of a descriptor runs, nobody else reads there. -/
theorem StepsAt.waiting_other (h : StepsAt u c c') (hc : c.host.Carries fd) (hsingle : Single fd c)
    {p : DataLoop.Point} (hat : c.IsAt fd t p) (hlive : p.hasEnded = false) (hne : u ≠ t) :
    c'.host.waiting fd = c.host.waiting fd := by
  rcases h with ⟨th, th', items, hu, hs, -⟩
  generalize c'.host = host at hs
  cases hs with
  | @data p' _ chunk gated _ _ _ _ hb e =>
    rcases e.bytes_cases with ⟨hh, -⟩ | ⟨_, rfl, -, rfl, -⟩ | ⟨_, -, rfl, -⟩
    · exact hh.waiting_eq fd
    · by_cases hfd : th.fd = fd
      · exact absurd (hsingle u t _ _ ⟨th, hu, hfd, chunk, gated, hb⟩ hat rfl hlive) hne
      · exact (hc.read_other hfd _).2
    · rfl
  | event _ _ hh | watch _ _ hh => exact hh.waiting_eq fd
  | poked | letGo => rfl

theorem piecesOf_append {items : List (ThreadId × Item)}
    (hdel : c'.delivered = items ++ c.delivered) :
    c'.piecesOf t = c.piecesOf t ++ items.reverse.filterMap (pieceOf? t) := by
  rw [piecesOf, hdel, List.reverse_append, List.filterMap_append]
  rfl

/-- A step of one thread calls the callback of no other. -/
theorem StepsAt.piecesOf_other (h : StepsAt u c c') (hne : u ≠ t) :
    c'.piecesOf t = c.piecesOf t := by
  obtain ⟨_, _, items, -, -, -, hdel⟩ := h
  have hnone : ((items.map (u, ·)).reverse.filterMap (pieceOf? t)) = [] := by
    rw [List.filterMap_eq_nil_iff]
    intro e he
    obtain ⟨item, -, rfl⟩ := List.mem_map.mp (List.mem_reverse.mp he)
    cases item <;> simp [pieceOf?, hne]
  rw [piecesOf_append hdel, hnone, List.append_nil]

theorem read?_of_place (h : c'.place? t = c.place? t) : c.read? t c' = none := by
  unfold read?
  rw [h]
  rcases c.place? t with _ | ⟨fd, body⟩
  · rfl
  · cases body with
    | data p => cases p <;> rfl
    | event | watch => rfl

/-- A data listener of a descriptor is there, and its notes are right. -/
def Drains (fd : Fd) (t : ThreadId) (chunk : Nat) (c : Crew) (log : DrainLog) : Prop :=
  ∃ th p gated, c.thread? t = some th ∧ th.fd = fd ∧ th.body = .data p chunk gated ∧
    Drained fd (DataLoop.readRoom chunk) c.host (c.piecesOf t) th.cancelled log p

theorem Handled.drains (h : c.Handled c') (hd : c.Drains fd t chunk log) :
    c'.Drains fd t chunk (log.note (c.read? t c')) := by
  obtain ⟨th, p, gated, ht, hfd, hb, hd⟩ := hd
  obtain ⟨th', ht', hth⟩ := h.thread ht
  have hplace : c'.place? t = c.place? t := by
    rw [place?, place?, ht, ht', Option.map_some, Option.map_some, hth.fd, hth.body]
  have hpieces : c'.piecesOf t = c.piecesOf t := by rw [piecesOf, piecesOf, h.delivered]
  rw [read?_of_place hplace, DrainLog.note_none]
  refine ⟨th', p, gated, ht', hth.fd.trans hfd, hth.body.trans hb, ?_⟩
  rw [hpieces]
  exact hd.stay (h.host.hasHungUp_eq fd) (fun _ => h.host.waiting_eq fd) hth.asked

/-- Something happens to the listener or to another thread. -/
theorem Drains.event {e : Event} (hd : c.Drains fd t chunk log) (he : c.after? e = some c')
    (hgood : c.isFailure t e = false) (hc : c.host.Carries fd) (hsingle : Single fd c)
    (hchunk : 1 ≤ chunk) : c'.Drains fd t chunk (log.note (c.read? t c')) := by
  obtain ⟨th, p, gated, ht, rfl, hb, hd⟩ := hd
  rcases after?_cases he with rfl | ⟨u, hstep⟩
  · rw [read?_of_place rfl]
    exact ⟨th, p, gated, ht, rfl, hb, hd⟩
  have hhung := hstep.hasHungUp th.fd
  by_cases hut : u = t
  · subst hut
    obtain ⟨th', ht'⟩ : ∃ th', c'.thread? u = some th' := by
      obtain ⟨_, th', _, ht₀, -, hset, -⟩ := hstep
      exact ⟨th', thread?_set_self ht₀ hset⟩
    obtain ⟨hfd, hasked, ⟨q, w, handed, e', hb', hdel⟩ | ⟨hb', hhost, hdel⟩⟩ :=
      hstep.data_cases ht hb ht'
    · -- the listener goes on in its loop
      have hpieces : c'.piecesOf u = c.piecesOf u ++ handed := by
        rw [piecesOf_append hdel]
        rcases e'.bytes_cases with ⟨-, rfl, -⟩ | ⟨_, -, -, -, rfl⟩ | ⟨_, -, -, rfl, -⟩
        · rfl
        · rfl
        · simp [pieceOf?]
      have hread : c.read? u c' = p.read? q := by
        rw [read?, place_eq ht hb, place_eq ht' hb']
      rw [hread]
      refine ⟨th', q, gated, ht', hfd, hb', ?_⟩
      rw [hpieces, hasked]
      refine hd.edge e' hc hchunk ?_
      rintro rfl
      exact after?_leaving he hgood ht hb hchunk hc hd.informed ht' hb'
        (by rintro rfl; cases e')
    · have hplace : c'.place? u = c.place? u := by
        rw [place_eq ht' (hb'.trans hb), place_eq ht hb, hfd]
      rw [read?_of_place hplace, DrainLog.note_none]
      refine ⟨th', p, gated, ht', hfd, hb'.trans hb, ?_⟩
      rw [piecesOf, hdel, hhost, hasked]
      exact hd
  · -- another thread neither reads there nor calls this callback
    have ht' : c'.thread? t = some th := by
      obtain ⟨thu, thu', items, hu, -, hset, -⟩ := hstep
      exact (thread?_set_ne hset (Ne.symm hut)).trans ht
    have hplace : c'.place? t = c.place? t := by rw [place?, place?, ht, ht']
    have hwaiting : p.hasEnded = false →
        c'.host.waiting th.fd = c.host.waiting th.fd := fun hlive =>
      hstep.waiting_other hc hsingle ⟨th, ht, rfl, chunk, gated, hb⟩ hlive hut
    rw [read?_of_place hplace, DrainLog.note_none]
    refine ⟨th, p, gated, ht', rfl, hb, ?_⟩
    rw [hstep.piecesOf_other hut]
    exact hd.stay hhung hwaiting id

theorem Drains.outside {bytes : Bytes} {host : Host} {gates : List (Fd × Gate)}
    (hd : c.Drains fd t chunk log) (hchunk : 1 ≤ chunk)
    (hw : host.waiting fd = c.host.waiting fd ++ bytes)
    (hstays : c.host.hasHungUp fd = true → host.hasHungUp fd = true ∧ bytes = []) :
    ({ c with host, gates } : Crew).Drains fd t chunk (log.outside fd bytes host) := by
  obtain ⟨th, p, gated, ht, hfd, hb, hd⟩ := hd
  exact ⟨th, p, gated, ht, hfd, hb, hd.outside (Nat.lt_min.mpr ⟨hchunk, by decide⟩) hw hstays⟩

end Crew

namespace Draining

variable {fd : Fd} {t : ThreadId} {capacity : Nat} {settings : ListenerSettings} {s : Scene}
  {log : DrainLog}

/-- A new listener has read nothing. -/
theorem start_drains {s s' : Scene} {arrived : Bytes} {a : Action}
    (h : StreamRun fd capacity settings s arrived) (hin : a.isInside = true)
    (ha : s.act? a = some s') (hnone : s.crew.thread? t = none)
    (hat : s'.crew.IsAt fd t .creating) (hchunk : 1 ≤ settings.chunk) :
    s'.crew.Drains fd t settings.chunk (.start fd s'.crew.host) := by
  have hfits := h.inv.2.1
  have hfits' := (h.act a hin ha).inv.2.1
  obtain ⟨th, ht, hfd, chunk, gated, hb⟩ := hat
  obtain rfl : chunk = settings.chunk := hfits'.chunks t th chunk ht (by rw [hb]; rfl)
  have hnew : s'.crew.delivered = s.crew.delivered := by
    rcases Scene.act?_crew ha with hhandled | ⟨e, -, he⟩ | ⟨host, gates, rfl, -⟩
    · exact hhandled.delivered
    · -- what happens to threads creates none
      rcases Crew.after?_cases he with hsame | ⟨u, thu, thu', items, hu, -, hset, -⟩
      · rw [hsame]
      · rcases Crew.thread?_set_cases hu hset ht with ⟨rfl, -⟩ | ⟨-, ht⟩
        · rw [hnone] at hu
          cases hu
        · rw [hnone] at ht
          cases ht
    · cases hin
  have hpieces : s'.crew.piecesOf t = [] := by
    rw [Crew.piecesOf, hnew, List.filterMap_eq_nil_iff]
    intro e he
    have hlt := hfits.logged e (List.mem_reverse.mp he)
    have hge : s.crew.threads.length ≤ t := List.getElem?_eq_none_iff.mp hnone
    have hne : e.1 ≠ t := Nat.ne_of_lt (Nat.lt_of_lt_of_le hlt hge)
    unfold Crew.pieceOf?
    split
    · rw [if_neg hne]
    · rfl
  refine ⟨th, .creating, gated, ht, hfd, hb, ?_⟩
  rw [hpieces]
  exact .start (Nat.lt_min.mpr ⟨hchunk, by decide⟩) _ _

theorem inv (h : Draining fd t capacity settings s log) (hchunk : 1 ≤ settings.chunk) :
    s.crew.Drains fd t settings.chunk log := by
  induction h with
  | created a h hin ha hnone hat => exact start_drains h hin ha hnone hat hchunk
  | @act s s' log a h hin hgood ha ih =>
    obtain ⟨arrived, hrun⟩ := h.stream
    rcases Scene.act?_crew ha with hhandled | ⟨e, rfl, he⟩ | ⟨host, gates, rfl, -⟩
    · exact hhandled.drains ih
    · exact ih.event he hgood hrun.inv.1 (hrun.reachable.inv.single fd) hchunk
    · cases hin
  | outside bytes host gates _ _ hw hstays ih => exact ih.outside hchunk hw hstays

/-- Whatever is left when the peer hangs up is handed over in order, however small the pieces, in
no more reads than it takes. A listener that is not asked to end does not end before. -/
theorem drained (h : Draining fd t capacity settings s log) (hchunk : 1 ≤ settings.chunk) :
    (∀ th, s.crew.thread? t = some th → th.IsAt fd .leaving → th.cancelled = false →
      log.left?.isSome = true ∧ (s.crew.piecesOf t).flatten = log.arrived) ∧
    (∀ left, log.left? = some left →
      log.late.length ≤ left.length ⌈/⌉ min settings.chunk 3072) ∧
    ((∀ bytes, ¬ s.crew.IsAt fd t (.delivering bytes)) →
      s.crew.piecesOf t = log.early ++ log.late) ∧
    (∀ bytes, s.crew.IsAt fd t (.delivering bytes) →
      s.crew.piecesOf t ++ [bytes] = log.early ++ log.late) := by
  obtain ⟨th, p, gated, ht, hfd, hb, hd⟩ := h.inv hchunk
  have hat : s.crew.IsAt fd t p := ⟨th, ht, hfd, settings.chunk, gated, hb⟩
  refine ⟨?_, ?_, ?_, ?_⟩
  · rintro th' ht' hleaving hasked
    obtain rfl : p = .leaving := Crew.isAt_unique hat ⟨th', ht', hleaving⟩
    obtain rfl := Option.some.inj (ht.symm.trans ht')
    rcases hd.leaving rfl with hcancelled | ⟨hhung, hempty⟩
    · rw [hasked] at hcancelled
      cases hcancelled
    · refine ⟨hd.marked.trans hhung, ?_⟩
      have hcalls := hd.calls
      have hledger := hd.ledger rfl
      rw [hempty, List.append_nil] at hledger
      rw [← hledger, ← hcalls]
      exact congrArg List.flatten (List.append_nil _).symm
  · intro left hleft
    have hbound := hd.bound left hleft
    have hroom : 0 < min settings.chunk 3072 := Nat.lt_min.mpr ⟨hchunk, by decide⟩
    rw [Nat.ceilDiv_eq_add_pred_div, Nat.le_div_iff_mul_le hroom]
    have hroom' : DataLoop.readRoom settings.chunk = min settings.chunk 3072 := rfl
    rw [hroom'] at hbound
    omega
  · intro hfree
    have hnone : p.inHand = [] := by
      cases p with
      | delivering bytes => exact absurd hat (hfree bytes)
      | _ => rfl
    rw [← hd.calls, hnone, List.append_nil]
  · intro bytes hin
    obtain rfl := Crew.isAt_unique hat hin
    exact hd.calls

/-- One more step of a run, and what is noted down about it. -/
def next? (t : ThreadId) (x : Scene × DrainLog) (a : Action) : Option (Scene × DrainLog) :=
  if a.isInside && !x.1.isFailure t a then
    (x.1.act? a).map fun s => (s, x.2.note (x.1.crew.read? t s.crew))
  else none

theorem run {actions : List Action} {x x' : Scene × DrainLog}
    (h : Draining fd t capacity settings x.1 x.2)
    (hrun : actions.foldlM (next? t) x = some x') : Draining fd t capacity settings x'.1 x'.2 := by
  refine run_keeps (P := fun x => Draining fd t capacity settings x.1 x.2) ?_ h hrun
  intro a _ x x' hx hnext
  unfold next? at hnext
  split at hnext
  · next hgood =>
    rw [Bool.and_eq_true, Bool.not_eq_true'] at hgood
    obtain ⟨s, ha, rfl⟩ := Option.map_eq_some_iff.mp hnext
    exact hx.act a hgood.1 hgood.2 ha
  · cases hnext

/-- A host with a pipe at descriptor 3 whose writer is gone. -/
def abandoned (queued : Bytes) : Host where
  descriptors := [(3, .stream (some 0) none false)]
  channels := [(0, { queued, writerOpen := false })]

/-- The listener is armed, and hands over what waits. -/
def firstPiece : List Action :=
  .replicate 2 (.thread (.step 0)) ++ [.proceed 0, .proceed 0] ++ .replicate 6 (.thread (.step 0))

/-- The listener is woken for nothing and interrupted, and goes on until it ends. -/
def rest : List Action :=
  [.thread (.step 0), .thread (.poke 0), .thread (.step 0), .thread (.fail 0 .EINTR)] ++
    .replicate 17 (.thread (.step 0))

theorem abandoned_carries (queued : Bytes) : (abandoned queued).Carries 3 := by
  refine ⟨by decide, rfl, ?_, nofun⟩
  intro fd' hsource
  by_contra hne
  have hkey : (fd' == (3 : Fd)) = false := beq_false_of_ne hne
  simp [Host.source?, Host.endpoint?, abandoned, List.lookup_cons, hkey] at hsource

/-- The writer sends three more bytes and hangs up. -/
theorem abandoned_drained : ∃ s log,
    Draining 3 0 1 { chunk := 2 } s log ∧ log.left? = some [2, 3, 4] ∧
      (∃ th, s.crew.thread? 0 = some th ∧ th.IsAt 3 .leaving) ∧
      s.crew.piecesOf 0 = [[1], [2, 3], [4]] ∧ log.late.length ≤ 3 ⌈/⌉ 2 ∧
      (s.crew.piecesOf 0).flatten = log.arrived := by
  have hruns : ∃ s₀ s₁ x z, (Scene.start 1 { chunk := 2 } (StreamRun.piped [1]) []).run?
        [.begin (.registering 3 (.data {} false)), .proceed 0] = some s₀ ∧
      s₀.act? (.proceed 0) = some s₁ ∧ s₀.crew.thread? 0 = none ∧ s₁.crew.IsAt 3 0 .creating ∧
      firstPiece.foldlM (next? 0) (s₁, .start 3 s₁.crew.host) = some x ∧
      x.1.crew.host.waiting 3 = [] ∧ x.1.crew.host.hasHungUp 3 = false ∧
      rest.foldlM (next? 0) (x.1.withHost (abandoned [2, 3, 4]) [],
        x.2.outside 3 [2, 3, 4] (abandoned [2, 3, 4])) = some z ∧
      z.2.left? = some [2, 3, 4] ∧ z.1.crew.piecesOf 0 = [[1], [2, 3], [4]] ∧
      ∃ th, z.1.crew.thread? 0 = some th ∧ th.IsAt 3 .leaving ∧ th.cancelled = false :=
    ⟨_, _, _, _, rfl, rfl, rfl, ⟨_, rfl, rfl, _, _, rfl⟩, rfl, rfl, rfl, rfl, rfl, rfl, _, rfl,
      ⟨rfl, _, _, rfl⟩, rfl⟩
  obtain ⟨s₀, s₁, x, z, hregister, hspawn, hnone, hnew, hfirst, hempty, hopen, hrest, hleft,
    hpieces, th, hth, hleaving, hasked⟩ := hruns
  have hstream : StreamRun 3 1 { chunk := 2 } s₀ [1] :=
    StreamRun.run (.start (StreamRun.piped [1]) [] (StreamRun.piped_carries _)) rfl hregister
  have hcreated := Draining.created (.proceed 0) hstream rfl hspawn hnone hnew
  have hlate := (hcreated.run hfirst).outside [2, 3, 4] (abandoned [2, 3, 4]) []
    (abandoned_carries _) (by rw [hempty]; rfl) (by rw [hopen]; exact nofun)
  have hend := hlate.run hrest
  obtain ⟨hcomplete, hpace, -⟩ := hend.drained (by decide)
  exact ⟨z.1, z.2, hend, hleft, ⟨th, hth, hleaving⟩, hpieces, hpace _ hleft,
    (hcomplete th hth hleaving hasked).2⟩

end Draining

end SerialLine
