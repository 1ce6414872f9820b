import SerialLine.Proofs.Listener.Handling
import SerialLine.Proofs.Listener.Talk

/-!
# SerialLine.Proofs.Listener.Armed — threads on seats are armed

A thread gets to a seat only after it has told that it is armed, and it comes back there only from
a stop that took it off the seat: `Scene.Reachable.armed`.
-/

namespace SerialLine

namespace Crew

variable {c c' : Crew} {t : ThreadId} {th : Thread}

/-- The thread has told that it is armed. -/
def IsArmed (t : ThreadId) (c : Crew) : Prop := ∃ th, c.thread? t = some th ∧ th.isArmed = true

/-- Every thread is as it tells. -/
def Told (c : Crew) : Prop := ∀ t th, c.thread? t = some th → th.Told

theorem Told.event {e : Event} (h : c.Told) (he : c.after? e = some c') : c'.Told := by
  rcases after?_talks he with rfl | ⟨u, thu, thu', items, hu, hset, hstep, htalk⟩
  · exact h
  · intro t th ht
    rcases thread?_set_cases hu hset ht with ⟨rfl, rfl⟩ | ⟨-, ht⟩
    · exact (h _ thu hu).step hstep htalk
    · exact h t th ht

/-- What an event makes of a thread that is there. -/
theorem thread_event {e : Event} (he : c.after? e = some c') (ht : c.thread? t = some th) :
    ∃ th', c'.thread? t = some th' ∧
      (th' = th ∨ ∃ items, th.Step c.host c'.host th' items ∧ th.Talk th') := by
  rcases after?_talks he with rfl | ⟨u, thu, thu', items, hu, hset, hstep, htalk⟩
  · exact ⟨th, ht, .inl rfl⟩
  · by_cases htu : t = u
    · subst htu
      obtain rfl := Option.some.inj (ht.symm.trans hu)
      exact ⟨thu', thread?_set_self hu hset, .inr ⟨items, hstep, htalk⟩⟩
    · exact ⟨th, (thread?_set_ne hset htu).trans ht, .inl rfl⟩

theorem IsArmed.event {e : Event} (h : c.IsArmed t) (he : c.after? e = some c') : c'.IsArmed t := by
  obtain ⟨th, ht, harmed⟩ := h
  obtain ⟨th', ht', rfl | ⟨_, -, htalk⟩⟩ := thread_event he ht
  · exact ⟨_, ht', harmed⟩
  · exact ⟨th', ht', htalk.isArmed harmed⟩

/-- The thread has told that it is armed, and it will not panic. -/
def IsSteady (t : ThreadId) (c : Crew) : Prop :=
  ∃ th, c.thread? t = some th ∧ th.isArmed = true ∧ th.callback.IsCalm ∧ th.Told

namespace IsSteady

theorem event {e : Event} (h : c.IsSteady t) (he : c.after? e = some c') : c'.IsSteady t := by
  obtain ⟨th, ht, harmed, hcalm, htold⟩ := h
  obtain ⟨th', ht', rfl | ⟨_, hstep, htalk⟩⟩ := thread_event he ht
  · exact ⟨_, ht', harmed, hcalm, htold⟩
  · exact ⟨th', ht', htalk.isArmed harmed, htalk.isCalm_iff.mpr hcalm, htold.step hstep htalk⟩

theorem lt_length (h : c.IsSteady t) : t < c.threads.length := by
  obtain ⟨th, ht, -⟩ := h
  exact lt_of_thread ht

/-- A thread that has told that it is armed is past its start. -/
theorem started (h : c.IsSteady t) (th : Thread) (ht : c.thread? t = some th) :
    th.body.lifecycle ≠ .starting := by
  obtain ⟨th', ht', harmed, -, htold⟩ := h
  obtain rfl := Option.some.inj (ht.symm.trans ht')
  exact htold.started harmed

/-- A thread that will not panic is joined well. -/
theorem joined (h : c.IsSteady t) {result : Outcome Unit} (hjoin : c.joined? t = some result) :
    result = .ok () := by
  obtain ⟨th, ht, harmed, hcalm, htold⟩ := h
  have hwell := htold.calm harmed hcalm
  unfold joined? at hjoin
  simp only [ht, hwell] at hjoin
  split at hjoin
  · cases hjoin
  · exact (Option.some.inj hjoin).symm

end IsSteady

end Crew

namespace Thread.Handled

variable {th th' : Thread}

theorem isArmed_eq (hh : th.Handled th') : th'.isArmed = th.isArmed := by
  rw [isArmed, hh.reports]
  rfl

theorem told (hh : th.Handled th') (h : th.Told) : th'.Told := by
  constructor
  · rw [hh.isArmed_eq, hh.body]
    exact h.started
  · rw [hh.isArmed_eq, hh.body, hh.callback]
    exact h.calm

end Thread.Handled

/-- A thread that was just created has told nothing. -/
theorem Listener.thread_told (l : Listener) (fd : Fd) (settings : ListenerSettings) :
    (l.thread fd settings).Told := by
  have hfresh : (l.thread fd settings).isArmed = false := by cases l <;> rfl
  constructor <;> (rw [hfresh]; exact nofun)

namespace Crew.Handled

variable {c c' : Crew} {t : ThreadId}

theorem told (hh : c.Handled c') (h : c.Told) : c'.Told := by
  intro t th' ht'
  cases ht : c.thread? t with
  | none =>
    obtain ⟨l, fd, settings, -, rfl⟩ := hh.new ht ht'
    exact l.thread_told fd settings
  | some th =>
    obtain ⟨th₂, ht₂, hth⟩ := hh.thread ht
    obtain rfl := Option.some.inj (ht'.symm.trans ht₂)
    exact hth.told (h t th ht)

theorem isArmed (hh : c.Handled c') (h : c.IsArmed t) : c'.IsArmed t := by
  obtain ⟨th, ht, harmed⟩ := h
  obtain ⟨th', ht', hth⟩ := hh.thread ht
  exact ⟨th', ht', hth.isArmed_eq.trans harmed⟩

theorem isSteady (hh : c.Handled c') (h : c.IsSteady t) : c'.IsSteady t := by
  obtain ⟨th, ht, harmed, hcalm, htold⟩ := h
  obtain ⟨th', ht', hth⟩ := hh.thread ht
  refine ⟨th', ht', ?_, ?_, hth.told htold⟩
  · rwa [hth.isArmed_eq]
  · rwa [hth.callback]

end Crew.Handled

/-! ## Threads on seats -/

/-- The thread that a call keeps for a seat and that was armed before. -/
def Call.Position.bears? : Call.Position → Option ThreadId
  | .recording _ _ t | .cancelling _ _ t | .waking _ _ t | .restoring _ _ t _ => some t
  | _ => none

/-- A seat that runs did so before, or was given the thread just now. -/
theorem Registry.running_of_setSeat {r : Registry} {s s' : SlotId} {k k' : ListenerKind} {x : Seat}
    {t : ThreadId} (h : (r.setSeat s k x).seat s' k' = .running t) :
    x = .running t ∨ r.seat s' k' = .running t := by
  by_cases hsame : s' = s ∧ k' = k
  · obtain ⟨rfl, rfl⟩ := hsame
    have hlt : s' < r.slots.length := by
      have hbusy : (r.setSeat s' k' x).seat s' k' ≠ .idle := by rw [h]; exact nofun
      simpa using lt_of_seat_ne hbusy
    rw [seat_setSeat_self _ _ _ hlt] at h
    exact .inl h
  · rw [seat_setSeat_ne _ _ fun hs hk => hsame ⟨hs, hk⟩] at h
    exact .inr h

namespace Call

variable {w w' : Listening} {p p' : Position} {t : ThreadId}

theorem Edge.running (he : Edge w p p' w') {slot : SlotId} {k : ListenerKind}
    (hrun : w'.registry.seat slot k = .running t) :
    w.registry.seat slot k = .running t ∨ p.bears? = some t := by
  cases he with
  | @taken fd l s r hacq hidle =>
    rcases Registry.running_of_setSeat hrun with hx | hrun
    · cases hx
    · have hseat := Registry.seat_acquire (r := w.registry) fd slot k
      rw [hacq, hrun] at hseat
      exact .inl hseat.symm
  | reserved | lifted | freed | cleared =>
    rcases Registry.running_of_setSeat hrun with hx | hrun
    · cases hx
    · exact .inl hrun
  | recorded | restored =>
    rcases Registry.running_of_setSeat hrun with hx | hrun
    · exact .inr (congrArg some (Seat.running.inj hx))
    · exact .inl hrun
  | givenBack | reclaimed =>
    rw [Registry.seat_release] at hrun
    exact .inl hrun
  | _ => exact .inl hrun

/-- A thread that a call keeps for a seat it has kept before, has taken off its seat, or has heard
to be armed. -/
theorem Edge.bears (he : Edge w p p' w') (hb : p'.bears? = some t) :
    p.bears? = some t ∨ (∃ slot k, w.registry.seat slot k = .running t) ∨
      w.crew.report? t = some (.ok ()) := by
  cases he with
  | heard hreport =>
    obtain rfl := Option.some.inj hb
    exact .inr (.inr hreport)
  | lifted hrun =>
    obtain rfl := Option.some.inj hb
    exact .inr (.inl ⟨_, _, hrun⟩)
  | cancelled | unwoken => exact .inl hb
  | @freed s k e giveBack => cases giveBack <;> cases hb
  | _ => cases hb

end Call

theorem Crew.isArmed_of_report {c : Crew} {t : ThreadId} (h : c.report? t = some (.ok ())) :
    c.IsArmed t := by
  unfold report? at h
  split at h
  · cases h
  · next th ht =>
    refine ⟨th, ht, ?_⟩
    split at h
    · next r rest hreports =>
      obtain rfl := Option.some.inj h
      rw [Thread.isArmed_iff, hreports]
      rfl
    · split at h <;> cases h

namespace Scene

variable {s s' : Scene}

/-- What a call stands at, by the number of its task. -/
def position? (s : Scene) (i : Nat) : Option Call.Position := s.tasks[i]?.bind (·.position?)

/-- Every thread is as it tells, and threads on seats and on their way there are armed. -/
structure Armed (s : Scene) : Prop where
  told : s.crew.Told
  seated : ∀ slot k t, s.registry.seat slot k = .running t → s.crew.IsArmed t
  borne : ∀ i p t, s.position? i = some p → p.bears? = some t → s.crew.IsArmed t

theorem start_armed (capacity : Nat) (settings : ListenerSettings) (host : Host)
    (gates : List (Fd × Gate)) : (start capacity settings host gates).Armed where
  told := by
    intro t th ht
    cases ht
  seated := by
    intro slot k t hrun
    have hidle := Registry.seat_of_length_le (r := { capacity, settings }) (Nat.zero_le slot) k
    exact Seat.noConfusion (hidle.symm.trans hrun)
  borne := by
    intro i p t hp
    cases hp

/-- No step takes back what a thread has told. -/
theorem act?_armed {a : Action} (ha : s.act? a = some s') :
    (s.crew.Told → s'.crew.Told) ∧ ∀ t, s.crew.IsArmed t → s'.crew.IsArmed t := by
  rcases act?_crew ha with hhandled | ⟨e, -, hevent⟩ | ⟨host, gates, -, rfl⟩
  · exact ⟨hhandled.told, fun _ => hhandled.isArmed⟩
  · exact ⟨(·.event hevent), fun _ => (·.event hevent)⟩
  · exact ⟨id, fun _ => id⟩

/-- A step that leaves the seats as they are and lets no call keep another thread. -/
theorem Armed.still (h : s.Armed) {a : Action} (ha : s.act? a = some s')
    (hseat : ∀ slot k, s'.registry.seat slot k = s.registry.seat slot k)
    (hborne : ∀ i p t, s'.position? i = some p → p.bears? = some t →
      ∃ j p, s.position? j = some p ∧ p.bears? = some t) : s'.Armed where
  told := (act?_armed ha).1 h.told
  seated := by
    intro slot k t hrun
    rw [hseat] at hrun
    exact (act?_armed ha).2 t (h.seated slot k t hrun)
  borne := by
    intro i p t hp hb
    obtain ⟨j, p', hp', hb'⟩ := hborne i p t hp hb
    exact (act?_armed ha).2 t (h.borne j p' t hp' hb')

theorem Armed.onTasks (h : s.Armed) {a : Action} (ha : s.act? a = some s')
    (hseat : ∀ slot k, s'.registry.seat slot k = s.registry.seat slot k)
    (htasks : s'.tasks = s.tasks) : s'.Armed := by
  refine h.still ha hseat fun i p t hp hb => ⟨i, p, ?_, hb⟩
  rwa [position?, htasks] at hp

/-- A call that has just begun keeps no thread. -/
theorem borne_append {task : Task} (htask : ∀ p, task.position? = some p → p.bears? = none)
    {i : Nat} {p : Call.Position} {t : ThreadId}
    (hp : (s.tasks ++ [task])[i]?.bind (·.position?) = some p) (hb : p.bears? = some t) :
    ∃ j p, s.position? j = some p ∧ p.bears? = some t := by
  obtain ⟨task', hget, hposition⟩ := Option.bind_eq_some_iff.mp hp
  rcases Nat.lt_or_ge i s.tasks.length with hlt | hge
  · rw [List.getElem?_append_left hlt] at hget
    exact ⟨i, p, by rw [position?, hget, Option.bind_some, hposition], hb⟩
  · rw [List.getElem?_append_right hge, List.getElem?_singleton] at hget
    split at hget
    · obtain rfl := Option.some.inj hget
      rw [htask p hposition] at hb
      cases hb
    · cases hget

theorem Armed.proceed (h : s.Armed) {i : Nat} (ha : s.act? (.proceed i) = some s') : s'.Armed := by
  have harmed := act?_armed ha
  rcases Option.bind_eq_some_iff.mp ha with ⟨task, htask, hrest⟩
  rcases Option.bind_eq_some_iff.mp hrest with ⟨⟨task', w⟩, hstep, hscene⟩
  obtain rfl := Option.some.inj hscene
  have hlt := (List.getElem?_eq_some_iff.mp htask).1
  have hat : s.position? i = task.position? := by rw [position?, htask, Option.bind_some]
  -- the one that goes on keeps what it has found at a seat or was told, if it keeps another thread
  have hown : (∀ slot k t, w.registry.seat slot k = .running t → s.crew.IsArmed t) ∧
      ∀ p t, task'.position? = some p → p.bears? = some t → s.crew.IsArmed t := by
    have he := Task.step_edge hstep
    generalize hp? : task.position? = p?, task'.position? = p?' at he
    cases he with
    | @wentOn p p' w he =>
      refine ⟨fun slot k t hrun => ?_, fun q t hq hb => ?_⟩
      · rcases he.running hrun with hrun | hb
        · exact h.seated slot k t hrun
        · exact h.borne i p t (hat.trans hp?) hb
      · obtain rfl := Option.some.inj hq
        rcases he.bears hb with hb | ⟨slot, k, hrun⟩ | hreport
        · exact h.borne i p t (hat.trans hp?) hb
        · exact h.seated slot k t hrun
        · exact Crew.isArmed_of_report hreport
    | turned =>
      refine ⟨h.seated, fun q t hq hb => ?_⟩
      obtain rfl := Option.some.inj hq
      cases hb
    | passedBy | leftBehind => exact ⟨h.seated, fun q t hq _ => nomatch hq⟩
  refine ⟨harmed.1 h.told, fun slot k t hrun => harmed.2 t (hown.1 slot k t hrun), ?_⟩
  intro j p t hp hb
  by_cases hji : j = i
  · subst hji
    have hp' : task'.position? = some p := by
      simpa [position?, List.getElem?_set_self hlt] using hp
    exact harmed.2 t (hown.2 p t hp' hb)
  · have hp' : s.position? j = some p := by
      simpa [position?, List.getElem?_set_ne (Ne.symm hji)] using hp
    exact harmed.2 t (h.borne j p t hp' hb)

theorem Armed.act {a : Action} (h : s.Armed) (ha : s.act? a = some s') : s'.Armed := by
  have hact := ha
  cases a with
  | begin p =>
    simp only [act?] at ha
    split at ha
    · next hentry =>
      obtain rfl := Option.some.inj ha
      refine h.still hact (fun _ _ => rfl) fun i q t hq hb => borne_append ?_ hq hb
      intro q hq
      obtain rfl := Option.some.inj hq
      cases p with
      | registering | starting | stopping | unregistering => rfl
      | _ => cases hentry
    · cases ha
  | shutdown order =>
    simp only [act?] at ha
    split at ha
    · obtain rfl := Option.some.inj ha
      refine h.still hact (fun _ _ => rfl) fun i q t hq hb => borne_append ?_ hq hb
      intro q hq
      cases hq
    · cases ha
  | acquire fd =>
    obtain rfl := Option.some.inj ha
    exact h.onTasks hact (fun slot k => Registry.seat_acquire fd slot k) rfl
  | release slot =>
    obtain rfl := Option.some.inj ha
    exact h.onTasks hact (fun slot' k => Registry.seat_release slot slot' k) rfl
  | proceed i => exact h.proceed hact
  | thread e =>
    rcases Option.map_eq_some_iff.mp ha with ⟨crew, -, rfl⟩
    exact h.onTasks hact (fun _ _ => rfl) rfl
  | outside host gates =>
    obtain rfl := Option.some.inj ha
    exact h.onTasks hact (fun _ _ => rfl) rfl

theorem Reachable.armed {capacity : Nat} {settings : ListenerSettings}
    (h : s.Reachable capacity settings) : s.Armed := by
  induction h with
  | start host gates => exact start_armed capacity settings host gates
  | act a _ ha ih => exact ih.act ha

end Scene

end SerialLine
