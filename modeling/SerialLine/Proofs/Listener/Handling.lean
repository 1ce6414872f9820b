import SerialLine.Proofs.Listener.Alone
import SerialLine.Proofs.Listener.Custody

/-!
# SerialLine.Proofs.Listener.Handling — what clients do to threads

Of the steps of clients few touch a thread at all: one is created, asked to end, or woken.
`Crew.Handled` lists them. With the events of the crew itself and what happens around it this is
all that becomes of the threads of a scene: `Scene.act?_crew`.
-/

namespace SerialLine

/-- What one step of a client makes of a crew. -/
inductive Crew.Handled (c : Crew) : Crew → Prop where
  | left : Handled c c
  | cancelled (t : ThreadId) : Handled c (c.cancel t)
  | woken (t : ThreadId) : Handled c (c.wake t).2
  | refused {host : Host} (hh : c.host.SameButFaults host) : Handled c { c with host }
  | created {host : Host} (hh : c.host.SameButFaults host) (l : Listener) (fd : Fd)
    (settings : ListenerSettings) :
    Handled c { c with host, threads := c.threads ++ [l.thread fd settings] }

theorem Call.Edge.handled {w w' : Listening} {p p' : Position} (he : Edge w p p' w') :
    w.crew.Handled w'.crew := by
  cases he with
  | cancelled => exact .cancelled _
  | woken hwake | unwoken hwake =>
    have hwoken := congrArg (fun r => w.crew.Handled r.2) hwake
    exact hwoken.mp (.woken _)
  | unspawned hh => exact .refused hh
  | spawned hh => exact .created hh _ _ _
  | _ => exact .left

theorem Task.Edge.handled {w w' : Listening} {p? p?' : Option Call.Position}
    (he : Edge w p? p?' w') : w.crew.Handled w'.crew := by
  cases he with
  | wentOn he => exact he.handled
  | turned | passedBy | leftBehind => exact .left

/-- What a step does to the crew of a scene: a client has handled it, something has happened to
it, or the host has become another one. -/
theorem Scene.act?_crew {s s' : Scene} {a : Action} (h : s.act? a = some s') :
    s.crew.Handled s'.crew ∨
    (∃ e, a = .thread e ∧ s.crew.after? e = some s'.crew) ∨
    (∃ host gates, a = .outside host gates ∧ s' = s.withHost host gates) := by
  cases a with
  | begin p =>
    simp only [act?] at h
    split at h
    · obtain rfl := Option.some.inj h
      exact .inl .left
    · cases h
  | shutdown order =>
    simp only [act?] at h
    split at h
    · obtain rfl := Option.some.inj h
      exact .inl .left
    · cases h
  | acquire | release =>
    obtain rfl := Option.some.inj h
    exact .inl .left
  | proceed i =>
    rcases Option.bind_eq_some_iff.mp h with ⟨task, -, hrest⟩
    rcases Option.bind_eq_some_iff.mp hrest with ⟨⟨task', w⟩, hstep, hscene⟩
    obtain rfl := Option.some.inj hscene
    exact .inl (Task.step_edge hstep).handled
  | thread e =>
    rcases Option.map_eq_some_iff.mp h with ⟨crew, hcrew, rfl⟩
    exact .inr (.inl ⟨e, rfl, hcrew⟩)
  | outside host gates => exact .inr (.inr ⟨host, gates, rfl, (Option.some.inj h).symm⟩)

/-! ## What becomes of one thread -/

/-- A thread as a client leaves it: perhaps asked to end, perhaps woken. -/
structure Thread.Handled (th th' : Thread) : Prop where
  fd : th'.fd = th.fd
  body : th'.body = th.body
  callback : th'.callback = th.callback
  reports : th'.reports = th.reports
  held : th'.held = th.held
  asked : th.cancelled = true → th'.cancelled = true

theorem Thread.Handled.refl (th : Thread) : th.Handled th := ⟨rfl, rfl, rfl, rfl, rfl, id⟩

namespace Crew

variable {c c' : Crew} {t : ThreadId} {th : Thread}

/-- Changing one thread leaves every thread as clients leave it if it leaves that one so. -/
theorem handled_set {u : ThreadId} {thu thu' : Thread} (hu : c.thread? u = some thu)
    (hedit : thu.Handled thu') (ht : c.thread? t = some th)
    (hset : c'.threads = c.threads.set u thu') :
    ∃ th', c'.thread? t = some th' ∧ th.Handled th' := by
  by_cases htu : t = u
  · subst htu
    obtain rfl := Option.some.inj (ht.symm.trans hu)
    exact ⟨_, thread?_set_self hu hset, hedit⟩
  · exact ⟨th, (thread?_set_ne hset htu).trans ht, .refl th⟩

namespace Handled

theorem host (h : c.Handled c') : c.host.SameButFaults c'.host := by
  cases h with
  | left => exact .refl _
  | cancelled t => exact (c.keeps_cancel t).host
  | woken t => exact (c.keeps_wake t).host
  | refused hh => exact hh
  | created hh => exact hh

theorem delivered (h : c.Handled c') : c'.delivered = c.delivered := by
  cases h with
  | left => rfl
  | cancelled t => exact (c.keeps_cancel t).delivered
  | woken t => exact (c.keeps_wake t).delivered
  | refused => rfl
  | created => rfl

/-- Threads that are there stay there. -/
theorem thread (h : c.Handled c') (ht : c.thread? t = some th) :
    ∃ th', c'.thread? t = some th' ∧ th.Handled th' := by
  have hrefl := Thread.Handled.refl th
  cases h with
  | left => exact ⟨th, ht, hrefl⟩
  | refused => exact ⟨th, ht, hrefl⟩
  | created => exact ⟨th, (List.getElem?_append_left (lt_of_thread ht)).trans ht, hrefl⟩
  | cancelled u =>
    rcases editThread_cases ({ · with cancelled := true }) u c with hsame | ⟨thu, hu, hedit⟩
    · rw [cancel, hsame]
      exact ⟨th, ht, hrefl⟩
    · have hasked : thu.Handled { thu with cancelled := true } :=
        ⟨rfl, rfl, rfl, rfl, rfl, fun _ => rfl⟩
      refine handled_set hu hasked ht ?_
      rw [cancel, hedit]
  | woken u =>
    cases hu : c.thread? u with
    | none =>
      refine ⟨th, ?_, hrefl⟩
      simpa [wake, hu] using ht
    | some thu =>
      have hwoken : thu.Handled { thu with waker := (c.host.wake thu.waker).2.1 } :=
        ⟨rfl, rfl, rfl, rfl, rfl, id⟩
      refine handled_set hu hwoken ht ?_
      simp only [wake, hu]
      rfl

/-- Where a thread is afterwards that was not there before, it was created. -/
theorem new (h : c.Handled c') (hnone : c.thread? t = none) (ht : c'.thread? t = some th) :
    ∃ (l : Listener) (fd : Fd) (settings : ListenerSettings),
      t = c.threads.length ∧ th = l.thread fd settings := by
  -- the other steps leave as many threads as there were
  have hsame : c.Keeps c' → False := by
    intro hk
    obtain ⟨thb, htb, -⟩ := hk.thread ht
    rw [hnone] at htb
    cases htb
  cases h with
  | left => exact (hsame (.refl c)).elim
  | cancelled u => exact (hsame (c.keeps_cancel u)).elim
  | woken u => exact (hsame (c.keeps_wake u)).elim
  | refused hh => exact (hsame ⟨hh, rfl, rfl⟩).elim
  | created hh l fd settings =>
    rcases thread?_append_cases (c := c) rfl ht with ht | ⟨ht, hth⟩
    · rw [hnone] at ht
      cases ht
    · exact ⟨l, fd, settings, ht, hth⟩

end Handled

end Crew

end SerialLine
