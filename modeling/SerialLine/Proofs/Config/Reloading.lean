import SerialLine.Proofs.Config.Overlay

/-!
# SerialLine.Proofs.Config.Reloading — loading and reloading agree

Three programs read a file, let the environment replace values and validate the result: loading a
path, loading what is found, and reloading. `reload_eq` says that a reload does what loading the
path again would do, and that its failure leaves no trace, at whichever step it comes;
`load_eq_loadFrom` and `load_eq_settled` that loading what is found is loading its path, or settling
the defaults. `ConfigLoader.reload_agrees` puts the three together.
-/

namespace SerialLine

namespace ConfigLoader

variable {h : Host} {l : ConfigLoader} {p : Path}

/-- A step that only reads fails without a trace. -/
theorem run_lift_bind {ε σ α β : Type} (x : Except ε α) (k : α → ExceptT ε (StateM σ) β) (s : σ) :
    (liftM x >>= k : ExceptT ε (StateM σ) β).run.run s =
      match x with
      | .ok a => (k a).run.run s
      | .error e => (.error e, s) := by
  cases x <;> rfl

/-- A reload puts what loading the path gives in place of the loader, or leaves it as it was. -/
theorem reload_eq (hp : l.path? = some p) :
    l.reload h =
      match loadFrom h p with
      | .ok l' => (.ok (), l')
      | .error e => (.error e, l) := by
  obtain ⟨path?, config⟩ := l
  obtain rfl : path? = some p := hp
  have hsteps : (⟨some p, config⟩ : ConfigLoader).reload h =
      (do
        let config ← liftM (h.readConfig p)
        let config ← liftM (config.overridden h.lookupVariable)
        liftM config.validate
        modify ({ · with config }) :
          ExceptT ConfigError (StateM ConfigLoader) Unit).run.run ⟨some p, config⟩ := rfl
  rw [hsteps, loadFrom]
  -- the configuration is put in place by the last step only, so every failure comes before it
  simp only [run_lift_bind]
  cases h.readConfig p with
  | error e => rfl
  | ok c =>
    cases hover : c.overridden h.lookupVariable with
    | error e => simp [bind, Except.bind, hover]
    | ok c' =>
      cases hvalid : c'.validate with
      | error e => simp [bind, Except.bind, hover, hvalid]
      | ok =>
        simp only [bind, Except.bind, hover, hvalid]
        rfl

theorem path?_of_loadFrom {l' : ConfigLoader} (hload : loadFrom h p = .ok l') :
    l'.path? = some p := by
  rw [loadFrom_eq] at hload
  obtain ⟨f, -, hload⟩ := bind_eq_ok.mp hload
  exact (settled_bind_ok_iff.mp hload).1

/-- Without a path nothing is reloaded. -/
theorem reload_pathless (hp : l.path? = none) : l.reload h = (.ok (), l) := by
  obtain ⟨path?, config⟩ := l
  obtain rfl : path? = none := hp
  rfl

theorem load_eq_loadFrom (hfound : h.resolveConfig = some p) : load h = loadFrom h p := by
  unfold load loadFrom
  rw [hfound]

theorem load_eq_settled (hnone : h.resolveConfig = none) :
    load h = Config.settled h.lookupVariable {} >>= fun c =>
      .ok { path? := none, config := c } := by
  unfold load Config.settled
  rw [hnone]
  change (Config.overridden h.lookupVariable {} >>= _) = _
  cases hover : Config.overridden h.lookupVariable {} with
  | error e => rfl
  | ok c => cases hvalid : c.validate <;> simp [bind, Except.bind, pure, Except.pure, hvalid]

/-- Reloading a loader with a path agrees with loading the path: it succeeds together with it and
leaves what it gives, whatever the configuration was before, or fails with the same error and
changes nothing. Without a path it does nothing. Loading what is found is loading its path; where
nothing is found, the defaults are replaced and validated like the contents of a file. -/
theorem reload_agrees (h : Host) (l : ConfigLoader) :
    (∀ p, l.path? = some p →
      ((l.reload h).1 = .ok () ↔ ∃ l', loadFrom h p = .ok l') ∧
      (∀ e, (l.reload h).1 = .error e ↔ loadFrom h p = .error e) ∧
      (∀ l', loadFrom h p = .ok l' →
        (l.reload h).2.config = l'.config ∧ (l.reload h).2.path? = some p) ∧
      (∀ e, (l.reload h).1 = .error e → (l.reload h).2 = l)) ∧
    (l.path? = none → l.reload h = (.ok (), l)) ∧
    (∀ p, h.resolveConfig = some p → load h = loadFrom h p) ∧
    (h.resolveConfig = none →
      (∀ l', load h = .ok l' ↔
        l'.path? = none ∧ h.Replaces {} l'.config ∧ l'.config.validate = .ok ()) ∧
      (∀ e, load h = .error e ↔
        h.FirstUnreadable Variable.inOrder e ∨
          ∃ c, h.Replaces {} c ∧
            ∃ key message, c.faults.head? = some (key, message) ∧ e = .invalid key message)) := by
  refine ⟨fun p hp => ?_, reload_pathless, fun p => load_eq_loadFrom, fun hnone => ?_⟩
  · rw [reload_eq hp]
    cases hload : loadFrom h p with
    | error e => simp
    | ok l' => simp [path?_of_loadFrom hload]
  · rw [load_eq_settled hnone]
    exact ⟨fun _ => settled_bind_ok_iff, fun _ => settled_bind_error_iff⟩

end ConfigLoader

/-- Where the file is gone a reload fails, and keeps what was changed by hand. -/
theorem gone_reload_fails :
    let l : ConfigLoader := { path? := some Host.heldPath, config := { registry.capacity := 9 } }
    let e : ConfigError := .unreadable Host.heldPath (.system .ENOENT)
    ConfigLoader.loadFrom {} Host.heldPath = .error e ∧ (l.reload {}).1 = .error e ∧
      (l.reload {}).2 = l := by
  intro l e
  have hload : ConfigLoader.loadFrom {} Host.heldPath = .error e := by
    have hgone : FileTree.readFile ⟨[]⟩ [] Host.heldPath = .error .ENOENT := by
      rw [FileTree.readFile, FileTree.find, lookup_held_free]
      rfl
    have hzero : ¬Host.heldPath.bytes.contains 0 = true := by decide
    have hread : ({} : Host).readText Host.heldPath = .error (.system .ENOENT) := by
      rw [Host.readText, if_neg hzero]
      simp only [hgone]
    rw [ConfigLoader.loadFrom_eq, Host.readConfig, hread]
    rfl
  obtain ⟨-, hfails, -, hkeeps⟩ := (ConfigLoader.reload_agrees {} l).1 Host.heldPath rfl
  have herror := (hfails e).mpr hload
  exact ⟨hload, herror, hkeeps e herror⟩

end SerialLine
