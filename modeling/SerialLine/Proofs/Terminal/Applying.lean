import SerialLine.Proofs.Terminal.Line
import SerialLine.Terminal.Scripted

/-!
# SerialLine.Proofs.Terminal.Applying — a configuration is applied or it is not

Applying a configuration has six places to fail at, and the encoding fails with the block in hand
half changed. What comes of it is still one of two things: `Terminal.apply_all_or_nothing`.

The calls are noted down with their outcomes (`BlockCalls.noting`). A `Plan` is the requests that
are to be made and the answer that is due once all of them succeeded, and `Plan.Carried` says of
the calls noted that they are the plan as far as it went. `Call.Carries` puts this together along
a sequence of calls, with the block that the calls leave behind.
-/

namespace SerialLine

open Scripted (Request)

variable {σ : Type}

/-! ## Calls that are noted down -/

/-- A call on a terminal with its outcome. -/
abbrev Noted := Request × Outcome Unit

/-- The same call, which is noted down. -/
def Call.noted {α : Type} (r : Request) (m : Call σ α) : Call (σ × List Noted) α :=
  fun p =>
    let done := m p.1
    (done.1, done.2, p.2 ++ [(r, done.1.map fun _ => ())])

theorem Call.noted_eq {α : Type} {m : Call σ α} {s s' : σ} {result : Outcome α} (r : Request)
    (h : m s = (result, s')) (earlier : List Noted) :
    m.noted r (s, earlier) = (result, s', earlier ++ [(r, result.map fun _ => ())]) := by
  show ((m s).1, (m s).2, earlier ++ [(r, (m s).1.map fun _ => ())]) = _
  rw [h]

/-- The same calls, each of which is noted down. -/
def BlockCalls.noting (calls : BlockCalls σ) : BlockCalls (σ × List Noted) where
  getBlock fd := (calls.getBlock fd).noted (.get fd)
  setBlock fd b := (calls.setBlock fd b).noted (.set fd b)
  commitBaud fd baud := (calls.commitBaud fd baud).noted (.commit fd baud)
  flush fd queue := (calls.flush fd queue).noted (.flush fd queue)

/-- The calls on a descriptor fetch the block that was stored last, and only a store that succeeds
changes it. Each of them may fail, at any time. -/
structure BlockCalls.KeepBlock (calls : BlockCalls σ) (fd : Fd) (block : σ → ControlBlock) :
    Prop where
  fetched : ∀ s b, (calls.getBlock fd s).1 = .ok b → b = block s
  fetching : ∀ s, block (calls.getBlock fd s).2 = block s
  storing : ∀ s b, block (calls.setBlock fd b s).2 =
    if (calls.setBlock fd b s).1.isOk then b else block s
  committing : ∀ s baud, block (calls.commitBaud fd baud s).2 = block s
  flushing : ∀ s queue, block (calls.flush fd queue s).2 = block s

/-- The terminals of a host are of this kind. -/
theorem Host.blockCalls_keepBlock (fd : Fd) :
    (lineCalls id).toBlockCalls.KeepBlock fd (lineBlock fd) where
  fetched := (keepBlock fd).fetched
  fetching := (keepBlock fd).fetching
  storing := (keepBlock fd).storing
  committing := (keepBlock fd).committing
  flushing := (keepBlock fd).flushing

namespace Noted

/-- The block that a call stored, if it did. -/
def stored? : Noted → Option ControlBlock
  | (.set _ b, .ok ()) => some b
  | _ => none

theorem stored?_eq_some {call : Noted} {b : ControlBlock} (h : call.stored? = some b) :
    ∃ fd, call = (.set fd b, .ok ()) := by
  unfold stored? at h
  split at h
  · obtain rfl := Option.some.inj h
    exact ⟨_, rfl⟩
  · cases h

end Noted

/-- The block that calls leave behind: that of the last store that succeeded. -/
def blockAfter (b : ControlBlock) (made : List Noted) : ControlBlock :=
  (made.filterMap Noted.stored?).getLast?.getD b

theorem blockAfter_append (b : ControlBlock) (made more : List Noted) :
    blockAfter b (made ++ more) = blockAfter (blockAfter b made) more := by
  unfold blockAfter
  rw [List.filterMap_append, List.getLast?_append]
  cases (more.filterMap Noted.stored?).getLast? <;> rfl

/-- Without a store that succeeded the block is as it was. -/
theorem blockAfter_of_unstored {b : ControlBlock} {made : List Noted}
    (h : ∀ fd b', (.set fd b', .ok ()) ∉ made) : blockAfter b made = b := by
  have hnone : made.filterMap Noted.stored? = [] := by
    refine List.filterMap_eq_nil_iff.2 fun call hmem => ?_
    by_contra hsome
    obtain ⟨b', hb'⟩ := Option.ne_none_iff_exists'.1 hsome
    obtain ⟨fd, rfl⟩ := Noted.stored?_eq_some hb'
    exact h fd b' hmem
  rw [blockAfter, hnone]
  rfl

/-- Where all stores are of one block, and one of them succeeded, that block is left. -/
theorem blockAfter_of_stored {b b₀ : ControlBlock} {made : List Noted} {fd : Fd}
    (hall : ∀ fd b', (.set fd b', .ok ()) ∈ made → b' = b₀)
    (h : (.set fd b₀, .ok ()) ∈ made) : blockAfter b made = b₀ := by
  have hmem : b₀ ∈ made.filterMap Noted.stored? := List.mem_filterMap.2 ⟨_, h, rfl⟩
  obtain ⟨b', hlast⟩ : ∃ b', (made.filterMap Noted.stored?).getLast? = some b' :=
    ⟨_, List.getLast?_eq_some_getLast (List.ne_nil_of_mem hmem)⟩
  obtain ⟨call, hcall, hb'⟩ := List.mem_filterMap.1 (List.mem_of_getLast? hlast)
  obtain ⟨fd', rfl⟩ := Noted.stored?_eq_some hb'
  rw [blockAfter, hlast]
  exact hall fd' b' hcall

/-! ## Plans -/

/-- What a sequence of calls sets out to do: the requests that it is to make, in their order, and
what it answers once all of them succeeded. -/
structure Plan where
  requests : List Request
  answer : Outcome Unit

/-- A plan with one request before all others. -/
def Plan.before (r : Request) (p : Plan) : Plan := { p with requests := r :: p.requests }

/-- A plan is carried out until a call fails: then that is the last call, and its failure is the
result. -/
inductive Plan.Carried : Plan → List Noted → Outcome Unit → Prop where
  | done (answer : Outcome Unit) : Carried ⟨[], answer⟩ [] answer
  | failed (r : Request) (p : Plan) (e : Error) : Carried (p.before r) [(r, .error e)] (.error e)
  | went {r : Request} {p : Plan} {made : List Noted} {result : Outcome Unit}
    (h : Carried p made result) : Carried (p.before r) ((r, .ok ()) :: made) result

namespace Plan.Carried

variable {p : Plan} {made : List Noted} {result : Outcome Unit}

/-- The calls are those of the plan, as far as it went. -/
theorem requests_isPrefix (h : p.Carried made result) : made.map Prod.fst <+: p.requests := by
  induction h with
  | done => exact List.prefix_rfl
  | failed r p e => exact List.cons_prefix_cons.2 ⟨rfl, List.nil_prefix⟩
  | went _ ih => exact List.cons_prefix_cons.2 ⟨rfl, ih⟩

theorem requested (h : p.Carried made result) {call : Noted} (hmem : call ∈ made) :
    call.1 ∈ p.requests :=
  h.requests_isPrefix.subset (List.mem_map_of_mem hmem)

/-- Either all requests were made and the answer was given, or the last call failed, as the first
one to do so, and its failure is the result. -/
theorem ends (h : p.Carried made result) :
    (made = p.requests.map (·, .ok ()) ∧ result = p.answer) ∨
      ∃ gone r e, made = gone ++ [(r, .error e)] ∧ (∀ call ∈ gone, call.2 = .ok ()) ∧
        result = .error e := by
  induction h with
  | done answer => exact .inl ⟨rfl, rfl⟩
  | failed r p e => exact .inr ⟨[], r, e, rfl, by simp, rfl⟩
  | @went r p made result _ ih =>
    rcases ih with ⟨rfl, rfl⟩ | ⟨gone, r', e, rfl, hgone, rfl⟩
    · exact .inl ⟨rfl, rfl⟩
    · exact .inr ⟨(r, .ok ()) :: gone, r', e, rfl, List.forall_mem_cons.2 ⟨rfl, hgone⟩, rfl⟩

end Plan.Carried

/-! ## Calls that carry out a plan -/

section Carries

variable (block : σ → ControlBlock)

/-- Calls that are noted down do what the calls do, what is noted is a plan as far as it was
carried out, and it tells the block that is left. -/
def Call.Carries (noting : Call (σ × List Noted) Unit) (m : Call σ Unit) (s : σ) (p : Plan) :
    Prop :=
  ∀ earlier, ∃ made, noting (s, earlier) = ((m s).1, (m s).2, earlier ++ made) ∧
    p.Carried made (m s).1 ∧ block (m s).2 = blockAfter (block s) made

namespace Call.Carries

variable {block} {α : Type} {noting : Call (σ × List Noted) Unit} {m : Call σ Unit} {s : σ}
  {p : Plan}

/-- Nothing is called, and nothing more is. -/
theorem answered (answer : Outcome Unit) (s : σ) :
    Carries block (liftM answer) (liftM answer) s ⟨[], answer⟩ := by
  intro earlier
  rw [lift_eq, lift_eq]
  exact ⟨[], by rw [List.append_nil], .done answer, rfl⟩

/-- A sequence that goes on with what there is goes on. -/
theorem given {f' : α → Call (σ × List Noted) Unit} {f : α → Call σ Unit} {a : α}
    (h : Carries block (f' a) (f a) s p) :
    Carries block (liftM (.ok a : Outcome α) >>= f') (liftM (.ok a : Outcome α) >>= f) s p := by
  rw [lift_ok, lift_ok, pure_bind, pure_bind]
  exact h

/-- A sequence that is refused something ends with that. -/
theorem refused {f' : α → Call (σ × List Noted) Unit} {f : α → Call σ Unit} (e : Error) (s : σ) :
    Carries block (liftM (.error e : Outcome α) >>= f') (liftM (.error e : Outcome α) >>= f) s
      ⟨[], .error e⟩ := by
  intro earlier
  rw [bind_eq, bind_eq, lift_eq, lift_eq]
  exact ⟨[], by rw [List.append_nil], .done _, rfl⟩

/-- A call before all others: it fails, or the others carry out their plan. -/
theorem before {r : Request} {first : Call σ α} {f' : α → Call (σ × List Noted) Unit}
    {f : α → Call σ Unit}
    (hblock : block (first s).2 = blockAfter (block s) [(r, (first s).1.map fun _ => ())])
    (hrest : ∀ a s', first s = (.ok a, s') → Carries block (f' a) (f a) s' p) :
    Carries block (first.noted r >>= f') (first >>= f) s (p.before r) := by
  intro earlier
  rw [bind_eq, bind_eq]
  rcases hfirst : first s with ⟨e | a, s'⟩
  · rw [hfirst] at hblock
    rw [noted_eq r hfirst]
    exact ⟨[(r, .error e)], rfl, .failed r p e, hblock⟩
  · rw [hfirst] at hblock
    obtain ⟨made, hmade, hcarried, hleft⟩ := hrest a s' hfirst (earlier ++ [(r, .ok ())])
    rw [noted_eq r hfirst]
    refine ⟨(r, .ok ()) :: made, ?_, .went hcarried, ?_⟩
    · show f' a (s', earlier ++ [(r, .ok ())]) = ((f a s').1, (f a s').2, _)
      rw [hmade, List.append_assoc]
      rfl
    · show block (f a s').2 = _
      rw [hleft, hblock]
      exact (blockAfter_append _ [_] made).symm

/-- A call after which there is nothing left to do. -/
theorem last {r : Request} (s : σ)
    (hblock : block (m s).2 = blockAfter (block s) [(r, (m s).1.map fun _ => ())]) :
    Carries block (m.noted r) m s ⟨[r], .ok ()⟩ := by
  intro earlier
  rcases hm : m s with ⟨e | a, s'⟩
  · rw [hm] at hblock
    exact ⟨[(r, .error e)], noted_eq r hm earlier, .failed r ⟨[], .ok ()⟩ e, hblock⟩
  · rw [hm] at hblock
    exact ⟨[(r, .ok ())], noted_eq r hm earlier, .went (.done (.ok ())), hblock⟩

end Call.Carries

end Carries

namespace BlockCalls.KeepBlock

variable {calls : BlockCalls σ} {fd : Fd} {block : σ → ControlBlock}

theorem stores (hk : calls.KeepBlock fd block) (s : σ) (b : ControlBlock) :
    block (calls.setBlock fd b s).2 =
      blockAfter (block s) [(.set fd b, (calls.setBlock fd b s).1.map fun _ => ())] := by
  rw [hk.storing]
  cases (calls.setBlock fd b s).1 <;> rfl

end BlockCalls.KeepBlock

/-! ## What the codec rejects -/

theorem Edit.on_error {edit : Edit Unit} {b : ControlBlock} {e : Error} :
    edit.on b = .error e ↔ ∃ b', edit b = (.error e, b') := by
  have hrun : edit.run.run b = edit b := rfl
  have hon : edit.on b = (edit b).1.map fun _ => (edit b).2 := by
    rw [Edit.on, hrun]
    rcases edit b with ⟨_ | _, _⟩ <;> rfl
  rw [hon]
  rcases edit b with ⟨e' | _, b'⟩
  · constructor
    · intro h
      obtain rfl := Except.error.inj h
      exact ⟨b', rfl⟩
    · rintro ⟨_, h⟩
      exact congrArg Except.error (Except.error.inj (Prod.mk.inj h).1)
  · constructor
    · intro h
      cases h
    · rintro ⟨_, h⟩
      cases h

/-- A valid configuration is rejected for its speed, or for a parity that the platform lacks. -/
theorem encode_on_error {d : Driver} {c : Configuration} {b : ControlBlock} {e : Error}
    (hvalid : c.validate = .ok ()) (h : (encode d c).on b = .error e) :
    (d.encodeBaud c.baud).on b = .error e ∨ c.parity.flags d.stickParity? = .error e := by
  obtain ⟨b', h⟩ := Edit.on_error.1 h
  unfold encode at h
  rw [hvalid, Call.lift_ok, pure_bind] at h
  rcases Call.bind_error h with hbaud | ⟨_, b₁, -, h⟩
  · exact .inl (Edit.on_error.2 ⟨b', hbaud⟩)
  rcases Call.bind_error h with hframing | ⟨_, b₂, -, h⟩
  · cases hframing
  rcases Call.bind_error h with hparity | ⟨_, b₃, -, hchecks⟩
  · rw [Call.lift_eq] at hparity
    exact .inr (Prod.mk.inj hparity).1
  · cases hchecks

/-- What the codec accepts is valid. -/
theorem valid_of_encode_on {d : Driver} {c : Configuration} {b b' : ControlBlock}
    (h : (encode d c).on b = .ok b') : c.validate = .ok () := by
  cases hvalid : c.validate with
  | ok _ => rfl
  | error e =>
    have herror : (encode d c).on b = .error e := by
      refine Edit.on_error.2 ⟨b, ?_⟩
      unfold encode
      rw [hvalid, Call.bind_eq, Call.lift_eq]
    rw [herror] at h
    cases h

namespace Terminal

/-- What applying a configuration sets out to do, given the block that it finds. -/
def applying (d : Driver) (fd : Fd) (c : Configuration) (b : ControlBlock) : Plan :=
  match c.validate with
  | .error e => ⟨[], .error e⟩
  | .ok () =>
    match (encode d c).on b with
    | .error e => ⟨[.get fd], .error e⟩
    | .ok b' => ⟨[.get fd, .set fd b', .commit fd c.baud, .flush fd .both], .ok ()⟩

section Plans

variable {d : Driver} {fd : Fd} {c : Configuration} {b : ControlBlock}

theorem applying_invalid {e : Error} (hc : c.validate = .error e) :
    applying d fd c b = ⟨[], .error e⟩ := by
  unfold applying
  rw [hc]

theorem applying_rejected {e : Error} (hc : c.validate = .ok ())
    (he : (encode d c).on b = .error e) : applying d fd c b = ⟨[.get fd], .error e⟩ := by
  unfold applying
  rw [hc, he]

theorem applying_accepted {b' : ControlBlock} (he : (encode d c).on b = .ok b') :
    applying d fd c b =
      ⟨[.get fd, .set fd b', .commit fd c.baud, .flush fd .both], .ok ()⟩ := by
  unfold applying
  rw [valid_of_encode_on he, he]

/-- A block is to be stored only if the codec makes it of the one before. -/
theorem encoded_of_set {fd' : Fd} {b' : ControlBlock}
    (h : .set fd' b' ∈ (applying d fd c b).requests) : (encode d c).on b = .ok b' := by
  cases hc : c.validate with
  | error e =>
    rw [applying_invalid hc] at h
    cases h
  | ok _ =>
    cases he : (encode d c).on b with
    | error e =>
      rw [applying_rejected hc he] at h
      simp at h
    | ok b₁ =>
      rw [applying_accepted he] at h
      obtain ⟨-, rfl⟩ : fd' = fd ∧ b' = b₁ := by simpa using h
      rfl

/-- Success is due only if the codec accepts the configuration. -/
theorem encoded_of_answer (h : (applying d fd c b).answer = .ok ()) :
    ∃ b', (encode d c).on b = .ok b' := by
  cases hc : c.validate with
  | error e =>
    rw [applying_invalid hc] at h
    cases h
  | ok _ =>
    cases he : (encode d c).on b with
    | error e =>
      rw [applying_rejected hc he] at h
      cases h
    | ok b' => exact ⟨b', rfl⟩

end Plans

variable {calls : BlockCalls σ} {fd : Fd} {block : σ → ControlBlock}

theorem apply_carries (hk : calls.KeepBlock fd block) (d : Driver) (c : Configuration) (s : σ) :
    Call.Carries block (apply d calls.noting fd c) (apply d calls fd c) s
      (applying d fd c (block s)) := by
  unfold apply applying
  cases c.validate with
  | error e => exact .refused e s
  | ok _ =>
    refine .given ?_
    -- The codec works on a copy of the block, so half an encoding is seen by nobody.
    cases hon : (encode d c).on (block s) with
    | error e =>
      refine .before (p := ⟨[], .error e⟩) (hk.fetching s) fun b s' hget => ?_
      obtain rfl : b = block s := hk.fetched s b (congrArg Prod.fst hget)
      rw [hon]
      exact .refused e s'
    | ok b' =>
      refine .before (p := ⟨[_, _, _], _⟩) (hk.fetching s) fun b s₁ hget => ?_
      obtain rfl : b = block s := hk.fetched s b (congrArg Prod.fst hget)
      rw [hon]
      refine .given ?_
      refine .before (p := ⟨[_, _], _⟩) (hk.stores s₁ b') fun _ s₂ _ => ?_
      refine .before (p := ⟨[_], _⟩) (hk.committing s₂ c.baud) fun _ s₃ _ => ?_
      exact .last s₃ (hk.flushing s₃ .both)

/-- What applying a configuration comes to: the calls that were made for it, the result, and the
block before and after. -/
structure Applied (d : Driver) (fd : Fd) (c : Configuration) (before : ControlBlock)
    (made : List Noted) (result : Outcome Unit) (after : ControlBlock) : Prop where
  /-- Nothing is called for an invalid configuration. -/
  invalid : ∀ e, c.validate = .error e → made = [] ∧ result = .error e
  /-- A valid configuration is rejected for its speed or its parity, once the block was fetched. -/
  rejected : ∀ e, c.validate = .ok () → (encode d c).on before = .error e →
    ((d.encodeBaud c.baud).on before = .error e ∨ c.parity.flags d.stickParity? = .error e) ∧
      ((made = [(.get fd, .ok ())] ∧ result = .error e) ∨
        ∃ e', made = [(.get fd, .error e')] ∧ result = .error e')
  /-- Otherwise these calls are made in this order, with the block that the codec makes of the one
  before. -/
  calls : ∀ b, (encode d c).on before = .ok b →
    made.map Prod.fst <+: [.get fd, .set fd b, .commit fd c.baud, .flush fd .both]
  /-- The first call that fails is the last one, and its failure is the result. -/
  fails : ∀ b, (encode d c).on before = .ok b → result ≠ .ok () →
    ∃ gone r e, made = gone ++ [(r, .error e)] ∧ (∀ call ∈ gone, call.2 = .ok ()) ∧
      result = .error e
  /-- It succeeds if all four calls were made and did. -/
  succeeds : result = .ok () ↔ ∃ b, (encode d c).on before = .ok b ∧
    made = [(.get fd, .ok ()), (.set fd b, .ok ()), (.commit fd c.baud, .ok ()),
      (.flush fd .both, .ok ())]
  /-- A store that succeeded is of the block that the codec makes, and that is what is left. -/
  stored : ∀ fd' b, (.set fd' b, .ok ()) ∈ made → (encode d c).on before = .ok b ∧ after = b
  /-- Without one the block is the one before, bit for bit. -/
  kept : (∀ fd' b, (.set fd' b, .ok ()) ∉ made) → after = before

/-- A plan that is carried out applies the configuration. -/
theorem Applied.of_carried {d : Driver} {fd : Fd} {c : Configuration} {before : ControlBlock}
    {made : List Noted} {result : Outcome Unit}
    (h : (applying d fd c before).Carried made result) :
    Applied d fd c before made result (blockAfter before made) where
  invalid e hc := by
    rw [applying_invalid hc] at h
    have hmade : made = [] := by simpa using h.requests_isPrefix
    rcases h.ends with ⟨-, hresult⟩ | ⟨gone, r, e', hlast, -⟩
    · exact ⟨hmade, hresult⟩
    · simp [hmade] at hlast
  rejected e hc he := by
    rw [applying_rejected hc he] at h
    refine ⟨encode_on_error hc he, ?_⟩
    rcases h.ends with hdone | ⟨gone, r, e', rfl, -, hresult⟩
    · exact .inl hdone
    · have hprefix := h.requests_isPrefix
      cases gone with
      | nil =>
        obtain rfl : r = .get fd := by simpa using hprefix
        exact .inr ⟨e', rfl, hresult⟩
      | cons call gone =>
        have hlength := hprefix.length_le
        simp at hlength
  calls b he := by
    have hprefix := h.requests_isPrefix
    rwa [applying_accepted he] at hprefix
  fails b he hfailed := by
    rcases h.ends with ⟨-, hresult⟩ | hlast
    · rw [applying_accepted he] at hresult
      exact absurd hresult hfailed
    · exact hlast
  succeeds := by
    constructor
    · rintro rfl
      rcases h.ends with ⟨hmade, hanswer⟩ | ⟨_, _, _, -, -, hresult⟩
      · obtain ⟨b, he⟩ := encoded_of_answer hanswer.symm
        rw [applying_accepted he] at hmade
        exact ⟨b, he, hmade⟩
      · cases hresult
    · rintro ⟨b, he, hmade⟩
      rcases h.ends with ⟨-, hresult⟩ | ⟨gone, r, e, hlast, -⟩
      · rwa [applying_accepted he] at hresult
      · have hfailed : (r, .error e) ∈ made := by simp [hlast]
        simp [hmade] at hfailed
  stored fd' b hset := by
    have he := encoded_of_set (h.requested hset)
    refine ⟨he, blockAfter_of_stored (fun fd₁ b₁ hset₁ => ?_) hset⟩
    have he₁ := encoded_of_set (h.requested hset₁)
    exact Except.ok.inj (he₁.symm.trans he)
  kept hunstored := blockAfter_of_unstored hunstored

/-- Whatever the driver, and whichever calls fail: a configuration is applied, or nothing is stored
and the block is as it was. Noting the calls down makes no difference to them. -/
theorem apply_all_or_nothing (hk : calls.KeepBlock fd block) (d : Driver) (c : Configuration)
    (s : σ) :
    ∃ made, apply d calls.noting fd c (s, []) =
        ((apply d calls fd c s).1, (apply d calls fd c s).2, made) ∧
      Applied d fd c (block s) made (apply d calls fd c s).1 (block (apply d calls fd c s).2) := by
  obtain ⟨made, hmade, hcarried, hleft⟩ := apply_carries hk d c s []
  refine ⟨made, hmade, ?_⟩
  rw [hleft]
  exact .of_carried hcarried

end Terminal

/-! ## A terminal that fails when it is told to -/

namespace Scripted

/-- A call is logged, and it fails if it is one that is to fail. -/
theorem Terminal.request_eq (r : Request) (t : Terminal) :
    Terminal.request r t =
      ((match t.failing.lookup r.name with
        | some code => .error (.osCall r.name code)
        | none => .ok ()), { t with log := t.log ++ [r] }) := by
  have hlogged : Terminal.request r t =
      (match t.failing.lookup r.name with
        | some code => throw (.osCall r.name code)
        | none => return () : Call Terminal Unit) { t with log := t.log ++ [r] } := rfl
  rw [hlogged]
  cases t.failing.lookup r.name <;> rfl

theorem Terminal.request_block (r : Request) (t : Terminal) :
    (Terminal.request r t).2.block = t.block := by
  rw [request_eq]

/-- A terminal to order keeps its block, whichever of its calls are to fail. -/
theorem Terminal.keepBlock (fd : Fd) : Terminal.calls.KeepBlock fd Terminal.block where
  fetched t b hget := by
    have hcall : Terminal.calls.getBlock fd t =
        (Terminal.request (.get fd) >>= fun _ => return (← get).block) t := rfl
    rw [hcall, Call.bind_eq, request_eq] at hget
    split at hget
    · rename_i heq
      obtain rfl := (Prod.mk.inj heq).2
      exact (Except.ok.inj hget).symm
    · cases hget
  fetching t := by
    have hcall : Terminal.calls.getBlock fd t =
        (Terminal.request (.get fd) >>= fun _ => return (← get).block) t := rfl
    rw [hcall]
    exact Call.keeps_bind (Terminal.request_block _ t) fun _ _ => rfl
  storing t b := by
    have hcall : Terminal.calls.setBlock fd b t =
        (Terminal.request (.set fd b) >>= fun _ => modify fun t => { t with block := b }) t := rfl
    rw [hcall, Call.bind_eq, request_eq]
    cases t.failing.lookup (Request.set fd b).name <;> rfl
  committing t baud := Terminal.request_block (.commit fd baud) t
  flushing t queue := Terminal.request_block (.flush fd queue) t

/-- A terminal that stores a block and then fails to program the speed. -/
def uncommitting : Terminal := { block := {}, failing := [("commit", 5)] }

/-- A platform without stick parity that programs any rate. -/
def plain : Driver := Platform.driver {}

end Scripted

/-- On that terminal the default configuration is stored and then fails: the queues are not
discarded, and the new block is left. -/
theorem Terminal.uncommitting_applied :
    Scripted.Terminal.calls.KeepBlock 3 Scripted.Terminal.block ∧
      ∃ made b, b ≠ Scripted.uncommitting.block ∧
        made = [(.get 3, .ok ()), (.set 3 b, .ok ()),
          (.commit 3 .b9600, .error (.osCall "commit" 5))] ∧
        Applied Scripted.plain 3 {} Scripted.uncommitting.block made
          (.error (.osCall "commit" 5)) b := by
  have hk := Scripted.Terminal.keepBlock 3
  obtain ⟨made, hmade, happlied⟩ :=
    apply_all_or_nothing hk Scripted.plain {} Scripted.uncommitting
  refine ⟨hk, made, _, ?_, ?_, happlied⟩
  · intro hsame
    have hspeed := congrArg ControlBlock.outputSpeed hsame
    revert hspeed
    decide
  · exact (congrArg (fun r => r.2.2) hmade).symm

end SerialLine
