import SerialLine.Host.Calls
import SerialLine.Proofs.Host.Faults
import SerialLine.Proofs.Transfer.Writing

/-!
# SerialLine.Proofs.Transfer.Interruption — interrupted calls of a sending

Three kinds of calls can be interrupted while bytes are sent. An interrupted write is made again,
so it never comes to light. An interrupted wait or drain ends the sending: `writeAll_retrying`
says that nothing else lets it fail with the number of an interruption. On a descriptor the wait
itself goes on over interruptions, so that only the drain is left, and everything has been accepted
by that time: `Host.drain_of_interrupted`.
-/

namespace SerialLine

/-! ## Sendings that fail as interrupted -/

/-- A failed call names an interruption exactly if it has failed with that number. -/
theorem CallFault.osCode_toError {f : CallFault} {operation : String} :
    (f.toError operation).osCode? = some .EINTR ↔ f = .errno .EINTR := by
  cases f with
  | errno code =>
    show some code = some .EINTR ↔ _
    rw [Option.some.injEq, CallFault.errno.injEq]
  | interrupted | wouldBlock | unnumbered =>
    constructor
    · intro h
      exact absurd (Option.some.inj h) (by decide)
    · intro h
      cases h

namespace SendCall

/-- Whether the interruption of a call ends a sending, with its number. -/
def Surfaces : SendCall → Prop
  | wait (.error f) => f = .errno .EINTR
  | drain (.error e) => e.osCode? = some .EINTR
  | _ => False

end SendCall

namespace Transfer

/-- An operation failed with the number of an interruption. -/
def Interrupted (result : Outcome Unit) : Prop :=
  ∃ e, result = .error e ∧ e.osCode? = some .EINTR

theorem interrupted_error {e : Error} : Interrupted (.error e) ↔ e.osCode? = some .EINTR := by
  constructor
  · rintro ⟨e', h, hcode⟩
    rwa [Except.error.inj h]
  · intro hcode
    exact ⟨e, rfl, hcode⟩

section Runs

variable {σ : Type} {dev : Device σ} {sending : Sending} {s s' : σ} {call : SendCall}
  {calls : List SendCall} {result : Outcome Unit}

/-- The last call decides whether a sending fails as interrupted. -/
theorem Sending.Edge.interrupted_iff (h : sending.Edge call (.done result)) :
    Interrupted result ↔ call.Surfaces := by
  cases h with
  | @refused _ f hint =>
    rw [interrupted_error, CallFault.osCode_toError]
    constructor
    · -- a write that was interrupted is not refused
      rintro rfl
      cases hint
    · exact False.elim
  | stuck => exact interrupted_error.trans CallFault.osCode_toError
  | drained =>
    cases result with
    | error e => exact interrupted_error
    | ok _ =>
      constructor
      · rintro ⟨e, h, -⟩
        cases h
      · exact False.elim

theorem Sends.interrupted_iff (h : Sends dev sending s calls result s') :
    Interrupted result ↔ ∃ call, calls.getLast? = some call ∧ call.Surfaces := by
  induction h with
  | last hedge => simpa using hedge.interrupted_iff
  | @more _ _ _ _ _ call calls _ hedge hmakes hrest ih =>
    have hne : calls ≠ [] := by
      cases hrest <;> exact List.cons_ne_nil _ _
    rw [ih, List.getLast?_cons_of_ne_nil hne]

/-- While there is writing to do, the next call writes what is left. -/
theorem Sends.head_of_writing {rest : Bytes} (h : Sends dev (.writing rest) s calls result s') :
    ∃ outcome later, calls = .write rest outcome :: later := by
  cases h with
  | last hedge =>
    cases hedge with
    | refused => exact ⟨_, _, rfl⟩
  | more hedge =>
    cases hedge with
    | took | tookNone | interrupted | blocked => exact ⟨_, _, rfl⟩

/-- A write that was interrupted is made again. -/
theorem Sends.retries (h : Sends dev sending s calls result s') {earlier later : List SendCall}
    {offered : Bytes} {f : CallFault} (hint : f.isInterruption = true)
    (hcalls : calls = earlier ++ .write offered (.error f) :: later) :
    ∃ outcome later', later = .write offered outcome :: later' := by
  induction h generalizing earlier with
  | last hedge =>
    cases earlier with
    | nil =>
      obtain ⟨rfl, -⟩ := List.cons.inj hcalls
      cases hedge with
      | refused hnot =>
        rw [hint] at hnot
        cases hnot
    | cons x earlier => simp at hcalls
  | more hedge hmakes hrest ih =>
    cases earlier with
    | nil =>
      obtain ⟨rfl, rfl⟩ := List.cons.inj hcalls
      cases hedge with
      | interrupted => exact hrest.head_of_writing
      | blocked hblock =>
        rw [CallFault.isWouldBlock_of_isInterruption hint] at hblock
        cases hblock
    | cons x earlier => exact ih (List.cons.inj hcalls).2

/-- A sending drains when everything has been accepted, and hands the outcome on. -/
theorem SendEnd.of_drain {bytes sent : Bytes} {outcome : Outcome Unit}
    (h : SendEnd bytes sent calls result) (hlast : calls.getLast? = some (.drain outcome)) :
    sent = bytes ∧ result = outcome := by
  cases h with
  | left hall | undrained hall =>
    rw [List.getLast?_concat] at hlast
    exact ⟨hall, SendCall.drain.inj (Option.some.inj hlast)⟩
  | refused | stuck =>
    rw [List.getLast?_concat] at hlast
    cases hlast

/-- How a sending deals with interruptions. -/
structure Retrying (bytes : Bytes) (calls : List SendCall) (result : Outcome Unit) : Prop where
  /-- It fails with the number of an interruption exactly if its last call was a wait or a drain
  that was interrupted. -/
  surfaces : Interrupted result ↔ ∃ call, calls.getLast? = some call ∧ call.Surfaces
  /-- If that was the drain, everything had been accepted. -/
  whole : ∀ outcome, calls.getLast? = some (.drain outcome) →
    calls.flatMap SendCall.accepted = bytes
  /-- A write that was interrupted is made again at once, with the same bytes. -/
  retries : ∀ earlier later offered f, calls = earlier ++ .write offered (.error f) :: later →
    f.isInterruption = true → ∃ outcome later', later = .write offered outcome :: later'

theorem Sends.retrying {bytes : Bytes} (h : Sends dev (.ofRest bytes) s calls result s') :
    Retrying bytes calls result where
  surfaces := h.interrupted_iff
  whole _ hlast := (h.delivery.ended.of_drain hlast).1
  retries := by
    intro earlier later offered f hcalls hint
    exact h.retries hint hcalls

/-- On any device, a write that ends makes interrupted writes again, and only an interrupted wait
or drain lets it fail as interrupted. -/
theorem writeAll_retrying {bound : Nat} {bytes : Bytes}
    (h : writeAll dev bound bytes s = (some result, s')) :
    ∃ calls, writeAll dev.observed bound bytes (s, []) = (some result, s', calls) ∧
      Retrying bytes calls result := by
  obtain ⟨calls, hsends, hobserved⟩ := send_observed h
  exact ⟨calls, hobserved [], hsends.retrying⟩

end Runs

end Transfer

namespace ScriptedDevice

open Transfer

/-- The letters of a short word. -/
def ping : Bytes := [0x50, 0x49, 0x4e, 0x47]

/-- A device on which two writes are interrupted and then the drain, once. -/
def signalled : ScriptedDevice where
  writes := [.fault .interrupted, .accept 2, .fault (.errno .EINTR)]
  drainError? := some .EINTR

theorem signalled_retrying :
    signalled.writeAll ping =
        (some (.error (.osCall "tcdrain" .EINTR)), { written := ping, drainCalls := 1 }) ∧
      ∃ calls, Transfer.writeAll device.observed signalled.writeBound ping (signalled, []) =
          (some (.error (.osCall "tcdrain" .EINTR)), { written := ping, drainCalls := 1 }, calls) ∧
        Retrying ping calls (.error (.osCall "tcdrain" .EINTR)) :=
  ⟨rfl, writeAll_retrying rfl⟩

/-- A write of which every byte was taken fails as interrupted, although the next drain would
have succeeded. -/
theorem signalled_surfaces :
    ∃ e, (signalled.writeAll ping).1 = some (.error e) ∧ e.osCode? = some .EINTR ∧
      (signalled.writeAll ping).2.written = ping ∧ (signalled.writeAll ping).2.drain.1 = .ok () :=
  ⟨_, rfl, rfl, rfl, rfl⟩

end ScriptedDevice

/-! ## Descriptors -/

namespace Host

/-- A wait for room goes on over interruptions. -/
theorem waitWritable_ne_interrupted {fd : Fd} {f : CallFault} {h h' : Host}
    (hwait : h.waitWritable fd = (.error f, h')) : f ≠ .errno .EINTR := by
  unfold waitWritable at hwait
  split at hwait
  · rename_i code h₁ hfault
    obtain ⟨hf, -⟩ := Prod.mk.inj hwait
    have hcode : code ≠ .EINTR := takeFault_skip (Nat.le_refl _) hfault
    rw [← Except.error.inj hf]
    exact fun h => hcode (CallFault.errno.inj h)
  · cases hwait

/-- On a descriptor, a write that fails as interrupted has been interrupted while it drained, with
everything accepted. -/
theorem drain_of_interrupted {fd : Fd} {bound : Nat} {bytes : Bytes} {e : Error} {h h' : Host}
    (hrun : Transfer.writeAll (device fd) bound bytes h = (some (.error e), h'))
    (hint : e.osCode? = some .EINTR) :
    ∃ calls, Transfer.writeAll (device fd).observed bound bytes (h, []) =
        (some (.error e), h', calls) ∧
      calls.getLast? = some (.drain (.error e)) ∧ calls.flatMap SendCall.accepted = bytes := by
  obtain ⟨calls, hsends, hobserved⟩ := Transfer.send_observed hrun
  refine ⟨calls, hobserved [], ?_⟩
  obtain ⟨call, hlast, hsurfaces⟩ :=
    hsends.retrying.surfaces.mp (Transfer.interrupted_error.mpr hint)
  obtain ⟨_, _, h₁, h₂, -, -, hmakes⟩ :=
    hsends.made (Transfer.Sending.pending_ofRest bytes) call (List.mem_of_getLast? hlast)
  cases call with
  | write => exact hsurfaces.elim
  | wait outcome =>
    cases outcome with
    | ok _ => exact hsurfaces.elim
    | error f => exact absurd hsurfaces (waitWritable_ne_interrupted hmakes)
  | drain outcome =>
    cases outcome with
    | ok _ => exact hsurfaces.elim
    | error e' =>
      obtain ⟨hall, hresult⟩ := hsends.delivery.ended.of_drain hlast
      rw [hresult]
      exact ⟨hlast, hall⟩

end Host

end SerialLine
