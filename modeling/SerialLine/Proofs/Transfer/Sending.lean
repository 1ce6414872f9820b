import Mathlib.Data.List.Basic
import SerialLine.Transfer.Basic

/-!
# SerialLine.Proofs.Transfer.Sending — what a sending delivers and how it ends

A sending writes, waits for room and drains. `Sending.Edge` lists what each of its calls leads
to, and `Sends` puts these together to the sendings that end; a device that notes its calls down
(`Device.observed`) shows that these are the calls that the operation makes. What the device
accepts in them is a prefix of the bytes, and the last of them says whether it is the whole:
`Sends.delivery`.
-/

namespace SerialLine

/-! ## The calls of a sending -/

/-- A call that a sending makes, with its outcome. -/
inductive SendCall where
  | write (offered : Bytes) (outcome : CallOutcome Nat)
  | wait (outcome : CallOutcome Unit)
  | drain (outcome : Outcome Unit)

namespace SendCall

def isWait : SendCall → Bool
  | wait _ => true
  | _ => false

def isDrain : SendCall → Bool
  | drain _ => true
  | _ => false

/-- Whether nothing was offered. -/
def isEmptyWrite : SendCall → Bool
  | write offered _ => offered.isEmpty
  | _ => false

/-- Whether a write was put off: nothing was taken, or it would have blocked. -/
def isPutOff : SendCall → Bool
  | write _ (.ok n) => n == 0
  | write _ (.error f) => f.isWouldBlock
  | _ => false

/-- The bytes that a call hands to the device: those of an offer that a write tells as taken. -/
def accepted : SendCall → Bytes
  | write offered (.ok n) => offered.take n
  | _ => []

end SendCall

namespace Device

variable {σ : Type}

/-- The device makes a call with the outcome that stands in it. -/
def Makes (dev : Device σ) (s : σ) (call : SendCall) (s' : σ) : Prop :=
  match call with
  | .write offered outcome => dev.write offered s = (outcome, s')
  | .wait outcome => dev.waitWritable s = (outcome, s')
  | .drain outcome => dev.drain s = (outcome, s')

/-- The device takes what it accepts, and in that order; `taken` is what it has taken so far. -/
def Takes (dev : Device σ) (taken : σ → Bytes) : Prop :=
  ∀ {s call s'}, dev.Makes s call s' → taken s' = taken s ++ call.accepted

/-- The same device, which notes down every call that a sending makes. -/
def observed (dev : Device σ) : Device (σ × List SendCall) where
  read room := fun (s, calls) =>
    let (outcome, s) := dev.read room s
    (outcome, s, calls)
  write offered := fun (s, calls) =>
    let (outcome, s) := dev.write offered s
    (outcome, s, calls ++ [.write offered outcome])
  drain := fun (s, calls) =>
    let (outcome, s) := dev.drain s
    (outcome, s, calls ++ [.drain outcome])
  waitWritable := fun (s, calls) =>
    let (outcome, s) := dev.waitWritable s
    (outcome, s, calls ++ [.wait outcome])

end Device

/-- An interruption does not say that a call would block. -/
theorem CallFault.isWouldBlock_of_isInterruption {f : CallFault} (h : f.isInterruption = true) :
    f.isWouldBlock = false := by
  cases f with
  | errno code =>
    obtain rfl : code = Errno.EINTR := by simpa [isInterruption] using h
    rfl
  | interrupted => rfl
  | wouldBlock => cases h
  | unnumbered => cases h

namespace Transfer

/-! ## What each call leads to -/

namespace Sending

/-- The bytes that are left. -/
def rest : Sending → Bytes
  | writing rest | waiting rest => rest
  | draining => []

/-- Bytes are left as long as there is writing to do. -/
def Pending : Sending → Prop
  | writing rest | waiting rest => rest ≠ []
  | draining => True

/-- The waits that are due. -/
def waitsDue : Sending → Nat
  | waiting _ => 1
  | _ => 0

@[simp] theorem rest_writing (bytes : Bytes) : (writing bytes).rest = bytes := rfl

@[simp] theorem rest_ofRest (bytes : Bytes) : (ofRest bytes).rest = bytes := by
  cases bytes <;> rfl

@[simp] theorem waitsDue_writing (bytes : Bytes) : (writing bytes).waitsDue = 0 := rfl

@[simp] theorem waitsDue_waiting (bytes : Bytes) : (waiting bytes).waitsDue = 1 := rfl

@[simp] theorem waitsDue_ofRest (bytes : Bytes) : (ofRest bytes).waitsDue = 0 := by
  cases bytes <;> rfl

theorem pending_ofRest (bytes : Bytes) : (ofRest bytes).Pending := by
  cases bytes with
  | nil => trivial
  | cons b bs => exact List.cons_ne_nil b bs

/-- What the calls of a sending lead to. -/
inductive Edge : Sending → SendCall → Turn Sending (Outcome Unit) → Prop where
  /-- Some bytes were taken. -/
  | took {rest : Bytes} {n : Nat} (hsome : n ≠ 0) :
    Edge (.writing rest) (.write rest (.ok n)) (.next (.ofRest (rest.drop n)))
  /-- No byte was taken. -/
  | tookNone {rest : Bytes} : Edge (.writing rest) (.write rest (.ok 0)) (.next (.waiting rest))
  /-- The write was interrupted, so it is made again. -/
  | interrupted {rest : Bytes} {f : CallFault} (hint : f.isInterruption = true) :
    Edge (.writing rest) (.write rest (.error f)) (.next (.writing rest))
  /-- The write would have blocked. -/
  | blocked {rest : Bytes} {f : CallFault} (hblock : f.isWouldBlock = true) :
    Edge (.writing rest) (.write rest (.error f)) (.next (.waiting rest))
  /-- The write failed. -/
  | refused {rest : Bytes} {f : CallFault} (hint : f.isInterruption = false)
    (hblock : f.isWouldBlock = false) :
    Edge (.writing rest) (.write rest (.error f)) (.done (.error (f.toError "write")))
  /-- There is room again. -/
  | ready {rest : Bytes} : Edge (.waiting rest) (.wait (.ok ())) (.next (.writing rest))
  /-- The wait failed. -/
  | stuck {rest : Bytes} {f : CallFault} :
    Edge (.waiting rest) (.wait (.error f)) (.done (.error (f.toError "poll")))
  /-- The drain ends the sending either way. -/
  | drained {outcome : Outcome Unit} : Edge .draining (.drain outcome) (.done outcome)

variable {sending sending' : Sending} {call : SendCall} {result : Outcome Unit}

/-- The outcome of a write leads where the edges say. -/
theorem edge_afterWrite (rest : Bytes) (outcome : CallOutcome Nat) :
    Edge (.writing rest) (.write rest outcome) (afterWrite rest outcome) := by
  cases outcome with
  | ok n =>
    cases n with
    | zero => exact .tookNone
    | succ n => exact .took (Nat.succ_ne_zero n)
  | error f =>
    unfold afterWrite
    by_cases hint : f.isInterruption = true
    · simp only [hint, if_true]
      exact .interrupted hint
    · by_cases hblock : f.isWouldBlock = true
      · simp only [hint, hblock, if_true]
        exact .blocked hblock
      · simp only [hint, hblock]
        exact .refused (by simpa using hint) (by simpa using hblock)

/-- The outcome of a wait leads where the edges say. -/
theorem edge_afterWait (rest : Bytes) (outcome : CallOutcome Unit) :
    Edge (.waiting rest) (.wait outcome) (afterWait rest outcome) := by
  cases outcome with
  | ok _ => exact .ready
  | error f => exact .stuck

theorem Edge.pending (h : Edge sending call (.next sending')) (hp : sending.Pending) :
    sending'.Pending := by
  cases h with
  | took => exact pending_ofRest _
  | tookNone | interrupted | blocked | ready => exact hp

/-- Draining is the last thing that a sending does. -/
theorem Edge.isDrain_next (h : Edge sending call (.next sending')) : call.isDrain = false := by
  cases h <;> rfl

theorem Edge.not_isEmptyWrite {t : Turn Sending (Outcome Unit)} (h : Edge sending call t)
    (hp : sending.Pending) : call.isEmptyWrite = false := by
  cases h with
  | took | tookNone | interrupted | blocked | refused =>
    exact List.isEmpty_eq_false_iff.mpr hp
  | ready | stuck | drained => rfl

/-- What is accepted of a call that leads on is taken off what is left. -/
theorem Edge.rest_next (h : Edge sending call (.next sending')) :
    sending.rest = call.accepted ++ sending'.rest := by
  cases h with
  | @took rest n => simp [SendCall.accepted]
  | tookNone | interrupted | blocked | ready => rfl

/-- The last call hands nothing over. -/
theorem Edge.accepted_done (h : Edge sending call (.done result)) : call.accepted = [] := by
  cases h <;> rfl

/-- A call that leads on makes a wait due, or is the wait that was due. -/
theorem Edge.waits_next (h : Edge sending call (.next sending')) :
    (if call.isWait = true then 1 else 0) + sending'.waitsDue =
      (if call.isPutOff = true then 1 else 0) + sending.waitsDue := by
  cases h with
  | took hsome => simp [SendCall.isWait, SendCall.isPutOff, hsome]
  | tookNone => rfl
  | interrupted hint =>
    simp [SendCall.isWait, SendCall.isPutOff, CallFault.isWouldBlock_of_isInterruption hint]
  | blocked hblock => simp [SendCall.isWait, SendCall.isPutOff, hblock]
  | ready => rfl

/-- With the last call no wait is due any more. -/
theorem Edge.waits_done (h : Edge sending call (.done result)) :
    (if call.isWait = true then 1 else 0) =
      (if call.isPutOff = true then 1 else 0) + sending.waitsDue := by
  cases h with
  | refused hint hblock => simp [SendCall.isWait, SendCall.isPutOff, hblock]
  | stuck => rfl
  | drained => rfl

section Turn

variable {σ : Type} {dev : Device σ}

/-- A sending makes one call at a time. -/
theorem turn_edge {s s' : σ} {t : Turn Sending (Outcome Unit)}
    (h : sending.turn dev s = (t, s')) :
    ∃ call, Edge sending call t ∧ dev.Makes s call s' ∧
      ∀ calls, sending.turn dev.observed (s, calls) = (t, s', calls ++ [call]) := by
  cases sending with
  | writing rest =>
    rcases hwrite : dev.write rest s with ⟨outcome, s₁⟩
    obtain ⟨rfl, rfl⟩ : afterWrite rest outcome = t ∧ s₁ = s' := by simpa [turn, hwrite] using h
    refine ⟨_, edge_afterWrite rest outcome, hwrite, fun calls => ?_⟩
    simp [turn, Device.observed, hwrite]
  | waiting rest =>
    rcases hwait : dev.waitWritable s with ⟨outcome, s₁⟩
    obtain ⟨rfl, rfl⟩ : afterWait rest outcome = t ∧ s₁ = s' := by simpa [turn, hwait] using h
    refine ⟨_, edge_afterWait rest outcome, hwait, fun calls => ?_⟩
    simp [turn, Device.observed, hwait]
  | draining =>
    rcases hdrain : dev.drain s with ⟨outcome, s₁⟩
    obtain ⟨rfl, rfl⟩ : .done outcome = t ∧ s₁ = s' := by simpa [turn, hdrain] using h
    refine ⟨_, .drained, hdrain, fun calls => ?_⟩
    simp [turn, Device.observed, hdrain]

end Turn

end Sending

/-! ## Sendings that end -/

section Runs

variable {σ : Type} {dev : Device σ}

/-- A sending that ends, with the calls that it makes until then. -/
inductive Sends (dev : Device σ) : Sending → σ → List SendCall → Outcome Unit → σ → Prop where
  | last {sending : Sending} {s s' : σ} {call : SendCall} {result : Outcome Unit}
    (hedge : sending.Edge call (.done result)) (hmakes : dev.Makes s call s') :
    Sends dev sending s [call] result s'
  | more {sending sending' : Sending} {s s₁ s' : σ} {call : SendCall} {calls : List SendCall}
    {result : Outcome Unit} (hedge : sending.Edge call (.next sending'))
    (hmakes : dev.Makes s call s₁) (hrest : Sends dev sending' s₁ calls result s') :
    Sends dev sending s (call :: calls) result s'

variable {sending : Sending} {s s' : σ} {calls : List SendCall} {result : Outcome Unit}

/-- An operation that ends is a sending with the calls that the device has noted down. -/
theorem send_observed {bound : Nat} (h : send dev bound sending s = (some result, s')) :
    ∃ calls, Sends dev sending s calls result s' ∧
      ∀ earlier, send dev.observed bound sending (s, earlier) =
        (some result, s', earlier ++ calls) := by
  -- on the bound; what was noted down earlier stands in front and is not looked at
  induction bound generalizing sending s with
  | zero => cases h
  | succ bound ih =>
    rw [send] at h
    rcases hturn : sending.turn dev s with ⟨t, s₁⟩
    obtain ⟨call, hedge, hmakes, hobserved⟩ := Sending.turn_edge hturn
    rw [hturn] at h
    cases t with
    | done result' =>
      obtain ⟨rfl, rfl⟩ : result' = result ∧ s₁ = s' := by simpa using h
      refine ⟨[call], .last hedge hmakes, fun earlier => ?_⟩
      rw [send, hobserved]
    | next sending' =>
      obtain ⟨calls, hsends, hrest⟩ := ih h
      refine ⟨call :: calls, .more hedge hmakes hsends, fun earlier => ?_⟩
      rw [send, hobserved]
      exact (hrest _).trans (by rw [List.append_assoc]; rfl)

/-- The device has made every call, at a point of the sending that leads to it. -/
theorem Sends.made (h : Sends dev sending s calls result s') (hp : sending.Pending) :
    ∀ call ∈ calls, ∃ at_ t s₁ s₂,
      Sending.Pending at_ ∧ at_.Edge call t ∧ dev.Makes s₁ call s₂ := by
  induction h with
  | last hedge hmakes =>
    intro call hcall
    rw [List.mem_singleton.mp hcall]
    exact ⟨_, _, _, _, hp, hedge, hmakes⟩
  | more hedge hmakes hrest ih =>
    intro call hcall
    rcases List.mem_cons.mp hcall with rfl | hcall
    · exact ⟨_, _, _, _, hp, hedge, hmakes⟩
    · exact ih (hedge.pending hp) call hcall

/-- No call of a sending offers nothing. -/
theorem Sends.offers (h : Sends dev sending s calls result s') (hp : sending.Pending) :
    ∀ call ∈ calls, call.isEmptyWrite = false := by
  intro call hcall
  obtain ⟨_, _, _, _, hpending, hedge, -⟩ := h.made hp call hcall
  exact hedge.not_isEmptyWrite hpending

/-- A sending waits once for every write that was put off. -/
theorem Sends.waits (h : Sends dev sending s calls result s') :
    calls.countP SendCall.isWait = calls.countP SendCall.isPutOff + sending.waitsDue := by
  induction h with
  | last hedge =>
    simp only [List.countP_cons, List.countP_nil, Nat.zero_add]
    exact hedge.waits_done
  | more hedge hmakes hrest ih =>
    -- a wait that the first call makes due is among the calls after it
    have hstep := hedge.waits_next
    rw [List.countP_cons, List.countP_cons, ih]
    omega

/-- What every call of some kind adds to a number, and no other call, a sending adds for each of
these calls. -/
theorem Sends.tally {count : σ → Nat} {kind : SendCall → Bool}
    (hcount : ∀ {s call s'}, dev.Makes s call s' →
      count s' = count s + if kind call = true then 1 else 0)
    (h : Sends dev sending s calls result s') : count s' = count s + calls.countP kind := by
  induction h with
  | last hedge hmakes => rw [hcount hmakes, List.countP_singleton]
  | more hedge hmakes hrest ih =>
    rw [ih, hcount hmakes, List.countP_cons]
    omega

/-! ## What is delivered -/

/-- How a sending of these bytes ends that has delivered some: its last call decides, and no call
before has drained. -/
inductive SendEnd (bytes sent : Bytes) : List SendCall → Outcome Unit → Prop where
  /-- Everything was taken and has left. -/
  | left {calls : List SendCall} (hall : sent = bytes)
    (hfirst : calls.countP SendCall.isDrain = 0) :
    SendEnd bytes sent (calls ++ [.drain (.ok ())]) (.ok ())
  /-- Everything was taken, but the drain failed. -/
  | undrained {calls : List SendCall} {e : Error} (hall : sent = bytes)
    (hfirst : calls.countP SendCall.isDrain = 0) :
    SendEnd bytes sent (calls ++ [.drain (.error e)]) (.error e)
  /-- A write failed, neither as an interruption nor as would-block. -/
  | refused {calls : List SendCall} {offered : Bytes} {f : CallFault} (hpart : sent ≠ bytes)
    (hfirst : calls.countP SendCall.isDrain = 0) (hint : f.isInterruption = false)
    (hblock : f.isWouldBlock = false) :
    SendEnd bytes sent (calls ++ [.write offered (.error f)])
      (.error (.osCall "write" (f.code?.getD (-1))))
  /-- A wait for room failed. -/
  | stuck {calls : List SendCall} {f : CallFault} (hpart : sent ≠ bytes)
    (hfirst : calls.countP SendCall.isDrain = 0) :
    SendEnd bytes sent (calls ++ [.wait (.error f)])
      (.error (.osCall "poll" (f.code?.getD (-1))))

/-- What a sending has delivered, and how it has ended. -/
structure Delivery (bytes sent : Bytes) (calls : List SendCall) (result : Outcome Unit) :
    Prop where
  /-- The bytes are delivered in order and each once. -/
  inOrder : sent <+: bytes
  /-- The result says how much was delivered. -/
  ended : SendEnd bytes sent calls result
  offers : ∀ call ∈ calls, call.isEmptyWrite = false
  /-- It waits once for every write that was put off. -/
  waits : calls.countP SendCall.isWait = calls.countP SendCall.isPutOff

/-- A call that leads on comes before an end, and what it delivers before what is delivered
then. -/
theorem SendEnd.cons {bytes sent : Bytes} {call : SendCall} (h : SendEnd bytes sent calls result)
    (piece : Bytes) (hcall : call.isDrain = false) :
    SendEnd (piece ++ bytes) (piece ++ sent) (call :: calls) result := by
  have hfirst {calls : List SendCall} (h : calls.countP SendCall.isDrain = 0) :
      (call :: calls).countP SendCall.isDrain = 0 := by
    rw [List.countP_cons, h, hcall]
    rfl
  cases h with
  | left hall hnone => exact .left (by rw [hall]) (hfirst hnone)
  | undrained hall hnone => exact .undrained (by rw [hall]) (hfirst hnone)
  | refused hpart hnone hint hblock =>
    exact .refused (fun h => hpart (List.append_cancel_left h)) (hfirst hnone) hint hblock
  | stuck hpart hnone => exact .stuck (fun h => hpart (List.append_cancel_left h)) (hfirst hnone)

/-- The last call of a sending decides how it ends. -/
theorem Sending.Edge.sendEnd {call : SendCall} (h : sending.Edge call (.done result))
    (hp : sending.Pending) : SendEnd sending.rest [] [call] result := by
  show SendEnd sending.rest [] ([] ++ [call]) result
  cases h with
  | refused hint hblock => exact .refused (Ne.symm hp) rfl hint hblock
  | stuck => exact .stuck (Ne.symm hp) rfl
  | drained =>
    cases result with
    | ok _ => exact .left rfl rfl
    | error e => exact .undrained rfl rfl

/-- A sending that ends has handed over the front of what was left, and ends as that tells. -/
theorem Sends.delivers_rest (h : Sends dev sending s calls result s') (hp : sending.Pending) :
    calls.flatMap SendCall.accepted <+: sending.rest ∧
      SendEnd sending.rest (calls.flatMap SendCall.accepted) calls result := by
  induction h with
  | last hedge =>
    rw [List.flatMap_singleton, hedge.accepted_done]
    exact ⟨List.nil_prefix, hedge.sendEnd hp⟩
  | more hedge hmakes hrest ih =>
    -- both what is left and what is delivered lose the piece that the first call hands over
    obtain ⟨hfront, hend⟩ := ih (hedge.pending hp)
    rw [List.flatMap_cons, hedge.rest_next]
    exact ⟨(List.prefix_append_right_inj _).mpr hfront, hend.cons _ hedge.isDrain_next⟩

/-- On any device, a sending that ends has handed a prefix over, and its result says how it
ended. -/
theorem Sends.delivery {bytes : Bytes} (h : Sends dev (.ofRest bytes) s calls result s') :
    Delivery bytes (calls.flatMap SendCall.accepted) calls result := by
  have hp := Sending.pending_ofRest bytes
  obtain ⟨hfront, hend⟩ := h.delivers_rest hp
  rw [Sending.rest_ofRest] at hfront hend
  refine ⟨hfront, hend, h.offers hp, ?_⟩
  simpa using h.waits

/-- What a sending has handed over is what the device has taken meanwhile. -/
theorem Sends.taken {taken : σ → Bytes} (hdev : dev.Takes taken)
    (h : Sends dev sending s calls result s') :
    taken s' = taken s ++ calls.flatMap SendCall.accepted := by
  induction h with
  | last hedge hmakes => rw [hdev hmakes, List.flatMap_singleton]
  | more hedge hmakes hrest ih => rw [ih, hdev hmakes, List.flatMap_cons, List.append_assoc]

end Runs

end Transfer

end SerialLine
