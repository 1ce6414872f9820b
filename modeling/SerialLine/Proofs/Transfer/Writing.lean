import SerialLine.Transfer.Scripted
import SerialLine.Proofs.Transfer.Sending

/-!
# SerialLine.Proofs.Transfer.Writing — writes to a scripted device

A scripted device takes what it accepts, and each call of a sending leaves it with less to do
(`ScriptedDevice.effort`). So a write always ends, whatever the scripts say, and
`ScriptedDevice.writeAll_delivers` says with what: a prefix of the bytes, of which the result tells
whether it is the whole.
-/

namespace SerialLine

namespace ScriptedDevice

open Transfer

/-! ## The calls -/

/-- What a write to a scripted device does. -/
inductive Wrote (d : ScriptedDevice) (bytes : Bytes) : CallOutcome Nat → ScriptedDevice → Prop where
  /-- The script has run out, and everything is taken. -/
  | all (hscript : d.writes = []) :
    Wrote d bytes (.ok bytes.length) { d with writes := [], written := d.written ++ bytes }
  | accepted {limit : Nat} {rest : List WriteStep} (hscript : d.writes = .accept limit :: rest) :
    Wrote d bytes (.ok (bytes.take limit).length)
      { d with writes := rest, written := d.written ++ bytes.take limit }
  | failed {f : CallFault} {rest : List WriteStep} (hscript : d.writes = .fault f :: rest) :
    Wrote d bytes (.error f) { d with writes := rest }

variable {d d' : ScriptedDevice}

theorem wrote_of_write {bytes : Bytes} {outcome : CallOutcome Nat}
    (h : d.write bytes = (outcome, d')) : Wrote d bytes outcome d' := by
  unfold write accept at h
  split at h
  · rename_i hscript
    obtain ⟨rfl, rfl⟩ := Prod.mk.inj h
    exact .all hscript
  · rename_i hscript
    obtain ⟨rfl, rfl⟩ := Prod.mk.inj h
    exact .accepted hscript
  · rename_i hscript
    obtain ⟨rfl, rfl⟩ := Prod.mk.inj h
    exact .failed hscript

/-- A wait changes nothing but what concerns waits. -/
theorem waitWritable_kept {outcome : CallOutcome Unit} (h : d.waitWritable = (outcome, d')) :
    d'.writes = d.writes ∧ d'.written = d.written ∧ d'.drainCalls = d.drainCalls := by
  unfold waitWritable at h
  split at h <;> obtain ⟨-, rfl⟩ := Prod.mk.inj h <;> exact ⟨rfl, rfl, rfl⟩

/-- A drain is counted, and keeps the bytes. -/
theorem drain_kept {outcome : Outcome Unit} (h : d.drain = (outcome, d')) :
    d'.written = d.written ∧ d'.drainCalls = d.drainCalls + 1 := by
  unfold drain at h
  split at h <;> obtain ⟨-, rfl⟩ := Prod.mk.inj h <;> exact ⟨rfl, rfl⟩

theorem device_takes : device.Takes written := by
  intro d call d' h
  cases call with
  | write bytes outcome =>
    cases wrote_of_write h with
    | all => rw [SendCall.accepted, List.take_length]
    | @accepted limit =>
      have hfront : bytes.take limit = bytes.take (bytes.take limit).length :=
        List.prefix_iff_eq_take.mp (List.take_prefix limit bytes)
      exact congrArg (d.written ++ ·) hfront
    | failed => exact (List.append_nil _).symm
  | wait outcome => exact (waitWritable_kept h).2.1.trans (List.append_nil _).symm
  | drain outcome => exact (drain_kept h).1.trans (List.append_nil _).symm

/-- The device counts the drains, and nothing else, as drains. -/
theorem drainCalls_of_makes {call : SendCall} (h : device.Makes d call d') :
    d'.drainCalls = d.drainCalls + if call.isDrain = true then 1 else 0 := by
  cases call with
  | write bytes outcome =>
    cases wrote_of_write h with
    | all | accepted | failed => rfl
  | wait outcome => exact (waitWritable_kept h).2.2
  | drain outcome => exact (drain_kept h).2

/-! ## Writes to a scripted device end -/

/-- The calls that a sending needs at most: two for each step of the script, one of which may be a
wait, and two when it has run out. -/
def effort (d : ScriptedDevice) : Sending → Nat
  | .writing _ => 2 * d.writes.length + 2
  | .waiting _ => 2 * d.writes.length + 3
  | .draining => 1

@[simp] theorem effort_writing (d : ScriptedDevice) (rest : Bytes) :
    d.effort (.writing rest) = 2 * d.writes.length + 2 := rfl

@[simp] theorem effort_waiting (d : ScriptedDevice) (rest : Bytes) :
    d.effort (.waiting rest) = 2 * d.writes.length + 3 := rfl

theorem effort_pos (d : ScriptedDevice) (sending : Sending) : 0 < d.effort sending := by
  cases sending <;> exact Nat.succ_pos _

theorem effort_le (d : ScriptedDevice) (sending : Sending) :
    d.effort sending ≤ 2 * d.writes.length + 3 := by
  cases sending with
  | writing rest => exact Nat.le_succ _
  | waiting rest => exact Nat.le_refl _
  | draining => exact Nat.le_add_left 1 (2 * d.writes.length + 2)

theorem effort_ofRest_le (d : ScriptedDevice) (bytes : Bytes) :
    d.effort (.ofRest bytes) ≤ 2 * d.writes.length + 2 := by
  cases bytes with
  | nil => exact Nat.le_add_left 1 (2 * d.writes.length + 1)
  | cons b bs => exact Nat.le_refl _

/-- A write takes a step off the script, or everything when the script has run out. -/
theorem write_shortens {bytes : Bytes} {outcome : CallOutcome Nat}
    (h : d.write bytes = (outcome, d')) :
    d'.writes.length < d.writes.length ∨
      outcome = .ok bytes.length ∧ d'.writes.length = d.writes.length := by
  cases wrote_of_write h with
  | all hscript => exact Or.inr ⟨rfl, by rw [hscript]⟩
  | accepted hscript => exact Or.inl (by simp [hscript])
  | failed hscript => exact Or.inl (by simp [hscript])

/-- A write that leads on takes a step off the script. Only when the script has run out does it
not, and then draining comes next. -/
theorem write_leads_on {rest : Bytes} {sending' : Sending} {call : SendCall}
    (hedge : (Sending.writing rest).Edge call (.next sending')) (hmakes : device.Makes d call d')
    (hrest : rest ≠ []) :
    d'.writes.length < d.writes.length ∨
      d'.writes.length = d.writes.length ∧ sending' = .draining ∧ call.isPutOff = false := by
  cases hedge with
  | @took _ n hsome =>
    rcases write_shortens hmakes with hshort | ⟨hall, hsame⟩
    · exact Or.inl hshort
    · obtain rfl := Except.ok.inj hall
      have hdraining : Sending.ofRest (rest.drop rest.length) = .draining := by
        rw [List.drop_length]
        rfl
      have hkept : (SendCall.write rest (.ok rest.length)).isPutOff = false := by
        simpa [SendCall.isPutOff] using hsome
      exact Or.inr ⟨hsame, hdraining, hkept⟩
  | tookNone =>
    -- what takes everything takes something, for there is something to take
    refine Or.inl ((write_shortens hmakes).resolve_right fun hall => ?_)
    exact hrest (List.length_eq_zero_iff.mp (Except.ok.inj hall.1).symm)
  | interrupted | blocked =>
    rcases write_shortens hmakes with hshort | ⟨hall, -⟩
    · exact Or.inl hshort
    · cases hall

/-- A call that leads on takes something off what a sending needs. -/
theorem effort_lt {sending sending' : Sending} {call : SendCall}
    (hedge : sending.Edge call (.next sending')) (hmakes : device.Makes d call d')
    (hp : sending.Pending) : d'.effort sending' < d.effort sending := by
  cases sending with
  | writing rest =>
    rw [effort_writing]
    rcases write_leads_on hedge hmakes hp with hshort | ⟨-, rfl, -⟩
    · have hle := d'.effort_le sending'
      omega
    · exact Nat.lt_add_left (2 * d.writes.length) Nat.one_lt_two
  | waiting rest =>
    cases hedge with
    | ready =>
      rw [effort_writing, effort_waiting, (waitWritable_kept hmakes).1]
      exact Nat.lt_succ_self _
  | draining => cases hedge

/-- A sending ends within the calls that it needs. -/
theorem send_ends {bound : Nat} {sending : Sending} (hp : sending.Pending)
    (hbound : d.effort sending ≤ bound) :
    ∃ result d', send device bound sending d = (some result, d') := by
  induction bound generalizing sending d with
  | zero => exact absurd hbound (Nat.not_le_of_lt (d.effort_pos sending))
  | succ bound ih =>
    rcases hturn : sending.turn device d with ⟨t, d₁⟩
    obtain ⟨call, hedge, hmakes, -⟩ := Sending.turn_edge hturn
    rw [send, hturn]
    cases t with
    | done result => exact ⟨result, d₁, rfl⟩
    | next sending' =>
      have hless := effort_lt hedge hmakes hp
      exact ih (hedge.pending hp) (by omega)

/-! ## What a write delivers -/

/-- Whatever the scripts of writes, of waits and of the drain say, a write ends. The device has
then taken a prefix of the bytes, and the calls that the write has made, as a device would note
them down, say how it ended. -/
theorem writeAll_delivers (bytes : Bytes) (d : ScriptedDevice) :
    ∃ result d' calls sent, d.writeAll bytes = (some result, d') ∧
      Transfer.writeAll device.observed d.writeBound bytes (d, []) = (some result, d', calls) ∧
      d'.written = d.written ++ sent ∧
      d'.drainCalls = d.drainCalls + calls.countP SendCall.isDrain ∧
      Delivery bytes sent calls result := by
  obtain ⟨result, d', hrun⟩ : ∃ result d', d.writeAll bytes = (some result, d') :=
    send_ends (Sending.pending_ofRest bytes) (d.effort_ofRest_le bytes)
  obtain ⟨calls, hsends, hobserved⟩ := send_observed hrun
  exact ⟨result, d', calls, calls.flatMap SendCall.accepted, hrun, hobserved [],
    hsends.taken device_takes, hsends.tally drainCalls_of_makes, hsends.delivery⟩

end ScriptedDevice

end SerialLine
