import SerialLine.Proofs.Transfer.Reading
import SerialLine.Proofs.Transfer.Writing

/-!
# SerialLine.Proofs.Transfer.Bounds — operations end within the script

How many calls an operation makes is no matter of its bytes: an interruption, would-block or a
write of which nothing is taken brings it no further. What each of these costs is a step of the
script. So a read operation makes one read more than there are steps at most, and a write one
write more, with no more waits than steps: `ScriptedDevice.ends_within_script`.

The calls are noted down by the device (`Device.countingReads`, `Device.observed`), and an
operation that has ended makes no use of calls that it may still make (`gather_spare`,
`readOnce_spare`, `send_spare`).
-/

namespace SerialLine

/-- The same device, which counts its reads. -/
def Device.countingReads {σ : Type} (dev : Device σ) : Device (σ × Nat) where
  read room := fun (s, reads) =>
    let (outcome, s) := dev.read room s
    (outcome, s, reads + 1)
  write offered := fun (s, reads) =>
    let (outcome, s) := dev.write offered s
    (outcome, s, reads)
  drain := fun (s, reads) =>
    let (outcome, s) := dev.drain s
    (outcome, s, reads)
  waitWritable := fun (s, reads) =>
    let (outcome, s) := dev.waitWritable s
    (outcome, s, reads)

theorem Device.countingReads_read {σ : Type} (dev : Device σ) (room : Nat) (s : σ) (reads : Nat) :
    dev.countingReads.read room (s, reads) =
      ((dev.read room s).1, (dev.read room s).2, reads + 1) := rfl

/-- Whether a call is a write. -/
def SendCall.isWrite : SendCall → Bool
  | write .. => true
  | _ => false

namespace Transfer

variable {σ : Type} {dev : Device σ}

/-! ## Reads -/

/-- A gathering that has ended needs no more calls. -/
theorem gather_spare {calls : Nat} {g : Gathering} {s s' : σ} {result : Outcome Bytes}
    (h : gather dev calls g s = (some result, s')) (spare : Nat) :
    gather dev (calls + spare) g s = (some result, s') := by
  -- on the bound: it matters only where it is used up, and there nothing has ended
  induction calls generalizing g s with
  | zero =>
    by_cases hroom : g.room = 0
    · rw [gather_full hroom] at h ⊢
      exact h
    · rw [gather, if_neg hroom] at h
      cases h
  | succ calls ih =>
    by_cases hroom : g.room = 0
    · rw [gather_full hroom] at h ⊢
      exact h
    · rw [gather_of_room hroom] at h
      rw [Nat.succ_add, gather_of_room hroom]
      cases hnext : g.next (dev.read g.room s).1 with
      | done result' =>
        simp only [hnext] at h
        exact h
      | next g' =>
        simp only [hnext] at h
        exact ih h

/-- A single read that has ended needs no more calls. -/
theorem readOnce_spare {calls max : Nat} {s s' : σ} {result : Outcome Bytes}
    (h : readOnce dev calls max s = (some result, s')) (spare : Nat) :
    readOnce dev (calls + spare) max s = (some result, s') := by
  induction calls generalizing s with
  | zero => cases h
  | succ calls ih =>
    rw [readOnce] at h
    rw [Nat.succ_add, readOnce]
    cases hnext : afterSingle (dev.read (min max readLimit) s).1 with
    | done result' =>
      simp only [hnext] at h ⊢
      exact h
    | next =>
      simp only [hnext] at h ⊢
      exact ih h

/-- Counting changes nothing for a gathering, and the reads are among its calls. -/
theorem gather_counted (dev : Device σ) (calls : Nat) (g : Gathering) (s : σ) (before : Nat) :
    ∃ reads ≤ calls, gather dev.countingReads calls g (s, before) =
      ((gather dev calls g s).1, (gather dev calls g s).2, before + reads) := by
  -- on the calls that are left; the reads made before them stand in front
  induction calls generalizing g s before with
  | zero =>
    refine ⟨0, Nat.le_refl 0, ?_⟩
    by_cases hroom : g.room = 0 <;> simp [gather, hroom]
  | succ calls ih =>
    by_cases hroom : g.room = 0
    · exact ⟨0, Nat.zero_le _, by simp only [gather_full hroom, Nat.add_zero]⟩
    · simp only [gather_of_room hroom, dev.countingReads_read]
      cases g.next (dev.read g.room s).1 with
      | done result => exact ⟨1, Nat.le_add_left 1 calls, rfl⟩
      | next g' =>
        obtain ⟨reads, hle, hrun⟩ := ih g' (dev.read g.room s).2 (before + 1)
        refine ⟨reads + 1, Nat.succ_le_succ hle, ?_⟩
        dsimp only
        rw [hrun, Nat.add_assoc, Nat.add_comm 1 reads]

/-- Counting changes nothing for a single read, and the reads are among its calls. -/
theorem readOnce_counted (dev : Device σ) (calls max : Nat) (s : σ) (before : Nat) :
    ∃ reads ≤ calls, readOnce dev.countingReads calls max (s, before) =
      ((readOnce dev calls max s).1, (readOnce dev calls max s).2, before + reads) := by
  induction calls generalizing s before with
  | zero => exact ⟨0, Nat.le_refl 0, rfl⟩
  | succ calls ih =>
    simp only [readOnce, dev.countingReads_read]
    cases afterSingle (dev.read (min max readLimit) s).1 with
    | done result => exact ⟨1, Nat.le_add_left 1 calls, rfl⟩
    | next =>
      obtain ⟨reads, hle, hrun⟩ := ih (dev.read (min max readLimit) s).2 (before + 1)
      refine ⟨reads + 1, Nat.succ_le_succ hle, ?_⟩
      dsimp only
      rw [hrun, Nat.add_assoc, Nat.add_comm 1 reads]

/-! ## Writes -/

/-- A sending that has ended needs no more calls. -/
theorem send_spare {calls : Nat} {sending : Sending} {s s' : σ} {result : Outcome Unit}
    (h : send dev calls sending s = (some result, s')) (spare : Nat) :
    send dev (calls + spare) sending s = (some result, s') := by
  induction calls generalizing sending s with
  | zero => cases h
  | succ calls ih =>
    rw [send] at h
    rw [Nat.succ_add, send]
    rcases hturn : sending.turn dev s with ⟨t, s₁⟩
    rw [hturn] at h
    cases t with
    | done result' => exact h
    | next sending' => exact ih h

variable {sending : Sending} {s s' : σ} {calls : List SendCall} {result : Outcome Unit}

/-- If no call raises a number and each call of some kind lowers it, a sending makes no more calls
of that kind than the number says. -/
theorem Sends.countP_le {kind : SendCall → Bool} (due : Sending → σ → Nat)
    (hnext : ∀ {sending sending' call s s'}, sending.Edge call (.next sending') →
      dev.Makes s call s' → sending.Pending →
      (if kind call = true then 1 else 0) + due sending' s' ≤ due sending s)
    (hlast : ∀ {sending call result s}, sending.Edge call (.done result) →
      (if kind call = true then 1 else 0) ≤ due sending s)
    (h : Sends dev sending s calls result s') (hp : sending.Pending) :
    calls.countP kind ≤ due sending s := by
  induction h with
  | last hedge =>
    rw [List.countP_singleton]
    exact hlast hedge
  | more hedge hmakes hrest ih =>
    have hfirst := hnext hedge hmakes hp
    have hlater := ih (hedge.pending hp)
    rw [List.countP_cons]
    omega

/-- A sending drains once at most. -/
theorem SendEnd.drains_le {bytes sent : Bytes} (h : SendEnd bytes sent calls result) :
    calls.countP SendCall.isDrain ≤ 1 := by
  cases h with
  | left _ hfirst | undrained _ hfirst | refused _ hfirst | stuck _ hfirst =>
    rw [List.countP_append, hfirst, Nat.zero_add]
    exact List.countP_le_length

end Transfer

/-! ## Operations on a scripted device -/

namespace ScriptedDevice

open Transfer

variable {d d' : ScriptedDevice} {sending : Sending} {calls : List SendCall} {result : Outcome Unit}

/-- A write that is put off has taken a step off the script, and no call adds any. -/
theorem putOff_shortens {sending' : Sending} {call : SendCall}
    (hedge : sending.Edge call (.next sending')) (hmakes : device.Makes d call d')
    (hp : sending.Pending) :
    (if call.isPutOff = true then 1 else 0) + d'.writes.length ≤ d.writes.length := by
  cases sending with
  | writing rest =>
    rcases write_leads_on hedge hmakes hp with hshort | ⟨hsame, -, hnot⟩
    · split <;> omega
    · -- the script has run out, but then everything was taken
      rw [hnot, hsame]
      exact Nat.le_of_eq (Nat.zero_add _)
  | waiting rest =>
    cases hedge with
    | ready =>
      rw [(waitWritable_kept hmakes).1]
      exact Nat.le_of_eq (Nat.zero_add _)
  | draining => cases hedge

/-- A sending waits no more often than there are steps in the script. -/
theorem sends_waits_le {bytes : Bytes} (h : Sends device (.ofRest bytes) d calls result d') :
    calls.countP SendCall.isWait ≤ d.writes.length := by
  have hputOff : calls.countP SendCall.isPutOff ≤ d.writes.length := by
    refine h.countP_le (fun _ d => d.writes.length) putOff_shortens ?_
      (Sending.pending_ofRest bytes)
    intro sending call result d hedge
    cases hedge with
    | refused _ hblock => simp [SendCall.isPutOff, hblock]
    | stuck | drained => exact Nat.zero_le _
  -- there is one wait for each write that was put off
  rw [h.waits, Sending.waitsDue_ofRest]
  exact hputOff

/-- The writes that a sending makes at most: one for each step of the script, and one when it has
run out. -/
def writesDue (sending : Sending) (d : ScriptedDevice) : Nat :=
  match sending with
  | .writing _ | .waiting _ => d.writes.length + 1
  | .draining => 0

@[simp] theorem writesDue_writing (rest : Bytes) (d : ScriptedDevice) :
    writesDue (.writing rest) d = d.writes.length + 1 := rfl

@[simp] theorem writesDue_waiting (rest : Bytes) (d : ScriptedDevice) :
    writesDue (.waiting rest) d = d.writes.length + 1 := rfl

@[simp] theorem writesDue_draining (d : ScriptedDevice) : writesDue .draining d = 0 := rfl

theorem writesDue_le_length (sending : Sending) (d : ScriptedDevice) :
    writesDue sending d ≤ d.writes.length + 1 := by
  cases sending with
  | writing rest | waiting rest => exact Nat.le_refl _
  | draining => exact Nat.zero_le _

/-- A write takes one off the writes that are due, and no other call adds any. -/
theorem writesDue_le {sending' : Sending} {call : SendCall}
    (hedge : sending.Edge call (.next sending')) (hmakes : device.Makes d call d')
    (hp : sending.Pending) :
    (if call.isWrite = true then 1 else 0) + writesDue sending' d' ≤ writesDue sending d := by
  cases sending with
  | writing rest =>
    rw [writesDue_writing]
    rcases write_leads_on hedge hmakes hp with hshort | ⟨-, rfl, -⟩
    · have hle := writesDue_le_length sending' d'
      split <;> omega
    · -- this was the write past the end of the script, and no other follows
      rw [writesDue_draining]
      split <;> omega
  | waiting rest =>
    cases hedge with
    | ready =>
      rw [writesDue_writing, writesDue_waiting, (waitWritable_kept hmakes).1]
      exact Nat.le_of_eq (Nat.zero_add _)
  | draining => cases hedge

/-- A sending makes one write more than there are steps in the script at most. -/
theorem sends_writes_le {bytes : Bytes} (h : Sends device (.ofRest bytes) d calls result d') :
    calls.countP SendCall.isWrite ≤ d.writes.length + 1 := by
  have hdue : calls.countP SendCall.isWrite ≤ writesDue (.ofRest bytes) d := by
    refine h.countP_le writesDue writesDue_le ?_ (Sending.pending_ofRest bytes)
    intro sending call result d hedge
    cases hedge with
    | refused => exact Nat.le_add_left 1 _
    | stuck | drained => exact Nat.zero_le _
  exact Nat.le_trans hdue (writesDue_le_length (.ofRest bytes) d)

/-- Whatever the scripts say, each operation ends within them, however many calls it may make. A
read operation makes one read more than there are steps to read at most; a write makes one write
more than there are steps to write at most, waits no more often than there are steps, and drains
once at most. -/
theorem ends_within_script (d : ScriptedDevice) (max : Nat) (bytes : Bytes) :
    (∃ result d' reads, d.readAvailable max = (some result, d') ∧
      (∀ spare,
        Transfer.readAvailable device.countingReads (d.reads.length + 1 + spare) max (d, 0) =
          (some result, d', reads)) ∧
      reads ≤ d.reads.length + 1) ∧
    (∃ result d' reads, d.readOnce max = (some result, d') ∧
      (∀ spare, Transfer.readOnce device.countingReads (d.reads.length + 1 + spare) max (d, 0) =
        (some result, d', reads)) ∧
      reads ≤ d.reads.length + 1) ∧
    ∃ result d' calls, d.writeAll bytes = (some result, d') ∧
      (∀ spare, Transfer.writeAll device.observed (2 * d.writes.length + 2 + spare) bytes (d, []) =
        (some result, d', calls)) ∧
      calls.countP SendCall.isWrite ≤ d.writes.length + 1 ∧
      calls.countP SendCall.isWait ≤ d.writes.length ∧
      calls.countP SendCall.isDrain ≤ 1 := by
  refine ⟨?_, ?_, ?_⟩
  · obtain ⟨result, d', hrun⟩ : ∃ result d', d.readAvailable max = (some result, d') :=
      gather_ends (Or.inl (Nat.lt_succ_self _))
    obtain ⟨reads, hle, hcounted⟩ :=
      gather_counted device d.readBound ⟨[], min max readLimit⟩ d 0
    rw [Nat.zero_add] at hcounted
    refine ⟨result, d', reads, hrun, gather_spare (hcounted.trans ?_), hle⟩
    exact congrArg (fun r => (r.1, r.2, reads)) hrun
  · obtain ⟨result, d', hrun⟩ : ∃ result d', d.readOnce max = (some result, d') :=
      readOnce_ends (Nat.lt_succ_self _)
    obtain ⟨reads, hle, hcounted⟩ := readOnce_counted device d.readBound max d 0
    rw [Nat.zero_add] at hcounted
    refine ⟨result, d', reads, hrun, readOnce_spare (hcounted.trans ?_), hle⟩
    exact congrArg (fun r => (r.1, r.2, reads)) hrun
  · obtain ⟨result, d', hrun⟩ : ∃ result d', d.writeAll bytes = (some result, d') :=
      send_ends (Sending.pending_ofRest bytes) (d.effort_ofRest_le bytes)
    obtain ⟨calls, hsends, hobserved⟩ := send_observed hrun
    exact ⟨result, d', calls, hrun, send_spare (hobserved []), sends_writes_le hsends,
      sends_waits_le hsends, hsends.delivery.ended.drains_le⟩

/-- A script of interruptions alone needs them all: the read after the last one would block. -/
example : (Transfer.readAvailable device.countingReads 9 16
    ({ reads := [.fault .interrupted, .fault .interrupted] }, 0)).2.2 = 3 := rfl

end ScriptedDevice

end SerialLine
