import SerialLine.Transfer.Scripted
import SerialLine.Proofs.Transfer.Stream

/-!
# SerialLine.Proofs.Transfer.Reading — reads of a scripted device

A scripted device streams, and its script bounds the calls of an operation, so the operations on
it always end. `ScriptedDevice.reads_conserve_stream` says what this comes to in whole runs, in
which reads of all kinds and additions to the script follow each other in any order.
-/

namespace SerialLine

/-! ## Scripts -/

/-- The bytes that a step of a script hands over. -/
def ReadStep.payload : ReadStep → Bytes
  | .data bytes => bytes
  | _ => []

namespace ScriptedDevice

open Transfer

/-- The bytes that are still in the script of a device. -/
def unread (d : ScriptedDevice) : Bytes := d.reads.flatMap ReadStep.payload

/-- A piece that does not fit is split, and its rest stays in front. -/
theorem unread_read_data (room : Nat) (bytes : Bytes) (rest : List ReadStep) :
    (if room < bytes.length then .data (bytes.drop room) :: rest else rest).flatMap
      ReadStep.payload = bytes.drop room ++ rest.flatMap ReadStep.payload := by
  split
  · rfl
  · rename_i hfits
    rw [List.drop_eq_nil_of_le (Nat.le_of_not_lt hfits), List.nil_append]

theorem device_streams : device.Streams unread where
  takes := by
    intro room d bytes d' h
    have h : d.read room = (.ok bytes, d') := h
    unfold read at h
    split at h
    · simp at h
    · simp at h
    · rename_i rest hscript
      obtain ⟨rfl, rfl⟩ : [] = bytes ∧ { d with reads := rest } = d' := by simpa using h
      exact ⟨by simp [unread, hscript, ReadStep.payload], Nat.zero_le _⟩
    · rename_i piece rest hscript
      obtain ⟨rfl, rfl⟩ : piece.take room = bytes ∧ _ = d' := by simpa using h
      refine ⟨?_, List.length_take_le _ _⟩
      show d.reads.flatMap ReadStep.payload = piece.take room ++ List.flatMap _ _
      rw [unread_read_data, ← List.append_assoc, List.take_append_drop, hscript]
      rfl
  keeps := by
    intro room d f d' h
    have h : d.read room = (.error f, d') := h
    unfold read at h
    split at h
    · obtain ⟨-, rfl⟩ : CallFault.wouldBlock = f ∧ d = d' := by simpa using h
      rfl
    · rename_i f' rest hscript
      obtain ⟨-, rfl⟩ : f' = f ∧ { d with reads := rest } = d' := by simpa using h
      simp [unread, hscript, ReadStep.payload]
    · simp at h
    · simp at h

/-! ## Operations on a scripted device end -/

/-- A read that is not the last one takes a step off the script, or fills its room. -/
theorem read_shortens {room : Nat} {d d' : ScriptedDevice} {outcome : CallOutcome Bytes}
    (h : d.read room = (outcome, d')) :
    d'.reads.length < d.reads.length ∨ outcome = .error .wouldBlock ∨
      ∃ bytes, outcome = .ok bytes ∧ bytes.length = room := by
  unfold read at h
  split at h
  · obtain ⟨rfl, -⟩ : _ = outcome ∧ _ = d' := by simpa using h
    exact Or.inr (Or.inl rfl)
  · rename_i hscript
    obtain ⟨-, rfl⟩ : _ = outcome ∧ _ = d' := by simpa using h
    exact Or.inl (by simp [hscript])
  · rename_i hscript
    obtain ⟨-, rfl⟩ : _ = outcome ∧ _ = d' := by simpa using h
    exact Or.inl (by simp [hscript])
  · rename_i piece rest hscript
    obtain ⟨rfl, rfl⟩ : _ = outcome ∧ _ = d' := by simpa using h
    by_cases hlong : room < piece.length
    · -- what does not fit goes back, so the script is as long as it was
      exact Or.inr (Or.inr ⟨_, rfl, by rw [List.length_take]; omega⟩)
    · exact Or.inl (by simp [hlong, hscript])

theorem gather_ends {calls : Nat} {g : Gathering} {d : ScriptedDevice}
    (h : d.reads.length < calls ∨ g.room = 0) :
    ∃ result d', gather device calls g d = (some result, d') := by
  induction calls generalizing g d with
  | zero => exact ⟨_, _, gather_full (h.resolve_left (Nat.not_lt_zero _)) 0 d⟩
  | succ calls ih =>
    by_cases hroom : g.room = 0
    · exact ⟨_, _, gather_full hroom _ d⟩
    · have hlen : d.reads.length < calls + 1 := h.resolve_right hroom
      rw [gather_of_room hroom]
      rcases hread : device.read g.room d with ⟨outcome, d₁⟩
      have hshort := read_shortens hread
      dsimp only
      cases hnext : g.next outcome with
      | done result => exact ⟨result, d₁, rfl⟩
      | next g' =>
        -- whatever asks for another read leaves a shorter script or no room
        apply ih
        rcases hshort with hshort | rfl | ⟨bytes, rfl, hfull⟩
        · exact Or.inl (by omega)
        · simp [Gathering.next, CallFault.isInterruption, CallFault.isWouldBlock] at hnext
        · by_cases hnil : bytes = []
          · subst hnil
            simp [Gathering.next] at hnext
          · rw [g.next_ok hnil] at hnext
            obtain rfl := Turn.next.inj hnext
            exact Or.inr (by rw [hfull]; exact Nat.sub_self _)

theorem readOnce_ends {calls max : Nat} {d : ScriptedDevice} (h : d.reads.length < calls) :
    ∃ result d', Transfer.readOnce device calls max d = (some result, d') := by
  induction calls generalizing d with
  | zero => exact absurd h (Nat.not_lt_zero _)
  | succ calls ih =>
    rw [Transfer.readOnce]
    rcases hread : device.read (min max readLimit) d with ⟨outcome, d₁⟩
    have hshort := read_shortens hread
    cases hnext : afterSingle outcome with
    | done result => exact ⟨result, d₁, by simp only [hnext]⟩
    | next =>
      simp only [hnext]
      apply ih
      rcases hshort with hshort | rfl | ⟨bytes, rfl, -⟩
      · omega
      · simp [afterSingle, CallFault.isInterruption, CallFault.isWouldBlock] at hnext
      · simp [afterSingle] at hnext

/-! ## Whole runs -/

end ScriptedDevice

/-- What a client does to the reading side of a scripted device. -/
inductive ReadCall where
  /-- Adds steps to the script. -/
  | script (steps : List ReadStep)
  /-- Reads whatever is pending. -/
  | available (max : Nat)
  /-- Makes a single read. -/
  | once (max : Nat)
  /-- Makes a primitive call with a buffer of this size. -/
  | raw (room : Nat)

/-- The bytes that a call adds to the script. -/
def ReadCall.payload : ReadCall → Bytes
  | .script steps => steps.flatMap ReadStep.payload
  | _ => []

/-- What a client hears. -/
inductive ReadAnswer where
  /-- Nothing: no read was asked for. -/
  | silent
  | bytes (bytes : Bytes)
  /-- The operation failed. -/
  | failed (e : Error)
  /-- The primitive call failed. -/
  | faulted (f : CallFault)
  /-- The operation was still going on when its calls were used up. -/
  | unfinished

namespace ReadAnswer

/-- The answer of an operation. -/
def ofResult : Option (Outcome Bytes) → ReadAnswer
  | some (.ok bs) => bytes bs
  | some (.error e) => failed e
  | none => unfinished

/-- The answer of a primitive call. -/
def ofOutcome : CallOutcome Bytes → ReadAnswer
  | .ok bs => bytes bs
  | .error f => faulted f

/-- The bytes that an answer hands over. -/
def payload : ReadAnswer → Bytes
  | bytes bs => bs
  | _ => []

/-- Whether an answer is an error. -/
def isError : ReadAnswer → Bool
  | failed _ | faulted _ => true
  | _ => false

end ReadAnswer

/-- One call in a run: the device before and after, and the answer. -/
structure Exchange where
  before : ScriptedDevice
  call : ReadCall
  answer : ReadAnswer
  after : ScriptedDevice

/-- What holds of every call. -/
structure Exchange.Sound (x : Exchange) : Prop where
  /-- The call ends. -/
  ended : x.answer ≠ .unfinished
  /-- What it hands over is taken off the front, and what it adds comes last. -/
  conserves : x.answer.payload ++ x.after.unread = x.before.unread ++ x.call.payload
  /-- A call that fails takes nothing. -/
  harmless : x.answer.isError = true → x.after.unread = x.before.unread
  /-- An operation hands over no more than it may. -/
  bounded : ∀ max, x.call = .available max ∨ x.call = .once max →
    x.answer.payload.length ≤ min max readLimit

namespace ScriptedDevice

open Transfer

/-- Does what a client asks for. -/
def perform (d : ScriptedDevice) : ReadCall → ReadAnswer × ScriptedDevice
  | .script steps => (.silent, { d with reads := d.reads ++ steps })
  | .available max => let (result, d) := d.readAvailable max; (.ofResult result, d)
  | .once max => let (result, d) := d.readOnce max; (.ofResult result, d)
  | .raw room => let (outcome, d) := d.read room; (.ofOutcome outcome, d)

/-- The device after some calls. -/
def afterCalls (d : ScriptedDevice) (calls : List ReadCall) : ScriptedDevice :=
  calls.foldl (fun d c => (d.perform c).2) d

/-- Some calls, one after the other. -/
def exchanges (d : ScriptedDevice) : List ReadCall → List Exchange
  | [] => []
  | c :: calls =>
    let (answer, after) := d.perform c
    { before := d, call := c, answer, after } :: after.exchanges calls

/-- An operation that ends conserves the stream. -/
theorem sound_of_ended {d d' : ScriptedDevice} {c : ReadCall} {result : Outcome Bytes} {max : Nat}
    (hc : c = .available max ∨ c = .once max)
    (h : Ended unread [] (min max readLimit) d d' result) :
    Exchange.Sound ⟨d, c, .ofResult (some result), d'⟩ := by
  have hadds : c.payload = [] := by rcases hc with rfl | rfl <;> rfl
  have hmax : ∀ max', c = .available max' ∨ c = .once max' → max' = max := by
    intro max' hc'
    rcases hc with rfl | rfl <;> simpa [eq_comm] using hc'
  cases h with
  | @ok bytes hall hfits =>
    refine ⟨nofun, ?_, nofun, ?_⟩
    · show bytes ++ d'.unread = d.unread ++ c.payload
      rw [hadds, List.append_nil, ← hall, List.nil_append]
    · intro max' hc'
      show bytes.length ≤ min max' readLimit
      rw [hmax max' hc']
      simpa using hfits
  | error hnone hkept =>
    refine ⟨nofun, ?_, fun _ => hkept, fun _ _ => Nat.zero_le _⟩
    show [] ++ d'.unread = d.unread ++ c.payload
    rw [hadds, List.append_nil, List.nil_append, hkept]

/-- Every call is sound. -/
theorem perform_sound (d : ScriptedDevice) (c : ReadCall) :
    Exchange.Sound ⟨d, c, (d.perform c).1, (d.perform c).2⟩ := by
  cases c with
  | script steps =>
    refine ⟨nofun, ?_, nofun, ?_⟩
    · show [] ++ (d.reads ++ steps).flatMap ReadStep.payload = _
      rw [List.nil_append, List.flatMap_append]
      rfl
    · intro max hc
      rcases hc with hc | hc <;> cases hc
  | available max =>
    obtain ⟨result, d', hrun⟩ : ∃ result d', d.readAvailable max = (some result, d') :=
      gather_ends (Or.inl (Nat.lt_succ_self _))
    have hperform : d.perform (.available max) = (.ofResult (some result), d') := by
      simp only [perform, hrun]
    rw [hperform]
    exact sound_of_ended (Or.inl rfl) (gather_ended device_streams hrun)
  | once max =>
    obtain ⟨result, d', hrun⟩ : ∃ result d', d.readOnce max = (some result, d') :=
      readOnce_ends (Nat.lt_succ_self _)
    have hperform : d.perform (.once max) = (.ofResult (some result), d') := by
      simp only [perform, hrun]
    rw [hperform]
    exact sound_of_ended (Or.inr rfl) (readOnce_ended device_streams hrun)
  | raw room =>
    rcases hread : d.read room with ⟨outcome, d'⟩
    have hperform : d.perform (.raw room) = (.ofOutcome outcome, d') := by
      simp only [perform, hread]
    rw [hperform]
    have hnot : ∀ max, ¬ (ReadCall.raw room = .available max ∨ ReadCall.raw room = .once max) := by
      rintro max (hc | hc) <;> cases hc
    cases outcome with
    | ok bytes =>
      refine ⟨nofun, ?_, nofun, fun max hc => absurd hc (hnot max)⟩
      have hall := (device_streams.takes hread).1
      show bytes ++ d'.unread = d.unread ++ []
      rw [List.append_nil, hall]
    | error f =>
      have hsame : d'.unread = d.unread := device_streams.keeps hread
      refine ⟨nofun, ?_, fun _ => hsame, fun max hc => absurd hc (hnot max)⟩
      show [] ++ d'.unread = d.unread ++ []
      rw [List.append_nil, List.nil_append, hsame]

theorem exchanges_cons (d : ScriptedDevice) (c : ReadCall) (calls : List ReadCall) :
    d.exchanges (c :: calls) =
      ⟨d, c, (d.perform c).1, (d.perform c).2⟩ :: (d.perform c).2.exchanges calls := rfl

theorem afterCalls_cons (d : ScriptedDevice) (c : ReadCall) (calls : List ReadCall) :
    d.afterCalls (c :: calls) = (d.perform c).2.afterCalls calls := rfl

/-- Whatever is done to a scripted device, the bytes that were handed over, in order, followed by
those still in its script are all that ever were in the script; every call ends, one that fails
takes no bytes, and no operation hands over more than it may. -/
theorem reads_conserve_stream (d : ScriptedDevice) (calls : List ReadCall) :
    (d.exchanges calls).flatMap (·.answer.payload) ++ (d.afterCalls calls).unread =
        d.unread ++ calls.flatMap ReadCall.payload ∧
      ∀ x ∈ d.exchanges calls, x.Sound := by
  induction calls generalizing d with
  | nil => simp [exchanges, afterCalls]
  | cons c calls ih =>
    have hc : Exchange.Sound ⟨d, c, (d.perform c).1, (d.perform c).2⟩ := d.perform_sound c
    obtain ⟨hall, hsound⟩ := ih (d.perform c).2
    rw [exchanges_cons, afterCalls_cons, List.flatMap_cons, List.flatMap_cons]
    generalize (d.perform c).1 = answer at hc ⊢
    generalize (d.perform c).2 = d₁ at hc hall hsound ⊢
    refine ⟨?_, ?_⟩
    · calc answer.payload ++ (d₁.exchanges calls).flatMap (·.answer.payload) ++
            (d₁.afterCalls calls).unread
          = answer.payload ++ (d₁.unread ++ calls.flatMap ReadCall.payload) := by
            rw [List.append_assoc, hall]
        _ = d.unread ++ c.payload ++ calls.flatMap ReadCall.payload := by
            rw [← List.append_assoc, hc.conserves]
        _ = d.unread ++ (c.payload ++ calls.flatMap ReadCall.payload) := List.append_assoc ..
    · intro x hx
      rcases List.mem_cons.mp hx with rfl | hx
      · exact hc
      · exact hsound x hx

end ScriptedDevice

end SerialLine
