import SerialLine.Proofs.Transfer.Reading

/-!
# SerialLine.Proofs.Transfer.Gathering — reading whatever is pending reads all of it

A script is cut at its first stop: a step that ends a gathering, with bytes or without. What comes
before the stop is ready (`ReadScript.ready`), interruptions left out. A gathering takes as much of
it as there is room for, and reaches the stop exactly if room is left; a stop that it does not reach
stays in the script. `ScriptedDevice.readAvailable_takes_ready` says this of whole operations, with
the answer and the script that is left.
-/

namespace SerialLine

/-- Whether a step ends a gathering: it gives no bytes, or it is a failure and no interruption. -/
def ReadStep.isStop : ReadStep → Bool
  | .data bytes => bytes.isEmpty
  | .endOfStream => true
  | .fault f => !f.isInterruption

/-! ## Scripts and their first stop -/

namespace ReadScript

/-- The bytes that come before the first stop. -/
def ready (script : List ReadStep) : Bytes :=
  (script.takeWhile fun step => !step.isStop).flatMap ReadStep.payload

/-- The script past its first stop. -/
def pastStop (script : List ReadStep) : List ReadStep :=
  (script.dropWhile fun step => !step.isStop).tail

/-- The number of the failure that the first stop is, if it is one. -/
def failure? (script : List ReadStep) : Option Errno :=
  match script.find? ReadStep.isStop with
  | some (.fault f) => if f.isWouldBlock then none else some (f.code?.getD Error.unnumbered)
  | _ => none

/-- The script right after its first bytes. -/
def afterBytes : List ReadStep → Nat → List ReadStep
  | script, 0 => script
  | [], _ + 1 => []
  | .data bytes :: rest, n + 1 =>
    if n + 1 < bytes.length then .data (bytes.drop (n + 1)) :: rest
    else afterBytes rest (n + 1 - bytes.length)
  | _ :: rest, n + 1 => afterBytes rest (n + 1)

/-- The script that a gathering with this much room leaves. -/
def left (room : Nat) (script : List ReadStep) : List ReadStep :=
  if room ≤ (ready script).length then afterBytes script room else pastStop script

/-- What a gathering with this much room answers that has some bytes already. -/
def answer (got : Bytes) (room : Nat) (script : List ReadStep) : Outcome Bytes :=
  match failure? script with
  | some code =>
    if 0 < room ∧ got ++ ready script = [] then .error (.osCall "read" code)
    else .ok (got ++ (ready script).take room)
  | none => .ok (got ++ (ready script).take room)

section

variable {step : ReadStep} (rest : List ReadStep)

theorem ready_stop (h : step.isStop = true) : ready (step :: rest) = [] := by
  simp [ready, h]

theorem ready_go (h : step.isStop = false) : ready (step :: rest) = step.payload ++ ready rest := by
  simp [ready, h]

theorem pastStop_stop (h : step.isStop = true) : pastStop (step :: rest) = rest := by
  simp [pastStop, h]

theorem pastStop_go (h : step.isStop = false) : pastStop (step :: rest) = pastStop rest := by
  simp [pastStop, h]

theorem failure?_go (h : step.isStop = false) : failure? (step :: rest) = failure? rest := by
  simp [failure?, h]

end

theorem afterBytes_zero (script : List ReadStep) : afterBytes script 0 = script := by
  cases script with
  | nil => rfl
  | cons step rest => cases step <;> rfl

/-- Steps without bytes lie before the next byte. -/
theorem afterBytes_skip {step : ReadStep} (rest : List ReadStep) {n : Nat} (hn : n ≠ 0)
    (h : step.payload = []) : afterBytes (step :: rest) n = afterBytes rest n := by
  obtain ⟨n, rfl⟩ := Nat.exists_eq_succ_of_ne_zero hn
  cases step with
  | data bytes =>
    obtain rfl : bytes = [] := h
    rfl
  | endOfStream => rfl
  | fault f => rfl

/-- A piece is cut where the bytes end, or is passed with what it has. -/
theorem afterBytes_data (bytes : Bytes) (rest : List ReadStep) {n : Nat} (hn : n ≠ 0) :
    afterBytes (.data bytes :: rest) n =
      if n < bytes.length then .data (bytes.drop n) :: rest
      else afterBytes rest (n - bytes.length) := by
  obtain ⟨n, rfl⟩ := Nat.exists_eq_succ_of_ne_zero hn
  rfl

section

variable (got : Bytes) {room : Nat} {step : ReadStep} (rest : List ReadStep)

/-- An interruption changes nothing for what comes after it. -/
theorem answer_skip (hgo : step.isStop = false) (h : step.payload = []) :
    answer got room (step :: rest) = answer got room rest := by
  simp only [answer, failure?_go rest hgo, ready_go rest hgo, h, List.nil_append]

theorem left_skip (hroom : room ≠ 0) (hgo : step.isStop = false) (h : step.payload = []) :
    left room (step :: rest) = left room rest := by
  simp only [left, ready_go rest hgo, pastStop_go rest hgo, h, List.nil_append,
    afterBytes_skip rest hroom h]

/-- With some bytes a gathering does not fail. -/
theorem answer_ok {script : List ReadStep} (h : got ++ ready script ≠ []) :
    answer got room script = .ok (got ++ (ready script).take room) := by
  unfold answer
  cases failure? script with
  | none => rfl
  | some code => exact if_neg fun hnone => h hnone.2

theorem isStop_data {bytes : Bytes} (h : bytes ≠ []) : (ReadStep.data bytes).isStop = false := by
  cases bytes with
  | nil => exact absurd rfl h
  | cons b bs => rfl

theorem ready_data {bytes : Bytes} (h : bytes ≠ []) :
    ready (.data bytes :: rest) = bytes ++ ready rest := ready_go rest (isStop_data h)

/-- A piece that fits is as good as got. -/
theorem answer_data {bytes : Bytes} (hne : bytes ≠ []) (hfits : bytes.length ≤ room) :
    answer got room (.data bytes :: rest) = answer (got ++ bytes) (room - bytes.length) rest := by
  rw [answer_ok got (by simp [ready_data rest hne, hne]), answer_ok (got ++ bytes) (by simp [hne]),
    ready_data rest hne, List.take_append, List.take_of_length_le hfits, List.append_assoc]

theorem left_data {bytes : Bytes} (hne : bytes ≠ []) (hfits : bytes.length ≤ room) :
    left room (.data bytes :: rest) = left (room - bytes.length) rest := by
  have hroom : room ≠ 0 := by
    have hpos : 0 < bytes.length := List.length_pos_iff.mpr hne
    omega
  have hfull : room ≤ (bytes ++ ready rest).length ↔ room - bytes.length ≤ (ready rest).length := by
    rw [List.length_append]
    omega
  simp only [left, ready_data rest hne, hfull, pastStop_go rest (isStop_data hne),
    afterBytes_data bytes rest hroom, if_neg (Nat.not_lt_of_le hfits)]

/-- Of a piece that does not fit, only what there is room for is taken. -/
theorem answer_cut {bytes : Bytes} (hlong : room < bytes.length) :
    answer got room (.data bytes :: rest) = .ok (got ++ bytes.take room) := by
  have hne : bytes ≠ [] := List.ne_nil_of_length_pos (Nat.zero_lt_of_lt hlong)
  rw [answer_ok got (by simp [ready_data rest hne, hne]), ready_data rest hne,
    List.take_append_of_le_length (Nat.le_of_lt hlong)]

theorem left_cut {bytes : Bytes} (hroom : room ≠ 0) (hlong : room < bytes.length) :
    left room (.data bytes :: rest) = .data (bytes.drop room) :: rest := by
  have hne : bytes ≠ [] := List.ne_nil_of_length_pos (Nat.zero_lt_of_lt hlong)
  have hfull : room ≤ (bytes ++ ready rest).length := by
    rw [List.length_append]
    omega
  rw [left, ready_data rest hne, if_pos hfull, afterBytes_data bytes rest hroom, if_pos hlong]

end

end ReadScript

namespace ScriptedDevice

open Transfer ReadScript

variable {g : Gathering} {d : ScriptedDevice} {step : ReadStep} {rest : List ReadStep}

/-- What the outcome of a stop makes of a gathering. -/
theorem next_stop (hroom : g.room ≠ 0) (hreads : d.reads = step :: rest)
    (hstop : step.isStop = true) :
    g.next (device.read g.room d).1 = .done (answer g.got g.room (step :: rest)) ∧
      (device.read g.room d).2 = { d with reads := rest } := by
  have hpos : 0 < g.room := Nat.pos_of_ne_zero hroom
  cases step with
  | data bytes =>
    obtain rfl : bytes = [] := List.isEmpty_iff.mp hstop
    simp [device, read, hreads, Gathering.next, answer, failure?, ready_stop rest hstop, hstop]
  | endOfStream =>
    simp [device, read, hreads, Gathering.next, answer, failure?, ready_stop rest hstop, hstop]
  | fault f =>
    have hint : f.isInterruption = false := by simpa [ReadStep.isStop] using hstop
    by_cases hblock : f.isWouldBlock = true
    · simp [device, read, hreads, Gathering.next, answer, failure?, ready_stop rest hstop, hstop,
        hint, hblock]
    · by_cases hgot : g.got = []
      · simp [device, read, hreads, Gathering.next, answer, failure?, ready_stop rest hstop, hstop,
          hint, hblock, hgot, hpos]
        rfl
      · simp [device, read, hreads, Gathering.next, answer, failure?, ready_stop rest hstop, hstop,
          hint, hblock, hgot]

/-- A gathering that meets a stop is over. -/
theorem gather_stop (calls : Nat) (hroom : g.room ≠ 0) (hreads : d.reads = step :: rest)
    (hstop : step.isStop = true) :
    gather device (calls + 1) g d =
      (some (answer g.got g.room d.reads), { d with reads := left g.room d.reads }) := by
  obtain ⟨hdone, hafter⟩ := next_stop hroom hreads hstop
  have hleft : left g.room (step :: rest) = rest := by
    rw [left, ready_stop rest hstop, if_neg (by simpa using hroom), pastStop_stop rest hstop]
  rw [gather_of_room hroom, hreads, hleft, ← hafter]
  simp only [hdone]

/-- A step that is no stop leaves the rest of the script to the rest of the gathering. -/
theorem gather_go {calls : Nat} (hroom : g.room ≠ 0) (hreads : d.reads = step :: rest)
    (hgo : step.isStop = false)
    (ih : ∀ g' : Gathering, gather device calls g' { d with reads := rest } =
      (some (answer g'.got g'.room rest), { d with reads := left g'.room rest })) :
    gather device (calls + 1) g d =
      (some (answer g.got g.room (step :: rest)),
        { d with reads := left g.room (step :: rest) }) := by
  rw [gather_of_room hroom]
  cases step with
  | endOfStream => cases hgo
  | fault f =>
    have hint : f.isInterruption = true := by simpa [ReadStep.isStop] using hgo
    rw [answer_skip g.got rest hgo rfl, left_skip rest hroom hgo rfl]
    simpa [device, read, hreads, Gathering.next, hint] using ih g
  | data bytes =>
    have hne : bytes ≠ [] := by
      rintro rfl
      cases hgo
    have htake : bytes.take g.room ≠ [] := by simp [hne, hroom]
    have hread : device.read g.room d =
        (.ok (bytes.take g.room), { d with reads :=
          if g.room < bytes.length then .data (bytes.drop g.room) :: rest else rest }) := by
      simp only [device, read, hreads]
    simp only [hread, g.next_ok htake]
    by_cases hlong : g.room < bytes.length
    · have hfull : g.room - (bytes.take g.room).length = 0 := by
        rw [List.length_take, Nat.min_eq_left (Nat.le_of_lt hlong), Nat.sub_self]
      rw [gather_full hfull, if_pos hlong, answer_cut g.got rest hlong, left_cut rest hroom hlong]
    · have hfits : bytes.length ≤ g.room := Nat.le_of_not_lt hlong
      rw [if_neg hlong, List.take_of_length_le hfits, ih, answer_data g.got rest hne hfits,
        left_data rest hne hfits]

/-- What a gathering answers, and what it leaves of the script. -/
theorem gather_script {calls : Nat} (h : d.reads.length < calls) :
    gather device calls g d =
      (some (answer g.got g.room d.reads), { d with reads := left g.room d.reads }) := by
  -- on the calls that are left: a read that does not end the gathering takes a step off
  induction calls generalizing g d with
  | zero => exact absurd h (Nat.not_lt_zero _)
  | succ calls ih =>
    by_cases hroom : g.room = 0
    · rw [gather_full hroom]
      have hanswer : answer g.got g.room d.reads = .ok g.got := by
        unfold answer
        cases failure? d.reads <;> simp [hroom]
      have hleft : left g.room d.reads = d.reads := by simp [left, hroom, afterBytes_zero]
      rw [hanswer, hleft]
    · cases hreads : d.reads with
      | nil =>
        -- past the end of the script a read would block
        have hend : left g.room [] = [] := by simp [left, ready, pastStop, hroom]
        have hsame : { d with reads := [] } = d := by rw [← hreads]
        rw [gather_of_room hroom, hend, hsame]
        simp [device, read, hreads, Gathering.next, CallFault.isInterruption,
          CallFault.isWouldBlock, answer, failure?, ready]
      | cons step rest =>
        cases hstop : step.isStop with
        | true =>
          rw [← hreads]
          exact gather_stop calls hroom hreads hstop
        | false =>
          have hlen : rest.length < calls := by
            rw [hreads] at h
            exact Nat.lt_of_succ_lt_succ h
          exact gather_go hroom hreads hstop fun g' => ih hlen

/-- Reading whatever is pending takes what is ready in the script, interruptions left out, up to
what it may take. If it has room and nothing is ready, a failure that comes next is its answer; a
failure after some bytes is not. What it has no room for stays in the script, as does the stop
then; a stop that it reaches is taken off. -/
theorem readAvailable_takes_ready (d : ScriptedDevice) (max : Nat) :
    d.readAvailable max =
      (some
        (match failure? d.reads with
        | some code =>
          if 0 < min max 3072 ∧ ready d.reads = [] then .error (.osCall "read" code)
          else .ok ((ready d.reads).take (min max 3072))
        | none => .ok ((ready d.reads).take (min max 3072))),
      { d with
        reads :=
          if min max 3072 ≤ (ready d.reads).length then afterBytes d.reads (min max 3072)
          else pastStop d.reads }) :=
  gather_script (Nat.lt_succ_self _)

end ScriptedDevice

end SerialLine
