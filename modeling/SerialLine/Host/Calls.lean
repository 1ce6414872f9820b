import SerialLine.Host.Basic

/-!
# SerialLine.Host.Calls — system calls on a host

Every call first meets its next fault, if there is one. Calls on a terminal then fail on a
descriptor that is not open or that stands for something else. Interrupt counters, modem lines
and queue lengths that were given to a descriptor go before what it has by itself.
-/

namespace SerialLine.Host

/-- Makes a call after its next fault. -/
def call {α : Type} (c : SystemCall) (act : Host → Except Errno (α × Host)) : Call Host α :=
  fun h =>
    match h.takeFault c with
    | (some code, h) => (.error (.osCall c.operation code), h)
    | (none, h) =>
      match act h with
      | .ok (value, h) => (.ok value, h)
      | .error code => (.error (.osCall c.operation code), h)

/-- The terminal that a descriptor stands for. -/
def terminalOf (fd : Fd) (h : Host) : Except Errno Nat :=
  match h.endpoint? fd with
  | some (.terminal n) => .ok n
  | some _ => .error .ENOTTY
  | none => .error .EBADF

/-- A call that looks at the terminal of a descriptor. -/
def onTerminal (c : SystemCall) (fd : Fd) (act : Pty → Pty) : Call Host Unit :=
  call c fun h => do
    let n ← h.terminalOf fd
    return ((), h.setPty n (act (h.pty n)))

/-- What a descriptor without given modem lines answers. -/
def noModem (fd : Fd) (h : Host) : Errno :=
  if (h.endpoint? fd).isSome then .ENOTTY else .EBADF

/-- The bytes that wait at a descriptor. -/
def pending (fd : Fd) (h : Host) : Except Errno Nat :=
  match h.endpoint? fd with
  | some (.terminal n) => .ok (h.pty n).input.length
  | some (.stream (some id) _ _) => .ok (h.channel id).queued.length
  | some (.stream none (some id) _) => .ok (h.channel id).queued.length
  | some _ => .error .ENOTTY
  | none => .error .EBADF

/-- The bytes that a descriptor has sent and that have not been taken. -/
def unsent (fd : Fd) (h : Host) : Except Errno Nat :=
  match h.endpoint? fd with
  | some (.terminal _) => .ok 0
  | some (.stream _ (some id) true) => .ok (h.channel id).queued.length
  | some _ => .error .ENOTTY
  | none => .error .EBADF

/-- A count as the system gives it; a negative one counts as nothing. -/
def countOf (counts : List Int) (place : Nat) : Nat := (counts.getD place 0).toNat

/-- Interrupt counters from the list that the system fills in. -/
def interruptsOf (counts : List Int) : InterruptCounts where
  cts := countOf counts 0
  dsr := countOf counts 1
  ring := countOf counts 2
  carrierDetect := countOf counts 3
  rx := countOf counts 4
  tx := countOf counts 5
  frame := countOf counts 6
  overrun := countOf counts 7
  parity := countOf counts 8
  brk := countOf counts 9
  bufOverrun := countOf counts 10

/-! ## Bytes -/

/-- The largest write to a pipe that is never done in part. -/
def atomicWrite : Nat := 4096

/-- Reads at most `room` bytes from a channel. -/
def readChannel (id room : Nat) (h : Host) : CallOutcome Bytes × Host :=
  let c := h.channel id
  if room = 0 then (.ok [], h)
  else if !c.queued.isEmpty then
    (.ok (c.queued.take room), h.setChannel id { c with queued := c.queued.drop room })
  else if c.reset then (.error (.errno .ECONNRESET), h.setChannel id { c with reset := false })
  else if c.writerOpen then (.error (.errno .EAGAIN), h)
  else (.ok [], h)

/-- The number of bytes that a channel takes of a write. -/
def Channel.accepts (c : Channel) (bytes : Bytes) : Nat :=
  match c.capacity? with
  | none => bytes.length
  | some capacity =>
    let room := capacity - c.queued.length
    if bytes.length ≤ atomicWrite && room < bytes.length then 0 else min room bytes.length

/-- Writes to a channel. -/
def writeChannel (id : Nat) (bytes : Bytes) (h : Host) : CallOutcome Nat × Host :=
  let c := h.channel id
  if !c.readerOpen then (.error (.errno .EPIPE), h)
  else
    match Channel.accepts c bytes with
    | 0 => (.error (.errno .EAGAIN), h)
    | n => (.ok n, h.setChannel id { c with queued := c.queued ++ bytes.take n })

/-- Reads at most `room` bytes from a descriptor. -/
def readFd (fd : Fd) (room : Nat) (h : Host) : CallOutcome Bytes × Host :=
  match h.endpoint? fd with
  | none => (.error (.errno .EBADF), h)
  | some (.terminal n) =>
    let t := h.pty n
    if room = 0 then (.ok [], h)
    else if t.input.isEmpty then (.error (.errno .EAGAIN), h)
    else (.ok (t.input.take room), h.setPty n { t with input := t.input.drop room })
  | some (.stream (some id) _ _) => h.readChannel id room
  | some (.stream none _ _) => (.error (.errno .EBADF), h)
  | some .null | some .file => (.ok [], h)

/-- Writes to a descriptor. -/
def writeFd (fd : Fd) (bytes : Bytes) (h : Host) : CallOutcome Nat × Host :=
  match h.endpoint? fd with
  | none => (.error (.errno .EBADF), h)
  | some (.terminal n) =>
    let t := h.pty n
    (.ok bytes.length, h.setPty n { t with output := t.output ++ bytes })
  | some (.stream _ (some id) _) => h.writeChannel id bytes
  | some (.stream _ none _) => (.error (.errno .EBADF), h)
  | some .null | some .file => (.ok bytes.length, h)

/-- The reader of a descriptor's output takes what is queued, if it is an eager one. -/
def takeEagerly (fd : Fd) (h : Host) : Host :=
  match h.outputOf? fd with
  | none => h
  | some id =>
    let c := h.channel id
    if c.eager then h.setChannel id { c with taken := c.taken ++ c.queued, queued := [] } else h

/-- Waits for room at a descriptor. Interruptions do not end the wait. -/
def waitWritable (fd : Fd) (h : Host) : CallOutcome Unit × Host :=
  match (h.skipInterruptions .pollWritable).takeFault .pollWritable with
  | (some code, h) => (.error (.errno code), h)
  | (none, h) => (.ok (), h.takeEagerly fd)

/-- Waits until a terminal has sent everything. -/
def drainFd (fd : Fd) : Call Host Unit := onTerminal .tcdrain fd id

/-- A descriptor as a device. -/
def device (fd : Fd) : Device Host where
  read room h := h.readFd fd room
  write bytes h := h.writeFd fd bytes
  drain h := drainFd fd h
  waitWritable h := h.waitWritable fd

/-! ## All calls -/

/-- The calls of a host. -/
def terminalCalls : TerminalCalls Host where
  getBlock fd := call .TCGETS2 fun h => do
    let n ← h.terminalOf fd
    return ((h.pty n).block, h)
  setBlock fd b := onTerminal .TCSETS2 fd (Pty.setBlock b)
  commitBaud _ _ := return ()
  flush fd queue := onTerminal .tcflush fd (Pty.flush queue)
  setNonBlocking fd h :=
    if (h.endpoint? fd).isSome then (.ok (), h)
    else (.error (.osCall "fcntl(F_GETFL)" .EBADF), h)
  claim fd := onTerminal .TIOCEXCL fd fun t => { t with exclusive := true }
  release fd := onTerminal .TIOCNXCL fd fun t => { t with exclusive := false }
  modemBits fd := call .TIOCMGET fun h =>
    match (h.modem fd).bits? with
    | some bits => .ok (bits, h)
    | none => .error (h.noModem fd)
  setModemBits fd bits := call .TIOCMSET fun h =>
    match (h.modem fd).bits? with
    | some _ => .ok ((), h.setModem fd { h.modem fd with bits? := some bits })
    | none => .error (h.noModem fd)
  inputQueue fd := call .FIONREAD fun h =>
    match (h.modem fd).queues? with
    | some queues => .ok (queues.1, h)
    | none => (h.pending fd).map fun n => ((n : Int), h)
  outputQueue fd := call .TIOCOUTQ fun h =>
    match (h.modem fd).queues? with
    | some queues => .ok (queues.2, h)
    | none => (h.unsent fd).map fun n => ((n : Int), h)
  startBreak fd := onTerminal .TIOCSBRK fd id
  endBreak fd := onTerminal .TIOCCBRK fd id
  interruptCounts fd := call .TIOCGICOUNT fun h =>
    match (h.modem fd).counts? with
    | some counts => .ok (interruptsOf counts, h)
    | none => .error (h.noModem fd)
  close fd h :=
    if (h.endpoint? fd).isSome then (.ok (), h.close fd)
    else (.error (.osCall "close" .EBADF), h)
  device := device

/-- The calls that a read from a descriptor needs at most: each hands over a byte or ends the
operation. -/
def readBound : Nat := readLimit + 1

/-- The calls that a write to a descriptor needs at most, as long as its reader takes what the
writer waits for. -/
def writeBound (bytes : Bytes) : Nat := 2 * bytes.length + 2

end SerialLine.Host
