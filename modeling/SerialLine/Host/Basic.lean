import SerialLine.Host.FileTree
import SerialLine.Host.Pty
import SerialLine.Terminal.Calls

/-!
# SerialLine.Host.Basic — the machine that a port lives on

A host has open descriptors, a file tree, an environment and a schedule of faults: calls that
are to fail the next time they are made. A descriptor may also be given modem lines, interrupt
counters and queue lengths that it would not have by itself.
-/

namespace SerialLine

/-- The calls that a host can be told to fail. -/
inductive SystemCall where
  | TIOCMGET | TIOCMSET | TIOCGICOUNT | FIONREAD | TIOCOUTQ | TIOCEXCL | TIOCNXCL
  | TCGETS2 | TCSETS2 | TIOCSBRK | TIOCCBRK
  | tcdrain | tcflush
  /-- Creating a waker. -/
  | eventfd
  /-- Waking through a waker. -/
  | wake
  /-- Creating a thread. -/
  | thread
  /-- The wait of a data listener for its descriptor. -/
  | pollDescriptor
  /-- The wait for a waker. -/
  | pollWaker
  /-- The wait for room to write. -/
  | pollWritable
deriving DecidableEq, Repr

/-- The name of a call. -/
def SystemCall.name : SystemCall → String
  | TIOCMGET => "TIOCMGET" | TIOCMSET => "TIOCMSET" | TIOCGICOUNT => "TIOCGICOUNT"
  | FIONREAD => "FIONREAD" | TIOCOUTQ => "TIOCOUTQ" | TIOCEXCL => "TIOCEXCL"
  | TIOCNXCL => "TIOCNXCL" | TCGETS2 => "TCGETS2" | TCSETS2 => "TCSETS2"
  | TIOCSBRK => "TIOCSBRK" | TIOCCBRK => "TIOCCBRK" | tcdrain => "tcdrain"
  | tcflush => "tcflush" | eventfd => "eventfd" | wake => "wake" | thread => "thread"
  | pollDescriptor => "poll_fd" | pollWaker => "poll_wake" | pollWritable => "poll_out"

/-- Every call that can be told to fail. -/
def SystemCall.all : List SystemCall :=
  [TIOCMGET, TIOCMSET, TIOCGICOUNT, FIONREAD, TIOCOUTQ, TIOCEXCL, TIOCNXCL, TCGETS2, TCSETS2,
   TIOCSBRK, TIOCCBRK, tcdrain, tcflush, eventfd, wake, thread, pollDescriptor, pollWaker,
   pollWritable]

/-- The call of a name. -/
def SystemCall.ofName? (name : String) : Option SystemCall := all.find? (·.name == name)

/-- What a failure of the call names as the operation. -/
def SystemCall.operation : SystemCall → String
  | tcdrain => "tcdrain" | tcflush => "tcflush" | eventfd => "eventfd" | wake => "wake"
  | thread => "spawn" | pollDescriptor | pollWaker | pollWritable => "poll"
  | c => "ioctl(" ++ c.name ++ ")"

/-- Properties given to a descriptor that it would not have by itself. -/
structure Modem where
  bits? : Option ModemWord := none
  /-- Interrupt counters as the system fills them in; they may be negative. -/
  counts? : Option (List Int) := none
  /-- The lengths of both queues; they may be negative. -/
  queues? : Option (Int × Int) := none

/-- A stream of bytes from one holder to another. -/
structure Channel where
  queued : Bytes := []
  /-- The most bytes that wait in it. -/
  capacity? : Option Nat := none
  readerOpen : Bool := true
  writerOpen : Bool := true
  /-- Whether the reader takes everything as soon as the writer has to wait. -/
  eager : Bool := false
  /-- What an eager reader has taken. -/
  taken : Bytes := []
  /-- Whether the connection was reset, which the next read after the queue reports. -/
  reset : Bool := false

/-- What a descriptor stands for. -/
inductive Endpoint where
  /-- An end of a pipe or of a socket pair, with the channels that it reads and writes. -/
  | stream (input? output? : Option Nat) (socket : Bool)
  | terminal (number : Nat)
  | null
  | file
deriving DecidableEq

/-- A machine. -/
structure Host where
  descriptors : List (Fd × Endpoint) := []
  channels : List (Nat × Channel) := []
  terminals : List (Nat × Pty) := []
  modems : List (Fd × Modem) := []
  faults : List (SystemCall × Errno) := []
  files : FileTree := ⟨[]⟩
  /-- The working directory. -/
  cwd : Place := []
  environment : List (String × Bytes) := []
  /-- The home directory of the account, for an environment that names none. -/
  accountHome : Path := .ofText "/root"

namespace Host

/-- Replaces the value of a key, or adds it. -/
def assign {κ α : Type} [BEq κ] (key : κ) (value : α) (entries : List (κ × α)) : List (κ × α) :=
  (key, value) :: entries.filter (!·.1 == key)

/-! ## Faults -/

/-- Takes the first fault of a call off the schedule. -/
def takeFrom (c : SystemCall) :
    List (SystemCall × Errno) → Option Errno × List (SystemCall × Errno)
  | [] => (none, [])
  | (c', code) :: rest =>
    if c' = c then (some code, rest)
    else
      let (found, rest) := takeFrom c rest
      (found, (c', code) :: rest)

/-- Takes the next fault of a call. -/
def takeFault (c : SystemCall) (h : Host) : Option Errno × Host :=
  let (found, faults) := takeFrom c h.faults
  (found, { h with faults })

/-- Whether a call has a fault to come. -/
def hasFault (c : SystemCall) (h : Host) : Bool := h.faults.any (·.1 == c)

/-- Adds faults to the schedule. -/
def addFaults (faults : List (SystemCall × Errno)) (h : Host) : Host :=
  { h with faults := h.faults ++ faults }

/-- Drops the interruptions that a call meets before anything else. -/
def skipInterruptions (c : SystemCall) (h : Host) : Host :=
  go h.faults.length h
where
  /-- Drops at most this many interruptions. -/
  go : Nat → Host → Host
    | 0, h => h
    | n + 1, h =>
      match h.takeFault c with
      | (some code, h') => if code = Errno.EINTR then go n h' else h
      | (none, _) => h

/-! ## Descriptors -/

/-- What a descriptor stands for. -/
def endpoint? (h : Host) (fd : Fd) : Option Endpoint := h.descriptors.lookup fd

/-- A channel by its number. -/
def channel (h : Host) (id : Nat) : Channel := (h.channels.lookup id).getD {}

/-- Replaces a channel. -/
def setChannel (id : Nat) (c : Channel) (h : Host) : Host :=
  { h with channels := assign id c h.channels }

/-- A terminal by its number. -/
def pty (h : Host) (number : Nat) : Pty := (h.terminals.lookup number).getD .fresh

/-- Replaces a terminal. -/
def setPty (number : Nat) (t : Pty) (h : Host) : Host :=
  { h with terminals := assign number t h.terminals }

/-- The properties given to a descriptor. -/
def modem (h : Host) (fd : Fd) : Modem := (h.modems.lookup fd).getD {}

/-- Replaces the properties given to a descriptor. -/
def setModem (fd : Fd) (m : Modem) (h : Host) : Host :=
  { h with modems := assign fd m h.modems }

/-- A number that no channel has. -/
def freshChannel (h : Host) : Nat := h.channels.foldl (fun n c => max n (c.1 + 1)) 0

/-- Opens a stream at a descriptor, whose peer is held outside. -/
def openStream (fd : Fd) (reads writes socket : Bool) (h : Host) : Host :=
  let first := h.freshChannel
  let input? := if reads then some first else none
  let output? := if writes then some (first + 1) else none
  { h with
    channels := (first, {}) :: (first + 1, {}) :: h.channels
    descriptors := assign fd (.stream input? output? socket) h.descriptors }

/-- Opens a terminal at a descriptor. -/
def openTerminal (fd : Fd) (number : Nat) (h : Host) : Host :=
  { h with descriptors := assign fd (.terminal number) h.descriptors }

/-- Closes a descriptor. -/
def close (fd : Fd) (h : Host) : Host :=
  { h with descriptors := h.descriptors.filter (!·.1 == fd) }

/-! ## The far ends -/

/-- The channel that a descriptor reads. -/
def inputOf? (h : Host) (fd : Fd) : Option Nat :=
  match h.endpoint? fd with
  | some (.stream input? _ _) => input?
  | _ => none

/-- The channel that a descriptor writes. -/
def outputOf? (h : Host) (fd : Fd) : Option Nat :=
  match h.endpoint? fd with
  | some (.stream _ output? _) => output?
  | _ => none

/-- The far end of a descriptor writes. -/
def peerWrite (fd : Fd) (bytes : Bytes) (h : Host) : CallOutcome Nat × Host :=
  match h.endpoint? fd with
  | some (.terminal n) => (.ok bytes.length, h.setPty n ((h.pty n).receive bytes))
  | some (.stream (some id) _ _) =>
    let c := h.channel id
    if !c.writerOpen then (.error (.errno .EBADF), h)
    else if !c.readerOpen then (.error (.errno .EPIPE), h)
    else (.ok bytes.length, h.setChannel id { c with queued := c.queued ++ bytes })
  | _ => (.error (.errno .EBADF), h)

/-- The far end of a descriptor reads at most `max` bytes. -/
def peerRead (fd : Fd) (max : Nat) (h : Host) : CallOutcome Bytes × Host :=
  match h.endpoint? fd with
  | some (.terminal n) =>
    let t := h.pty n
    (.ok (t.output.take max), h.setPty n { t with output := t.output.drop max })
  | some (.stream _ (some id) _) =>
    let c := h.channel id
    (.ok (c.queued.take max), h.setChannel id { c with queued := c.queued.drop max })
  | _ => (.error (.errno .EBADF), h)

/-- The far end of a descriptor closes. A socket that closes with unread bytes resets the
connection. -/
def peerClose (fd : Fd) (h : Host) : Host :=
  let unread := match h.outputOf? fd with
    | some id => (h.channel id).readerOpen && !(h.channel id).queued.isEmpty
    | none => false
  let h := match h.inputOf? fd with
    | some id =>
      let c := h.channel id
      h.setChannel id { c with writerOpen := false, reset := c.reset || unread }
    | none => h
  match h.outputOf? fd with
  | some id => h.setChannel id { h.channel id with readerOpen := false }
  | none => h

/-- Gives the output of a descriptor the capacity of one page, with an eager reader or none. -/
def shrinkPipe (fd : Fd) (eager : Bool) (h : Host) : Host :=
  match h.outputOf? fd with
  | some id => h.setChannel id { h.channel id with capacity? := some 4096, eager, taken := [] }
  | none => h

/-- Everything that an eager reader gets of a descriptor's output. -/
def collect (fd : Fd) (h : Host) : Bytes × Host :=
  match h.outputOf? fd with
  | some id =>
    let c := h.channel id
    (c.taken ++ c.queued, h.setChannel id { c with taken := [], queued := [], eager := false })
  | none => ([], h)

/-- Puts bytes into the queue that a descriptor's own calls look at. -/
def fillQueue (fd : Fd) (bytes : Bytes) (h : Host) : Host :=
  match h.inputOf? fd, h.outputOf? fd with
  | none, some id => h.setChannel id { h.channel id with queued := bytes }
  | _, _ => (h.peerWrite fd bytes).2

/-! ## Files -/

/-- Whether a path leads to something. -/
def devicePresent (h : Host) (p : Path) : Bool := h.files.present h.cwd p

/-- The place that a path names, links apart. -/
def placeOf (h : Host) (p : Path) : Place :=
  (if p.isAbsolute then [] else h.cwd) ++ p.components

/-- Puts an entry at a path, with the directories above it. -/
def putEntry (p : Path) (e : Entry) (h : Host) : Host :=
  let place := h.placeOf p
  { h with files := (h.files.putParents place).put place e }

/-- A host with the standard directories, a working directory, and entries put in order. -/
def inDirectory (directory : Path) (entries : List (Path × Entry)) : Host :=
  let cwd := directory.components
  let files := (FileTree.standard.putParents cwd).put cwd .directory
  entries.foldl (fun h e => h.putEntry e.1 e.2) { files, cwd }

/-- Removes what a path names, with everything below it. -/
def removeEntry (p : Path) (h : Host) : Host := { h with files := h.files.remove (h.placeOf p) }

/-- Gives what a path names another path, with everything below it. -/
def moveEntry (source target : Path) (h : Host) : Host :=
  { h with files := h.files.move (h.placeOf source) (h.placeOf target) }

end Host

end SerialLine
