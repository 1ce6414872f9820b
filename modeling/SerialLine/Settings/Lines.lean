import SerialLine.Settings.Configuration

/-!
# SerialLine.Settings.Lines — modem lines, queues and counters

What can be asked of an open line beside its settings: which modem lines are asserted, how
many bytes wait in its queues, and how often each kind of interrupt has occurred.
-/

namespace SerialLine

/-- Which modem lines are asserted. -/
structure LineStatus where
  cts : Bool := false
  dsr : Bool := false
  carrierDetect : Bool := false
  ring : Bool := false
  rts : Bool := false
  dtr : Bool := false
deriving DecidableEq, Repr

/-- The two lines that the host drives. -/
inductive ModemLine where
  | rts | dtr
deriving DecidableEq, Repr

/-- Bytes that wait in the queues of the driver. -/
structure ByteCounts where
  input : Nat := 0
  output : Nat := 0
deriving DecidableEq, Repr

/-- Which queues to empty. -/
inductive QueueSelector where
  | input | output | both
deriving DecidableEq, Repr

/-- The queue selection for each pair of wishes; wishing for neither selects nothing. -/
def QueueSelector.ofWishes? : Bool → Bool → Option QueueSelector
  | true, true => some .both
  | true, false => some .input
  | false, true => some .output
  | false, false => none

/-- How often each kind of interrupt has occurred. -/
structure InterruptCounts where
  cts : Nat := 0
  dsr : Nat := 0
  ring : Nat := 0
  carrierDetect : Nat := 0
  rx : Nat := 0
  tx : Nat := 0
  frame : Nat := 0
  overrun : Nat := 0
  parity : Nat := 0
  brk : Nat := 0
  bufOverrun : Nat := 0
deriving DecidableEq, Repr

end SerialLine
