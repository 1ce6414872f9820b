import SerialLine.Settings.Baud

/-!
# SerialLine.Settings.Configuration — the settings of a line

A `Configuration` says how characters are framed, checked and held back. It knows nothing of
the terminal's flag words: `SerialLine.Terminal.Codec` maps one onto the other.
-/

namespace SerialLine

/-- The number of data bits of a character. -/
inductive DataBits where
  | five | six | seven | eight
deriving DecidableEq, Repr

/-- The number of stop bits after a character. One and a half are programmed as two. -/
inductive StopBits where
  | one | onePointFive | two
deriving DecidableEq, Repr

/-- How the parity bit is formed. -/
inductive Parity where
  | none | odd | even | mark | space
deriving DecidableEq, Repr

/-- How a receiver holds its sender back. -/
inductive FlowControl where
  | none | hardware | software
deriving DecidableEq, Repr

namespace DataBits

/-- Every number of data bits, fewest first. -/
def all : List DataBits := [five, six, seven, eight]

/-- The number itself. -/
def count : DataBits → Nat
  | five => 5 | six => 6 | seven => 7 | eight => 8

/-- The word that stands for it in files. -/
def word : DataBits → String
  | five => "five" | six => "six" | seven => "seven" | eight => "eight"

/-- The data bits of a number from five to eight; any other is an invalid setting. -/
def ofCount (n : Nat) : Outcome DataBits :=
  match all.find? (·.count == n) with
  | some bits => .ok bits
  | Option.none => .error (.invalidSetting "data_bits" s!"{n} is not one of 5, 6, 7, 8")

end DataBits

namespace StopBits

/-- Every number of stop bits, fewest first. -/
def all : List StopBits := [one, onePointFive, two]

/-- The word that stands for it in files. -/
def word : StopBits → String
  | one => "one" | onePointFive => "one_point_five" | two => "two"

/-- What a terminal reports after the number was programmed. -/
def programmed : StopBits → StopBits
  | one => one
  | onePointFive => two
  | two => two

end StopBits

namespace Parity

/-- Every way to form the parity bit. -/
def all : List Parity := [none, odd, even, mark, space]

/-- The word that stands for it in files. -/
def word : Parity → String
  | none => "none" | odd => "odd" | even => "even" | mark => "mark" | space => "space"

/-- Whether there is a parity bit. -/
def enabled : Parity → Bool
  | none => false
  | _ => true

end Parity

namespace FlowControl

/-- Every way to hold a sender back. -/
def all : List FlowControl := [none, hardware, software]

/-- The word that stands for it in files. -/
def word : FlowControl → String
  | none => "none" | hardware => "hardware" | software => "software"

end FlowControl

/-- The customary character that resumes a sender. -/
def defaultXon : UInt8 := 0x11

/-- The customary character that holds a sender back. -/
def defaultXoff : UInt8 := 0x13

/-- The settings of a line. -/
structure Configuration where
  /-- The line speed. -/
  baud : Baud := .b9600
  /-- The data bits of a character. -/
  dataBits : DataBits := .eight
  /-- The stop bits after a character. -/
  stopBits : StopBits := .one
  /-- How the parity bit is formed. -/
  parity : Parity := .none
  /-- How a sender is held back. -/
  flowControl : FlowControl := .none
  /-- The character that resumes a sender under software flow control. -/
  xonChar : UInt8 := defaultXon
  /-- The character that holds a sender back under software flow control. -/
  xoffChar : UInt8 := defaultXoff
  /-- Marks bytes with parity errors in the stream, where they would be dropped otherwise. -/
  reportParityErrors : Bool := false
  /-- Signals that the input queue ran over. -/
  reportBufferOverrun : Bool := false
  /-- The least number of bytes that a read waits for. -/
  minReadLength : UInt8 := 1
deriving DecidableEq

namespace Configuration

/-- Eight data bits, no parity, one stop bit and no flow control at a given speed. -/
def ofBaud (baud : Baud) : Configuration := { baud }

/-- The same settings with the speed taken from the table where it is listed. -/
def normalized (c : Configuration) : Configuration := { c with baud := c.baud.normalized }

/-- Two configurations agree when they set the same speed and are equal elsewhere. -/
def agrees (a b : Configuration) : Bool := a.normalized == b.normalized

/-- What must hold between the fields: parity errors are reported only on a line with parity,
and software flow control needs two different characters. -/
def validate (c : Configuration) : Outcome Unit :=
  if c.reportParityErrors && !c.parity.enabled then
    .error .parityNotEnabled
  else if c.flowControl == .software && c.xonChar == c.xoffChar then
    .error (.invalidSetting "xon_char" "XON and XOFF must be different characters")
  else
    .ok ()

end Configuration

end SerialLine
