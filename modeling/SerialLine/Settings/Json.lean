import SerialLine.Settings.Lines
import SerialLine.Json.Value
import SerialLine.Json.Decoder

/-!
# SerialLine.Settings.Json — settings in JSON

The members of a configuration and of a line status, in the order in which they are written.
A configuration is read with its defaults for the members that are missing; a line status must
be complete.
-/

namespace SerialLine

open Json (Value FieldReader Kind)

/-- The choice among a list of values that each have a word. -/
def choiceOf {α σ : Type} (all : List α) (word : α → String) (set : α → σ → σ) : Kind σ :=
  .choice fun w => (all.find? (word · == w)).map set

namespace Configuration

/-- The members of a configuration. -/
def members (c : Configuration) : List (String × Value) :=
  [("baud", .number c.baud.rate.toNat),
   ("data_bits", .string c.dataBits.word),
   ("stop_bits", .string c.stopBits.word),
   ("parity", .string c.parity.word),
   ("flow_control", .string c.flowControl.word),
   ("xon_char", .number c.xonChar.toNat),
   ("xoff_char", .number c.xoffChar.toNat),
   ("report_parity_errors", .bool c.reportParityErrors),
   ("report_buffer_overrun", .bool c.reportBufferOverrun),
   ("min_read_length", .number c.minReadLength.toNat)]

/-- A configuration as a JSON value. -/
def toJson (c : Configuration) : Value := .object c.members

/-- How each member of a configuration is read. -/
def jsonFields : List (FieldReader Configuration) :=
  [{ name := "baud", kind := .natural (UInt32.size - 1) fun n c =>
       { c with baud := .ofRate (UInt32.ofNat n) } },
   { name := "data_bits", kind := choiceOf DataBits.all DataBits.word fun v c =>
       { c with dataBits := v } },
   { name := "stop_bits", kind := choiceOf StopBits.all StopBits.word fun v c =>
       { c with stopBits := v } },
   { name := "parity", kind := choiceOf Parity.all Parity.word fun v c =>
       { c with parity := v } },
   { name := "flow_control", kind := choiceOf FlowControl.all FlowControl.word fun v c =>
       { c with flowControl := v } },
   { name := "xon_char", kind := .natural 255 fun n c => { c with xonChar := UInt8.ofNat n } },
   { name := "xoff_char", kind := .natural 255 fun n c => { c with xoffChar := UInt8.ofNat n } },
   { name := "report_parity_errors", kind := .flag fun b c =>
       { c with reportParityErrors := b } },
   { name := "report_buffer_overrun", kind := .flag fun b c =>
       { c with reportBufferOverrun := b } },
   { name := "min_read_length", kind := .natural 255 fun n c =>
       { c with minReadLength := UInt8.ofNat n } }]

/-- Reads a configuration from a JSON text. -/
def ofJson? (text : String) : Except Json.Fault Configuration := Json.decode jsonFields {} text

end Configuration

namespace LineStatus

/-- A line status as a JSON value. -/
def toJson (s : LineStatus) : Value :=
  .object
    [("cts", .bool s.cts), ("dsr", .bool s.dsr), ("carrier_detect", .bool s.carrierDetect),
     ("ring", .bool s.ring), ("rts", .bool s.rts), ("dtr", .bool s.dtr)]

/-- How each member of a line status is read. -/
def jsonFields : List (FieldReader LineStatus) :=
  [{ name := "cts", kind := .flag fun b s => { s with cts := b }, required := true },
   { name := "dsr", kind := .flag fun b s => { s with dsr := b }, required := true },
   { name := "carrier_detect", kind := .flag fun b s => { s with carrierDetect := b },
     required := true },
   { name := "ring", kind := .flag fun b s => { s with ring := b }, required := true },
   { name := "rts", kind := .flag fun b s => { s with rts := b }, required := true },
   { name := "dtr", kind := .flag fun b s => { s with dtr := b }, required := true }]

/-- Reads a line status from a JSON text. -/
def ofJson? (text : String) : Except Json.Fault LineStatus := Json.decode jsonFields {} text

end LineStatus

/-- Byte counts as a JSON value. -/
def ByteCounts.toJson (b : ByteCounts) : Value :=
  .object [("input", .number b.input), ("output", .number b.output)]

/-- Interrupt counts as a JSON value. -/
def InterruptCounts.toJson (n : InterruptCounts) : Value :=
  .object
    [("cts", .number n.cts), ("dsr", .number n.dsr), ("ring", .number n.ring),
     ("carrier_detect", .number n.carrierDetect), ("rx", .number n.rx), ("tx", .number n.tx),
     ("frame", .number n.frame), ("overrun", .number n.overrun), ("parity", .number n.parity),
     ("brk", .number n.brk), ("buf_overrun", .number n.bufOverrun)]

end SerialLine
