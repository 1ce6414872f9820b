import SerialLine.Config.Basic
import SerialLine.Toml.Document
import SerialLine.Toml.Record
import SerialLine.Toml.Printer

/-!
# SerialLine.Config.Toml — the configuration as a document

The keys of every section, for reading and for writing. A document needs only the keys that it
changes; a written one holds them all.
-/

namespace SerialLine.Config

open Toml (FieldReader Scalar Section)

/-- The largest value of a key that counts something. -/
def maxCount : Nat := UInt64.size - 1

/-- The keys of `defaults.port`. -/
def portFields : List (FieldReader Config) :=
  [.natural "baud" (UInt32.size - 1) fun n c =>
     { c with defaults.port.baud := .ofRate (UInt32.ofNat n) },
   .choice "data_bits" DataBits.all DataBits.word fun v c =>
     { c with defaults.port.dataBits := v },
   .choice "stop_bits" StopBits.all StopBits.word fun v c =>
     { c with defaults.port.stopBits := v },
   .choice "parity" Parity.all Parity.word fun v c => { c with defaults.port.parity := v },
   .choice "flow_control" FlowControl.all FlowControl.word fun v c =>
     { c with defaults.port.flowControl := v },
   .natural "xon_char" 255 fun n c => { c with defaults.port.xonChar := UInt8.ofNat n },
   .natural "xoff_char" 255 fun n c => { c with defaults.port.xoffChar := UInt8.ofNat n },
   .flag "report_parity_errors" fun b c => { c with defaults.port.reportParityErrors := b },
   .flag "report_buffer_overrun" fun b c => { c with defaults.port.reportBufferOverrun := b },
   .natural "min_read_length" 255 fun n c =>
     { c with defaults.port.minReadLength := UInt8.ofNat n }]

/-- The sections and their keys. -/
def fields : List (FieldReader Config) :=
  [.record "registry"
     [.natural "capacity" maxCount fun n c => { c with registry.capacity := UInt64.ofNat n }],
   .record "listener"
     [.natural "read_chunk_size" maxCount fun n c =>
        { c with listener.readChunkSize := UInt64.ofNat n },
      .natural "line_poll_interval_ms" maxCount fun n c =>
        { c with listener.linePollIntervalMs := UInt64.ofNat n }],
   .record "monitor"
     [.natural "poll_interval_ms" maxCount fun n c =>
        { c with monitor.pollIntervalMs := UInt64.ofNat n },
      .natural "capacity" maxCount fun n c => { c with monitor.capacity := UInt64.ofNat n }],
   .record "defaults"
     [.flag "exclusive" fun b c => { c with defaults.exclusive := b },
      .record "port" portFields],
   .record "logging"
     [.text "level" fun t c => { c with logging.level := t },
      .choice "format" LogFormat.all LogFormat.word fun v c => { c with logging.format := v }]]

/-- Reads a configuration from a document. -/
def ofToml? (text : String) : Option Config := do
  let members ← Toml.Document.read? text
  Toml.readRecord fields (.table .header members) {}

/-- A key that counts something. -/
def count (name : String) (n : UInt64) : String × Scalar := (name, .natural n.toNat)

/-- A key that is one of several words. -/
def word (name w : String) : String × Scalar := (name, .text w)

/-- The sections of a configuration, complete. -/
def sections (c : Config) : List Section :=
  let port := c.defaults.port
  [{ header := ["registry"], entries := [count "capacity" c.registry.capacity] },
   { header := ["listener"]
     entries := [count "read_chunk_size" c.listener.readChunkSize,
       count "line_poll_interval_ms" c.listener.linePollIntervalMs] },
   { header := ["monitor"]
     entries := [count "poll_interval_ms" c.monitor.pollIntervalMs,
       count "capacity" c.monitor.capacity] },
   { header := ["defaults"], entries := [("exclusive", .flag c.defaults.exclusive)] },
   { header := ["defaults", "port"]
     entries := [("baud", .natural port.baud.rate.toNat),
       word "data_bits" port.dataBits.word,
       word "stop_bits" port.stopBits.word,
       word "parity" port.parity.word,
       word "flow_control" port.flowControl.word,
       ("xon_char", .natural port.xonChar.toNat),
       ("xoff_char", .natural port.xoffChar.toNat),
       ("report_parity_errors", .flag port.reportParityErrors),
       ("report_buffer_overrun", .flag port.reportBufferOverrun),
       ("min_read_length", .natural port.minReadLength.toNat)] },
   { header := ["logging"]
     entries := [word "level" c.logging.level, word "format" c.logging.format.word] }]

/-- The document of a configuration; `none` if a count is too large for one. -/
def toToml? (c : Config) : Option String := Toml.written? c.sections

end SerialLine.Config
