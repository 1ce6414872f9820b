import SerialLine.Config.Basic
import SerialLine.Settings.Json

/-!
# SerialLine.Config.Json — configurations as values

The value of a configuration has the sections and keys of its file.
-/

namespace SerialLine

/-- A configuration as a value. -/
def Config.toJson (c : Config) : Json.Value :=
  let number (n : UInt64) : Json.Value := .number n.toNat
  .object
    [("registry", .object [("capacity", number c.registry.capacity)]),
     ("listener", .object
       [("read_chunk_size", number c.listener.readChunkSize),
        ("line_poll_interval_ms", number c.listener.linePollIntervalMs)]),
     ("monitor", .object
       [("poll_interval_ms", number c.monitor.pollIntervalMs),
        ("capacity", number c.monitor.capacity)]),
     ("defaults", .object
       [("exclusive", .bool c.defaults.exclusive), ("port", c.defaults.port.toJson)]),
     ("logging", .object
       [("level", .string c.logging.level), ("format", .string c.logging.format.word)])]

end SerialLine
