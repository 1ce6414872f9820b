import SerialLine.Settings.Json
import SerialLine.Terminal.Scripted
import SerialLine.Transfer.Scripted
import SerialLine.Devices
import SerialLine.Config.Json
import SerialLine.Config.Loader
import SerialLine.Host.Open
import SerialLine.Listener.Traffic
import SerialLine.Monitor.Call
import SerialLine.Command.Session
import SerialLine.Main
import SerialLine.Proofs.Terminal.Fields
import SerialLine.Proofs.Terminal.RoundTrip
import SerialLine.Proofs.Terminal.ModemLines
import SerialLine.Proofs.Listener.Registry
import SerialLine.Proofs.Listener.Threads
import SerialLine.Proofs.Listener.Interleaving
import SerialLine.Proofs.Listener.Custody
import SerialLine.Proofs.Listener.Safety
import SerialLine.Proofs.Listener.Steps
import SerialLine.Proofs.Listener.Reclaim
import SerialLine.Proofs.Listener.Pending
import SerialLine.Proofs.Listener.WakeUp
import SerialLine.Proofs.Listener.Sticky
import SerialLine.Proofs.Listener.DataStream
import SerialLine.Proofs.Transfer.Stream
import SerialLine.Proofs.Transfer.Reading
import SerialLine.Proofs.Transfer.Sending
import SerialLine.Proofs.Transfer.Writing
import SerialLine.Proofs.Transfer.Bounds
import SerialLine.Proofs.Transfer.Interruption
import SerialLine.Proofs.Listener.Dealings
import SerialLine.Proofs.Monitor.Table
import SerialLine.Proofs.Monitor.Steps
import SerialLine.Proofs.Monitor.Overlap
import SerialLine.Proofs.Listener.FailedStart
import SerialLine.Proofs.Host.Faults
import SerialLine.Proofs.Terminal.Line
import SerialLine.Proofs.Terminal.Reconfiguring
import SerialLine.Proofs.Terminal.ReadBack
import SerialLine.Proofs.Terminal.RawMode
import SerialLine.Proofs.Listener.Gate
import SerialLine.Proofs.Port.Client
import SerialLine.Proofs.Port.Shared
import SerialLine.Proofs.Port.Serial
import SerialLine.Proofs.Listener.Stale
import SerialLine.Proofs.Port.Claim
import SerialLine.Proofs.Terminal.Applying
import SerialLine.Proofs.Listener.Alone
import SerialLine.Proofs.Listener.FailedRegister
import SerialLine.Proofs.Listener.Flag
import SerialLine.Proofs.Listener.FailedStop
import SerialLine.Proofs.Monitor.FailedStop
import SerialLine.Proofs.Listener.Handling
import SerialLine.Proofs.Listener.Draining
import SerialLine.Proofs.Listener.HangUp
import SerialLine.Proofs.Listener.Talk
import SerialLine.Proofs.Listener.Armed
import SerialLine.Proofs.Listener.Retry
import SerialLine.Proofs.Listener.Ending
import SerialLine.Proofs.Listener.Returning
import SerialLine.Proofs.Terminal.Overwriting
import SerialLine.Proofs.Terminal.HardwareFlow
import SerialLine.Proofs.Terminal.KernelSpeed
import SerialLine.Proofs.Transfer.Gathering
import SerialLine.Proofs.Transfer.Resurfacing
import SerialLine.Proofs.Listener.Answering
import SerialLine.Proofs.Listener.Sampling
import SerialLine.Proofs.Listener.Changes
import SerialLine.Proofs.Monitor.Presence
import SerialLine.Proofs.Listener.Launch
import SerialLine.Proofs.Listener.FailedLaunch
import SerialLine.Proofs.Listener.RegisterParts
import SerialLine.Proofs.Listener.Sweep
import SerialLine.Proofs.Listener.TakingDown
import SerialLine.Proofs.Listener.ShutdownEffect
import SerialLine.Proofs.Text.Utf8
import SerialLine.Proofs.Host.Files
import SerialLine.Proofs.Toml.Quoted
import SerialLine.Proofs.Toml.Values
import SerialLine.Proofs.Toml.Documents
import SerialLine.Proofs.Toml.Range
import SerialLine.Proofs.Config.Overlay
import SerialLine.Proofs.Config.RoundTrip
import SerialLine.Proofs.Config.Saving
import SerialLine.Proofs.Config.Reloading
import SerialLine.Proofs.Text.Order
import SerialLine.Proofs.Devices.Listing
import SerialLine.Proofs.Port.Invalid
import SerialLine.Proofs.Config.Defaults
import SerialLine.Proofs.Json.Grammar
import SerialLine.Proofs.Json.Scalars
import SerialLine.Proofs.Json.Tokens
import SerialLine.Proofs.Json.Objects
import SerialLine.Proofs.Json.Writing
import SerialLine.Proofs.Settings.Partial
