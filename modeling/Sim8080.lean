import Sim8080.Codec.Checksum
import Sim8080.Codec.Inflate
import Sim8080.Archive.Zip
import Sim8080.Decimal.Shortest
import Sim8080.Decimal.Nearest
import Sim8080.Text.Numeral
import Sim8080.Text.Quoted
import Sim8080.Args.Spec
import Sim8080.Args.Usage
import Sim8080.Text.Similarity
import Sim8080.Args.Parse
import Sim8080.Bus
import Sim8080.Clock
import Sim8080.Codec.Zlib
import Sim8080.Files
import Sim8080.Command.Program
import Sim8080.Decimal.Text
import Sim8080.Json.Value
import Sim8080.Json.Decode
import Sim8080.Memory
import Sim8080.Snapshot.Region
import Sim8080.Toml.Document
import Sim8080.Toml.Parse
import Sim8080.Command.Settings
import Sim8080.Toml.Settings
import Sim8080.Device.Registry
import Sim8080.Cpu.Flags
import Sim8080.Cpu.Word
import Sim8080.Cpu.Registers
import Sim8080.Cpu.Instruction
import Sim8080.Cpu.Alu
import Sim8080.Request
import Sim8080.Cpu.Execute
import Sim8080.Device.Console
import Sim8080.Device.Scripted
import Sim8080.Device.Timer
import Sim8080.Device.Basic
import Sim8080.Json.Read
import Sim8080.Options
import Sim8080.Cpu.Saved
import Sim8080.Json.Write
import Sim8080.Snapshot.Image
import Sim8080.Snapshot.Document
import Sim8080.Json.Derived
import Sim8080.Machine.Context
import Sim8080.Builtin
import Sim8080.Machine.Run
import Sim8080.Machine.Basic
import Sim8080.Memory.Load
import Sim8080.Command.Session
import Sim8080.Json.Access
import Sim8080.Json.Schema
import Sim8080.Machine.Cpm
import Sim8080.Text.Duration
import Sim8080.Main
import Sim8080.Script.Settings
import Sim8080.Trace
import Sim8080.Script.Probe
import Sim8080.Script.Snapshot
import Sim8080.Script.Command
import Sim8080.Script.Machine
import Sim8080.Script.Cpm
import Sim8080.Script.Tables
import Sim8080.Validation.Case
import Sim8080.Validation.File
import Sim8080.Script.Vector
import Sim8080.Proofs.StatusByte
import Sim8080.Proofs.Datasheet
import Sim8080.Proofs.Arithmetic
import Sim8080.Proofs.Symbolic
import Sim8080.Proofs.Conformance
import Sim8080.Proofs.Frame
import Sim8080.Proofs.Interrupts
import Sim8080.Proofs.StatusInvariant
import Sim8080.Proofs.RunLoop
import Sim8080.Proofs.PollCadence
import Sim8080.Proofs.PhaseTracking
import Sim8080.Proofs.MachineSettings
import Sim8080.Proofs.SnapshotRoundTrip
import Sim8080.Proofs.Subroutines
import Sim8080.Proofs.SystemCalls
import Sim8080.Proofs.SnapshotLoading
import Sim8080.Proofs.BackgroundRuns
import Sim8080.Proofs.DecimalAddition
import Sim8080.Proofs.OptionsFields
import Sim8080.Proofs.OptionsCodec
import Sim8080.Proofs.OptionsMerge
import Sim8080.Proofs.HookTransparency
import Sim8080.Proofs.OptionsRoundTrip
import Sim8080.Proofs.ClockResolution
import Sim8080.Proofs.TimerDevice
import Sim8080.Proofs.PortWrites
import Sim8080.Proofs.ConsoleRequests
