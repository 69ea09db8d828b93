import Chip8.Binary64
import Chip8.Bounds
import Chip8.CommandLine.Arguments
import Chip8.CommandLine.Help
import Chip8.CommandLine.Outcome
import Chip8.CommandLine.Report
import Chip8.CommandLine.Session
import Chip8.CommandLine.Settings
import Chip8.CommandLine.Switch
import Chip8.Digest.Sha1
import Chip8.Display
import Chip8.Display.Picture
import Chip8.Fault
import Chip8.Font
import Chip8.Host.Basic
import Chip8.Host.Frontend
import Chip8.Host.Recorder
import Chip8.Instruction
import Chip8.Keyboard.Layout
import Chip8.Keyboard.Poller
import Chip8.Keypad
import Chip8.LogRecord
import Chip8.Machine.Basic
import Chip8.Machine.Step
import Chip8.Machine.Trial
import Chip8.Main
import Chip8.Memory
import Chip8.Proofs.Display.Sprite
import Chip8.Proofs.Machine.Abstraction
import Chip8.Proofs.Machine.CallStack
import Chip8.Proofs.Machine.Effect
import Chip8.Proofs.Machine.Fault
import Chip8.Proofs.Machine.Invariant
import Chip8.Proofs.Machine.KeyWait
import Chip8.Proofs.Machine.Request
import Chip8.Proofs.Machine.Soundness
import Chip8.Proofs.Machine.Step
import Chip8.Proofs.Memory.Block
import Chip8.Proofs.Opcode.Access
import Chip8.Proofs.Opcode.Execution
import Chip8.Proofs.Opcode.Form
import Chip8.Proofs.Opcode.Frame
import Chip8.Proofs.Opcode.Range
import Chip8.Proofs.Opcode.Stack
import Chip8.Proofs.Opcode.Table
import Chip8.Proofs.Opcode.View
import Chip8.Proofs.Registers.Transfer
import Chip8.Random.Source
import Chip8.Random.Twister
import Chip8.Registers
import Chip8.Rom.Basic
import Chip8.Rom.FileTree
import Chip8.Rom.Files
import Chip8.Rom.Launch
import Chip8.Run.Cycle
import Chip8.Run.Meter
import Chip8.Run.Pace
import Chip8.Run.Runner
import Chip8.Run.Script
import Chip8.Terminal.Basic
import Chip8.Terminal.Screen
import Chip8.Text.Digit
import Chip8.Text.Hex
import Chip8.Text.Integer
import Chip8.Text.Printable
import Chip8.Text.Quoted
import Chip8.Text.Upper
import Chip8.Timers
import Chip8.Trace
import Chip8.Window.Basic
import Chip8.Window.Canvas
import Chip8.Window.Input
import Chip8.Word
import Chip8.Proofs.Machine.Diagnostics
import Chip8.Proofs.Run.FreshPress
import Chip8.Proofs.Host.Action
import Chip8.Proofs.Run.Tick
import Chip8.Proofs.Run.Twins
import Chip8.Proofs.Run.Watched
import Chip8.Proofs.Run.Picture
import Chip8.Proofs.Machine.Notice
import Chip8.Proofs.Machine.TraceLine
import Chip8.Proofs.Machine.IndexWidth
import Chip8.Proofs.Machine.Countdown
import Chip8.Proofs.Run.Ending
import Chip8.Proofs.Machine.Dialect
import Chip8.Proofs.Machine.Draws
import Chip8.Proofs.Run.Beats
import Chip8.Proofs.Run.Pacing
import Chip8.Proofs.Run.Journal
import Chip8.Proofs.Display.Packing
import Chip8.Proofs.Display.Views
import Chip8.Proofs.Display.Frontends
import Chip8.Proofs.Terminal.Opening
import Chip8.Proofs.Memory.Image
import Chip8.Proofs.Memory.LastWrite
import Chip8.Proofs.Rom.FirstWord
import Chip8.Proofs.Display.Blit
import Chip8.Proofs.Display.Dots
import Chip8.Proofs.Display.Drawings
import Chip8.Proofs.History
import Chip8.Proofs.Window.Canvas
import Chip8.Proofs.Window.Keys
import Chip8.Proofs.Window.Moments
import Chip8.Proofs.Window.Session
import Chip8.Proofs.Machine.SavedRegisters
import Chip8.Proofs.Rom.Loading
import Chip8.Proofs.Keyboard.Codes
import Chip8.Proofs.Keyboard.Polling
import Chip8.Proofs.Keyboard.LatePress
import Chip8.Proofs.Trace.Line
import Chip8.Proofs.Trace.Record
import Chip8.Proofs.CommandLine.Diagnosis
import Chip8.Proofs.Run.SpeedWindows
import Chip8.Proofs.Terminal.Calls
import Chip8.Proofs.Terminal.Forgiving
import Chip8.Proofs.Terminal.Closing
import Chip8.Proofs.Terminal.Runs
