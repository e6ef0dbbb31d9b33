import JogShuttle.CommandLine
import JogShuttle.Controller
import JogShuttle.Debug
import JogShuttle.Device
import JogShuttle.Device.Find
import JogShuttle.Device.Listener
import JogShuttle.Display
import JogShuttle.Display.Focus
import JogShuttle.Display.Sink
import JogShuttle.Duration
import JogShuttle.Duration.Seconds
import JogShuttle.Duration.Text
import JogShuttle.Event
import JogShuttle.FileTree
import JogShuttle.Keysym
import JogShuttle.Keysym.Names
import JogShuttle.Log
import JogShuttle.Main
import JogShuttle.Number.Rounding
import JogShuttle.Path
import JogShuttle.Pattern
import JogShuttle.Pattern.CharTest
import JogShuttle.Pattern.Ending
import JogShuttle.Pattern.Failure
import JogShuttle.Pattern.Match
import JogShuttle.Pattern.Program
import JogShuttle.Pattern.Reader
import JogShuttle.Pattern.Syntax
import JogShuttle.Program.Check
import JogShuttle.Program.Daemon
import JogShuttle.Program.Events
import JogShuttle.Program.World
import JogShuttle.Proofs.Controller.Buttons
import JogShuttle.Proofs.Controller.Calls
import JogShuttle.Proofs.Controller.Interpretation
import JogShuttle.Proofs.Controller.KeyStrokes
import JogShuttle.Proofs.Controller.Malformed
import JogShuttle.Proofs.Controller.Motion
import JogShuttle.Proofs.Controller.Tracing
import JogShuttle.Proofs.Device.Breaks
import JogShuttle.Proofs.Device.Listening
import JogShuttle.Proofs.Device.Rereading
import JogShuttle.Proofs.Display.Classes
import JogShuttle.Proofs.Display.FirstNamed
import JogShuttle.Proofs.Display.Inputs
import JogShuttle.Proofs.Display.Memory
import JogShuttle.Proofs.Display.Walk
import JogShuttle.Proofs.Duration.Addition
import JogShuttle.Proofs.Duration.Amount
import JogShuttle.Proofs.Duration.Grammar
import JogShuttle.Proofs.Duration.Part
import JogShuttle.Proofs.Duration.RoundTrip
import JogShuttle.Proofs.Keysym.Character
import JogShuttle.Proofs.Keysym.Dictionaries
import JogShuttle.Proofs.Keysym.Naming
import JogShuttle.Proofs.Program.Check
import JogShuttle.Proofs.Program.Escapes
import JogShuttle.Proofs.Rule.Accounted
import JogShuttle.Proofs.Rule.Body
import JogShuttle.Proofs.Rule.Comment
import JogShuttle.Proofs.Rule.Definition
import JogShuttle.Proofs.Rule.Denotation
import JogShuttle.Proofs.Rule.Designator
import JogShuttle.Proofs.Rule.Failures
import JogShuttle.Proofs.Rule.Fault
import JogShuttle.Proofs.Rule.Item
import JogShuttle.Proofs.Rule.Joined
import JogShuttle.Proofs.Rule.JoinedReport
import JogShuttle.Proofs.Rule.KeyHalves
import JogShuttle.Proofs.Rule.LastResort
import JogShuttle.Proofs.Rule.Named
import JogShuttle.Proofs.Rule.Placed
import JogShuttle.Proofs.Rule.Printed
import JogShuttle.Proofs.Rule.Reached
import JogShuttle.Proofs.Rule.Reading
import JogShuttle.Proofs.Rule.Refresh
import JogShuttle.Proofs.Rule.Report
import JogShuttle.Proofs.Rule.Sections
import JogShuttle.Proofs.Rule.SingleSlots
import JogShuttle.Proofs.Rule.Spelling
import JogShuttle.Proofs.Rule.Tokens
import JogShuttle.Proofs.Rule.Tracing
import JogShuttle.Proofs.Rule.Typed
import JogShuttle.Proofs.Rule.Unchanged
import JogShuttle.Proofs.Sequence.Alternation
import JogShuttle.Proofs.Sequence.Closing
import JogShuttle.Proofs.Sequence.Emission
import JogShuttle.Proofs.Sequence.Marks
import JogShuttle.Proofs.Sequence.Modes
import JogShuttle.Proofs.Sequence.Modifiers
import JogShuttle.Proofs.Sequence.Pressed
import JogShuttle.Proofs.Sequence.Reachable
import JogShuttle.Proofs.Sequence.Settled
import JogShuttle.Proofs.Sequence.Symbols
import JogShuttle.Proofs.Sequence.TapOrder
import JogShuttle.Proofs.Sequence.Taps
import JogShuttle.Proofs.Signal.Centre
import JogShuttle.Proofs.Signal.Clash
import JogShuttle.Proofs.Signal.Coherence
import JogShuttle.Proofs.Signal.Detents
import JogShuttle.Proofs.Signal.Feedback
import JogShuttle.Proofs.Signal.Ratchet
import JogShuttle.Proofs.Signal.Run
import JogShuttle.Proofs.Signal.ShorterWay
import JogShuttle.Proofs.Signal.Turn
import JogShuttle.Proofs.Stroke.Last
import JogShuttle.Proofs.Text.Decimal
import JogShuttle.Rule.Compile
import JogShuttle.Rule.Designator
import JogShuttle.Rule.Diagnostic
import JogShuttle.Rule.File
import JogShuttle.Rule.Output
import JogShuttle.Rule.Table
import JogShuttle.Rule.Token
import JogShuttle.Sequence
import JogShuttle.Settings
import JogShuttle.Settings.Raw
import JogShuttle.Signal.Dial
import JogShuttle.Signal.Interpreter
import JogShuttle.Signal.Meaning
import JogShuttle.Slot
import JogShuttle.Stroke
import JogShuttle.SystemError
import JogShuttle.Text.Blank
import JogShuttle.Text.Case
import JogShuttle.Text.CharName
import JogShuttle.Text.CharName.Aliases
import JogShuttle.Text.CharName.Alphabets
import JogShuttle.Text.CharName.Ancient
import JogShuttle.Text.CharName.Compatibility
import JogShuttle.Text.CharName.Notation
import JogShuttle.Text.CharName.Pictographs
import JogShuttle.Text.CharName.Run
import JogShuttle.Text.CharName.Scripts
import JogShuttle.Text.CharName.Syllabaries
import JogShuttle.Text.CharName.Symbols
import JogShuttle.Text.Digit
import JogShuttle.Text.Infix
import JogShuttle.Text.Letter
import JogShuttle.Text.Line
import JogShuttle.Text.Literal
import JogShuttle.Text.Printable
import JogShuttle.Text.Radix
import JogShuttle.Text.Span
import JogShuttle.Text.Utf8
