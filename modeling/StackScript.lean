import StackScript.Machine.Listing
import StackScript.Machine.Recipe
import StackScript.Main
import StackScript.Proofs.Token.Grammar
import StackScript.Proofs.Token.Stream
import StackScript.Proofs.Machine.CallFree
import StackScript.Proofs.Machine.Step
import StackScript.Proofs.Machine.Integers
import StackScript.Proofs.Machine.Kinds
import StackScript.Proofs.Token.Tiling
import StackScript.Proofs.Machine.Outcome
import StackScript.Proofs.Stream
import StackScript.Proofs.Machine.Sinks
import StackScript.Proofs.Machine.Depth
import StackScript.Proofs.Machine.Run
import StackScript.Proofs.Text.Lines
import StackScript.Proofs.Session.Log
import StackScript.Proofs.Machine.OneLine
import StackScript.Proofs.Session.Agreement
import StackScript.Proofs.Token.Fault
import StackScript.Proofs.Token.LineFeed
import StackScript.Proofs.Script.LineFeed
import StackScript.Proofs.Script.Barrier
import StackScript.Proofs.Session.LineBreaks
import StackScript.Proofs.Machine.Postfix
import StackScript.Proofs.Text.Bytes
import StackScript.Proofs.Text.Ends
import StackScript.Proofs.Token.Slices
import StackScript.Proofs.Token.Cursor
import StackScript.Proofs.Decimal.Parse
import StackScript.Proofs.Value.Parse
import StackScript.Proofs.Script.Line
import StackScript.Proofs.Binary32.Rounding
import StackScript.Proofs.Decimal.Shortest
import StackScript.Proofs.Decimal.Layout
import StackScript.Proofs.Machine.Call
import StackScript.Proofs.Machine.Throw
import StackScript.Proofs.Template
import StackScript.Proofs.Value.RoundTrip
import StackScript.Proofs.Machine.Frame
import StackScript.Proofs.Script.Layout
import StackScript.Proofs.Token.Literal
import StackScript.Proofs.Script.Listing
import StackScript.Proofs.Text.Quoted
import StackScript.Proofs.Machine.Concatenation
import StackScript.Proofs.Hook
import StackScript.Proofs.Token.Keyword
