import Stylesheet.Color.Amount
import Stylesheet.Color.Chain
import Stylesheet.Color.Hls
import Stylesheet.Color.Literal
import Stylesheet.Command.File
import Stylesheet.Command.Page
import Stylesheet.Command.Report
import Stylesheet.Command.Run
import Stylesheet.Command.Switch
import Stylesheet.Error
import Stylesheet.Expander.Basic
import Stylesheet.Expander.Function
import Stylesheet.Expander.Invoke
import Stylesheet.Expander.Memory
import Stylesheet.Expander.Settings
import Stylesheet.Expander.Substitute
import Stylesheet.Expander.Table
import Stylesheet.Invocation
import Stylesheet.Main
import Stylesheet.Node.Basic
import Stylesheet.Node.Layout
import Stylesheet.Node.Printer
import Stylesheet.Node.Reader
import Stylesheet.Text.Alphanumeric
import Stylesheet.Text.Basic
import Stylesheet.Text.Blank
import Stylesheet.Text.Integer
import Stylesheet.Text.LowerCase
import Stylesheet.Text.Printable
import Stylesheet.Text.Quoted
import Stylesheet.Text.Scanner
import Stylesheet.Proofs.Color.Forms
import Stylesheet.Proofs.Color.HexDigit
import Stylesheet.Proofs.Color.Numeral
import Stylesheet.Proofs.Color.RoundTrip
import Stylesheet.Proofs.Command.Echo
import Stylesheet.Proofs.Command.Expand
import Stylesheet.Proofs.Command.Line
import Stylesheet.Proofs.Expander.Assignment
import Stylesheet.Proofs.Expander.Clean
import Stylesheet.Proofs.Expander.Concatenation
import Stylesheet.Proofs.Expander.Contract
import Stylesheet.Proofs.Expander.Counter
import Stylesheet.Proofs.Expander.DepthLimit
import Stylesheet.Proofs.Expander.Location
import Stylesheet.Proofs.Expander.LoopNames
import Stylesheet.Proofs.Expander.LoopRows
import Stylesheet.Proofs.Expander.Pass
import Stylesheet.Proofs.Expander.Prefixing
import Stylesheet.Proofs.Expander.ReferenceChain
import Stylesheet.Proofs.Expander.Session
import Stylesheet.Proofs.Expander.SideBySide
import Stylesheet.Proofs.Expander.Template
import Stylesheet.Proofs.Expander.Uninvoked
import Stylesheet.Proofs.Expander.Unwrapping
import Stylesheet.Proofs.Expander.Writes
import Stylesheet.Proofs.Invocation.Argument
import Stylesheet.Proofs.Invocation.Bracket
import Stylesheet.Proofs.Invocation.Clean
import Stylesheet.Proofs.Invocation.Grammar
import Stylesheet.Proofs.Invocation.Joining
import Stylesheet.Proofs.Invocation.Reading
import Stylesheet.Proofs.Invocation.Reference
import Stylesheet.Proofs.Invocation.Seam
import Stylesheet.Proofs.Invocation.Search
import Stylesheet.Proofs.Node.BareText
import Stylesheet.Proofs.Node.BraceCount
import Stylesheet.Proofs.Node.CommentPattern
import Stylesheet.Proofs.Node.Cutting
import Stylesheet.Proofs.Node.FaultPlace
import Stylesheet.Proofs.Node.FixedPoint
import Stylesheet.Proofs.Node.Flattening
import Stylesheet.Proofs.Node.JoinedSelectors
import Stylesheet.Proofs.Node.Layout
import Stylesheet.Proofs.Node.Levels
import Stylesheet.Proofs.Node.Miscount
import Stylesheet.Proofs.Node.Parentheses
import Stylesheet.Proofs.Node.PrintedStrings
import Stylesheet.Proofs.Node.Qualification
import Stylesheet.Proofs.Node.QuotedComments
import Stylesheet.Proofs.Node.QuotedStrings
import Stylesheet.Proofs.Node.Reading
import Stylesheet.Proofs.Node.RoundTrip
import Stylesheet.Proofs.Node.SelfContained
import Stylesheet.Proofs.Node.Spelling
import Stylesheet.Proofs.Node.Substance
import Stylesheet.Proofs.Node.Unquoted
import Stylesheet.Proofs.Node.Unsplit
import Stylesheet.Proofs.Node.WellFormed
import Stylesheet.Proofs.Text.Crossing
import Stylesheet.Proofs.Text.Rewriting
import Stylesheet.Proofs.Text.Run
