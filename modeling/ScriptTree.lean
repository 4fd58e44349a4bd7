import ScriptTree.Browser.Draw
import ScriptTree.Main
import ScriptTree.Proofs.Grammar.Plain
import ScriptTree.Proofs.Grammar.Simulation
import ScriptTree.Proofs.Grammar.OnDemand
import ScriptTree.Proofs.Token.Match
import ScriptTree.Proofs.Grammar.Derivation
import ScriptTree.Proofs.Grammar.Completeness
import ScriptTree.Proofs.Grammar.Explanation
import ScriptTree.Proofs.Grammar.Soundness
import ScriptTree.Proofs.Grammar.Recognition
import ScriptTree.Proofs.Syntax.WellFormed
import ScriptTree.Proofs.Number.Rounding
import ScriptTree.Proofs.Syntax.Printing
import ScriptTree.Proofs.Syntax.Parsed
import ScriptTree.Proofs.Token.Gap
import ScriptTree.Proofs.Grammar.Layout
import ScriptTree.Proofs.Token.Partition
import ScriptTree.Proofs.Token.LineBreak
import ScriptTree.Proofs.Grammar.Concatenation
import ScriptTree.Proofs.Outline.Fold
import ScriptTree.Proofs.Browser.Session
import ScriptTree.Proofs.Browser.Checked
import ScriptTree.Proofs.Number.Written
import ScriptTree.Proofs.Outline.Walk
import ScriptTree.Proofs.Text.Escape
import ScriptTree.Proofs.Json.Text
import ScriptTree.Proofs.Syntax.Recovery
import ScriptTree.Proofs.Outline.Recovery
import ScriptTree.Proofs.Token.Requests
import ScriptTree.Proofs.Grammar.Renaming
import ScriptTree.Proofs.Outline.Depth
import ScriptTree.Proofs.Syntax.Node
import ScriptTree.Proofs.Outline.Shape
import ScriptTree.Proofs.Token.Extent
import ScriptTree.Proofs.Browser.Selection
import ScriptTree.Proofs.Browser.Navigation
import ScriptTree.Proofs.Browser.Highlight
import ScriptTree.Proofs.Token.Longest
import ScriptTree.Proofs.Text.Slice
import ScriptTree.Proofs.Browser.Slices
import ScriptTree.Proofs.Browser.Window
import ScriptTree.Proofs.Grammar.Invariant
import ScriptTree.Proofs.Syntax.Operators
import ScriptTree.Proofs.Grammar.Faults
import ScriptTree.Proofs.Browser.Lines
import ScriptTree.Proofs.Syntax.Numeral
import ScriptTree.Proofs.Grammar.Progress
