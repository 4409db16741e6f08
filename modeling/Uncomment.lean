import Uncomment.Block.Scan
import Uncomment.Block.Strip
import Uncomment.Block.Surroundings
import Uncomment.Edit
import Uncomment.Exclusion
import Uncomment.Extension
import Uncomment.Glob.Basic
import Uncomment.Glob.Match
import Uncomment.Glob.Parser
import Uncomment.Glob.Pattern
import Uncomment.Glob.Use
import Uncomment.Ignore.Contents
import Uncomment.Ignore.Rule
import Uncomment.Ignore.Settings
import Uncomment.Ignore.Verdict
import Uncomment.Ignore.Worktree
import Uncomment.Line.Strip
import Uncomment.Main
import Uncomment.Options.Basic
import Uncomment.Options.Parser
import Uncomment.Path.Basic
import Uncomment.Path.Relative
import Uncomment.Program
import Uncomment.Run.Event
import Uncomment.Run.Report
import Uncomment.Run.Selection
import Uncomment.Snapshot
import Uncomment.Strip
import Uncomment.Text.Basic
import Uncomment.Text.Blank
import Uncomment.Text.Decimal
import Uncomment.Text.Escape
import Uncomment.Text.JsonString
import Uncomment.Text.Printable
import Uncomment.Text.Quoted
import Uncomment.Text.Search
import Uncomment.Text.Utf8
import Uncomment.Tree.Basic
import Uncomment.Tree.Resolve
import Uncomment.Tree.View
import Uncomment.Walk
import Uncomment.Proofs.Block.CodeLines
import Uncomment.Proofs.Block.Context
import Uncomment.Proofs.Block.Course
import Uncomment.Proofs.Block.Grammar
import Uncomment.Proofs.Block.Joined
import Uncomment.Proofs.Block.LineEnds
import Uncomment.Proofs.Block.OwnLines
import Uncomment.Proofs.Block.Raw
import Uncomment.Proofs.Block.Remainder
import Uncomment.Proofs.Block.Removals
import Uncomment.Proofs.Block.Words
import Uncomment.Proofs.Exclusion
import Uncomment.Proofs.Extension
import Uncomment.Proofs.Json.Reader
import Uncomment.Proofs.Json.Spelling
import Uncomment.Proofs.Line.Code
import Uncomment.Proofs.Line.Stretches
import Uncomment.Proofs.Loop
import Uncomment.Proofs.Ordinary
import Uncomment.Proofs.Path.Case
import Uncomment.Proofs.Path.Components
import Uncomment.Proofs.Path.Display
import Uncomment.Proofs.Progress
import Uncomment.Proofs.Run.Chosen
import Uncomment.Proofs.Run.Inputs
import Uncomment.Proofs.Run.JsonReport
import Uncomment.Proofs.Run.Modes
import Uncomment.Proofs.Run.Outputs
import Uncomment.Proofs.Run.Roots
import Uncomment.Proofs.Seams
import Uncomment.Proofs.Shrink
import Uncomment.Proofs.Strip
import Uncomment.Proofs.Text.Break
import Uncomment.Proofs.Text.Case
import Uncomment.Proofs.Text.Lines
import Uncomment.Proofs.Text.Utf8
import Uncomment.Proofs.Walk
