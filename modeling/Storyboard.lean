import Storyboard.Markup.View
import Storyboard.Script.Run
import Storyboard.Sheet.Expansion
import Storyboard.Tree.Ref
import Storyboard.Proofs.Tree.Forest
import Storyboard.Proofs.Tree.Removal
import Storyboard.Proofs.Tree.Rollback
import Storyboard.Proofs.Tree.Subtree
import Storyboard.Proofs.Tree.Oriented
import Storyboard.Proofs.Tree.Growth
import Storyboard.Proofs.Tree.Block
import Storyboard.Proofs.Tree.Undoing
import Storyboard.Proofs.Session.Runs
import Storyboard.Proofs.Tree.Keeping
import Storyboard.Proofs.Session.Failure
import Storyboard.Proofs.Session.Acts
import Storyboard.Proofs.Session.Programs
import Storyboard.Proofs.Session.Atomicity
import Storyboard.Proofs.Session.History
import Storyboard.Proofs.Session.Routing
import Storyboard.Proofs.Session.Scripts
import Storyboard.Proofs.Session.Placement
import Storyboard.Proofs.Style.Lexeme
import Storyboard.Proofs.Style.Cutting
import Storyboard.Proofs.Style.Declaration
import Storyboard.Proofs.Style.RoundTrip
import Storyboard.Proofs.Session.Pointing
import Storyboard.Proofs.Style.Grammar
import Storyboard.Proofs.Style.Composition
import Storyboard.Proofs.Style.Kind
import Storyboard.Proofs.Style.Scanning
import Storyboard.Proofs.Session.Agreement
import Storyboard.Proofs.Session.Forms
import Storyboard.Proofs.Tree.Document
import Storyboard.Proofs.Session.Document
import Storyboard.Proofs.Session.Behaviour
import Storyboard.Proofs.Code.Cutting
import Storyboard.Proofs.Sheet.Agreement
import Storyboard.Proofs.Sheet.Normal
import Storyboard.Proofs.Session.Rows
import Storyboard.Proofs.Session.Presenting
import Storyboard.Proofs.Markup.Procedure
import Storyboard.Proofs.Markup.Walk
import Storyboard.Proofs.Markup.Arguments
import Storyboard.Proofs.Markup.Meaning
import Storyboard.Proofs.Code.Quoted
import Storyboard.Proofs.Sheet.Letters
import Storyboard.Proofs.Sheet.Pieces
import Storyboard.Proofs.Sheet.Characters
import Storyboard.Proofs.Sheet.Comparison
import Storyboard.Proofs.Session.Traversal
import Storyboard.Proofs.Session.Unwinding
import Storyboard.Proofs.Session.Resets
import Storyboard.Proofs.Session.Turns
import Storyboard.Proofs.Tree.Access
import Storyboard.Proofs.Session.Accessing
import Storyboard.Proofs.Session.Beginnings
import Storyboard.Proofs.Tree.Line
import Storyboard.Proofs.Tree.Alike
import Storyboard.Proofs.Style.Respacing
import Storyboard.Proofs.Markup.Spelling
import Storyboard.Proofs.Markup.Blame
