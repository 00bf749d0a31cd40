import Scriptlet.Main
import Scriptlet.Repl.Completion
import Scriptlet.Proofs.Eval.Restoration
import Scriptlet.Proofs.Eval.Typing
import Scriptlet.Proofs.Tree.Soundness
import Scriptlet.Proofs.Tree.Rendering
import Scriptlet.Proofs.Token.Tiling
import Scriptlet.Proofs.Eval.Likeness
import Scriptlet.Proofs.Eval.Simulation
import Scriptlet.Proofs.Eval.Placement
import Scriptlet.Proofs.Heap.Depth
import Scriptlet.Proofs.Heap.Acyclic
import Scriptlet.Proofs.Heap.Reading
import Scriptlet.Proofs.Heap.Writing
import Scriptlet.Proofs.Eval.Twin
import Scriptlet.Proofs.Eval.Isolation
import Scriptlet.Proofs.Eval.Layout
import Scriptlet.Proofs.Highlight.Markup
import Scriptlet.Proofs.Heap.Forest
import Scriptlet.Proofs.Eval.Discipline
import Scriptlet.Proofs.Eval.Declaring
import Scriptlet.Proofs.Token.Reserved
import Scriptlet.Proofs.Tree.Lawful
import Scriptlet.Proofs.Eval.Lawful
import Scriptlet.Proofs.Eval.Headroom
import Scriptlet.Proofs.Eval.Pieces
import Scriptlet.Proofs.Tree.Spans
import Scriptlet.Proofs.Tree.Refusals
import Scriptlet.Proofs.Eval.Blame
import Scriptlet.Proofs.Diagnostic.Location
import Scriptlet.Proofs.Eval.Printing
import Scriptlet.Proofs.Eval.Grounding
import Scriptlet.Proofs.Eval.Constants
import Scriptlet.Proofs.Repl.Balance
import Scriptlet.Proofs.Repl.Reports
import Scriptlet.Proofs.Diagnostic.Label
import Scriptlet.Proofs.Eval.Fuel
import Scriptlet.Proofs.Eval.Expansion
import Scriptlet.Proofs.Token.Spacing
import Scriptlet.Proofs.Tree.Earliest
import Scriptlet.Proofs.Tree.Exactness
import Scriptlet.Proofs.Heap.Equality
import Scriptlet.Proofs.Heap.Slot
import Scriptlet.Proofs.Eval.Traceless
import Scriptlet.Proofs.Eval.Interposition
import Scriptlet.Proofs.Eval.Approximation
import Scriptlet.Proofs.Eval.Rounds
import Scriptlet.Proofs.Eval.Loop
import Scriptlet.Proofs.Number.Text
import Scriptlet.Proofs.Heap.Naming
import Scriptlet.Proofs.Repl.Completion
import Scriptlet.Proofs.Repl.Verdict
import Scriptlet.Proofs.Token.Quoted
import Scriptlet.Proofs.Token.Closing
import Scriptlet.Proofs.Diagnostic.Position
import Scriptlet.Proofs.Tree.Whole
