import LineRepl.Console.Queue
import LineRepl.File.Tree
import LineRepl.Main
import LineRepl.Proofs.Calc.Comparison
import LineRepl.Proofs.Calc.Height
import LineRepl.Proofs.Console
import LineRepl.Proofs.Equations
import LineRepl.Proofs.Relisting
import LineRepl.Proofs.Similarity
import LineRepl.Proofs.Pagination
import LineRepl.Proofs.Transport
import LineRepl.Proofs.Printing
import LineRepl.Proofs.Handling
import LineRepl.Proofs.Containment
import LineRepl.Proofs.Bookkeeping
import LineRepl.Proofs.Rendering
import LineRepl.Proofs.Binary64.Exact
import LineRepl.Proofs.Calc.Identifier
import LineRepl.Proofs.Rpn.Agreement
import LineRepl.Proofs.Rpn.Sharing
import LineRepl.Proofs.Course
import LineRepl.Proofs.Likeness
import LineRepl.Proofs.Swapping
import LineRepl.Proofs.Effect
import LineRepl.Proofs.Splitting
import LineRepl.Proofs.Termination
import LineRepl.Proofs.Calc.Exactness
import LineRepl.Proofs.Calc.Division
import LineRepl.Proofs.Store
import LineRepl.Proofs.Upkeep
import LineRepl.Proofs.Calc.Pulling
import LineRepl.Proofs.Pulling
import LineRepl.Proofs.Calc.Assignment
import LineRepl.Proofs.Dependence
import LineRepl.Proofs.Calc.ReadBack
import LineRepl.Proofs.Calc.Spelling
import LineRepl.Proofs.Calc.EarliestError
import LineRepl.Proofs.History
import LineRepl.Proofs.Columns
import LineRepl.Proofs.Machine.Engines
import LineRepl.Proofs.Prompt.Directive
import LineRepl.Proofs.Prompt.Fragment
import LineRepl.Proofs.CommandListing
import LineRepl.Proofs.EngineTable
import LineRepl.Proofs.Calc.Equality
import LineRepl.Proofs.Machine.Activation
import LineRepl.Proofs.Machine.Correspondence
import LineRepl.Proofs.OneLine
import LineRepl.Proofs.Homemade
import LineRepl.Proofs.Message
import LineRepl.Proofs.Reporting
import LineRepl.Proofs.Spacing
import LineRepl.Proofs.Rpn.Conversion
