import Script.Cursor
import Script.Grammar
import Script.Main
import Script.SExpr.Equality
import Script.Tree.Equality
import Script.Tree.ListForm
import Script.Tree.Normal
import Script.Tree.Printer
import Script.Tree.Shape
import Script.Proofs.Pending
import Script.Proofs.Scan
import Script.Proofs.Spelling
import Script.Proofs.Acceptance
import Script.Proofs.ErrorPosition
import Script.Proofs.Lexing
import Script.Proofs.LexicalFailure
import Script.Proofs.Lockstep
import Script.Proofs.Precedence
import Script.Proofs.Lookahead
import Script.Proofs.Printing
import Script.Proofs.Repair
import Script.Proofs.Concatenation
import Script.Proofs.Layout
import Script.Proofs.Partition
import Script.Proofs.TreeShape
import Script.Proofs.Forgetting
import Script.Proofs.NearestIf
import Script.Proofs.FailedRequest
import Script.Proofs.ErrorText
import Script.Proofs.LongestMatch
import Script.Proofs.Strays
import Script.Proofs.LineColumn
import Script.Proofs.Caret
import Script.Proofs.ReservedWords
import Script.Proofs.Legible
import Script.Proofs.LiteralOrder
import Script.Proofs.JsonText
import Script.Proofs.ListAtoms
import Script.Proofs.JsonDetermines
import Script.Proofs.Rounding
import Script.Proofs.ShortestDigits
import Script.Proofs.ReadBack
import Script.Proofs.JsonNumbers
import Script.Proofs.LispText
import Script.Proofs.Halting
import Script.Proofs.Progress
import Script.Proofs.Defences
import Script.Proofs.CursorSafety
import Script.Proofs.ExactIntegers
