import FieldCalc.Main
import FieldCalc.Proofs.Compute.CatalogOrder
import FieldCalc.Proofs.Compute.Convergence
import FieldCalc.Proofs.Compute.Isolation
import FieldCalc.Proofs.Formula.Parsing
import FieldCalc.Proofs.Formula.BinaryTree
import FieldCalc.Proofs.Formula.Climbing
import FieldCalc.Proofs.Compute.Frame
import FieldCalc.Proofs.Compute.LookupLinks
import FieldCalc.Proofs.Formula.SourceReferences
import FieldCalc.Proofs.Formula.Failures
import FieldCalc.Proofs.Number.Closest
import FieldCalc.Proofs.Value.Stored
import FieldCalc.Proofs.Compute.Copies
import FieldCalc.Proofs.Compute.FormulaReads
import FieldCalc.Proofs.Compute.Answers
import FieldCalc.Proofs.Compute.ReferenceNames
import FieldCalc.Proofs.Table.StoredFields
import FieldCalc.Proofs.Table.StoreRuns
import FieldCalc.Proofs.Formula.Strictness
import FieldCalc.Proofs.Formula.Bounds
import FieldCalc.Proofs.Formula.Separation
import FieldCalc.Proofs.Formula.Completion
import FieldCalc.Proofs.Compute.Counting
import FieldCalc.Proofs.Number.Order
import FieldCalc.Proofs.Value.RoundTrip
import FieldCalc.Proofs.Formula.Lexemes
import FieldCalc.Proofs.Formula.Comparison
import FieldCalc.Proofs.Formula.Joining
import FieldCalc.Proofs.Formula.Substitution
import FieldCalc.Proofs.Value.Display
import FieldCalc.Proofs.Table.FormulaDocuments
import FieldCalc.Proofs.Calendar.Timestamps
import FieldCalc.Proofs.CommandLine.Groups
import FieldCalc.Proofs.Formula.Literals
import FieldCalc.Proofs.Formula.Leaves
