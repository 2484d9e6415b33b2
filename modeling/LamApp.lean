import LamApp.Main
import LamApp.Workbench
import LamApp.Proofs.TokenText
import LamApp.Proofs.Resumption
import LamApp.Proofs.Separation
import LamApp.Proofs.Trimming
import LamApp.Proofs.Grammar
import LamApp.Proofs.Parentheses
import LamApp.Proofs.Completion
import LamApp.Proofs.RoundTrip
import LamApp.Proofs.Pushback
import LamApp.Proofs.Arithmetic
import LamApp.Proofs.Formatting
import LamApp.Proofs.FirstError
import LamApp.Proofs.LineByLine
import LamApp.Proofs.Evaluation
import LamApp.Proofs.Heredity
import LamApp.Proofs.Substitution
import LamApp.Proofs.LexicalScoping
import LamApp.Proofs.Simulation
import LamApp.Proofs.Coincidence
import LamApp.Proofs.DelayedBranches
import LamApp.Proofs.EvaluationOrder
import LamApp.Proofs.Denotation
import LamApp.Proofs.RecursiveSum
import LamApp.Proofs.Batches
import LamApp.Proofs.Commands
import LamApp.Proofs.ErrorFree
import LamApp.Proofs.Provenance
import LamApp.Proofs.Ledger
import LamApp.Proofs.Identity
import LamApp.Proofs.Runs
import LamApp.Proofs.Tiling
import LamApp.Proofs.Pending
import LamApp.Proofs.Terminals
import LamApp.Proofs.Renaming
import LamApp.Proofs.Restamping
import LamApp.Proofs.Repetition
