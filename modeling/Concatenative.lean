import Concatenative.Text.Blank
import Concatenative.Text.Escape
import Concatenative.Text.Quoted
import Concatenative.Number
import Concatenative.Word.Equality
import Concatenative.Word.Printer
import Concatenative.Nesting
import Concatenative.Note
import Concatenative.Sink
import Concatenative.Disk
import Concatenative.Evaluation
import Concatenative.Console
import Concatenative.Inspection
import Concatenative.Main
import Concatenative.Proofs.Matching
import Concatenative.Proofs.Evolution
import Concatenative.Proofs.BigStep
import Concatenative.Proofs.Lockstep
import Concatenative.Proofs.Action
import Concatenative.Proofs.Lockstep.Evaluation
import Concatenative.Proofs.Frame
import Concatenative.Proofs.DepthLimit
import Concatenative.Proofs.OutputLimit
import Concatenative.Proofs.Binary64
import Concatenative.Proofs.Extension
import Concatenative.Proofs.NumberText
import Concatenative.Proofs.Flattening
import Concatenative.Proofs.Spelling
import Concatenative.Proofs.RoundTrip
import Concatenative.Proofs.Concatenation
import Concatenative.Proofs.Composition
import Concatenative.Proofs.Levels
import Concatenative.Proofs.Tokens
import Concatenative.Proofs.Tokens.Scanning
import Concatenative.Proofs.Balance
import Concatenative.Proofs.Programs
import Concatenative.Proofs.Session
import Concatenative.Proofs.Session.Names
import Concatenative.Proofs.Deepening
import Concatenative.Proofs.Session.Deepening
import Concatenative.Proofs.Session.Rollback
import Concatenative.Proofs.Console.Delivery
import Concatenative.Proofs.Pipe
import Concatenative.Proofs.Console.Transcript
import Concatenative.Proofs.Session.Batching
import Concatenative.Proofs.Session.SelfInterpretation
import Concatenative.Proofs.Session.Rebuilding
import Concatenative.Proofs.Rescoping
import Concatenative.Proofs.Inlining
import Concatenative.Proofs.Renaming
import Concatenative.Proofs.Leftover
import Concatenative.Proofs.LevelCount
import Concatenative.Proofs.Sharing
import Concatenative.Proofs.Escapes
import Concatenative.Proofs.Comparison
import Concatenative.Proofs.Splitting
import Concatenative.Proofs.NumberTokens
import Concatenative.Proofs.Leaving
import Concatenative.Proofs.Console.ExitStatus
import Concatenative.Proofs.Settings
