import TapeWorkbench.CommandLine.Execution
import TapeWorkbench.Configuration
import TapeWorkbench.History
import TapeWorkbench.JsonForm
import TapeWorkbench.Listing
import TapeWorkbench.Main
import TapeWorkbench.Program.Reader
import TapeWorkbench.Proofs.Contents
import TapeWorkbench.Proofs.Driving
import TapeWorkbench.Proofs.Trace
import TapeWorkbench.RunControl
import TapeWorkbench.Session.Command
import TapeWorkbench.Settings.Document
import TapeWorkbench.TapeSection
import TapeWorkbench.Proofs.Reachable
import TapeWorkbench.Proofs.Undo
import TapeWorkbench.Proofs.Handles
import TapeWorkbench.Proofs.Forgetting
import TapeWorkbench.Proofs.Layout
import TapeWorkbench.Proofs.Advance
import TapeWorkbench.Proofs.Blocks
import TapeWorkbench.Proofs.Stuck
import TapeWorkbench.Proofs.Breakpoints
import TapeWorkbench.Proofs.Output
import TapeWorkbench.Proofs.Succession
import TapeWorkbench.Proofs.Alongside
import TapeWorkbench.Proofs.Recollection
import TapeWorkbench.Proofs.Delivery
import TapeWorkbench.Proofs.Excerpt
import TapeWorkbench.Proofs.Annotations
import TapeWorkbench.Proofs.Freshness
import TapeWorkbench.Proofs.Outcome
import TapeWorkbench.Proofs.Published
import TapeWorkbench.Proofs.CheckedCommands
import TapeWorkbench.Proofs.Decoding
import TapeWorkbench.Proofs.Splitting
import TapeWorkbench.Proofs.Holding
import TapeWorkbench.Proofs.Halting
import TapeWorkbench.Proofs.Separators
import TapeWorkbench.Proofs.Pacing
import TapeWorkbench.Proofs.Failure
import TapeWorkbench.Proofs.Misreading
import TapeWorkbench.Proofs.Interleaving
import TapeWorkbench.Proofs.Emptied
import TapeWorkbench.Proofs.Preparation
import TapeWorkbench.Proofs.LimitedRun
import TapeWorkbench.Proofs.ExitCode
import TapeWorkbench.Proofs.Fitting
import TapeWorkbench.Proofs.StandardOutput
import TapeWorkbench.Proofs.Redecoding
