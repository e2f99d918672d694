import KernelSweep.Main
import KernelSweep.Proofs.Binder.Build
import KernelSweep.Proofs.Binder.Isolation
import KernelSweep.Proofs.Binder.Probe
import KernelSweep.Proofs.CommandLine.ExitStatus
import KernelSweep.Proofs.CommandLine.Prepare
import KernelSweep.Proofs.CommandLine.PrintedPlan
import KernelSweep.Proofs.CommandLine.Redundancy
import KernelSweep.Proofs.CommandLine.TimeBudget
import KernelSweep.Proofs.Config.Accepted
import KernelSweep.Proofs.Config.Binder
import KernelSweep.Proofs.Config.Overlay
import KernelSweep.Proofs.Config.Problems
import KernelSweep.Proofs.Duration
import KernelSweep.Proofs.Enumeration
import KernelSweep.Proofs.Environment
import KernelSweep.Proofs.FileSystem.Removal
import KernelSweep.Proofs.Kernel
import KernelSweep.Proofs.Number.FloatRoundTrip
import KernelSweep.Proofs.Number.IntegerText
import KernelSweep.Proofs.Number.Rounding
import KernelSweep.Proofs.Number.Shortest
import KernelSweep.Proofs.Number.Word
import KernelSweep.Proofs.Occupancy.Descent
import KernelSweep.Proofs.Occupancy.Grammar
import KernelSweep.Proofs.Occupancy.Launch
import KernelSweep.Proofs.Occupancy.Plan
import KernelSweep.Proofs.Occupancy.Range
import KernelSweep.Proofs.Occupancy.ReportPath
import KernelSweep.Proofs.Occupancy.Reservation
import KernelSweep.Proofs.Occupancy.RoundTrip
import KernelSweep.Proofs.Occupancy.Store
import KernelSweep.Proofs.Program.Waiting
import KernelSweep.Proofs.Registry.Keys
import KernelSweep.Proofs.Registry.Order
import KernelSweep.Proofs.Report.ByteCount
import KernelSweep.Proofs.Report.Database
import KernelSweep.Proofs.Report.Failures
import KernelSweep.Proofs.Report.Ledger
import KernelSweep.Proofs.Report.Store
import KernelSweep.Proofs.Sweep.Blocks
import KernelSweep.Proofs.Sweep.Cancellation
import KernelSweep.Proofs.Sweep.Labels
import KernelSweep.Proofs.Sweep.Lockstep
import KernelSweep.Proofs.Sweep.Phases
import KernelSweep.Proofs.Sweep.Refusals
import KernelSweep.Proofs.Sweep.StaleReports
import KernelSweep.Proofs.Sweep.Trial
import KernelSweep.Proofs.Text.Ascii
import KernelSweep.Proofs.Text.ByteOrder
import KernelSweep.Proofs.Text.Cuts
import KernelSweep.Proofs.Text.LowerCase
