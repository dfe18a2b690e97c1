import LoopRepair.CommandLine
import LoopRepair.Main
import LoopRepair.RestartSearch
import LoopRepair.Proofs.ExecutionPath
import LoopRepair.Proofs.ObserverTransport
import LoopRepair.Proofs.AttemptOutcome
import LoopRepair.Proofs.UndoLog
import LoopRepair.Proofs.TrackedMachine
import LoopRepair.Proofs.CallBound
import LoopRepair.Proofs.RepairSearch
import LoopRepair.Proofs.RestartAgreement
import LoopRepair.Proofs.RunBounds
import LoopRepair.Proofs.RunVerdict
import LoopRepair.Proofs.ExecutedHistory
import LoopRepair.Proofs.FlipRecord
import LoopRepair.Proofs.RepairReturn
import LoopRepair.Proofs.ExhaustedRepair
import LoopRepair.Proofs.RewoundRun
import LoopRepair.Proofs.FirstFault
import LoopRepair.Proofs.ListingRoundTrip
import LoopRepair.Proofs.UnreachedCode
import LoopRepair.Proofs.RunReplay
import LoopRepair.Proofs.LogAgreement
import LoopRepair.Proofs.RepairedListing
import LoopRepair.Proofs.RunReport
import LoopRepair.Proofs.CommandAgreement
import LoopRepair.Proofs.RunCost
import LoopRepair.Proofs.MutedRun
import LoopRepair.Proofs.TrapVisits
import LoopRepair.Proofs.TransitionOrder
import LoopRepair.Proofs.RunNotices
import LoopRepair.Proofs.CutRun
import LoopRepair.Proofs.MachineWords
import LoopRepair.Proofs.RunArguments
import LoopRepair.Proofs.TraceFlag
import LoopRepair.Proofs.RespacedText
import LoopRepair.Proofs.JoinedListing
import LoopRepair.Proofs.CanonicalListing
import LoopRepair.Proofs.FlipStack
