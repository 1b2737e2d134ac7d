import Assist370.Config.Reader
import Assist370.Config.Writer
import Assist370.Facility
import Assist370.Statistics
import Assist370.Proofs.Callout
import Assist370.Proofs.Execution
import Assist370.Proofs.Commit
import Assist370.Proofs.Completion
import Assist370.Proofs.Confinement
import Assist370.Proofs.DirectAccess
import Assist370.Proofs.Enabling
import Assist370.Proofs.Failure
import Assist370.Proofs.HandOff
import Assist370.Proofs.Isolation
import Assist370.Proofs.PendingFlag
import Assist370.Proofs.Dispatch
import Assist370.Proofs.CallRun
import Assist370.Proofs.LockBalance
import Assist370.Proofs.Subpools
import Assist370.Proofs.DispatchEffect
import Assist370.Proofs.StackedWork
import Assist370.Proofs.SoleDispatch
import Assist370.Proofs.StackedQueue
import Assist370.Proofs.StackedForm
import Assist370.Proofs.StackedRun
import Assist370.Proofs.VirtualPsw
import Assist370.Proofs.PswMoves
import Assist370.Proofs.CallReturn
import Assist370.Proofs.TwoRuns
import Assist370.Proofs.Residue
import Assist370.Proofs.LoadFailure
import Assist370.Proofs.ControlCoherence
import Assist370.Proofs.RunTime
import Assist370.Proofs.Billing
import Assist370.Proofs.AddressSpace
import Assist370.Proofs.Departure
import Assist370.Proofs.LogOff
import Assist370.Proofs.DispatchFrame
import Assist370.Proofs.OperandBytes
import Assist370.Proofs.KeyBlocks
import Assist370.Proofs.PswFormats
import Assist370.Proofs.TimerUse
import Assist370.Proofs.TimerArmed
import Assist370.Proofs.TimerAddress
import Assist370.Proofs.Admission
import Assist370.Proofs.Counting
import Assist370.Proofs.Reflection
import Assist370.Proofs.LogicalAccess
import Assist370.Proofs.PageTranslation
import Assist370.Proofs.MaskSetting
import Assist370.Proofs.BlockSizes
import Assist370.Proofs.ControlLoading
import Assist370.Proofs.InterruptionChain
import Assist370.Proofs.ExitOrder
import Assist370.Proofs.TimerCharge
import Assist370.Proofs.QueueScan
import Assist370.Proofs.ReleasePaths
import Assist370.Proofs.DevicePaths
import Assist370.Proofs.Switches
import Assist370.Proofs.Report
import Assist370.Proofs.JournalRuns
import Assist370.Proofs.ChangeBits
