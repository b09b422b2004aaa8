import Probe.Script.Run
import Probe.Settings.Logging
import Probe.Settings.Reading
import Probe.Proofs.Tracker.History
import Probe.Proofs.Tracker.Replacement
import Probe.Proofs.Tracker.ExactlyOnce
import Probe.Proofs.Tracker.Isolation
import Probe.Proofs.Action
import Probe.Proofs.Failure
import Probe.Proofs.TypeName
import Probe.Proofs.Debuggee.Requests
import Probe.Proofs.Debuggee.Untouched
import Probe.Proofs.World
import Probe.Proofs.Code.Jumps
import Probe.Proofs.Machine.Effects
import Probe.Proofs.Machine.Visits
import Probe.Proofs.Machine.SideEffects
import Probe.Proofs.Machine.Steady
import Probe.Proofs.Machine.Shapes
import Probe.Proofs.Machine.Announcements
import Probe.Proofs.Evaluator.Stages
import Probe.Proofs.Evaluator.Withdrawal
import Probe.Proofs.Evaluator.System
import Probe.Proofs.Evaluator.Leases
import Probe.Proofs.Evaluator.Alone
import Probe.Proofs.Evaluator.Pieces
import Probe.Proofs.Evaluator.Exclusion
import Probe.Proofs.Evaluator.Joined
import Probe.Proofs.Machine.Loop
import Probe.Proofs.Machine.Compatible
import Probe.Proofs.Machine.Composition
import Probe.Proofs.Debuggee.Statics
import Probe.Proofs.Accessor
import Probe.Proofs.Debuggee.Cells
import Probe.Proofs.Machine.Variables
import Probe.Proofs.Debuggee.Recorded
import Probe.Proofs.Machine.CallLog
import Probe.Proofs.Debuggee.Handles
import Probe.Proofs.Debuggee.Identity
import Probe.Proofs.Machine.Lost
import Probe.Proofs.Machine.Calls
import Probe.Proofs.Machine.Transparency
import Probe.Proofs.Machine.Attribution
import Probe.Proofs.Machine.StackLimit
import Probe.Proofs.Machine.Cancellation
import Probe.Proofs.Debuggee.Ancestry
import Probe.Proofs.Debuggee.Search
import Probe.Proofs.Operator.Integral
import Probe.Proofs.Operator.Words
import Probe.Proofs.Operator.Conversion
import Probe.Proofs.Operator.Arithmetic
import Probe.Proofs.Operator.Bits
import Probe.Proofs.Operator.Typing
import Probe.Proofs.Operator.Comparison
import Probe.Proofs.Value.Equality
import Probe.Proofs.Machine.ShortCircuit
import Probe.Proofs.Tracker.NewestFirst
import Probe.Proofs.Debuggee.Subtyping
import Probe.Proofs.Machine.TypeTests
import Probe.Proofs.Debuggee.SharedStatics
import Probe.Proofs.Debuggee.Dispatch
import Probe.Proofs.Debuggee.Atomic
import Probe.Proofs.Decimal.Scientific
import Probe.Proofs.Settings.Precedence
import Probe.Proofs.Machine.Concatenation
import Probe.Proofs.Debuggee.Arrays
import Probe.Proofs.Machine.Arrays
import Probe.Proofs.Debuggee.InitialFields
