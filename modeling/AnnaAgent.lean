import AnnaAgent.Execution.Recovery
import AnnaAgent.Execution.Delivery
import AnnaAgent.Execution.ActiveSubject
import AnnaAgent.Execution.RetryBound
import AnnaAgent.Scheduler.Recovery
import AnnaAgent.Tools.SingleUse
import AnnaAgent.EventStore.ScheduleAgreement
import AnnaAgent.Harness.ProfileAuthority
import AnnaAgent.EventStore.InterruptedRuns
import AnnaAgent.Memory.Retrieval
import AnnaAgent.Crew.Confirmation
import AnnaAgent.Runtime.SummaryRuns
import AnnaAgent.Runtime.FrameFollowing
import AnnaAgent.Runtime.LoopConversation
import AnnaAgent.Host.ReviewDecisions
import AnnaAgent.Host.PublicAddresses
import AnnaAgent.Host.SavedTasks
import AnnaAgent.Host.AdmissionAnswers
import AnnaAgent.Host.GoalRecovery
import AnnaAgent.Worker.PrematureFinish
import AnnaAgent.Worker.ResponseAgreement
import AnnaAgent.Pi.KeptAborts
import AnnaAgent.Reimbursement.ShownRisk
import AnnaAgent.Reimbursement.OneSubmission
import AnnaAgent.Chat.InterjectionDelivery
import AnnaAgent.Execution.EffectFinality
import AnnaAgent.Runtime.ModelCallBucket
import AnnaAgent.Runtime.ToolResultTruncation
import AnnaAgent.Harness.RunContext
import AnnaAgent.Tools.Lifecycle
import AnnaAgent.Tools.InFlight
import AnnaAgent.Trace.LiveCursor
import AnnaAgent.Worker.RestoredMessages
import AnnaAgent.Worker.EventStream
import AnnaAgent.Host.WorkdirPages
import AnnaAgent.Pi.CountedUsage
import AnnaAgent.Reimbursement.ActionableApprovals
import AnnaAgent.Reimbursement.HeldDraft
import AnnaAgent.EventStore.ProjectionRunner
import AnnaAgent.EventStore.StoredStreams
