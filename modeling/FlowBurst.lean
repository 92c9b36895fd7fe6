import FlowBurst.Burst.Pool
import FlowBurst.Controller.Trace
import FlowBurst.Harness.Gathering
import FlowBurst.Main
import FlowBurst.OpenFlow.Frame
import FlowBurst.Simulation.Channel
import FlowBurst.Simulation.Enrolment
import FlowBurst.Simulation.Sender
import FlowBurst.Simulation.Visits
import FlowBurst.Transport.Cancellation
import FlowBurst.Proofs.WriteLock
import FlowBurst.Proofs.FrameOrder
import FlowBurst.Proofs.Entries
import FlowBurst.Proofs.Registration
import FlowBurst.Proofs.Ownership
import FlowBurst.Proofs.Addressing
import FlowBurst.Proofs.Muted
import FlowBurst.Proofs.Framing
import FlowBurst.Proofs.Following
import FlowBurst.Proofs.Closing
import FlowBurst.Proofs.Streams
import FlowBurst.Proofs.HalfFrames
import FlowBurst.Proofs.Segmentation
import FlowBurst.Proofs.Lifecycle
import FlowBurst.Proofs.BurstFrames
import FlowBurst.Proofs.ExitStatus
import FlowBurst.Proofs.Speech
import FlowBurst.Proofs.Independence
import FlowBurst.Proofs.Succession
import FlowBurst.Proofs.SideBySide
import FlowBurst.Proofs.Answers
import FlowBurst.Proofs.EchoService
import FlowBurst.Proofs.Deliveries
import FlowBurst.Proofs.Recognition
import FlowBurst.Proofs.Deadlines
import FlowBurst.Proofs.Outcome
import FlowBurst.Proofs.Completion
import FlowBurst.Proofs.Attempts
import FlowBurst.Proofs.StopPolicy
import FlowBurst.Proofs.Reading
import FlowBurst.Proofs.Verdicts
import FlowBurst.Proofs.Reencoding
import FlowBurst.Proofs.Counts
import FlowBurst.Proofs.Refusals
import FlowBurst.Proofs.Merging
import FlowBurst.Proofs.Acceptance
import FlowBurst.Proofs.Reports
import FlowBurst.Proofs.Inbound
import FlowBurst.Proofs.Interruption
import FlowBurst.Proofs.Expiry
import FlowBurst.Proofs.Beginnings
import FlowBurst.Proofs.Timeouts
import FlowBurst.Proofs.Sessions
import FlowBurst.Proofs.Names
import FlowBurst.Proofs.ClosedOnce
import FlowBurst.Proofs.Appending
import FlowBurst.Proofs.Waking
