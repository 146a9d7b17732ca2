import KafkaHandles.DirectCall
import KafkaHandles.Main
import KafkaHandles.Package
import KafkaHandles.Producer.Crew
import KafkaHandles.Proofs.Client.Frame
import KafkaHandles.Proofs.Producer.Steps
import KafkaHandles.Session
import KafkaHandles.Wrapping
import KafkaHandles.Proofs.Producer.Outcomes
import KafkaHandles.Proofs.Client.Calls
import KafkaHandles.Proofs.Handle.Deeds
import KafkaHandles.Proofs.Handle.Scene
import KafkaHandles.Proofs.Consumer.Operations
import KafkaHandles.Proofs.Producer.Operations
import KafkaHandles.Proofs.Handle.Making
import KafkaHandles.Proofs.Handle.Lifecycle
import KafkaHandles.Proofs.Client.Interruptions
import KafkaHandles.Proofs.Consumer.Rounds
import KafkaHandles.Proofs.Consumer.Delivery
import KafkaHandles.Proofs.Consumer.Modes
import KafkaHandles.Proofs.Client.Simulation
import KafkaHandles.Proofs.Handle.Simulation
import KafkaHandles.Proofs.PropertySet
import KafkaHandles.Proofs.Client.Faults
import KafkaHandles.Proofs.Handle.Creation
import KafkaHandles.Proofs.Handle.Atomicity
import KafkaHandles.Proofs.Consumer.Readings
import KafkaHandles.Proofs.Consumer.StartPosition
import KafkaHandles.Proofs.Producer.Boundary
import KafkaHandles.Proofs.Text.Utf8
import KafkaHandles.Proofs.Config.Agreement
import KafkaHandles.Proofs.Message
import KafkaHandles.Proofs.PropertySet.Ownership
import KafkaHandles.Proofs.Waiter
import KafkaHandles.Proofs.Consumer.Rebalance
import KafkaHandles.Proofs.Producer.Sending
import KafkaHandles.Proofs.Consumer.Refusals
import KafkaHandles.Proofs.Config.Acceptance
import KafkaHandles.Proofs.Config.Endpoints
import KafkaHandles.Proofs.Handle.Failures
import KafkaHandles.Proofs.Consumer.Polling
import KafkaHandles.Proofs.Consumer.Assigning
import KafkaHandles.Proofs.Handle.Rejections
import KafkaHandles.Proofs.Handle.Timeouts
import KafkaHandles.Proofs.Consumer.Lines
import KafkaHandles.Proofs.Consumer.Progress
import KafkaHandles.Proofs.OffsetPolicy
import KafkaHandles.Proofs.Program.RecordPrinter
import KafkaHandles.Proofs.Program.LineSender
