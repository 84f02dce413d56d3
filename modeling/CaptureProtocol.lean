import CaptureProtocol.Main
import CaptureProtocol.Intake
import CaptureProtocol.Routing.Script
import CaptureProtocol.Text.Hex
import CaptureProtocol.Worker
import CaptureProtocol.Proofs.Utf8
import CaptureProtocol.Proofs.FrameReading
import CaptureProtocol.Proofs.Reception
import CaptureProtocol.Proofs.FramePlan
import CaptureProtocol.Proofs.Encoding
import CaptureProtocol.Proofs.RoundTrip
import CaptureProtocol.Proofs.Sending
import CaptureProtocol.Proofs.UnreliableNetwork
import CaptureProtocol.Proofs.FrameGrammar
import CaptureProtocol.Proofs.Reassembly
import CaptureProtocol.Proofs.StreamIsolation
import CaptureProtocol.Proofs.ReadPayloads
import CaptureProtocol.Proofs.LinkDelivery
import CaptureProtocol.Proofs.RemovedHandles
import CaptureProtocol.Proofs.CaptureHistory
import CaptureProtocol.Proofs.SendOutcomes
import CaptureProtocol.Proofs.StagedChanges
import CaptureProtocol.Proofs.PendingUpdates
import CaptureProtocol.Proofs.StagedUpdates
import CaptureProtocol.Proofs.RackRuns
import CaptureProtocol.Proofs.SlotReuse
import CaptureProtocol.Proofs.CleanDelivery
import CaptureProtocol.Proofs.Subscriptions
import CaptureProtocol.Proofs.InletHistory
import CaptureProtocol.Proofs.SlotIndependence
import CaptureProtocol.Proofs.Boards
import CaptureProtocol.Proofs.StatusDelivery
import CaptureProtocol.Proofs.PoolHistory
import CaptureProtocol.Proofs.StatusHistory
import CaptureProtocol.Proofs.Listeners
import CaptureProtocol.Proofs.Reentrancy
import CaptureProtocol.Proofs.FrameDiscipline
import CaptureProtocol.Proofs.FewestFrames
import CaptureProtocol.Proofs.RefusedCalls
import CaptureProtocol.Proofs.UncheckedReading
import CaptureProtocol.Proofs.UncheckedDecoding
import CaptureProtocol.Proofs.PayloadGrammar
import CaptureProtocol.Proofs.Standalone
import CaptureProtocol.Proofs.Truncation
import CaptureProtocol.Proofs.Corruption
import CaptureProtocol.Proofs.MessageKinds
import CaptureProtocol.Proofs.GroupedDelivery
import CaptureProtocol.Proofs.FrameAccounts
import CaptureProtocol.Proofs.StreamAccounts
import CaptureProtocol.Proofs.AnalogLabels
import CaptureProtocol.Proofs.HandingOrder
import CaptureProtocol.Proofs.EthernetFrames
import CaptureProtocol.Proofs.TickTimes
import CaptureProtocol.Proofs.SendCounters
