import CaptureProtocol.Capture.Module
import CaptureProtocol.Chunks
import CaptureProtocol.Sink.DataSink

/-!
# A demonstration of the link

A capture module with one CAN and one analog stream sends made-up traffic and status reports through a loopback
queue to a sink.

* `DemonstrationOptions` — how much traffic there is;
* `Bench` — module and sink; `Bench.forward` hands waiting frames to the sink;
* `madeUpMessage`, `voltageAt` — the traffic;
* `demonstrate` — the whole run; it gives the sink's summary of the status reports.
-/

namespace CaptureProtocol

/-- How much traffic a demonstration has. -/
structure DemonstrationOptions where
  deviceId : UInt16 := 1
  canFrames : Nat := 200
  analogBatches : Nat := 20
  /-- The samples of an analog batch. -/
  batchSize : Nat := 1000
  /-- Whether to log details. -/
  verbose : Bool := false
  config : LinkConfig := {}
deriving Inhabited, Repr

/-- A capture module and a sink, joined by the module's queue. -/
structure Bench where
  capture : CaptureModule LoopbackQueue
  sink : DataSink
deriving Inhabited, Repr

namespace Bench

/-- Hands all waiting frames to the sink. -/
def forward (bench : Bench) : Bench :=
  let (frames, capture) := bench.capture.takeFrames
  { capture, sink := frames.foldl (fun sink frame => (sink.takeEthernetFrame 0 frame).1) bench.sink }

/-- Sends a batch through a stream and hands its frames to the sink. -/
def send (bench : Bench) (handle : Nat) (batch : SignalBatch) : Except LinkError Bench :=
  match bench.capture.send handle batch with
  | (_, some (.error (.refused error))) => .error error
  -- times in microseconds never overflow
  | (capture, _) => .ok { bench with capture }.forward

/-- Sends the status reports and hands their frames to the sink. -/
def report (bench : Bench) : Except LinkError Bench :=
  match bench.capture.sendReports 0 with
  | (_, .error error) => .error error
  | (capture, .ok _) => .ok { bench with capture }.forward

end Bench

/-! ### Traffic -/

/-- The next state of a linear congruential generator. -/
def nextSeed (seed : UInt64) : UInt64 := seed * 6364136223846793005 + 1442695040888963407

/-- A made-up CAN message: a standard identifier and up to eight data bytes. -/
def madeUpMessage (seed : UInt64) (index : Nat) : CanMessage :=
  let length := (seed >>> 32).toNat % 9
  .ofData (UInt64.ofNat (index * 100)) ((seed >>> 40).toUInt32 % 0x800)
    ((List.range length).map fun byte => (seed >>> UInt64.ofNat byte).toUInt8)

/-- Made-up CAN messages. -/
def madeUpMessages (count : Nat) : List CanMessage :=
  ((List.range count).foldl
    (fun (seed, messages) index => (nextSeed seed, madeUpMessage seed index :: messages))
    ((1 : UInt64), ([] : List CanMessage))).2.reverse

/-- The signal of the analog stream: a sine of 50 Hz, sampled ten thousand times a second. -/
def voltageAt (index : Nat) : Binary64 :=
  .ofFloat (9.5 * Float.sin (2.0 * 3.141592653589793 * 50.0 * (index.toFloat * 1e-4)))

/-- The shape of the analog signal. -/
def voltage : SignalShape :=
  .describe "voltage" .float64 none [] (some "V") (some ⟨.ofInt32 (-10), .ofInt32 10⟩) none

/-- The batches of CAN messages, up to 32 messages each. -/
def canBatches (options : DemonstrationOptions) : List SignalBatch :=
  (chunks 32 (madeUpMessages options.canFrames)).map .can

/-- An analog batch. -/
def analogBatch (options : DemonstrationOptions) (index : Nat) : SignalBatch :=
  let start := index * options.batchSize
  .analog (UInt64.ofNat (start * 100)) ((List.range options.batchSize).map fun i => voltageAt (start + i))

/-- Sends the traffic of a demonstration. -/
def sendTraffic (options : DemonstrationOptions) (canStream analogStream : Nat) (bench : Bench) :
    Except LinkError Bench := do
  let bench ← (canBatches options).foldlM (fun bench batch => bench.send canStream batch) bench
  (List.range options.analogBatches).foldlM
    (fun bench index => bench.send analogStream (analogBatch options index)) bench

/-- Runs a demonstration and gives the sink's summary. -/
def demonstrate (options : DemonstrationOptions) : Except LinkError (List String) := do
  let config := options.config
  let sink ← DataSink.create config
  let queue : LoopbackQueue :=
    { source := config.sourceMac, capacity := Nat.max config.outputQueueCapacity 4096 }
  let capture ← CaptureModule.create config
    { deviceId := options.deviceId, description := "cmp-loopback", serialNumber := "LB-0001",
      softwareVersion := "0.1.0" } queue
  let (canInterface, capture) ← capture.addInterface .can none
  let (canStream, capture) ← capture.addStream canInterface .can none
  let capture := capture.modifyStream canStream
    (·.connect (some .can) (some (.microseconds none)))
  let (analogInterface, capture) ← capture.addInterface .analog none
  let (analogStream, capture) ← capture.addStream analogInterface .analog none
  let capture := capture.modifyStream analogStream
    (·.connect (some voltage) (some (.microseconds (some 100))))
  let (_, sink) := sink.openStream ⟨options.deviceId, 1, 1⟩ .can
  let (_, sink) := sink.openStream ⟨options.deviceId, 2, 2⟩ .analog
  let bench ← Bench.report { capture, sink }
  let bench ← sendTraffic options canStream analogStream bench
  let bench ← bench.report
  return bench.sink.board.summary

end CaptureProtocol
