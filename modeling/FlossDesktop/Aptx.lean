import FlossDesktop.CodecService
import FlossDesktop.EncodingHost
import FlossDesktop.Library.Machine
import Mathlib.Algebra.Group.Nat.Defs

/-! The aptX and aptX HD sources. At every tick of a fixed interval a source reads the PCM of
one packet, has it encoded in the codec service and enqueues the packet. The packets vary in
size so that the sample rate is met on the whole. The two sources differ in their framing. -/

namespace FlossDesktop.Aptx

open EncodingHost (PcmConfig)

structure FramingParams where
  sleepTimeNs : Nat := 0
  pcmReads : Nat := 0
  pcmBytesPerRead : Nat := 0
  aptxBytes : Nat := 0
  frameSizeCounter : Nat := 0
deriving Repr, DecidableEq

structure FeedingParams where
  sampleRate : Nat := 0
  bitsPerSample : Nat := 0
  channelCount : Nat := 0
deriving Repr, DecidableEq

structure EncoderStats where
  expectedPackets : Nat := 0
  expectedReadsCount : Nat := 0
  expectedReadBytes : Nat := 0
  droppedPackets : Nat := 0
  actualReadsCount : Nat := 0
  actualReadBytes : Nat := 0
deriving Repr, DecidableEq

/-- The control block of a source, with the client of the codec service once it has one. -/
structure EncoderCb (κ : Type) where
  useScmsT : Bool := false
  timestamp : Nat := 0
  feedingParams : FeedingParams := {}
  framingParams : FramingParams := {}
  stats : EncoderStats := {}
  codecClient : Option κ := none
deriving Repr, DecidableEq

def aptxInitFramingParams (useScmsT : Bool) (sampleRate : Nat) : FramingParams where
  sleepTimeNs :=
    if sampleRate == 48000 then (if useScmsT then 13000000 else 14000000)
    else (if useScmsT then 14000000 else 15000000)

def aptxUpdateFramingParams (useScmsT : Bool) (sampleRate : Nat) (params : FramingParams) : FramingParams :=
  if sampleRate == 48000 then
    if useScmsT then { params with aptxBytes := 624, pcmBytesPerRead := 208, pcmReads := 12 }
    else { params with aptxBytes := 672, pcmBytesPerRead := 224, pcmReads := 12 }
  else if useScmsT then
    if params.frameSizeCounter + 1 < 20 then
      { params with aptxBytes := 616, pcmBytesPerRead := 224, pcmReads := 11, frameSizeCounter := params.frameSizeCounter + 1 }
    else { params with aptxBytes := 644, pcmBytesPerRead := 368, pcmReads := 7, frameSizeCounter := 0 }
  else if params.frameSizeCounter + 1 < 8 then
    { params with aptxBytes := 660, pcmBytesPerRead := 240, pcmReads := 11, frameSizeCounter := params.frameSizeCounter + 1 }
  else { params with aptxBytes := 672, pcmBytesPerRead := 224, pcmReads := 12, frameSizeCounter := 0 }

/-- The interval of aptX HD depends on nothing. -/
def aptxHdInitFramingParams (_useScmsT : Bool) (_sampleRate : Nat) : FramingParams where
  sleepTimeNs := 9000000

def aptxHdUpdateFramingParams (_useScmsT : Bool) (sampleRate : Nat) (params : FramingParams) : FramingParams :=
  if sampleRate == 48000 then { params with aptxBytes := 648, pcmBytesPerRead := 24, pcmReads := 108 }
  else
    let params :=
      if params.frameSizeCounter + 1 == 80 then { params with aptxBytes := 648, pcmBytesPerRead := 24, pcmReads := 108 }
      else if (params.frameSizeCounter + 1) % 20 == 0 then
        { params with aptxBytes := 612, pcmBytesPerRead := 24, pcmReads := 102 }
      else { params with aptxBytes := 594, pcmBytesPerRead := 24, pcmReads := 99 }
    { params with frameSizeCounter := if params.frameSizeCounter + 1 == 80 then 0 else params.frameSizeCounter + 1 }

/-- What is particular to one of the two sources. `blockBytes` is what its encoder has to
answer to `init`. -/
structure Source where
  hd : Bool
  initFramingParams : Bool → Nat → FramingParams
  updateFramingParams : Bool → Nat → FramingParams → FramingParams
  bytesPerFrame : Nat
  blockBytes : Nat

def aptx : Source where
  hd := false
  initFramingParams := aptxInitFramingParams
  updateFramingParams := aptxUpdateFramingParams
  bytesPerFrame := 2
  blockBytes := 16

def aptxHd : Source where
  hd := true
  initFramingParams := aptxHdInitFramingParams
  updateFramingParams := aptxHdUpdateFramingParams
  bytesPerFrame := 3
  blockBytes := 24

/-- What is enqueued for transmission. `len` is worked out apart from the payload. -/
structure Packet where
  timestamp : Nat
  len : Nat
  payload : Bytes
  framesCount : Nat
  bytesRead : Nat
deriving Repr, DecidableEq

/-- What became of a tick that asked for `expected` bytes of PCM and was given `pcm`. -/
inductive Mark where
  | underflow (expected : Nat) (pcm : Bytes)
  | failed (expected : Nat) (pcm : Bytes)
  | enqueued (expected : Nat) (pcm : Bytes) (packet : Packet)
deriving Repr, DecidableEq

/-- The control block and the configuration it publishes. -/
structure State (κ : Type) where
  cb : EncoderCb κ := {}
  pcmConfig : PcmConfig := {}
deriving Repr, DecidableEq

variable {κ ε : Type} (source : Source) (transcode : κ → Bytes → Nat → κ × Except ε Bytes)

def COMPRESSION_RATIO : Nat := 4

/-- One read of the packet: a quarter of it has to come out. -/
def encodeRead (pcmBytesPerRead : Nat) (client : κ) (input : Bytes) : κ × Except Unit Bytes :=
  match transcode client input (pcmBytesPerRead / 4) with
  | (client, .ok output) => (client, if output.length == pcmBytesPerRead / 4 then .ok output else .error ())
  | (client, .error _) => (client, .error ())

/-- The reads of a packet one after another. The samples are whole, so that the steps through
the buffer are those of the bytes. -/
def encodeReads (params : FramingParams) (client : Option κ) (pcm : Bytes) : Option κ × Except Unit Bytes :=
  match client with
  | none => (none, .error ())
  | some client =>
    match Feed.feed (encodeRead transcode params.pcmBytesPerRead) client
        (Chunks.chunks params.pcmBytesPerRead params.pcmReads pcm) with
    | (client, result) => (some client, result)

def feedingReset (cb : EncoderCb κ) : EncoderCb κ :=
  { cb with framingParams := source.initFramingParams cb.useScmsT cb.feedingParams.sampleRate }

def feedingFlush (cb : EncoderCb κ) : EncoderCb κ :=
  { cb with framingParams := source.initFramingParams cb.useScmsT cb.feedingParams.sampleRate }

def getEncoderIntervalMs (cb : EncoderCb κ) : Nat := cb.framingParams.sleepTimeNs / (1000 * 1000)

def encoderCleanup (state : State κ) : State κ := { cb := {}, pcmConfig := state.pcmConfig.update 0 0 0 }

/-- The configuration of the codec may be invalid. The client is what came up in the service,
with its answer. -/
def encoderInit (state : State κ) (config : Option FeedingParams) (client : κ) (answer : Except ε Nat) : State κ :=
  let state := encoderCleanup state
  let cb := { state.cb with useScmsT := false }
  let cb :=
    match config with
    | none => cb
    | some feedingParams => feedingReset source { cb with feedingParams }
  match answer with
  | .ok block =>
    if block == source.blockBytes then
      { cb := { cb with codecClient := some client }
        pcmConfig := state.pcmConfig.update cb.feedingParams.sampleRate cb.feedingParams.bitsPerSample
          cb.feedingParams.channelCount }
    else encoderCleanup { state with cb }
  | .error _ => encoderCleanup { state with cb }

def EncoderStats.expecting (stats : EncoderStats) (expected : Nat) : EncoderStats :=
  { stats with expectedPackets := stats.expectedPackets + 1, expectedReadsCount := stats.expectedReadsCount + 1
               expectedReadBytes := stats.expectedReadBytes + expected }

def EncoderStats.dropped (stats : EncoderStats) : EncoderStats := { stats with droppedPackets := stats.droppedPackets + 1 }

/-- The read callback is asked for the whole packet, and gives at most that. -/
def sendFrames (cb : EncoderCb κ) (available : Bytes) : EncoderCb κ × Mark :=
  let params := source.updateFramingParams cb.useScmsT cb.feedingParams.sampleRate cb.framingParams
  let expected := params.pcmReads * params.pcmBytesPerRead
  let pcm := available.take expected
  let stats := cb.stats.expecting expected
  let stats := { stats with actualReadBytes := stats.actualReadBytes + pcm.length }
  if pcm.length < expected then ({ cb with framingParams := params, stats := stats.dropped }, .underflow expected pcm)
  else
    let stats := { stats with actualReadsCount := stats.actualReadsCount + 1 }
    match encodeReads transcode params cb.codecClient pcm with
    | (codecClient, .error _) =>
      ({ cb with framingParams := params, stats := stats.dropped, codecClient }, .failed expected pcm)
    | (codecClient, .ok payload) =>
      let pcmBytesEncoded := params.pcmReads * params.pcmBytesPerRead
      let rtpTimestamp := pcmBytesEncoded / cb.feedingParams.channelCount / source.bytesPerFrame
      let packet : Packet :=
        { timestamp := cb.timestamp, len := pcmBytesEncoded / COMPRESSION_RATIO, payload, framesCount := 1, bytesRead := pcm.length }
      let cb := { cb with framingParams := params, codecClient, timestamp := (cb.timestamp + rtpTimestamp) % 2 ^ 32 }
      if packet.len > 0 then ({ cb with stats }, .enqueued expected pcm packet)
      else ({ cb with stats := stats.dropped }, .failed expected pcm)

inductive Input where
  | tick (available : Bytes)
  | reset
  | flush
deriving Repr, DecidableEq

/-- A source between its start and its end. -/
def step (cb : EncoderCb κ) : Input → EncoderCb κ × List Mark
  | .tick available => ((sendFrames source transcode cb available).1, [(sendFrames source transcode cb available).2])
  | .reset => (feedingReset source cb, [])
  | .flush => (feedingFlush source cb, [])

end FlossDesktop.Aptx
