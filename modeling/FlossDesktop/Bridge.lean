import FlossDesktop.Transport
import FlossDesktop.Library.RingBuffer

/-! The PCM rings between the audio graph and the Floss socket. All callbacks run
on one loop. What a socket call returns is an argument; so is what the clock and
the floating-point rate control decide, which touch the rings only by failing. An
exhausted list of socket outcomes stands for a socket that would block. The bytes written
are counted in 64 bits there, which no lease can fill: 768000 bytes a second at most would
take longer than half a million years. -/

namespace FlossDesktop

/-- At most 100 ms of stereo S32 at 96 kHz. -/
@[irreducible] def queueSize : Nat := 96000 * 8 / 10

theorem queueSize_pos : 0 < queueSize := by simp [queueSize]

abbrev PcmRing := RingBuffer UInt8 queueSize

/-- Subtraction on `size_t`, which wraps around. -/
@[irreducible] def sizeSub (left right : Nat) : Nat :=
  if right ≤ left then left - right else left + 2 ^ 64 - right

namespace Bridge

/-- A ready configuration that `get_pcm_config` accepts. -/
structure PcmConfig (hfp : Bool) where
  rate : Nat
  channels : Nat
  bits : Nat
  accepted : if hfp then bits = 16 ∧ channels = 1 ∧ (rate = 8000 ∨ rate = 16000)
    else (bits = 16 ∨ bits = 24 ∨ bits = 32) ∧ (channels = 1 ∨ channels = 2) ∧
      (rate = 44100 ∨ rate = 48000 ∨ rate = 88200 ∨ rate = 96000)

inductive SendOutcome where
  | sent (count : Nat)
  | again
  | failed
deriving Repr, DecidableEq

inductive RecvOutcome where
  | data (bytes : Bytes)
  | again
  | failed
deriving Repr, DecidableEq

/-- One turn of the receive loop. The peek happens on a full ring only. -/
structure Reception where
  peek : RecvOutcome := .data [0]
  outcome : RecvOutcome
  before : List SendOutcome := []
  after : List SendOutcome := []
deriving Repr, DecidableEq

/-- A playback buffer of the graph. -/
structure Offer where
  present : Bool := true
  data : Option Bytes := some []
  maxsize : Nat
  offset : Nat := 0
  size : Nat
  empty : Bool := false
deriving Repr, DecidableEq

/-- The two ways position feedback can be found stale. -/
inductive LevelFailure where
  | feedbackStalled
  | transportStopped
deriving Repr, DecidableEq

def LevelFailure.reason : LevelFailure → String
  | .feedbackStalled => "A2DP position feedback stalled"
  | .transportStopped => "A2DP transport stopped consuming submitted PCM"

/-- What time and rate control decide about one buffer. -/
structure Verdict where
  levelFailure : Option LevelFailure := none
  resamplerFailed : Bool := false
  late : Bool := false
  latencyFailed : Bool := false
deriving Repr, DecidableEq

/-- A microphone buffer of the graph. -/
structure Request where
  usable : Bool := true
  maxsize : Nat
  requested : Nat := 0
deriving Repr, DecidableEq

inductive StreamState where
  | error
  | unconnected
  | connecting
  | paused
  | streaming
deriving Repr, DecidableEq

/-- How starting a transport went: nothing was assigned, the configuration was
assigned and the start failed later, or the transport is there. A failed start
reports a reason or returns without one. -/
inductive Started (hfp : Bool) where
  | refused (reason : Option String)
  | abandoned (config : PcmConfig hfp) (reason : Option String)
  | ready (config : PcmConfig hfp)

/-- The outcomes of one profile transition. -/
structure Transition where
  hfp : Bool
  first : Started hfp
  fallback : Option (Started false) := none
  unpublish : Bool := false
  published : Bool := true
  renegotiated : Bool := true
  watched : Bool := true
  flush : List SendOutcome := []

/-- Output queued by the voice clock. -/
inductive Piece where
  | playback (bytes : Bytes)
  | silence (count : Nat)
deriving Repr, DecidableEq

def Piece.bytes : Piece → Bytes
  | .playback bytes => bytes
  | .silence count => List.replicate count 0

/-- One stretch of voice playback between two resets: what the graph queued and
what of it was played. -/
structure Epoch where
  offered : Bytes := []
  played : Bytes := []
  peak : Nat := 0
deriving Repr, DecidableEq

/-- What crossed the boundary since the transport was started. Nothing reads it. -/
@[ext] structure Account where
  sent : Bytes := []
  accepted : Bytes := []
  incoming : Bytes := []
  consumed : Nat := 0
  delivered : Bytes := []
  credited : List Piece := []
  past : List Epoch := []
  epoch : Epoch := {}
deriving Repr, DecidableEq

end Bridge

open Bridge

structure Bridge where
  failed : Bool := false
  messages : List String := []
  starting : Bool := true
  transitioning : Bool := false
  hfp : Bool := false
  rate : Nat := 0
  channels : Nat := 2
  bits : Nat := 0
  captureRate : Nat := 0
  queueLimit : Nat := 0
  playbackFormatReady : Bool := false
  captureFormatReady : Bool := false
  playbackRunning : Bool := false
  captureRunning : Bool := false
  queue : PcmRing := { memory := fun _ => 0 }
  captureQueue : PcmRing := { memory := fun _ => 0 }
  voiceQueue : PcmRing := { memory := fun _ => 0 }
  voiceCredit : Nat := 0
  voicePrimed : Bool := false
  capturePrimed : Bool := false
  captureOverruns : Nat := 0
  audioWritten : Nat := 0
  account : Account := {}

namespace Bridge

/-- The first reason is reported. -/
def fail (b : Bridge) (reason : String) : Bridge :=
  { b with failed := true, messages := if b.failed then b.messages else b.messages ++ [reason] }

/-- Bytes in the target delay of 30 ms. -/
def targetBytes (rate stride : Nat) : Nat := rate * stride * 3 / 100

/-- The socket took `n` of the `count` bytes offered to it. -/
def transmitted (b : Bridge) (count n : Nat) : Bridge :=
  { b with
    queue := (b.queue.loaded b.queue.readPos count).advance n
    audioWritten := b.audioWritten + n
    account.sent := b.account.sent ++ b.queue.load b.queue.readPos n }

def flushAudio (b : Bridge) : List SendOutcome → Bridge
  | [] => b
  | outcome :: rest =>
    if b.queue.queued = 0 ∨ b.failed then b
    else
      let count := min b.queue.queued (queueSize - b.queue.readPos)
      match outcome with
      | .again => b
      | .failed => b.fail "Floss PCM socket closed or write failed"
      | .sent n =>
        let n := min n count
        if n = 0 then b.fail "Floss PCM socket closed or write failed"
        else (b.transmitted count n).flushAudio rest

def outputQueued (b : Bridge) (data : Bytes) : Bridge :=
  { b with queue := b.queue.write data, account.accepted := b.account.accepted ++ data }

def queueOutput (b : Bridge) (data : Bytes) : Bridge × Bool :=
  if data.length > sizeSub b.queueLimit b.queue.queued then
    (b.fail "PCM transport exceeded bounded jitter capacity", false)
  else (b.outputQueued data, true)

def pieceQueued (b : Bridge) (piece : Piece) : Bridge :=
  { b with account.credited := b.account.credited ++ [piece] }

/-- Queue a piece of the voice clock's output. -/
def queuePiece (b : Bridge) (piece : Piece) : Bridge × Bool :=
  match b.queueOutput piece.bytes with
  | (b, false) => (b, false)
  | (b, true) => (b.pieceQueued piece, true)

/-- The first bytes of the playback ring have been queued for output. -/
def voiceUsed (b : Bridge) (bytes : Bytes) : Bridge :=
  { b with
    voiceQueue := (b.voiceQueue.loaded b.voiceQueue.readPos bytes.length).advance bytes.length
    account.epoch.played := b.account.epoch.played ++ bytes }

/-- The loop over the playback ring: at most `fuel` copies, which is enough when
it is the number of bytes wanted. The result is what is still wanted, or nothing
when the output was refused. -/
def playVoice (b : Bridge) (wanted : Nat) : Nat → Bridge × Option Nat
  | 0 => (b, some wanted)
  | fuel + 1 =>
    if wanted = 0 ∨ b.voicePrimed = false ∨ b.voiceQueue.queued = 0 ∨ b.failed then (b, some wanted)
    else
      let count := min wanted (min b.voiceQueue.queued (queueSize - b.voiceQueue.readPos))
      let bytes := b.voiceQueue.load b.voiceQueue.readPos count
      match b.queuePiece (.playback bytes) with
      | (b, false) => (b, none)
      | (b, true) => (b.voiceUsed bytes).playVoice (wanted - count) fuel

def queueSilence (b : Bridge) (wanted : Nat) : Bridge :=
  if wanted ≠ 0 ∧ b.failed = false then (b.queuePiece (.silence wanted)).1 else b

/-- Priming is decided before the loop over the playback ring. -/
def primeVoice (b : Bridge) : Bridge :=
  if b.voicePrimed = false ∧ b.voiceQueue.queued ≥ targetBytes b.rate (b.channels * (b.bits / 8)) then
    { b with voicePrimed := true }
  else b

/-- Whole samples among the bytes that came in. -/
def voiceWanted (b : Bridge) (incoming : Nat) : Nat :=
  let credit := b.voiceCredit + incoming
  credit - credit % (b.channels * 2)

def takeCredit (b : Bridge) (incoming : Nat) : Bridge :=
  { b with voiceCredit := b.voiceCredit + incoming - b.voiceWanted incoming }

/-- Received packets clock the output: one outgoing sample for each complete
incoming one, silence where the graph has none. -/
def voicePlaybackCredit (b : Bridge) (incoming : Nat) (before after : List SendOutcome) : Bridge :=
  let wanted := b.voiceWanted incoming
  match ((b.takeCredit incoming).flushAudio before).primeVoice.playVoice wanted wanted with
  | (b, none) => b
  | (b, some wanted) => (b.queueSilence wanted).flushAudio after

/-- Take microphone bytes out of the ring. -/
def dropCapture (b : Bridge) (count : Nat) : Bridge :=
  { b with captureQueue := b.captureQueue.advance count, account.consumed := b.account.consumed + count }

/-- A final partial sample stays. -/
def discardIdleCapture (b : Bridge) : Bridge :=
  let stride := b.channels * 2
  b.dropCapture (b.captureQueue.queued - b.captureQueue.queued % stride)

/-- A delayed consumer loses old samples, not the link. -/
def dropOverrun (b : Bridge) : Bridge :=
  let stride := b.channels * 2
  let keep := targetBytes b.rate 1 * stride
  let b := b.dropCapture (sizeSub b.captureQueue.queued keep / stride * stride)
  { b with captureOverruns := b.captureOverruns + 1 }

/-- Bytes arrived behind the last queued one. -/
def received (b : Bridge) (bytes : Bytes) : Bridge :=
  { b with
    captureQueue := (b.captureQueue.store b.captureQueue.writePos bytes).grow bytes.length
    account.incoming := b.account.incoming ++ bytes }

/-- The length that a read asks for. -/
def readLength (b : Bridge) (budget : Nat) : Nat :=
  min budget (min (sizeSub b.queueLimit b.captureQueue.queued) (queueSize - b.captureQueue.writePos))

/-- One read from the socket into the ring. The result is the number of bytes, or
nothing when the loop returns. -/
def receiveBytes (b : Bridge) (budget : Nat) (outcome : RecvOutcome) : Bridge × Option Nat :=
  match outcome with
  | .again => (b, none)
  | .failed => (b.fail "Floss microphone PCM transport closed or read failed", none)
  | .data bytes =>
    let bytes := bytes.take (b.readLength budget)
    if bytes.isEmpty then (b.fail "Floss microphone PCM transport closed or read failed", none)
    else (b.received bytes, some bytes.length)

/-- A full ring is only emptied when there is more to read. -/
def makeRoom (b : Bridge) (peek : RecvOutcome) : Bridge × Bool :=
  if b.captureQueue.queued = b.queueLimit then
    match peek with
    | .again => (b, false)
    | .failed => (b.fail "Floss microphone PCM transport closed or read failed", false)
    | .data [] => (b.fail "Floss microphone PCM transport closed or read failed", false)
    | .data _ => (b.dropOverrun, true)
  else (b, true)

def discardIfIdle (b : Bridge) : Bridge := if b.captureRunning then b else b.discardIdleCapture

def readCapture (b : Bridge) (budget : Nat) : List Reception → Bridge
  | [] => b.discardIfIdle
  | reception :: rest =>
    if budget = 0 ∨ b.failed then b.discardIfIdle
    else
      match b.discardIfIdle.makeRoom reception.peek with
      | (b, false) => b
      | (b, true) =>
        match b.receiveBytes budget reception.outcome with
        | (b, none) => b
        | (b, some n) =>
          (b.voicePlaybackCredit n reception.before reception.after).readCapture (budget - n) rest

/-- The copy between two rings that wrap independently, at most `fuel` pieces. -/
def copyChunk (ring : PcmRing) (writePos : Nat) (source : Nat → UInt8) (maxsize offset size : Nat) (silent : Bool) :
    Nat → PcmRing
  | 0 => ring
  | fuel + 1 =>
    if size = 0 then ring
    else
      let count := min size (queueSize - writePos)
      let count := if silent then count else min count (maxsize - offset)
      let piece := (List.range count).map fun i => if silent then 0 else source (offset + i)
      copyChunk (ring.store writePos piece) ((writePos + count) % queueSize) source maxsize
        (if silent then offset else (offset + count) % maxsize) (size - count) silent fuel

/-- A signed little-endian sample of the wrapping source. -/
def sampleAt (source : Nat → UInt8) (maxsize bits start : Nat) : Int :=
  let word := ((List.range (bits / 8)).map fun j => (source ((start + j) % maxsize)).toNat * 2 ^ (8 * j)).sum
  if word.testBit (bits - 1) then (word : Int) - 2 ^ bits else word

/-- The mean of the two channels, truncated toward zero and stored little-endian. -/
def monoSample (source : Nat → UInt8) (maxsize bits start : Nat) (silent : Bool) : Bytes :=
  let sum := if silent then 0
    else sampleAt source maxsize bits start + sampleAt source maxsize bits (start + bits / 8)
  let value := (sum.tdiv 2 % 2 ^ 32).toNat
  (List.range (bits / 8)).map fun j => UInt8.ofNat (value / 2 ^ (8 * j))

def downmix (source : Nat → UInt8) (maxsize bits offset size : Nat) (silent : Bool) : Bytes :=
  (List.range (size / (2 * (bits / 8)))).flatMap fun i =>
    monoSample source maxsize bits (offset + 2 * (bits / 8) * i) silent

/-- The bytes of a buffer that passed every check. -/
structure Chunk where
  source : Nat → UInt8
  maxsize : Nat
  offset : Nat
  size : Nat
  silent : Bool
  inside : offset < maxsize

def Chunk.bytes (chunk : Chunk) : Bytes :=
  (List.range chunk.size).map fun i => if chunk.silent then 0 else chunk.source ((chunk.offset + i) % chunk.maxsize)

def copyInto (ring : PcmRing) (chunk : Chunk) : PcmRing :=
  (copyChunk ring ring.writePos chunk.source chunk.maxsize chunk.offset chunk.size chunk.silent chunk.size).grow chunk.size

/-- The checks on a buffer, and the mono mix where the transport has one channel.
The result is the failure reason, a silent refusal, or the chunk. -/
def inspect (b : Bridge) (offer : Offer) : Except String (Option Chunk) :=
  if offer.present = false then .ok none
  else if empty : offer.maxsize = 0 then
    if offer.size ≠ 0 then .error "nonempty PCM chunk has zero capacity" else .ok none
  else
    let offset := offer.offset % offer.maxsize
    let size := min offer.size offer.maxsize
    let source := fun i => (offer.data.getD []).getD i 0
    if size ≠ 0 ∧ offer.empty = false ∧ offer.data = none then .error "PCM payload is not mapped"
    else if size % (2 * (b.bits / 8)) ≠ 0 then .error "PCM chunk ends in a partial audio frame"
    else if b.channels = 1 then
      if size / 2 > queueSize then .ok none
      else
        let mono := downmix source offer.maxsize b.bits offset size offer.empty
        .ok (some ⟨fun i => mono.getD i 0, queueSize, 0, size / 2, offer.empty, queueSize_pos⟩)
    else .ok (some ⟨source, offer.maxsize, offset, size, offer.empty, Nat.mod_lt _ (Nat.pos_of_ne_zero empty)⟩)

/-- The level of the voice ring is always known; that of the music transport
depends on position feedback. -/
def playbackLevel (b : Bridge) (verdict : Verdict) : Bridge :=
  match b.hfp, verdict.levelFailure with
  | false, some failure => b.fail failure.reason
  | _, _ => b

def adaptRate (b : Bridge) (verdict : Verdict) : Bridge :=
  if verdict.resamplerFailed then b.fail "PipeWire adaptive resampler is unavailable for this stream" else b

def reportLatency (b : Bridge) (verdict : Verdict) : Bridge :=
  if verdict.latencyFailed then b.fail "could not publish Bluetooth buffering latency" else b

def queueVoice (b : Bridge) (chunk : Chunk) : Bridge :=
  if chunk.size > sizeSub b.queueLimit b.voiceQueue.queued then b
  else
    let voiceQueue := copyInto b.voiceQueue chunk
    { b with
      voiceQueue
      account.epoch.offered := b.account.epoch.offered ++ chunk.bytes
      account.epoch.peak := max b.account.epoch.peak voiceQueue.queued }

def chunkQueued (b : Bridge) (chunk : Chunk) : Bridge :=
  { b with queue := copyInto b.queue chunk, account.accepted := b.account.accepted ++ chunk.bytes }

def queueMusic (b : Bridge) (chunk : Chunk) (before after : List SendOutcome) : Bridge :=
  let b := b.flushAudio before
  if b.failed then b
  else if chunk.size > sizeSub b.queueLimit b.queue.queued then b
  else (b.chunkQueued chunk).flushAudio after

def process (b : Bridge) (offer : Offer) (verdict : Verdict) (before after : List SendOutcome) : Bridge :=
  if b.failed ∨ b.transitioning ∨ b.playbackFormatReady = false then b
  else
    match b.inspect offer with
    | .error reason => b.fail reason
    | .ok none => b
    | .ok (some chunk) =>
      let b := (b.playbackLevel verdict).adaptRate verdict
      if b.failed then b
      else if b.hfp = false ∧ verdict.late then b
      else
        let b := b.reportLatency verdict
        if b.hfp then b.queueVoice chunk else b.queueMusic chunk before after

/-- The first bytes of the microphone ring, which may cross its end. -/
def captureBytes (b : Bridge) (copied : Nat) : Bytes :=
  let first := min copied (queueSize - b.captureQueue.readPos)
  b.captureQueue.load b.captureQueue.readPos first ++ b.captureQueue.load 0 (copied - first)

def handOver (b : Bridge) (copied : Nat) : Bridge :=
  let first := min copied (queueSize - b.captureQueue.readPos)
  { b with
    captureQueue := (b.captureQueue.loaded b.captureQueue.readPos first).loaded 0 (copied - first)
    account.delivered := b.account.delivered ++ b.captureBytes copied }.dropCapture copied

/-- Fill a microphone buffer: primed samples, then silence. -/
def captureProcess (b : Bridge) (request : Request) (verdict : Verdict) : Bridge × Bytes :=
  if request.usable = false then (b, [])
  else
    let frames := request.maxsize / 2
    let frames := if request.requested ≠ 0 then min frames request.requested else frames
    let size := frames * 2
    let b :=
      if b.hfp ∧ b.capturePrimed = false ∧ b.captureQueue.queued ≥ targetBytes b.rate 2 then
        { b with capturePrimed := true }
      else b
    let b := if b.hfp ∧ b.transitioning = false then (b.adaptRate verdict).reportLatency verdict else b
    let copied :=
      if b.hfp ∧ b.transitioning = false ∧ b.captureFormatReady ∧ b.capturePrimed ∧ b.failed = false then
        min size (b.captureQueue.queued - b.captureQueue.queued % 2)
      else 0
    (b.handOver copied, b.captureBytes copied ++ List.replicate (size - copied) 0)

/-- Forget queued voice playback. -/
def stopPlayback (b : Bridge) : Bridge :=
  { b with
    voiceQueue := b.voiceQueue.reset
    voicePrimed := false
    account.past := b.account.past ++ [b.account.epoch]
    account.epoch := {} }

def stateChanged (b : Bridge) (state : StreamState) (error : Option String) : Bridge :=
  let b := { b with playbackRunning := state == .streaming }
  let b := if state ≠ .streaming then b.stopPlayback else b
  if state = .error then b.fail (error.getD "PipeWire stream failed")
  else if state = .unconnected ∧ b.starting = false then b.fail "PipeWire disconnected"
  else b

def captureStateChanged (b : Bridge) (state : StreamState) (error : Option String) : Bridge :=
  let b := { b with captureRunning := state == .streaming }
  let b := if state ≠ .streaming then { b.discardIdleCapture with capturePrimed := false } else b
  if state = .error then b.fail (error.getD "PipeWire microphone stream failed")
  else if state = .unconnected ∧ b.starting = false then b.fail "PipeWire microphone disconnected"
  else b

def stopTransport (b : Bridge) : Bridge :=
  { b with
    queue := b.queue.reset, captureQueue := b.captureQueue.reset, voiceQueue := b.voiceQueue.reset
    captureOverruns := 0, voiceCredit := 0, voicePrimed := false, capturePrimed := false, audioWritten := 0
    account := {} }

def configure {hfp : Bool} (b : Bridge) (config : PcmConfig hfp) : Bridge :=
  { b with rate := config.rate, channels := config.channels, bits := config.bits }

def failIf (b : Bridge) : Option String → Bridge
  | none => b
  | some reason => b.fail reason

def start {hfp : Bool} (b : Bridge) : Started hfp → Bridge × Bool
  | .refused reason => (b.failIf reason, false)
  | .abandoned config reason => ((b.configure config).failIf reason, false)
  | .ready config => (b.configure config, true)

/-- Silence that fills the transport's buffers before the first samples. -/
def primingBytes (b : Bridge) : Nat :=
  if b.hfp then b.rate * 2 / 100 else targetBytes b.rate (b.channels * (b.bits / 8))

def prime (b : Bridge) (flush : List SendOutcome) : Bridge :=
  (b.queueOutput (List.replicate b.primingBytes 0)).1.flushAudio flush

/-- Destroying the capture stream forgets its ring. -/
def unpublishCapture (b : Bridge) : Bridge :=
  { b with
    captureRunning := false, captureFormatReady := false, capturePrimed := false
    captureQueue := b.captureQueue.reset }

/-- The limits of the new configuration. -/
def setLimits (b : Bridge) : Bridge :=
  { b with
    captureRate := if b.hfp then b.rate else 16000
    queueLimit := b.rate * b.channels * (b.bits / 8) / 10 }

/-- The second half of a transition, with a transport connected. -/
def activate (b : Bridge) (oldRate oldBits oldCaptureRate : Nat) (t : Transition) : Bridge :=
  let b := b.setLimits
  let playbackChanged := oldRate ≠ b.rate ∨ oldBits ≠ b.bits
  let captureChanged := oldCaptureRate ≠ b.captureRate
  let b := if t.unpublish then b.unpublishCapture else b
  if t.published = false then { b with transitioning := false }.fail "could not publish profile microphone"
  else
    let b := if playbackChanged then { b with playbackFormatReady := false } else b
    let b := if captureChanged then { b with captureFormatReady := false } else b
    if (playbackChanged ∨ captureChanged) ∧ t.renegotiated = false then
      { b with transitioning := false }.fail "could not renegotiate PipeWire profile format"
    else if t.watched = false then { b with transitioning := false }.fail "could not watch new audio transport"
    else { b.prime t.flush with transitioning := false }

/-- The old transport is stopped before the new profile is started. -/
def leave (b : Bridge) (hfp : Bool) : Bridge := { { b with transitioning := true }.stopTransport with hfp }

/-- A failed start falls back to the music profile. -/
def giveUp (b : Bridge) : Bridge := { b.stopTransport with failed := false, hfp := false }

def refuse (b : Bridge) : Bridge :=
  { b with transitioning := false }.fail "profile transition failed; waiting before retry"

def transition (b : Bridge) (t : Transition) : Bridge :=
  match (b.leave t.hfp).start t.first with
  | (next, true) => next.activate b.rate b.bits b.captureRate t
  | (next, false) =>
    match t.fallback with
    | none => next.giveUp.refuse
    | some started =>
      match next.giveUp.start started with
      | (next, true) => next.activate b.rate b.bits b.captureRate t
      | (next, false) => next.refuse

/-- The bridge when its loop starts. -/
def startup {hfp : Bool} (config : PcmConfig hfp) (flush : List SendOutcome) : Bridge :=
  { (configure { hfp } config).setLimits.prime flush with starting := false }

inductive Step where
  | process (offer : Offer) (verdict : Verdict) (before after : List SendOutcome)
  | readCapture (receptions : List Reception)
  | flushAudio (outcomes : List SendOutcome)
  | captureProcess (request : Request) (verdict : Verdict)
  | stateChanged (state : StreamState) (error : Option String)
  | captureStateChanged (state : StreamState) (error : Option String)
  | formatReady (playback capture : Bool)
  | disconnected
  | stopTransport
  | transition (t : Transition)

/-- One callback. The microphone is read in the voice profile only. -/
def step (b : Bridge) : Step → Bridge
  | .process offer verdict before after => b.process offer verdict before after
  | .readCapture receptions => if b.hfp then b.readCapture queueSize receptions else b
  | .flushAudio outcomes => b.flushAudio outcomes
  | .captureProcess request verdict => (b.captureProcess request verdict).1
  | .stateChanged state error => b.stateChanged state error
  | .captureStateChanged state error => b.captureStateChanged state error
  | .formatReady playback capture => { b with playbackFormatReady := playback, captureFormatReady := capture }
  | .disconnected => b.fail "Floss PCM transport disconnected"
  | .stopTransport => b.stopTransport
  | .transition t => b.transition t

def run (b : Bridge) (steps : List Step) : Bridge := steps.foldl step b

end Bridge
end FlossDesktop
