import FlossDesktop.Aptx

/-! The LDAC source. A tick asks for some frames, and each is read and encoded on its own. The
encoder collects what it is given and writes when it has enough, so that several frames may
go by before a packet has anything in it. -/

namespace FlossDesktop.Ldac

open Aptx (FeedingParams EncoderStats)
open CodecService (LdacEncoderParam)
open EncodingHost (PcmConfig)

def kLdacEncodeSamples : Nat := 128

/-- The control block of the source, with the client of the codec service once it has one. The
fraction of a frame that is left to the next tick is not part of it. -/
structure EncoderCb (κ : Type) where
  timestamp : Nat := 0
  feedingParams : FeedingParams := {}
  sampleRate : Nat := 0
  stats : EncoderStats := {}
  codecClient : Option κ := none
deriving Repr, DecidableEq

/-- A buffer on its way to the transmit queue. -/
structure Packet where
  timestamp : Nat := 0
  payload : Bytes := []
  layerSpecific : Nat := 0
deriving Repr, DecidableEq

/-- What happens in an iteration, in order. `dropped` is a packet given up, and `more` tells
whether the queue goes on after a packet that is handed over. -/
inductive Mark where
  | encoded (pcm : Bytes) (frames : Nat) (output : Bytes)
  | underflow (left : Nat)
  | dropped
  | enqueued (packet : Packet) (doneNbFrame bytesRead : Nat) (more : Bool)
deriving Repr, DecidableEq

/-- What the iteration finds outside: the answers of the read callback and those of the
enqueue callback, in order. No further audio is no audio, and the queue goes on by default. -/
structure World where
  reads : List Bytes := []
  accepts : List Bool := []
deriving Repr, DecidableEq

variable {κ ε : Type} (transcode : κ → Bytes → Nat → κ × Except ε Bytes) (room : Nat)

def readSize (cb : EncoderCb κ) : Nat :=
  kLdacEncodeSamples * cb.feedingParams.channelCount * cb.feedingParams.bitsPerSample / 8

/-- Some audio is made a whole frame with silence; none is an underflow. -/
def readFeeding (cb : EncoderCb κ) (world : World) : EncoderCb κ × World × Option Bytes :=
  let size := readSize cb
  let pcm := (world.reads.headD []).take size
  let stats := { cb.stats with
    expectedReadsCount := cb.stats.expectedReadsCount + 1
    expectedReadBytes := cb.stats.expectedReadBytes + size
    actualReadBytes := cb.stats.actualReadBytes + pcm.length }
  let world := { world with reads := world.reads.tail }
  if pcm.length < size && pcm.length == 0 then ({ cb with stats }, world, none)
  else
    ({ cb with stats := { stats with actualReadsCount := stats.actualReadsCount + 1 } }, world,
      some (pcm ++ List.replicate (size - pcm.length) 0))

/-- How the filling of a packet ends: with the frames that are left, or in giving up. -/
inductive Filled where
  | packet (packet : Packet) (left : Nat)
  | gaveUp
deriving Repr, DecidableEq

/-- Samples of a channel in a frame of the transport. -/
def ldacFrameSize (sampleRate : Nat) : Nat :=
  if sampleRate == 176400 || sampleRate == 192000 then 512
  else if sampleRate == 88200 || sampleRate == 96000 then 256
  else 128

/-- What the filling of a packet leaves behind. -/
structure Fill (κ : Type) where
  cb : EncoderCb κ
  world : World
  bytesRead : Nat
  marks : List Mark
  filled : Filled

def EncoderCb.dropped (cb : EncoderCb κ) : EncoderCb κ := { cb with stats := cb.stats.dropped }

/-- The inner loop. `count` bytes went to this packet in this loop; the encoder writes that far
behind the payload, in a buffer that has `room` for all of it. The number of frames comes in
front of the output and is moved away. -/
def fill (cb : EncoderCb κ) (world : World) (packet : Packet) (count bytesRead : Nat) : Nat → Fill κ
  | 0 => { cb, world, bytesRead, marks := [], filled := .packet packet 0 }
  | left + 1 =>
    match readFeeding cb world with
    | (cb, world, none) => { cb, world, bytesRead, marks := [.underflow (left + 1)], filled := .packet packet 0 }
    | (cb, world, some pcm) =>
      let bytesRead := bytesRead + pcm.length
      match cb.codecClient with
      | none => { cb := cb.dropped, world, bytesRead, marks := [.dropped], filled := .gaveUp }
      | some client =>
        if packet.payload.length ≥ room then
          { cb := cb.dropped, world, bytesRead, marks := [.dropped], filled := .gaveUp }
        else
          match transcode client pcm (room - packet.payload.length) with
          | (client, .ok (outFrames :: written)) =>
            let cb := { cb with codecClient := some client }
            let mark := Mark.encoded pcm outFrames.toNat written
            let packet :=
              { packet with
                payload := (packet.payload ++ List.replicate count 0 ++ written).take (packet.payload.length + written.length)
                layerSpecific := (packet.layerSpecific + outFrames.toNat) % 2 ^ 16 }
            if written.isEmpty && left != 0 then
              let rest := fill cb world packet (count + written.length) bytesRead left
              { rest with marks := mark :: rest.marks }
            else { cb, world, bytesRead, marks := [mark], filled := .packet packet left }
          | (client, _) =>
            { cb := { cb with codecClient := some client }.dropped, world, bytesRead, marks := [.dropped], filled := .gaveUp }

/-- Every packet takes a frame at least. -/
theorem fill_left {cb : EncoderCb κ} {world : World} {packet filled : Packet} {count bytesRead nbFrame left : Nat}
    (ran : (fill transcode room cb world packet count bytesRead (nbFrame + 1)).filled = .packet filled left) :
    left ≤ nbFrame := by
  induction nbFrame generalizing cb world packet count bytesRead with
  | zero =>
    unfold fill at ran
    split at ran
    · cases ran
      exact Nat.le_refl 0
    · split at ran
      · cases ran
      · split at ran
        · cases ran
        · split at ran
          · simp only [bne_self_eq_false, Bool.and_false, Bool.false_eq_true, if_false] at ran
            cases ran
            exact Nat.le_refl 0
          · cases ran
  | succ nbFrame ih =>
    unfold fill at ran
    split at ran
    · cases ran
      exact Nat.zero_le _
    · split at ran
      · cases ran
      · split at ran
        · cases ran
        · split at ran
          · dsimp only at ran
            split at ran
            · exact (ih ran).trans (Nat.le_succ nbFrame)
            · cases ran
              exact Nat.le_refl _
          · cases ran

/-- The outer loop: packets until no frame is left, something fails or the queue is full.
`remaining` is what was left when the last packet was handed over. -/
def encodeLoop (cb : EncoderCb κ) (world : World) (bytesRead remaining nbFrame : Nat) : EncoderCb κ × List Mark :=
  match nbFrame with
  | 0 => (cb, [])
  | nbFrame + 1 =>
    let cb := { cb with stats := { cb.stats with expectedPackets := cb.stats.expectedPackets + 1 } }
    let result := fill transcode room cb world {} 0 bytesRead (nbFrame + 1)
    match ran : result.filled with
    | .gaveUp => (result.cb, result.marks)
    | .packet packet left =>
      have : left < nbFrame + 1 := Nat.lt_succ_of_le (fill_left transcode room ran)
      if packet.payload.isEmpty then
        let rest := encodeLoop result.cb result.world result.bytesRead remaining left
        (rest.1, result.marks ++ rest.2)
      else
        let packet := { packet with timestamp := result.cb.timestamp }
        let cb := { result.cb with
          timestamp := (result.cb.timestamp + packet.layerSpecific * ldacFrameSize cb.sampleRate) % 2 ^ 32 }
        let more := result.world.accepts.headD true
        let mark := Mark.enqueued packet (remaining - left) result.bytesRead more
        if more then
          let rest := encodeLoop cb { result.world with accepts := result.world.accepts.tail } result.bytesRead left left
          (rest.1, result.marks ++ mark :: rest.2)
        else (cb, result.marks ++ [mark])
termination_by nbFrame

def encodeFrames (cb : EncoderCb κ) (world : World) (nbFrame : UInt8) : EncoderCb κ × List Mark :=
  encodeLoop transcode room cb world 0 nbFrame.toNat nbFrame.toNat

/-- What the codec is configured to. `codecSpecific1` may choose a quality mode. -/
structure CodecConfig where
  feedingParams : FeedingParams
  channelMode : Nat
  codecSpecific1 : Int
deriving Repr, DecidableEq

/-- The modes are 0 to 2. A request for an adaptive mode, and any other, gets the middle one. -/
def qualityModeIndex (codecSpecific1 default : Int) : Int :=
  let index := if codecSpecific1 ≠ 0 then codecSpecific1.tmod 10 else default
  if index < 0 || index > 2 then 1 else index

/-- The formats have the numbers of bytes of their samples. -/
def pcmFmt (pcmWlength : Nat) : Nat :=
  if pcmWlength == 2 then 2 else if pcmWlength == 3 then 3 else if pcmWlength == 4 then 4 else 2

def adjustEffectiveMtu (peerMtu : Nat) : Nat := if room > peerMtu then peerMtu else room

def encoderParam (config : CodecConfig) (default : Int) (peerMtu : Nat) : LdacEncoderParam where
  sampleRate := config.feedingParams.sampleRate
  channelMode := config.channelMode
  pcmFormat := pcmFmt (config.feedingParams.bitsPerSample >>> 3)
  qualityMode := qualityModeIndex config.codecSpecific1 default
  effectiveFrameSize := adjustEffectiveMtu room peerMtu

/-- The control block and the configuration it publishes. -/
structure State (κ : Type) where
  cb : EncoderCb κ := {}
  pcmConfig : PcmConfig := {}
deriving Repr, DecidableEq

def encoderCleanup (state : State κ) : State κ := { cb := {}, pcmConfig := state.pcmConfig.update 0 0 0 }

/-- The service is asked for an encoder, which has to take what a frame has. -/
def encoderInit (init : LdacEncoderParam → κ × Except ε Nat) (state : State κ) (config : Option CodecConfig)
    (default : Int) (peerMtu : Nat) : State κ :=
  let state := encoderCleanup state
  match config with
  | none => state
  | some config =>
    let feeding := config.feedingParams
    let cb := { state.cb with feedingParams := feeding, sampleRate := feeding.sampleRate }
    let expected := kLdacEncodeSamples * feeding.channelCount * (feeding.bitsPerSample >>> 3)
    match init (encoderParam room config default peerMtu) with
    | (client, .ok block) =>
      if block == expected then
        { cb := { cb with codecClient := some client }
          pcmConfig := state.pcmConfig.update feeding.sampleRate feeding.bitsPerSample feeding.channelCount }
      else { state with cb }
    | (_, .error _) => { state with cb }

end FlossDesktop.Ldac
