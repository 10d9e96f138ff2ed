import FlossDesktop.Library.Chunks
import FlossDesktop.Library.Feed
import FlossDesktop.Transport

/-! The sandboxed encoders of the codec service. An encoder object owns the state of one
reference encoder, whose library is a parameter here: it takes four stereo frames at a time,
or for LDAC one block of PCM, and answers with code words or reports an error. -/

namespace FlossDesktop.CodecService

inductive Errno where
  | einval
  | enomem
  | eio
  | enospc
deriving Repr, DecidableEq

/-- The reference encoders of the two aptX variants share their calling convention. -/
structure AptxLibrary (σ : Type) where
  init : Option σ
  hdInit : Option σ
  encodestereo : σ → List UInt32 → List UInt32 → σ × Option (UInt16 × UInt16)
  hdEncodestereo : σ → List UInt32 → List UInt32 → σ × Option (UInt32 × UInt32)

def kAptxPcmBytes : Nat := 16

def kAptxHdPcmBytes : Nat := 24

/-- A sample of two bytes in the order of the host, little endian as every target is. -/
def readU16 (data : Bytes) (offset : Nat) : UInt32 :=
  (byte data offset).toUInt32 ||| (byte data (offset + 1)).toUInt32 <<< 8

/-- The third byte carries the sign into the fourth. -/
def readS24Le (data : Bytes) (offset : Nat) : UInt32 :=
  (byte data offset).toUInt32 ||| (byte data (offset + 1)).toUInt32 <<< 8 |||
    (byte data (offset + 2)).toInt8.toInt32.toUInt32 <<< 16

variable {σ : Type} (library : AptxLibrary σ)

/-- Four stereo frames of two bytes a sample become two code words, high byte first. -/
def aptxBlock (state : σ) (block : Bytes) : σ × Except Errno Bytes :=
  let left := (List.range 4).map fun i => readU16 block (i * 4)
  let right := (List.range 4).map fun i => readU16 block (i * 4 + 2)
  match library.encodestereo state left right with
  | (state, some (first, second)) =>
    (state, .ok [(first >>> 8).toUInt8, first.toUInt8, (second >>> 8).toUInt8, second.toUInt8])
  | (state, none) => (state, .error .eio)

/-- Of the four bytes of a code word the low three are sent, high byte first. -/
def aptxHdBlock (state : σ) (block : Bytes) : σ × Except Errno Bytes :=
  let left := (List.range 4).map fun i => readS24Le block (i * 6)
  let right := (List.range 4).map fun i => readS24Le block (i * 6 + 3)
  match library.hdEncodestereo state left right with
  | (state, some (first, second)) =>
    (state, .ok [(first >>> 16).toUInt8, (first >>> 8).toUInt8, first.toUInt8,
      (second >>> 16).toUInt8, (second >>> 8).toUInt8, second.toUInt8])
  | (state, none) => (state, .error .eio)

/-- An aptX encoder object. -/
structure A2dpAptxEncoder (σ : Type) where
  hd : Bool := false
  state : Option σ := none
deriving Repr, DecidableEq

namespace A2dpAptxEncoder

variable (encoder : A2dpAptxEncoder σ)

/-- The variant is what the request carries, if it is for aptX. Answers the size of a block.
Memory for the state may be short. -/
def init (variant : Option Nat) (memory : Bool) : A2dpAptxEncoder σ × Except Errno Nat :=
  match variant with
  | none => ({ encoder with state := none }, .error .einval)
  | some variant =>
    if variant != 0 && variant != 1 then ({ encoder with state := none }, .error .einval)
    else
      let hd := variant == 1
      if !memory then ({ hd, state := none }, .error .enomem)
      else
        match if hd then library.hdInit else library.init with
        | none => ({ hd, state := none }, .error .eio)
        | some state => ({ hd, state := some state }, .ok (if hd then kAptxHdPcmBytes else kAptxPcmBytes))

def pcmBytes : Nat := if encoder.hd then kAptxHdPcmBytes else kAptxPcmBytes

def encodeBlock (state : σ) (block : Bytes) : σ × Except Errno Bytes :=
  if encoder.hd then aptxHdBlock library state block else aptxBlock library state block

/-- All of `iBuf` in blocks. A block that fails ends the call; the state it leaves is kept. -/
def transcode (iBuf : Bytes) (oLen : Nat) : A2dpAptxEncoder σ × Except Errno Bytes :=
  match encoder.state with
  | none => (encoder, .error .einval)
  | some state =>
    if iBuf.length == 0 || iBuf.length % encoder.pcmBytes != 0 || oLen < iBuf.length / 4 then
      (encoder, .error .einval)
    else
      let blocks := Chunks.chunks encoder.pcmBytes (iBuf.length / encoder.pcmBytes) iBuf
      match Feed.feed (encoder.encodeBlock library) state blocks with
      | (state, result) => ({ encoder with state := some state }, result)

end A2dpAptxEncoder

/-- The reference encoder of LDAC. It answers how much PCM it took, the bytes it wrote and
the number of frames in them. -/
structure LdacLibrary (σ : Type) where
  initHandleEncode : (mtu qualityMode channelMode pcmFormat sampleRate : Int) → Option σ
  encode : σ → Bytes → σ × Option (Nat × Bytes × Int)

def ldacbtEncLsu : Nat := 128

def ldacbtMaxNbytes : Nat := 1024

structure LdacEncoderParam where
  sampleRate : Int
  channelMode : Int
  pcmFormat : Int
  qualityMode : Int
  effectiveFrameSize : Int
deriving Repr, DecidableEq

/-- Stereo and dual channel, the three sample formats and the three quality modes have the
numbers that the library gives them. -/
def LdacEncoderParam.supported (param : LdacEncoderParam) : Bool :=
  [44100, 48000, 88200, 96000].contains param.sampleRate && [2, 1].contains param.channelMode &&
    [2, 3, 4].contains param.pcmFormat && !(param.qualityMode < 0 || param.qualityMode > 2) &&
    !(param.effectiveFrameSize < 679 || param.effectiveFrameSize > 4096)

structure A2dpLdacEncoder (σ : Type) where
  handle : Option σ := none
  inputFrameSize : Nat := 0
deriving Repr, DecidableEq

namespace A2dpLdacEncoder

variable (ldac : LdacLibrary σ) (encoder : A2dpLdacEncoder σ)

def init (param : Option LdacEncoderParam) (memory : Bool) : A2dpLdacEncoder σ × Except Errno Nat :=
  match param with
  | none => ({}, .error .einval)
  | some param =>
    if !param.supported then ({}, .error .einval)
    else if !memory then ({}, .error .enomem)
    else
      match ldac.initHandleEncode (param.effectiveFrameSize + 12) param.qualityMode param.channelMode
          param.pcmFormat param.sampleRate with
      | none => ({}, .error .einval)
      | some handle =>
        let inputFrameSize := ldacbtEncLsu * 2 * param.pcmFormat.toNat
        ({ handle := some handle, inputFrameSize }, .ok inputFrameSize)

/-- One block of PCM. The answer starts with the number of frames in the bytes that follow,
which may be none. -/
def transcode (iBuf : Bytes) (oLen : Nat) : A2dpLdacEncoder σ × Except Errno Bytes :=
  match encoder.handle with
  | none => (encoder, .error .einval)
  | some handle =>
    if iBuf.length != encoder.inputFrameSize then (encoder, .error .einval)
    else if oLen < ldacbtMaxNbytes + 1 then (encoder, .error .enospc)
    else
      match ldac.encode handle iBuf with
      | (handle, none) => ({ encoder with handle := some handle }, .error .eio)
      | (handle, some (encodedPcm, written, frames)) =>
        let encoder := { encoder with handle := some handle }
        if encodedPcm != iBuf.length || written.length > ldacbtMaxNbytes || frames < 0 || frames > 255 then
          (encoder, .error .eio)
        else (encoder, .ok (UInt8.ofNat frames.toNat :: written))

end A2dpLdacEncoder

end FlossDesktop.CodecService
