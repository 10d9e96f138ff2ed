import FlossDesktop.Transport

/-! The wideband receive path. Transport packets enter a bounded byte queue, and the
decoder looks for the two header bytes and the sync word of a sixty byte frame in
it. The queue is the ring buffer of the stack without its offsets. -/

namespace FlossDesktop.Msbc

abbrev pktLen : Nat := 60

def h2Header0 : UInt8 := 0x01

def syncWord : UInt8 := 0xad

def h2HeaderFramesCount : List UInt8 := [0x08, 0x38, 0xc8, 0xf8]

def supportedPktSize : List Nat := [pktLen, 72, 24]

/-- A partial frame is kept while the next packet is taken in. -/
def msbcBufferSize : List Nat := [pktLen * 2, 360, 120]

def verifyH2HeaderSeqNum (number : UInt8) : Bool := h2HeaderFramesCount.contains number

structure Decoder where
  bufSize : Nat
  buf : Bytes := []
  readCorrupted : Bool := false
deriving Repr, DecidableEq

namespace Decoder

/-- The buffer for a packet size, where the stack has one. -/
def init (pktSize : Nat) : Option Decoder :=
  ((supportedPktSize.zip msbcBufferSize).find? fun entry => entry.1 == pktSize).map fun entry => { bufSize := entry.2 }

def enqueuePacket (d : Decoder) (data : Bytes) (corrupted : Bool) : Decoder × Bool :=
  let d := { d with readCorrupted := d.readCorrupted || corrupted }
  if data.length > d.bufSize - d.buf.length then (d, false) else ({ d with buf := d.buf ++ data }, true)

/-- A frame may start here, as far as its header has arrived. -/
def candidate : Bytes → Bool
  | [] => false
  | [first] => first == h2Header0
  | [first, second] => first == h2Header0 && verifyH2HeaderSeqNum second
  | first :: second :: third :: _ => first == h2Header0 && verifyH2HeaderSeqNum second && third == syncWord

/-- The bytes from the first candidate on, among the next few positions. -/
def scan : Nat → Bytes → Option Bytes
  | 0, _ => none
  | _, [] => none
  | left + 1, first :: rest => if candidate (first :: rest) then some (first :: rest) else scan left rest

inductive Found where
  | head (frame : Bytes)
  | incomplete
  | nothing
deriving Repr, DecidableEq

/-- Bytes before a candidate are dropped, whether or not its frame is complete. -/
def findMsbcPktHead (d : Decoder) : Decoder × Found :=
  if d.readCorrupted then ({ d with readCorrupted := false }, .nothing)
  else
    match scan pktLen d.buf with
    | none => (d, .nothing)
    | some buf => ({ d with buf }, if buf.length < pktLen then .incomplete else .head (buf.take pktLen))

def markPktDecoded (d : Decoder) : Decoder := { d with buf := d.buf.drop pktLen }

/-- What a call of the decoder yields: a frame, or sixty bytes concealed as lost. -/
inductive Decoded where
  | frame (bytes : Bytes)
  | lost
deriving Repr, DecidableEq

def decode (d : Decoder) : Decoder × Option Decoded :=
  if d.buf.length < pktLen then (d, none)
  else
    match d.findMsbcPktHead with
    | (d, .incomplete) => (d, none)
    | (d, .head frame) => (d.markPktDecoded, some (.frame frame))
    | (d, .nothing) => (d.markPktDecoded, some .lost)

theorem scan_length {left : Nat} {data found : Bytes} (scanned : scan left data = some found) :
    found.length ≤ data.length := by
  induction left generalizing data with
  | zero => cases data <;> cases scanned
  | succ left ih =>
    cases data with
    | nil => cases scanned
    | cons first rest =>
      unfold scan at scanned
      split at scanned
      · cases scanned
        exact Nat.le_refl _
      · exact Nat.le_succ_of_le (ih scanned)

theorem findMsbcPktHead_length (d : Decoder) : d.findMsbcPktHead.1.buf.length ≤ d.buf.length := by
  unfold findMsbcPktHead
  split
  · exact Nat.le_refl _
  · split
    · exact Nat.le_refl _
    next buf scanned => exact scan_length scanned

theorem findMsbcPktHead_enough {d after : Decoder} {found : Found} (enough : ¬ d.buf.length < pktLen)
    (searched : d.findMsbcPktHead = (after, found)) (done : found ≠ .incomplete) : ¬ after.buf.length < pktLen := by
  unfold findMsbcPktHead at searched
  split at searched
  · cases searched
    exact enough
  · split at searched
    · cases searched
      exact enough
    · split at searched
      · cases searched
        exact absurd rfl done
      next long =>
        cases searched
        exact long

theorem decode_shrinks {d after : Decoder} {decoded : Decoded} (ran : d.decode = (after, some decoded)) :
    after.buf.length < d.buf.length := by
  unfold decode at ran
  split at ran
  · cases ran
  next enough =>
    have bound := d.findMsbcPktHead_length
    rcases searched : d.findMsbcPktHead with ⟨middle, found⟩
    have left := findMsbcPktHead_enough enough searched
    rw [searched] at ran bound
    have smaller : found ≠ .incomplete → middle.markPktDecoded.buf.length < d.buf.length := by
      intro done
      have long := left done
      dsimp only [pktLen, markPktDecoded] at long bound ⊢
      rw [List.length_drop]
      omega
    cases found with
    | incomplete => cases ran
    | head frame =>
      cases ran
      exact smaller nofun
    | nothing =>
      cases ran
      exact smaller nofun

/-- Decode until nothing more is returned. -/
def decodeAll (d : Decoder) : Decoder × List Decoded :=
  match ran : d.decode with
  | (d, none) => (d, [])
  | (after, some decoded) =>
    have : after.buf.length < d.buf.length := decode_shrinks ran
    let (last, rest) := after.decodeAll
    (last, decoded :: rest)
termination_by d.buf.length

/-- What became of the packets so far. -/
structure Outcome where
  refused : Nat := 0
  decoded : List Decoded := []
deriving Repr, DecidableEq

def feed (d : Decoder) (outcome : Outcome) : List Bytes → Decoder × Outcome
  | [] => (d, outcome)
  | packet :: rest =>
    let (d, taken) := d.enqueuePacket packet false
    let (d, decoded) := d.decodeAll
    d.feed { refused := outcome.refused + (if taken then 0 else 1), decoded := outcome.decoded ++ decoded } rest

end Decoder
end FlossDesktop.Msbc
