import FlossDesktop.Library.Feed

/-! HCI framing and SCO state of the userspace USB helper. The transport sees
byte chunks from the radio and whole packets from the host, and answers both
with a list of actions for the main loop. It performs no I/O itself. -/

namespace FlossDesktop

abbrev Bytes := List UInt8

/-- Indexing is total here. Every caller below checks the length first, as the
source must in order not to panic. -/
def byte (bytes : Bytes) (index : Nat) : UInt8 := bytes.getD index 0

def u16FromLeBytes (low high : UInt8) : Nat := low.toNat + 256 * high.toNat

/-- Connection handles occupy the low twelve bits of the first two bytes. -/
def handle (bytes : Bytes) : Nat := u16FromLeBytes (byte bytes 0) (byte bytes 1) &&& 0x0fff

def maxFrame : Nat := 4096

inductive Action where
  | host (packet : Bytes)
  | usb (packet : Bytes)
  | sco (mode : UInt8)
deriving Repr, DecidableEq

structure Framer where
  bytes : Bytes := []
deriving Repr, DecidableEq

namespace Framer

/-- How one byte leaves the receive loop: it may continue, drop the remainder
of a USB fragment, complete a frame, or abandon the call. -/
inductive Progress where
  | more
  | discard
  | frame (frame : Bytes)
  | error (reason : String)
deriving Repr, DecidableEq

def headerSize (kind : UInt8) : Option Nat :=
  match kind with
  | 2 => some 4
  | 3 => some 3
  | 4 => some 2
  | _ => none

def payloadSize (kind : UInt8) (bytes : Bytes) : Nat :=
  match kind with
  | 2 => u16FromLeBytes (byte bytes 2) (byte bytes 3)
  | 3 => (byte bytes 2).toNat
  | _ => (byte bytes 1).toNat

def pushByte (framer : Framer) (kind : UInt8) (scoHandle : Option Nat) (next : UInt8) : Framer × Progress :=
  let bytes := framer.bytes ++ [next]
  match headerSize kind with
  | none => (⟨bytes⟩, .error "unsupported USB packet type")
  | some header =>
    if bytes.length < header then (⟨bytes⟩, .more)
    -- A continuation mistaken for a header is rejected with the rest of its
    -- fragment; its advertised length is never trusted.
    else if kind = 3 ∧ bytes.length = header ∧ scoHandle ≠ some (handle bytes) then (⟨[]⟩, .discard)
    else
      let total := header + payloadSize kind bytes
      if total > maxFrame then (⟨[]⟩, .error "oversized HCI frame")
      else if bytes.length = total then (⟨[]⟩, .frame (kind :: bytes))
      else (⟨bytes⟩, .more)

/-- The receive loop. An error discards the frames completed by the same call,
but the buffer keeps whatever the failing iteration left in it. -/
def push (framer : Framer) (kind : UInt8) (scoHandle : Option Nat) : Bytes → Framer × Except String (List Bytes)
  | [] => (framer, .ok [])
  | next :: rest =>
    match framer.pushByte kind scoHandle next with
    | (framer, .more) => framer.push kind scoHandle rest
    | (framer, .discard) => (framer, .ok [])
    | (framer, .error reason) => (framer, .error reason)
    | (framer, .frame frame) =>
      let (framer, result) := framer.push kind scoHandle rest
      (framer, result.map (frame :: ·))

end Framer

/-- A SCO link is a connection handle and its air mode (2 CVSD, 3 transparent). -/
abbrev Link := Nat × UInt8

/-- The byte counters are only reported in logs; they are unbounded here. -/
structure Transport where
  event : Framer := {}
  acl : Framer := {}
  sco : Framer := {}
  link : Option Link := none
  scoRxBytes : Nat := 0
  scoTxBytes : Nat := 0
deriving Repr, DecidableEq

/-- The SCO connection an event packet reports as established. The packet starts
with its kind byte, so the event code is at index one and parameters at three. -/
def connection (packet : Bytes) : Option Link :=
  let p := packet.drop 3
  if byte packet 1 = 0x2c ∧ p.length = 17 ∧ byte p 0 = 0 ∧ (byte p 9 = 0 ∨ byte p 9 = 2) then
    some (handle (p.drop 1), byte p 16)
  else if byte packet 1 = 0x03 ∧ p.length = 11 ∧ byte p 0 = 0 ∧ byte p 9 = 0 then
    some (handle (p.drop 1), 2)
  else none

/-- The connection handle an event packet reports as disconnected. -/
def disconnection (packet : Bytes) : Option Nat :=
  let p := packet.drop 3
  if byte packet 1 = 0x05 ∧ p.length = 4 ∧ byte p 0 = 0 then some (handle (p.drop 1)) else none

/-- The host's HCI Reset command, opcode 0x0c03 without parameters. -/
def isReset (packet : Bytes) : Bool :=
  byte packet 0 == 1 && byte packet 1 == 3 && byte packet 2 == 12 && byte packet 3 == 0

namespace Transport

/-- The connection half of event handling. Endpoints are configured before the
host sees connection success, so the SCO action comes first. -/
def connected (t : Transport) (packet : Bytes) : Except String (Transport × List Action) :=
  match connection packet with
  | none => .ok (t, [])
  | some (id, mode) =>
    if id > 0x0eff ∨ (mode ≠ 2 ∧ mode ≠ 3) then .error "unsupported SCO connection parameters"
    else if t.link.isSome ∧ t.link ≠ some (id, mode) then .error "multiple SCO connections are unsupported"
    else if t.link.isNone then
      .ok ({ t with link := some (id, mode), sco := {}, scoRxBytes := 0, scoTxBytes := 0 }, [.sco mode])
    else .ok (t, [])

/-- The disconnection half; other handles leave the link alone. -/
def disconnected (t : Transport) (packet : Bytes) : Transport × List Action :=
  match disconnection packet with
  | none => (t, [])
  | some id =>
    if t.link.map Prod.fst = some id then ({ t with link := none, sco := {} }, [.sco 0]) else (t, [])

/-- One framed packet from the radio. An error changes nothing. -/
def packet (t : Transport) (kind : UInt8) (packet : Bytes) : Except String (Transport × List Action) :=
  if kind = 4 then
    match t.connected packet with
    | .error reason => .error reason
    | .ok (opened, first) =>
      let (closed, second) := opened.disconnected packet
      .ok (closed, first ++ second ++ [.host packet])
  else if kind = 3 then
    if t.link.map Prod.fst ≠ some (handle (packet.drop 1)) then .ok (t, [])
    else .ok ({ t with scoRxBytes := t.scoRxBytes + (packet.length - 4) }, [.host packet])
  else .ok (t, [.host packet])

def packetStep (kind : UInt8) (t : Transport) (frame : Bytes) : Transport × Except String (List Action) :=
  match t.packet kind frame with
  | .error reason => (t, .error reason)
  | .ok (t, actions) => (t, .ok actions)

/-- The loop over framed packets. An error loses the actions of this call and
keeps the state that earlier packets of the call produced. -/
def packets (t : Transport) (kind : UInt8) (frames : List Bytes) : Transport × Except String (List Action) :=
  Feed.feed (packetStep kind) t frames

/-- Pass a chunk to the reassembly buffer of its endpoint. -/
def frame (t : Transport) (kind : UInt8) (bytes : Bytes) : Transport × Except String (List Bytes) :=
  match kind with
  | 2 => let (acl, frames) := t.acl.push kind none bytes; ({ t with acl }, frames)
  | 3 => let (sco, frames) := t.sco.push kind (t.link.map Prod.fst) bytes; ({ t with sco }, frames)
  | 4 => let (event, frames) := t.event.push kind none bytes; ({ t with event }, frames)
  | _ => (t, .error "invalid USB receive type")

def usb (t : Transport) (kind : UInt8) (bytes : Bytes) : Transport × Except String (List Action) :=
  if kind = 3 ∧ t.link.isNone then ({ t with sco := {} }, .ok [])
  else
    match t.frame kind bytes with
    | (t, .error reason) => (t, .error reason)
    | (t, .ok frames) => t.packets kind frames

def hostHeader (kind : UInt8) : Option Nat :=
  match kind with
  | 1 | 3 => some 3
  | 2 => some 4
  | _ => none

/-- A host packet whose length has been checked. Reset forgets the link and the
partial data of both data endpoints before the command reaches the radio. -/
def hostPacket (t : Transport) (kind : UInt8) (packet : Bytes) (payload : Nat) : Transport × List Action :=
  let (t, actions) : Transport × List Action :=
    if isReset packet then ({ t with link := none, sco := {}, acl := {} }, [.sco 0]) else (t, [])
  if kind = 3 then
    if t.link.map Prod.fst ≠ some (handle (packet.drop 1)) then (t, actions)
    else ({ t with scoTxBytes := t.scoTxBytes + payload }, actions ++ [.usb packet])
  else (t, actions ++ [.usb packet])

def host (t : Transport) (packet : Bytes) : Transport × Except String (List Action) :=
  match packet with
  | [] => (t, .error "empty host packet")
  | kind :: _ =>
    match hostHeader kind with
    | none => (t, .error "unsupported host packet type (LE ISO is not implemented)")
    | some header =>
      if packet.length < header + 1 then (t, .error "short host header")
      else
        let payload := if kind = 2 then u16FromLeBytes (byte packet 3) (byte packet 4) else (byte packet 3).toNat
        if packet.length ≠ 1 + header + payload ∨ packet.length > maxFrame + 1 then
          (t, .error "invalid host HCI packet length")
        else
          let (t, actions) := t.hostPacket kind packet payload
          (t, .ok actions)

/-- A call the main loop can make on its transport. -/
inductive Input where
  | usb (kind : UInt8) (bytes : Bytes)
  | host (packet : Bytes)
deriving Repr, DecidableEq

def call (t : Transport) : Input → Transport × Except String (List Action)
  | .usb kind bytes => t.usb kind bytes
  | .host packet => t.host packet

/-- A sequence of calls. The first error ends the run, as it ends the helper. -/
def run (t : Transport) (inputs : List Input) : Transport × Except String (List Action) :=
  Feed.feed call t inputs

end Transport
end FlossDesktop
