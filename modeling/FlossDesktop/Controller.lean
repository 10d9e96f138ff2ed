import FlossDesktop.Transport

/-! The transport between a host and its radio. The radio takes commands in order
and emits events in order. Commands that the transport has passed on and events
that it has not read yet are in flight, so either side may act on an old picture
of the other. -/

namespace FlossDesktop

/-- The Command Complete event for Reset, as it stands on the wire. -/
def resetComplete (credits : UInt8) : Bytes := [0x0e, 4, credits, 3, 12, 0]

/-- A whole event with its length byte, other than the completion of a reset. -/
def ordinaryEvent (event : Bytes) : Bool :=
  event.length == 2 + (byte event 1).toNat && 2 ≤ event.length &&
    !(byte event 0 == 0x0e && byte event 3 == 3 && byte event 4 == 12)

structure System where
  transport : Transport := {}
  commands : List Bytes := []
  wire : Bytes := []
  -- The voice connections the radio holds.
  connections : List Nat := []
  actions : List Action := []
  -- The event packets handled since the last reset passed, once there was one.
  sinceReset : Option (List Bytes) := none

namespace System

inductive Move where
  | host (packet : Bytes)
  | receive (kind : UInt8) (bytes : Bytes)
  | command (credits : UInt8)
  | emit (event : Bytes)
  | deliver (length : Nat)
deriving Repr, DecidableEq

/-- The commands among the actions, on their way to the control endpoint. -/
def commandsOf (actions : List Action) : List Bytes :=
  actions.filterMap fun action => match action with
    | .usb packet => if byte packet 0 = 1 then some packet else none
    | _ => none

def host (s : System) (packet : Bytes) : Option System :=
  match s.transport.host packet with
  | (_, .error _) => none
  | (transport, .ok actions) =>
    some { s with
      transport, commands := s.commands ++ commandsOf actions, actions := s.actions ++ actions
      sinceReset := if isReset packet then some [] else s.sinceReset }

def receive (s : System) (kind : UInt8) (bytes : Bytes) : Option System :=
  if kind = 2 ∨ kind = 3 then
    match s.transport.usb kind bytes with
    | (_, .error _) => none
    | (transport, .ok actions) => some { s with transport, actions := s.actions ++ actions }
  else none

/-- The radio takes its oldest command. Reset drops every connection without an
event for any of them. -/
def command (s : System) (credits : UInt8) : Option System :=
  match s.commands with
  | [] => none
  | packet :: commands =>
    if isReset packet then some { s with commands, connections := [], wire := s.wire ++ resetComplete credits }
    else some { s with commands }

def emit (s : System) (event : Bytes) : Option System :=
  if ordinaryEvent event then
    let connections := match connection (4 :: event) with
      | some link => link.1 :: s.connections
      | none => s.connections
    let connections := match disconnection (4 :: event) with
      | some id => connections.filter (· ≠ id)
      | none => connections
    some { s with connections, wire := s.wire ++ event }
  else none

/-- The next bytes of the event stream reach the transport in one chunk. -/
def deliver (s : System) (length : Nat) : Option System :=
  match s.transport.frame 4 (s.wire.take length), s.transport.usb 4 (s.wire.take length) with
  | (_, .ok frames), (transport, .ok actions) =>
    some { s with
      transport, wire := s.wire.drop length, actions := s.actions ++ actions
      sinceReset := s.sinceReset.map (· ++ frames) }
  | _, _ => none

/-- One move of the system. A call that returns an error ends the helper. -/
def step (s : System) : Move → Option System
  | .host packet => s.host packet
  | .receive kind bytes => s.receive kind bytes
  | .command credits => s.command credits
  | .emit event => s.emit event
  | .deliver length => s.deliver length

def run (s : System) : List Move → Option System
  | [] => some s
  | move :: rest => (s.step move).bind fun s => s.run rest

end System
end FlossDesktop
