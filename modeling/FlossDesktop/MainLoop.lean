import FlossDesktop.Transport

/-! The main loop of the USB helper, one instruction at a time. Everything the
operating system or libusb decides is an event: a stop request, the outcome of a
read, write or transmission, and the receive callbacks that run while the loop is
inside `pump` or `set_sco`. -/

namespace FlossDesktop

/-- The queue shared with the receive callback. -/
structure Incoming where
  queue : List (UInt8 × Bytes) := []
  bytes : Nat := 0
  overflow : Bool := false
deriving Repr, DecidableEq

/-- What the callback did with a chunk. -/
inductive Disposition where
  | queued
  | ignored
  | dropped
deriving Repr, DecidableEq

namespace Incoming

def disposition (incoming : Incoming) (buffer : Bytes) : Disposition :=
  if buffer.length > 4096 ∨ incoming.queue.length ≥ 128 ∨ incoming.bytes + buffer.length > 262144 then .dropped
  else if buffer.isEmpty then .ignored
  else .queued

def receive (incoming : Incoming) (kind : UInt8) (buffer : Bytes) : Incoming :=
  match incoming.disposition buffer with
  | .dropped => { incoming with overflow := true }
  | .ignored => incoming
  | .queued =>
    { incoming with bytes := incoming.bytes + buffer.length, queue := incoming.queue ++ [(kind, buffer)] }

end Incoming

namespace MainLoop

/-- Where the loop is. `changing` and `pumping` are the two calls that may run
receive callbacks before they return. -/
inductive Phase where
  | top
  | draining
  | executing
  | changing (mode : UInt8)
  | reading (left : Nat)
  | pumping (waitMs : Nat)
  | finished (result : Except String Unit)

inductive WriteOutcome where
  | complete
  | short
  | interrupted
  | failed (reason : String)
deriving Repr, DecidableEq

inductive ReadOutcome where
  | packet (bytes : Bytes)
  | wouldBlock
  | interrupted
  | failed (reason : String)
deriving Repr, DecidableEq

inductive Event where
  | proceed
  | stopping (requested : Bool)
  | callback (kind : UInt8) (buffer : Bytes)
  | returned (code : Int)
  | wrote (outcome : WriteOutcome)
  | sent (code : Int)
  | read (outcome : ReadOutcome)
deriving Repr, DecidableEq

/-- A chunk as it reached the receive callback. -/
structure Arrival where
  kind : UInt8
  buffer : Bytes
  disposition : Disposition
deriving Repr, DecidableEq

/-- What crossed the boundary of the loop so far. No instruction reads it. -/
structure Record where
  arrived : List Arrival := []
  calls : List Transport.Input := []
  emitted : List Action := []
  executed : List Action := []

structure State where
  phase : Phase := .top
  incoming : Incoming := {}
  transport : Transport := {}
  pending : List Action := []
  record : Record := {}

namespace State

def finish (s : State) (reason : String) : State := { s with phase := .finished (.error reason) }

/-- The failure reported for a negative return code. -/
def failed (s : State) (operation : String) (code : Int) : State :=
  s.finish (operation ++ " failed (" ++ toString code ++ ")")

def receive (s : State) (kind : UInt8) (buffer : Bytes) : State :=
  { s with
    incoming := s.incoming.receive kind buffer
    record := { s.record with arrived := s.record.arrived ++ [⟨kind, buffer, s.incoming.disposition buffer⟩] } }

/-- The effect of the action taken from the front of the queue has succeeded. -/
def executed (s : State) (action : Action) : State :=
  { s with phase := .executing, record := { s.record with executed := s.record.executed ++ [action] } }

/-- Call the transport and append its actions, or stop at its error. -/
def call (s : State) (input : Transport.Input) (next : Phase) : State :=
  let s := { s with record := { s.record with calls := s.record.calls ++ [input] } }
  match s.transport.call input with
  | (transport, .error reason) => { s with transport }.finish reason
  | (transport, .ok actions) =>
    { s with
      phase := next, transport, pending := s.pending ++ actions
      record := { s.record with emitted := s.record.emitted ++ actions } }

/-- One chunk from the incoming queue. The action queue is bounded here only. -/
def drain (s : State) : State :=
  match s.incoming.queue with
  | [] => { s with phase := .executing }
  | (kind, data) :: queue =>
    let s := { s with incoming := { s.incoming with queue, bytes := s.incoming.bytes - data.length } }
    let s := s.call (.usb kind data) .draining
    match s.phase with
    | .draining => if s.pending.length > 256 then s.finish "bounded HCI action queue overflow" else s
    | _ => s

/-- Leave `queue_host` for the event pump. Sleep only without work to submit. -/
def pump (s : State) (blocked : Bool) : State :=
  { s with phase := .pumping (if blocked || s.pending.isEmpty then 1 else 0) }

def write (s : State) (packet : Bytes) (rest : List Action) : WriteOutcome → State
  | .complete => { s with pending := rest }.executed (.host packet)
  | .short => { s with pending := rest }.finish "short virtual-HCI packet write"
  | .interrupted => s
  | .failed reason => { s with pending := rest }.finish reason

/-- A full transfer pool puts the action back in front and ends this pass. -/
def sent (s : State) (packet : Bytes) (rest : List Action) (code : Int) : State :=
  if code = -105 then s.pump true
  else if code < 0 then { s with pending := rest }.failed "USB transmit" code
  else { s with pending := rest }.executed (.usb packet)

/-- One iteration of the host burst, with `left` iterations after it. -/
def readHost (s : State) (left : Nat) : ReadOutcome → State
  | .packet bytes =>
    if bytes.isEmpty then s.finish "virtual HCI closed"
    else s.call (.host (bytes.take 4097)) (.reading left)
  | .wouldBlock => s.pump false
  | .interrupted => { s with phase := .reading left }
  | .failed reason => s.finish reason

/-- The next instruction, if the event is an answer to it. -/
def step (s : State) (event : Event) : Option State :=
  match s.phase, event with
  | .top, .stopping true => some { s with phase := .finished (.ok ()) }
  | .top, .stopping false =>
    some (if s.incoming.overflow then s.finish "bounded USB receive queue overflow" else { s with phase := .draining })
  | .draining, .proceed => some s.drain
  | .executing, event =>
    match s.pending, event with
    | [], .proceed => some { s with phase := .reading 32 }
    | .host packet :: rest, .wrote outcome => some (s.write packet rest outcome)
    | .sco mode :: rest, .proceed => some { s with phase := .changing mode, pending := rest }
    | .usb packet :: rest, .sent code => some (s.sent packet rest code)
    | _, _ => none
  | .changing _, .callback kind buffer => some (s.receive kind buffer)
  | .changing mode, .returned code =>
    some (if code < 0 then s.failed "USB SCO endpoint change" code else s.executed (.sco mode))
  | .reading 0, .proceed => some (s.pump false)
  | .reading (left + 1), .read outcome => some (s.readHost left outcome)
  | .pumping _, .callback kind buffer => some (s.receive kind buffer)
  | .pumping _, .returned code => some (if code < 0 then s.failed "USB events" code else { s with phase := .top })
  | _, _ => none

def run (s : State) : List Event → Option State
  | [] => some s
  | event :: rest => (s.step event).bind fun s => s.run rest

end State
end MainLoop
end FlossDesktop
