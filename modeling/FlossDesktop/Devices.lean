import Mathlib.Logic.Function.Basic
import Mathlib.Data.List.Basic

/-! The devices of the desktop backend. Their bond and their link are read from the daemon
when a device turns up, and followed by the daemon's callbacks; a read is dropped when a
callback or an operation has passed it. All that the daemon sends comes over one channel in
order, and what a user, a timer or the daemon does next is an input. -/

namespace FlossDesktop.Devices

/-- A device as the daemon names it. -/
structure Remote where
  address : String
  name : String
deriving Repr, DecidableEq

inductive Property where
  | paired
  | connected
deriving Repr, DecidableEq

structure Entry where
  address : Option String := none
  name : Option String := none
  paired : Option Bool := none
  connected : Option Bool := none
  pending : Option String := none
  profileRequest : Option String := none
deriving Repr, DecidableEq

def Entry.value (entry : Entry) : Property → Option Bool
  | .paired => entry.paired
  | .connected => entry.connected

def Entry.insert (entry : Entry) (property : Property) (value : Bool) : Entry :=
  match property with
  | .paired => { entry with paired := some value }
  | .connected => { entry with connected := some value }

/-- Calls of the daemon. A read is `GetBondState` or `GetRemoteConnected`, with the revision
that its reply handler captured and how much had happened by then. -/
inductive Call where
  | registerConnectionCallback
  | getBondedDevices
  | getConnectedDevices
  | read (property : Property) (device : Remote) (revision asked : Nat)
  | operate (method : String) (device : Remote) (operation : String) (serial : Nat)
deriving Repr, DecidableEq

/-- Callbacks that say nothing about a bond or a link. -/
inductive Notice where
  | deviceFound (device : Remote)
  | devicePropertiesChanged (device : Remote)
  | deviceConnectionFailed (device : Remote)
  | pairingRequest (device : Remote)
deriving Repr, DecidableEq

/-- What the daemon sends: callbacks, and replies with what their handlers captured. -/
inductive Message where
  | notice (notice : Notice)
  | bondStateChanged (status : Nat) (address : String) (state : Nat)
  | deviceConnected (device : Remote)
  | deviceDisconnected (device : Remote)
  | registered
  | devices (devices : List Remote)
  | bondState (address : String) (revision asked state : Nat)
  | remoteConnected (address : String) (revision asked : Nat) (connected : Bool)
  | operated (address operation : String) (serial : Nat) (accepted : Bool)
deriving Repr, DecidableEq

/-- What has happened to the devices. -/
inductive Mark where
  | changed (property : Property) (address : String)
  | operated (address : String)
  | answered (property : Property) (address : String) (asked : Nat)
deriving Repr, DecidableEq

/-- The marks are recorded, and nothing reads more than their number. -/
structure Backend where
  ready : Bool := false
  devices : String → Option Entry := fun _ => none
  deviceRevisions : String → Nat := fun _ => 0
  operations : String → Option Nat := fun _ => none
  serial : Nat := 0
  calls : List Call := [.registerConnectionCallback]
  marks : List Mark := []

namespace Backend

def value (b : Backend) (address : String) (property : Property) : Option Bool :=
  (b.devices address).bind fun entry => entry.value property

def deviceArgument (b : Backend) (address : String) : Remote :=
  ⟨address, ((b.devices address).bind Entry.name).getD address⟩

def call (b : Backend) (calls : List Call) : Backend := { b with calls := b.calls ++ calls }

/-- An entry is made when there is none. -/
def modify (b : Backend) (address : String) (change : Entry → Entry) : Backend :=
  { b with devices := Function.update b.devices address (some (change ((b.devices address).getD {}))) }

def mark (b : Backend) (mark : Mark) : Backend := { b with marks := b.marks ++ [mark] }

/-- Something happened that reads from before it must not undo. -/
def advance (b : Backend) (address : String) (mark : Mark) : Backend :=
  { b.mark mark with deviceRevisions := Function.update b.deviceRevisions address (b.deviceRevisions address + 1) }

def registerConnection (b : Backend) : Backend :=
  { b with ready := true }.call [.getBondedDevices, .getConnectedDevices]

def named (device : Remote) (entry : Entry) : Entry :=
  { entry with
    address := some device.address
    name :=
      if device.name ≠ "" then some device.name
      else if entry.name = none then some device.address
      else entry.name }

def read (b : Backend) (address : String) (property : Property) : Call :=
  .read property (b.deviceArgument address) (b.deviceRevisions address) b.marks.length

def readDevice (b : Backend) (device : Remote) : Backend :=
  if device.address = "" then b
  else
    let stored := b.modify device.address (named device)
    stored.call [stored.read device.address .paired, stored.read device.address .connected]

/-- The reply to a read. -/
def snapshot (b : Backend) (property : Property) (address : String) (revision asked : Nat) (value : Bool) : Backend :=
  let received := b.mark (.answered property address asked)
  if b.devices address = none ∨ revision ≠ b.deviceRevisions address then received
  else received.modify address fun entry => entry.insert property value

def pending (b : Backend) (address : String) : String := ((b.devices address).bind Entry.pending).getD ""

def finish (b : Backend) (address operation : String) : Backend :=
  if b.pending address ≠ operation then b
  else
    { b with operations := Function.update b.operations address none }.modify address fun entry =>
      { entry with pending := none }

def method (operation : String) : Option String :=
  if operation = "pair" then some "CreateBond"
  else if operation = "connect" then some "ConnectAllEnabledProfiles"
  else if operation = "disconnect" then some "DisconnectAllEnabledProfiles"
  else if operation = "forget" then some "RemoveBond"
  else none

/-- The reconnect policy may fail to save the intent of the user. -/
def operate (b : Backend) (saved : Bool) (address operation : String) : Backend :=
  if b.ready = false ∨ b.devices address = none ∨ b.operations address ≠ none then b
  else
    match method operation with
    | none => b
    | some method =>
      if saved then
        let begun := { b.advance address (.operated address) with
          serial := b.serial + 1
          operations := Function.update b.operations address (some (b.serial + 1)) }.modify address fun entry =>
            { entry with pending := some operation }
        begun.call [.operate method (begun.deviceArgument address) operation begun.serial]
      else b

/-- The reply to an operation. It acknowledges a request and says nothing of the device; a
bond that is made or removed is waited for. -/
def operated (b : Backend) (address operation : String) (serial : Nat) (accepted : Bool) : Backend :=
  if b.operations address ≠ some serial then b
  else if accepted = false then b.finish address operation
  else if operation = "connect" ∨ operation = "disconnect" then
    (b.modify address fun entry => { entry with profileRequest := some operation }).finish address operation
  else b

/-- The timer of an operation. -/
def timeout (b : Backend) (address operation : String) (serial : Nat) : Backend :=
  if b.operations address = some serial then b.finish address operation else b

def forgetRequest (entry : Entry) : Entry := { entry with profileRequest := none }

/-- A device that is not known yet is read. -/
def meet (b : Backend) (device : Remote) : Backend :=
  if b.devices device.address = none then b.readDevice device else b

def noticed (b : Backend) : Notice → Backend
  | .deviceFound device => b.readDevice device
  | .devicePropertiesChanged device => b.readDevice device
  | .deviceConnectionFailed device =>
    let finished := b.finish device.address "connect"
    if finished.devices device.address = none then finished else finished.modify device.address forgetRequest
  | .pairingRequest device => b.meet device

/-- A bond that was asked for is followed by a connection. -/
def settleBond (b : Backend) (saved : Bool) (status : Nat) (address : String) (state : Nat) : Backend :=
  let finished := b.finish address "pair"
  let forgotten := if state = 0 then finished.finish address "forget" else finished
  if state = 2 ∧ status = 0 ∧ b.pending address = "pair" then forgotten.operate saved address "connect" else forgotten

def bondStateChanged (b : Backend) (saved : Bool) (status : Nat) (address : String) (state : Nat) : Backend :=
  let met := (b.advance address (.changed .paired address)).meet ⟨address, address⟩
  let stored := met.modify address fun entry => entry.insert .paired (state == 2)
  if state = 1 then stored else stored.settleBond saved status address state

def linkChanged (b : Backend) (device : Remote) (connected : Bool) : Backend :=
  let met := (b.advance device.address (.changed .connected device.address)).meet device
  let stored := met.modify device.address fun entry => entry.insert .connected connected
  if connected then stored else stored.modify device.address forgetRequest

def callback (b : Backend) (saved : Bool) : Message → Backend
  | .notice notice => b.noticed notice
  | .bondStateChanged status address state => b.bondStateChanged saved status address state
  | .deviceConnected device => b.linkChanged device true
  | .deviceDisconnected device => b.linkChanged device false
  | .registered => b.registerConnection
  | .devices devices => devices.foldl readDevice b
  | .bondState address revision asked state => b.snapshot .paired address revision asked (state == 2)
  | .remoteConnected address revision asked connected => b.snapshot .connected address revision asked connected
  | .operated address operation serial accepted => b.operated address operation serial accepted

end Backend

/-- A daemon with the state of every bond and every link; 2 is bonded. -/
structure World where
  bond : String → Nat
  link : String → Bool
  backend : Backend := {}
  channel : List Message := []

inductive Action where
  | bond (status : Nat) (address : String) (state : Nat)
  | link (device : Remote) (connected : Bool)
  | notice (notice : Notice)
  | answer (index : Nat) (devices : List Remote) (accepted : Bool)
  | receive (saved : Bool)
  | operate (saved : Bool) (address operation : String)
  | timeout (address operation : String) (serial : Nat)
  | refresh (address : String)
deriving Repr, DecidableEq

namespace World

/-- What the daemon holds of a device. -/
def current (w : World) (address : String) : Property → Bool
  | .paired => w.bond address == 2
  | .connected => w.link address

def send (w : World) (message : Message) : World := { w with channel := w.channel ++ [message] }

/-- The answer to a call, with the state of the daemon as it is now. -/
def reply (w : World) (devices : List Remote) (accepted : Bool) : Call → Message
  | .registerConnectionCallback => .registered
  | .getBondedDevices => .devices devices
  | .getConnectedDevices => .devices devices
  | .read .paired device revision asked => .bondState device.address revision asked (w.bond device.address)
  | .read .connected device revision asked => .remoteConnected device.address revision asked (w.link device.address)
  | .operate _ device operation serial => .operated device.address operation serial accepted

/-- One step of anyone. Calls are answered in any order, and messages come in as they were
sent; where there is nothing to answer or to receive, nothing happens. -/
def step (w : World) : Action → World
  | .bond status address state =>
    { w with bond := Function.update w.bond address state }.send (.bondStateChanged status address state)
  | .link device connected =>
    { w with link := Function.update w.link device.address connected }.send
      (if connected then .deviceConnected device else .deviceDisconnected device)
  | .notice notice => w.send (.notice notice)
  | .answer index devices accepted =>
    match w.backend.calls[index]? with
    | none => w
    | some call =>
      { w with backend := { w.backend with calls := w.backend.calls.eraseIdx index } }.send (w.reply devices accepted call)
  | .receive saved =>
    match w.channel with
    | [] => w
    | message :: rest => { w with channel := rest, backend := w.backend.callback saved message }
  | .operate saved address operation => { w with backend := w.backend.operate saved address operation }
  | .timeout address operation serial => { w with backend := w.backend.timeout address operation serial }
  | .refresh address => { w with backend := w.backend.readDevice (w.backend.deviceArgument address) }

def run (w : World) (actions : List Action) : World := actions.foldl step w

/-- Nothing is under way in either direction. -/
def Quiet (w : World) : Prop := w.backend.calls = [] ∧ w.channel = []

instance (w : World) : Decidable w.Quiet := inferInstanceAs (Decidable (_ ∧ _))

end World

/-- The backend has registered its callbacks with a daemon in any state, and knows nothing. -/
def start (bond : String → Nat) (link : String → Bool) : World := { bond, link }

end FlossDesktop.Devices
