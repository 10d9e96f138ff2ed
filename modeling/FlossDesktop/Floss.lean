import FlossDesktop.Devices
import FlossDesktop.Pairing
import FlossDesktop.Library.Tickets

/-! The whole desktop backend: its devices with their names and batteries, the operations
that run for them, and the prompts of the pairing half. A daemon may come and go; calls
return in any order and with any outcome, and their replies are dropped when the daemon has
changed. Each handler runs to its end before the next event. -/

namespace FlossDesktop.Floss

open Devices Tickets

/-- A battery of a device, in per cent, and what it belongs to. -/
structure Battery where
  percentage : Nat
  variant : String
deriving Repr, DecidableEq

/-- What the daemon says of the batteries. A percentage may be missing. -/
structure BatterySet where
  address : String
  batteries : List (Option Nat × String)
deriving Repr, DecidableEq

structure Entry extends Devices.Entry where
  alias_ : Option String := none
  aliasPending : Bool := false
  batteries : Option (List Battery) := none
  batteryText : Option String := none
deriving Repr, DecidableEq

/-- A call with what its reply handler captured. The last two are of the reconnect policy. -/
inductive Request where
  | registerCallback
  | registerConnectionCallback
  | isDiscovering
  | getBondedDevices
  | getConnectedDevices
  | read (property : Property) (device : Remote) (revision : Nat)
  | discovery (enabled : Bool)
  | operate (method : String) (device : Remote) (operation : String) (serial : Nat)
  | getRemoteAlias (device : Remote) (revision : Nat)
  | setRemoteAlias (device : Remote) (newAlias : String) (request : Nat)
  | confirmAlias (device : Remote) (newAlias : String) (request attempts : Nat)
  | registerBatteryCallback
  | getBatteryInformation (address : String) (revision : Nat)
  | connectAllEnabledProfiles (device : Remote)
  | disconnectAllEnabledProfiles (device : Remote)
deriving Repr, DecidableEq

/-- A call that has not returned. -/
structure Call where
  epoch : Nat
  request : Request
  reportErrors : Bool := true
deriving Repr, DecidableEq

/-- What a call returns. -/
inductive Answer where
  | error (message : String)
  | nothing
  | number (value : Nat)
  | flag (value : Bool)
  | text (value : String)
  | devices (devices : List Remote)
  | battery (set : Option BatterySet)
deriving Repr, DecidableEq

namespace Answer

def failed : Answer → Bool
  | .error _ => true
  | _ => false

def toUInt : Answer → Nat
  | .number value => value
  | .flag value => value.toNat
  | _ => 0

def toBool : Answer → Bool
  | .number value => value != 0
  | .flag value => value
  | _ => false

end Answer

/-- An alias that is looked at again in a moment. -/
structure AliasTimer where
  epoch : Nat
  address : String
  newAlias : String
  request : Nat
  attempts : Nat
deriving Repr, DecidableEq

structure Backend where
  /-- The daemon, its epoch, the last error, and all that belongs to prompts. -/
  pairing : Pairing.Backend := {}
  ready : Bool := false
  initializing : Bool := false
  callbackRegistered : Bool := false
  connectionRegistered : Bool := false
  discovering : Bool := false
  devices : String → Option Entry := fun _ => none
  /-- The addresses of the devices, in order. -/
  known : List String := []
  deviceRevisions : String → Nat := fun _ => 0
  operations : String → Option Nat := fun _ => none
  serial : Nat := 0
  batteryRegistered : Bool := false
  batteryInitializing : Bool := false
  batteryRevisions : String → Nat := fun _ => 0
  aliasRequests : String → Option Nat := fun _ => none
  aliasRevisions : String → Nat := fun _ => 0
  calls : List Call := []
  /-- The timers of the operations, and those that have fired; nothing reads the latter. -/
  timers : List (Ticket String String) := []
  fired : List (Ticket String String) := []
  aliasTimers : List AliasTimer := []

/-- What the reconnect policy answers: whether an intent could be saved, whether a failure is
of an automatic attempt, and whether the answer to an attempt is still waited for. -/
structure Policy where
  saved : Bool
  automatic : Bool
  current : Bool
deriving Repr, DecidableEq

namespace Backend

def owner (b : Backend) : String := b.pairing.owner

def epoch (b : Backend) : Nat := b.pairing.epoch

def fail (b : Backend) (message : String) : Backend := { b with pairing := b.pairing.fail message }

def bump (revisions : String → Nat) (address : String) : String → Nat :=
  Function.update revisions address (revisions address + 1)

def deviceArgument (b : Backend) (address : String) : Remote :=
  ⟨address, ((b.devices address).bind fun entry => entry.name).getD address⟩

def call (b : Backend) (request : Request) (reportErrors : Bool) : Backend :=
  if b.owner.isEmpty then b.fail "Floss is not running."
  else { b with calls := b.calls ++ [⟨b.epoch, request, reportErrors⟩] }

def batteryCall (b : Backend) (request : Request) : Backend :=
  if b.owner.isEmpty then b else { b with calls := b.calls ++ [⟨b.epoch, request, false⟩] }

/-- An entry is made when there is none. -/
def modify (b : Backend) (address : String) (change : Entry → Entry) : Backend :=
  { b with
    devices := Function.update b.devices address (some (change ((b.devices address).getD {})))
    known := if b.known.contains address then b.known else b.known.orderedInsert (· ≤ ·) address }

def remove (b : Backend) (address : String) : Backend :=
  { b with devices := Function.update b.devices address none, known := b.known.filter (· != address) }

def connected (b : Backend) (address : String) : Bool :=
  ((b.devices address).bind fun entry => entry.connected).getD false

def readDeviceDetails (b : Backend) (address : String) : Backend :=
  if (b.devices address).isNone then b
  else
    let revised := { b with aliasRevisions := bump b.aliasRevisions address }
    let asked :=
      if (b.aliasRequests address).isSome then revised
      else revised.call (.getRemoteAlias (b.deviceArgument address) (revised.aliasRevisions address)) false
    if !b.batteryRegistered || !b.connected address then asked
    else
      let looked := { asked with batteryRevisions := bump asked.batteryRevisions address }
      looked.batteryCall (.getBatteryInformation address (looked.batteryRevisions address))

def named (device : Remote) (entry : Entry) : Entry := { entry with toEntry := Devices.Backend.named device entry.toEntry }

def readDevice (b : Backend) (device : Remote) : Backend :=
  if device.address == "" then b
  else
    let stored := b.modify device.address (named device)
    let bonded := stored.call
      (.read .paired (stored.deviceArgument device.address) (stored.deviceRevisions device.address)) true
    let linked := bonded.call
      (.read .connected (bonded.deviceArgument device.address) (bonded.deviceRevisions device.address)) true
    linked.readDeviceDetails device.address

/-- A device that is not known yet is read. -/
def meet (b : Backend) (device : Remote) : Backend :=
  if (b.devices device.address).isNone then b.readDevice device else b

def initializeDeviceDetails (b : Backend) : Backend :=
  if !b.ready || b.batteryRegistered || b.batteryInitializing then b
  else { b with batteryInitializing := true }.batteryCall .registerBatteryCallback

def initializeBackend (b : Backend) : Backend :=
  if b.ready then b.initializeDeviceDetails
  else if b.initializing || b.owner.isEmpty then b
  else
    let begun := { b with initializing := true }
    if begun.callbackRegistered then begun.call .registerConnectionCallback true else begun.call .registerCallback true

/-- What a change of the daemon leaves of the backend. -/
def cleared (b : Backend) (owner : String) : Backend :=
  { b with
    pairing := b.pairing.reset owner
    ready := false
    initializing := false
    callbackRegistered := false
    connectionRegistered := false
    devices := fun _ => none
    known := []
    batteryRegistered := false
    batteryInitializing := false
    batteryRevisions := fun _ => 0
    aliasRequests := fun _ => none
    aliasRevisions := fun _ => 0
    deviceRevisions := fun _ => 0
    operations := fun _ => none
    discovering := false }

/-- The daemon has changed or gone. -/
def reset (b : Backend) (owner : String) : Backend := (b.cleared owner).initializeBackend

def discover (b : Backend) (enabled : Bool) : Backend := if b.ready then b.call (.discovery enabled) true else b

def pending (b : Backend) (address : String) : Option String := (b.devices address).bind fun entry => entry.pending

def finish (b : Backend) (address operation error : String) : Backend :=
  if (b.pending address).getD "" != operation then b
  else
    let ended := { b with operations := Function.update b.operations address none }.modify address fun entry =>
      { entry with pending := none }
    if error.isEmpty then ended else ended.fail error

def beginOperation (b : Backend) (address operation method : String) : Backend :=
  let begun := { b with
    serial := b.serial + 1
    deviceRevisions := bump b.deviceRevisions address
    operations := Function.update b.operations address (some (b.serial + 1)) }.modify address fun entry =>
      { entry with pending := some operation }
  let sent := begun.call (.operate method (begun.deviceArgument address) operation begun.serial) true
  { sent with timers := sent.timers ++ [⟨address, operation, begun.serial⟩] }

def operate (b : Backend) (saved : Bool) (address operation : String) : Backend :=
  if !b.ready || (b.devices address).isNone || (b.operations address).isSome then b
  else
    match Devices.Backend.method operation with
    | none => b.fail "Unsupported Floss operation."
    | some method =>
      if saved then b.beginOperation address operation method
      else b.fail "Could not save Bluetooth reconnect preferences."

/-- The daemon took the request. -/
def granted (operation : String) (answer : Answer) : Bool :=
  if operation == "pair" || operation == "connect" then answer.toUInt == 0 else answer.toBool

/-- The reply to an operation. It acknowledges a request and says nothing of the device; a
bond that is made or removed is waited for. -/
def operated (b : Backend) (address operation : String) (serial : Nat) (answer : Answer) : Backend :=
  if b.operations address ≠ some serial then b
  else
    match answer with
    | .error message => b.finish address operation message
    | answer =>
      if !granted operation answer then b.finish address operation "Floss rejected the device request."
      else if operation == "connect" || operation == "disconnect" then
        (b.modify address fun entry => { entry with profileRequest := some operation }).finish address operation ""
      else b

/-- The timer of an operation. -/
def timedOut (b : Backend) (timer : Ticket String String) : Backend :=
  if b.operations timer.key = some timer.number then
    b.finish timer.key timer.purpose "The Bluetooth operation timed out; its final state is unknown."
  else b

def snapshot (b : Backend) (property : Property) (address : String) (revision : Nat) (answer : Answer) : Backend :=
  if answer.failed || (b.devices address).isNone || revision != b.deviceRevisions address then b
  else
    let value := match property with
      | .paired => answer.toUInt == 2
      | .connected => answer.toBool
    (b.modify address fun entry => { entry with toEntry := entry.insert property value }).readDeviceDetails address

def aliasRead (b : Backend) (address : String) (revision : Nat) : Answer → Backend
  | .text value =>
    if (b.devices address).isNone || revision != b.aliasRevisions address then b
    else b.modify address fun entry => { entry with alias_ := some value }
  | _ => b

def confirmAlias (b : Backend) (address newAlias : String) (request attempts : Nat) : Backend :=
  if b.aliasRequests address ≠ some request || (b.devices address).isNone then b
  else b.call (.confirmAlias (b.deviceArgument address) newAlias request attempts) false

def setAlias (b : Backend) (address newAlias : String) : Backend :=
  if !b.ready || (b.devices address).isNone || (b.aliasRequests address).isSome then b
  else if newAlias.utf8ByteSize > 248 || newAlias.contains (Char.ofNat 0) then
    b.fail "The device name must be at most 248 bytes and contain no null characters."
  else
    let asked := { b with
      serial := b.serial + 1
      aliasRevisions := bump b.aliasRevisions address
      aliasRequests := Function.update b.aliasRequests address (some (b.serial + 1)) }.modify address fun entry =>
        { entry with aliasPending := true }
    asked.call (.setRemoteAlias (asked.deviceArgument address) newAlias asked.serial) false

/-- The request of a name has ended. -/
def aliasEnded (b : Backend) (address : String) : Backend :=
  { b with aliasRequests := Function.update b.aliasRequests address none }

/-- The setter returns nothing even if the name was not changed. -/
def aliasSet (b : Backend) (address newAlias : String) (request : Nat) (answer : Answer) : Backend :=
  if b.aliasRequests address ≠ some request then b
  else
    match answer with
    | .error message =>
      let ended := b.aliasEnded address
      (if (b.devices address).isNone then ended
        else ended.modify address fun entry => { entry with aliasPending := false }).fail message
    | _ => b.confirmAlias address newAlias request 10

def aliasConfirmed (b : Backend) (address newAlias : String) (request attempts : Nat) (answer : Answer) : Backend :=
  if b.aliasRequests address ≠ some request || (b.devices address).isNone then b
  else if answer == .text newAlias then
    (b.aliasEnded address).modify address fun entry => { entry with aliasPending := false, alias_ := some newAlias }
  else if attempts ≤ 1 || answer.failed then
    ((b.aliasEnded address).modify address fun entry => { entry with aliasPending := false }).fail
      "Floss did not confirm the new device name."
  else { b with aliasTimers := b.aliasTimers ++ [⟨b.epoch, address, newAlias, request, attempts⟩] }

def valid : Option Nat × String → Option Battery
  | (some percentage, variant) => if percentage > 100 then none else some ⟨percentage, variant⟩
  | (none, _) => none

def describe (battery : Battery) : String :=
  if battery.variant == "" then toString battery.percentage ++ "%"
  else battery.variant ++ ": " ++ toString battery.percentage ++ "%"

def updateBattery (b : Backend) (address : String) (set : Option BatterySet) : Backend :=
  if (b.devices address).isNone || !b.connected address || set.any (fun set => set.address != address) then b
  else
    let batteries := ((set.map BatterySet.batteries).getD []).filterMap valid
    b.modify address fun entry =>
      { entry with batteries := some batteries, batteryText := some (String.intercalate ", " (batteries.map describe)) }

def batteryRead (b : Backend) (address : String) (revision : Nat) : Answer → Backend
  | .battery set => if revision != b.batteryRevisions address then b else b.updateBattery address set
  | _ => b

def batteryCallback (b : Backend) (address : String) (set : Option BatterySet) : Backend :=
  if (b.devices address).isNone then b
  else { b with batteryRevisions := bump b.batteryRevisions address }.updateBattery address set

/-- The callbacks are registered, and everything is read. -/
def registered (b : Backend) : Backend :=
  let begun := { b with initializing := false, connectionRegistered := true, ready := true }.initializeDeviceDetails
  let cleared := begun.fail ""
  ((cleared.call .isDiscovering true).call .getBondedDevices true).call .getConnectedDevices true

/-- The batteries of all devices are read, after the callback is registered. -/
def batteryReady (b : Backend) : Answer → Backend
  | .number _ =>
    b.known.foldl readDeviceDetails { b with batteryInitializing := false, batteryRegistered := true }
  | _ => { b with batteryInitializing := false }

def listed (b : Backend) : Answer → Backend
  | .devices devices => devices.foldl readDevice b
  | _ => b

/-- The handler of a reply. -/
def returned (b : Backend) (policy : Policy) (answer : Answer) : Request → Backend
  | .registerCallback =>
    if answer.failed then { b with initializing := false }
    else { b with callbackRegistered := true }.call .registerConnectionCallback true
  | .registerConnectionCallback => if answer.failed then { b with initializing := false } else b.registered
  | .isDiscovering => if answer.failed then b else { b with discovering := answer.toBool }
  | .getBondedDevices => b.listed answer
  | .getConnectedDevices => b.listed answer
  | .read property device revision => b.snapshot property device.address revision answer
  | .discovery _ =>
    if !answer.failed && !answer.toBool then b.fail "Floss rejected the discovery request." else b
  | .operate _ device operation serial => b.operated device.address operation serial answer
  | .getRemoteAlias device revision => b.aliasRead device.address revision answer
  | .setRemoteAlias device newAlias request => b.aliasSet device.address newAlias request answer
  | .confirmAlias device newAlias request attempts => b.aliasConfirmed device.address newAlias request attempts answer
  | .registerBatteryCallback => b.batteryReady answer
  | .getBatteryInformation address revision => b.batteryRead address revision answer
  | .connectAllEnabledProfiles device =>
    if policy.current && answer == .number 0 then b.readDevice (b.deviceArgument device.address) else b
  | .disconnectAllEnabledProfiles _ => b

def reported (b : Backend) (reportErrors : Bool) : Answer → Backend
  | .error message => if reportErrors then b.fail message else b
  | _ => b

/-- The reply to a call, which is dropped if the daemon has changed since. -/
def replied (b : Backend) (policy : Policy) (index : Nat) (answer : Answer) : Backend :=
  match b.calls[index]? with
  | none => b
  | some call =>
    let heard := { b with calls := b.calls.eraseIdx index }
    if call.epoch ≠ b.epoch then heard
    else (heard.reported call.reportErrors answer).returned policy answer call.request

def timeout (b : Backend) (index : Nat) : Backend :=
  match b.timers[index]? with
  | none => b
  | some timer => { b with timers := b.timers.eraseIdx index, fired := b.fired ++ [timer] }.timedOut timer

def aliasTimeout (b : Backend) (index : Nat) : Backend :=
  match b.aliasTimers[index]? with
  | none => b
  | some timer =>
    let heard := { b with aliasTimers := b.aliasTimers.eraseIdx index }
    if timer.epoch ≠ b.epoch then heard
    else heard.confirmAlias timer.address timer.newAlias timer.request (timer.attempts - 1)

def clearPairing (b : Backend) (address : String) : Backend := { b with pairing := b.pairing.clearPairing address }

def deviceCleared (b : Backend) (address : String) : Backend :=
  let removed := { b with deviceRevisions := bump b.deviceRevisions address }.remove address
  let forgotten := { removed with
    batteryRevisions := bump removed.batteryRevisions address
    aliasRevisions := bump removed.aliasRevisions address
    aliasRequests := Function.update removed.aliasRequests address none
    operations := Function.update removed.operations address none }
  forgotten.clearPairing address

def bondFailure (status state : Nat) : String :=
  if state == 2 && status == 0 then "" else "Pairing failed (status " ++ toString status ++ ")."

/-- A bond that was asked for is followed by a connection. -/
def settleBond (b : Backend) (saved : Bool) (status : Nat) (address : String) (state : Nat) : Backend :=
  let finished := b.finish address "pair" (bondFailure status state)
  let forgotten := if state == 0 then finished.finish address "forget" "" else finished
  let cleared := forgotten.clearPairing address
  if state == 2 && status == 0 && b.pending address == some "pair" then cleared.operate saved address "connect"
  else cleared

def bondStateChanged (b : Backend) (saved : Bool) (status : Nat) (address : String) (state : Nat) : Backend :=
  let met := { b with deviceRevisions := bump b.deviceRevisions address }.meet ⟨address, address⟩
  let stored := met.modify address fun entry => { entry with paired := some (state == 2) }
  if state == 1 then stored else stored.settleBond saved status address state

def linkChanged (b : Backend) (device : Remote) (connected : Bool) : Backend :=
  let met := { b with deviceRevisions := bump b.deviceRevisions device.address }.meet device
  let stored := met.modify device.address fun entry => { entry with connected := some connected }
  if connected then stored.readDeviceDetails device.address
  else
    let cut := stored.modify device.address fun entry =>
      { entry with profileRequest := none, batteries := none, batteryText := none }
    { cut with batteryRevisions := bump cut.batteryRevisions device.address }

def connectionFailed (b : Backend) (automatic : Bool) (device : Remote) (status : Nat) : Backend :=
  let finished := b.finish device.address "connect" ""
  let cut :=
    if (finished.devices device.address).isNone then finished
    else finished.modify device.address fun entry => { entry with profileRequest := none }
  if automatic then cut
  else cut.fail ("Connection to " ++ device.address ++ " failed (status " ++ toString status ++ ").")

/-- A prompt is for a device that is known. -/
def prompted (b : Backend) (device : Remote) (event : Pairing.Backend.Event) : Backend :=
  if device.address == "" then b else { b.meet device with pairing := (b.meet device).pairing.step event }

end Backend

/-- What the daemon calls. -/
inductive Callback where
  | deviceFound (device : Remote)
  | devicePropertiesChanged (device : Remote)
  | deviceCleared (address : String)
  | discoveringChanged (discovering : Bool)
  | bondStateChanged (status : Nat) (address : String) (state : Nat)
  | deviceConnected (device : Remote)
  | deviceDisconnected (device : Remote)
  | deviceConnectionFailed (device : Remote) (status : Nat)
  | sspRequest (device : Remote) (variant passkey : Nat)
  | pinRequest (device : Remote) (min16 : Bool)
  | pinDisplay (device : Remote) (code : String)
  | batteryInfoUpdated (address : String) (set : Option BatterySet)
deriving Repr, DecidableEq

/-- Everything that can happen to the backend. The pairing half has its own calls and timers. -/
inductive Input where
  | reset (owner : String)
  | retry
  | callback (callback : Callback)
  | replied (index : Nat) (answer : Answer)
  | timeout (index : Nat)
  | aliasTimeout (index : Nat)
  | operate (address operation : String)
  | discover (enabled : Bool)
  | setAlias (address newAlias : String)
  | clearError
  | attach (registered : Bool)
  | detach (view : Nat)
  | unregistered (registered : Bool)
  | answer (token : Nat) (accept : Bool) (pin : String)
  | promptReplied (index : Nat) (outcome : Pairing.Outcome)
  | bondState (index : Nat) (state : Except String Nat)
  | promptExpired (index : Nat)
  | probe (address : String)
  | reconnect (address : String)
  | reconcile (address : String)
deriving Repr, DecidableEq

namespace Backend

def callback (b : Backend) (policy : Policy) : Callback → Backend
  | .deviceFound device => b.readDevice device
  | .devicePropertiesChanged device => b.readDevice device
  | .deviceCleared address => b.deviceCleared address
  | .discoveringChanged discovering => { b with discovering }
  | .bondStateChanged status address state => b.bondStateChanged policy.saved status address state
  | .deviceConnected device => b.linkChanged device true
  | .deviceDisconnected device => b.linkChanged device false
  | .deviceConnectionFailed device status => b.connectionFailed policy.automatic device status
  | .sspRequest device variant passkey =>
    if variant == 0 || variant == 1 || variant == 3 then
      b.prompted device (.sspRequest device.address variant passkey)
    else b
  | .pinRequest device min16 => b.prompted device (.pinRequest device.address min16)
  | .pinDisplay device code => b.prompted device (.pinDisplay device.address code)
  | .batteryInfoUpdated address set => b.batteryCallback address set

/-- An event of the pairing half. -/
def paired (b : Backend) (event : Pairing.Backend.Event) : Backend := { b with pairing := b.pairing.step event }

def step (b : Backend) (policy : Policy) : Input → Backend
  | .reset owner => b.reset owner
  | .retry => b.initializeBackend
  -- A callback is heard from the current daemon only.
  | .callback callback => if b.owner.isEmpty then b else b.callback policy callback
  | .replied index answer => b.replied policy index answer
  | .timeout index => b.timeout index
  | .aliasTimeout index => b.aliasTimeout index
  | .operate address operation => b.operate policy.saved address operation
  | .discover enabled => b.discover enabled
  | .setAlias address newAlias => b.setAlias address newAlias
  | .clearError => b.fail ""
  | .attach registered => b.paired (.attach registered)
  | .detach view => b.paired (.detach view)
  | .unregistered registered => b.paired (.unregistered registered)
  | .answer token accept pin => b.paired (.answer token accept pin)
  | .promptReplied index outcome => b.paired (.replied index outcome)
  | .bondState index state => b.paired (.bondState index state)
  | .promptExpired index => b.paired (.expire index)
  | .probe address => b.readDevice (b.deviceArgument address)
  | .reconnect address => b.call (.connectAllEnabledProfiles (b.deviceArgument address)) false
  | .reconcile address => b.call (.disconnectAllEnabledProfiles (b.deviceArgument address)) false

def run (b : Backend) (inputs : List (Policy × Input)) : Backend :=
  inputs.foldl (fun b input => b.step input.1 input.2) b

end Backend
end FlossDesktop.Floss
