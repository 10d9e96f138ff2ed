import FlossDesktop.Library.SharedSettings

/-! The reconnect policy of the desktop. Every process that shows Bluetooth hosts it, one of
them elected, and all keep their intent and their deadlines in one settings file. A tick, a
user's operation and a reply are programs over that file. What a backend shows of its
devices, and any reading of the clock, is an argument. -/

namespace FlossDesktop

open SharedSettings

namespace Reconnect

def initialDelay : Int := 5000
def connectionTimeout : Int := 30000
def disconnectReconciliation : Int := 45000
def maximumDelay : Int := 300000

inductive Setting where
  | inhibited
  | autoAttempt
  | disconnectUntil
  | nextDisconnect
  | failures
  | nextAttempt
deriving Repr, DecidableEq

structure Key where
  adapter : Nat
  address : String
  setting : Setting
deriving Repr, DecidableEq

inductive Value where
  | bool (value : Bool)
  | int (value : Int)
deriving Repr, DecidableEq

def toBool : Option Value → Bool
  | none => false
  | some (.bool value) => value
  | some (.int value) => value != 0

def toLongLong : Option Value → Int
  | none => 0
  | some (.bool value) => if value then 1 else 0
  | some (.int value) => value

def key (adapter : Nat) (address : String) (setting : Setting) : Key := ⟨adapter, address.toUpper, setting⟩

structure Device where
  paired : Option Bool := none
  connected : Option Bool := none
deriving Repr, DecidableEq

/-- What the policy reads of its backend. The devices are sorted by address. -/
structure Backend where
  adapter : Nat := 0
  epoch : Nat := 1
  ready : Bool := true
  devices : List (String × Device) := []
  operations : List String := []
deriving Repr, DecidableEq

def Backend.device (backend : Backend) (address : String) : Device := (backend.devices.lookup address).getD {}

structure Worker where
  owner : Bool := false
  epoch : Nat := 0
  pending : String := ""
  pendingUntil : Int := 0
  lastProbe : Int := 0
  disconnecting : Bool := false
  request : Nat := 0
deriving Repr, DecidableEq

/-- Calls of the daemon. A connection carries what its reply handler captured. -/
inductive Message where
  | connectAllEnabledProfiles (adapter : Nat) (address : String) (request : Nat) (delay deadline : Int)
  | disconnectAllEnabledProfiles (adapter : Nat) (address : String)
  | readDevice (adapter : Nat) (address : String)
  | operate (adapter : Nat) (address operation : String)
deriving Repr, DecidableEq

abbrev Policy := Program Key Value Message Worker

def inhibited (settings : Settings Key Value) (adapter : Nat) (address : String) : Bool :=
  toBool (settings.value (key adapter address .inhibited))

def number (settings : Settings Key Value) (adapter : Nat) (address : String) (setting : Setting) : Int :=
  toLongLong (settings.value (key adapter address setting))

def inhibits (operation : String) : Bool := operation == "disconnect" || operation == "forget"

/-- The intent is committed before the request is sent. -/
def userOperation (adapter : Nat) (address operation : String) (worker : Worker) : Policy :=
  .sync (.clock fun now =>
    .setValue (key adapter address .inhibited) (.bool (inhibits operation)) <|
    .setValue (key adapter address .autoAttempt) (.bool false) <|
    .setValue (key adapter address .disconnectUntil)
      (.int (if inhibits operation then now + disconnectReconciliation else 0)) <|
    .setValue (key adapter address .nextDisconnect) (.int (now + initialDelay)) <|
    .setValue (key adapter address .failures) (.int 0) <|
    .clock fun later =>
    .setValue (key adapter address .nextAttempt) (.int (later + connectionTimeout)) <|
    .sync (.get fun settings =>
      if settings.broken then .ret worker else .send (.operate adapter address operation) (.ret worker)))

/-- Only the settings are read; the answer decides what an observer shows. -/
def isAutomaticAttempt (worker : Worker) : Policy := .sync (.ret worker)

/-- A new daemon makes a worker forget its requests. -/
def Worker.renewed (worker : Worker) (backend : Backend) : Worker :=
  if worker.epoch ≠ backend.epoch then
    { worker with epoch := backend.epoch, pending := "", disconnecting := false, request := worker.request + 1 }
  else worker

/-- A pending attempt ends when its device is connected, unpaired or inhibited, or in time. -/
def Worker.expired (worker : Worker) (backend : Backend) (settings : Settings Key Value) (now : Int) : Worker :=
  let device := backend.device worker.pending
  if worker.pending ≠ "" ∧ (device.connected.getD false = true ∨ device.paired.getD false = false ∨
      inhibited settings backend.adapter worker.pending = true ∨ now ≥ worker.pendingUntil) then
    { worker with pending := "", request := worker.request + 1 }
  else worker

/-- The attempt is reserved in the file before it is sent. -/
def attempt (adapter : Nat) (candidate : String) (failures : Nat) (now : Int) (worker : Worker) : Policy :=
  let delay := min maximumDelay (initialDelay * 2 ^ failures)
  let deadline := now + connectionTimeout + delay
  .setValue (key adapter candidate .failures) (.int (failures + 1)) <|
  .setValue (key adapter candidate .autoAttempt) (.bool true) <|
  .setValue (key adapter candidate .nextAttempt) (.int deadline) <|
  .sync (.get fun settings =>
    if settings.broken then .ret worker
    else
      .send (.connectAllEnabledProfiles adapter candidate (worker.request + 1) delay deadline) <|
      .ret { worker with
        pending := candidate, lastProbe := now, pendingUntil := now + connectionTimeout, request := worker.request + 1 })

/-- The shared state is read again before an attempt is reserved. -/
def reserve (adapter : Nat) (candidate : String) (now : Int) (worker : Worker) : Policy :=
  .sync (.get fun settings =>
    if candidate = "" ∨ settings.broken then .ret worker
    else
      .sync (.get fun settings =>
        if inhibited settings adapter candidate then .ret worker
        else attempt adapter candidate (max 0 (min 6 (number settings adapter candidate .failures))).toNat now worker))

/-- The device whose attempt is due first. -/
def scan (backend : Backend) (now : Int) (worker : Worker) (candidate : String) (earliest : Int) :
    List (String × Device) → Policy
  | [] => reserve backend.adapter candidate now worker
  | (address, device) :: rest => .get fun settings =>
    if device.paired.getD false = false ∨ device.connected = none ∨ address ∈ backend.operations ∨
        inhibited settings backend.adapter address = true then
      scan backend now worker candidate earliest rest
    else if device.connected = some true then
      if number settings backend.adapter address .nextAttempt ≠ 0 then
        .setValue (key backend.adapter address .failures) (.int 0) <|
        .setValue (key backend.adapter address .nextAttempt) (.int 0) <|
        scan backend now worker candidate earliest rest
      else scan backend now worker candidate earliest rest
    else
      let due := number settings backend.adapter address .nextAttempt
      if due ≤ 0 ∨ due > now + maximumDelay + connectionTimeout then
        let due := now + initialDelay
        .setValue (key backend.adapter address .nextAttempt) (.int due) <|
        if due < earliest then scan backend now worker address due rest else scan backend now worker candidate earliest rest
      else if due < earliest then scan backend now worker address due rest
      else scan backend now worker candidate earliest rest

/-- An outstanding attempt is only looked after. -/
def proceed (backend : Backend) (now : Int) (worker : Worker) : Policy :=
  if worker.pending ≠ "" then
    if now - worker.lastProbe ≥ 5000 then
      .send (.readDevice backend.adapter worker.pending) (.ret { worker with lastProbe := now })
    else .ret worker
  else scan backend now worker "" (now + 1) backend.devices

/-- A device that connected after an explicit disconnect is disconnected again, for a while. -/
def reconcile (backend : Backend) (now : Int) (worker : Worker) : List (String × Device) → Policy
  | [] => proceed backend now worker
  | (address, device) :: rest => .get fun settings =>
    let until_ := number settings backend.adapter address .disconnectUntil
    if device.connected.getD false = false ∨ inhibited settings backend.adapter address = false ∨
        until_ ≤ now ∨ until_ > now + disconnectReconciliation ∨
        number settings backend.adapter address .nextDisconnect > now then
      reconcile backend now worker rest
    else
      .setValue (key backend.adapter address .nextDisconnect) (.int (now + initialDelay)) <|
      .sync (.get fun settings =>
        if settings.broken = true ∨ inhibited settings backend.adapter address = false ∨
            number settings backend.adapter address .disconnectUntil ≤ now then .ret worker
        else
          .send (.disconnectAllEnabledProfiles backend.adapter address) (.ret { worker with disconnecting := true }))

def tick (backend : Backend) (acquired : Bool) (worker : Worker) : Policy :=
  if worker.owner = false then .ret { worker with owner := acquired }
  else
    let worker := worker.renewed backend
    if backend.ready = false then .ret worker
    else
      .sync (.get fun settings =>
        if settings.broken then .ret worker
        else .clock fun now =>
          let worker := worker.expired backend settings now
          if worker.disconnecting then .ret worker else reconcile backend now worker backend.devices)

/-- The answer to an attempt. A newer operation of the user is not overwritten. -/
def replied (adapter : Nat) (candidate : String) (request : Nat) (delay deadline : Int) (accepted : Bool)
    (worker : Worker) : Policy :=
  if request ≠ worker.request then .ret worker
  else if accepted then .send (.readDevice adapter candidate) (.ret worker)
  else
    let worker := { worker with pending := "" }
    .sync (.get fun settings =>
      if inhibited settings adapter candidate = false ∧ number settings adapter candidate .nextAttempt = deadline then
        .clock fun now =>
        .setValue (key adapter candidate .nextAttempt) (.int (now + delay)) <|
        .sync (.ret worker)
      else .ret worker)

/-- What wakes a process. -/
inductive Entry where
  | tick (backend : Backend) (acquired : Bool)
  | acquire (acquired : Bool)
  | userOperation (adapter : Nat) (address operation : String)
  | isAutomaticAttempt
  | reply (message : Message) (accepted : Bool)
deriving Repr, DecidableEq

def program : Entry → Worker → Policy
  | .tick backend acquired, worker => tick backend acquired worker
  | .acquire acquired, worker => .ret { worker with owner := worker.owner || acquired }
  | .userOperation adapter address operation, worker => userOperation adapter address operation worker
  | .isAutomaticAttempt, worker => isAutomaticAttempt worker
  | .reply (.connectAllEnabledProfiles adapter candidate request delay deadline) accepted, worker =>
    replied adapter candidate request delay deadline accepted worker
  | .reply (.disconnectAllEnabledProfiles _ _) _, worker => .ret { worker with disconnecting := false }
  | .reply _ _, worker => .ret worker

/-- A reply answers a message once. -/
def accept : Entry → List Message → Option (List Message)
  | .reply message _, unanswered => if message ∈ unanswered then some (unanswered.erase message) else none
  | _, unanswered => some unanswered

def system : System Entry Key Value Message Worker := { program, accept, fresh := {} }

/-- Processes are numbered; each of them may be restarted and may own the policy. -/
abbrev Desktop := World Nat Entry Key Value Message Worker

def start (file : Store Key Value) : Desktop := World.initial system file

end Reconnect
end FlossDesktop
