import FlossDesktop.Reconnect
import FlossDesktop.Library.AtomicPrograms

/-! The reconnect policy with each of its handlers in one step, storage that works and a
clock that does not go back. Processes are elected by a name that one of them holds at a
time, and may be restarted between any two steps. What a tick sees of the devices, and what
is sent, is recorded; no process reads the record. -/

namespace FlossDesktop

open SharedSettings Reconnect

namespace Handoff

/-- A device as the settings name it. -/
structure Peer where
  adapter : Nat
  address : String
deriving Repr, DecidableEq

def peer (adapter : Nat) (address : String) : Peer := ⟨adapter, address.toUpper⟩

namespace Peer

def key (peer : Peer) (setting : Setting) : Key := ⟨peer.adapter, peer.address, setting⟩

def inhibited (peer : Peer) (file : Store Key Value) : Bool := Reconnect.toBool (file (peer.key .inhibited))

def number (peer : Peer) (file : Store Key Value) (setting : Setting) : Int := toLongLong (file (peer.key setting))

end Peer

inductive Event where
  /-- A candidate scan saw the device. -/
  | connected (peer : Peer) (now : Int)
  | disconnected (peer : Peer) (now : Int)
  /-- An operation of the user was committed. -/
  | operated (peer : Peer) (operation : String) (now : Int)
  | sent (process : Nat) (now : Int) (message : Message)
deriving Repr, DecidableEq

/-- The devices that the candidate scan considers. -/
def considered (backend : Backend) (file : Store Key Value) (address : String) (device : Device) : Bool :=
  device.paired.getD false && device.connected.isSome && !backend.operations.contains address &&
    !(peer backend.adapter address).inhibited file

def sight (backend : Backend) (file : Store Key Value) (now : Int) : String × Device → Option Event
  | (address, device) =>
    if considered backend file address device then
      if device.connected == some true then some (.connected (peer backend.adapter address) now)
      else some (.disconnected (peer backend.adapter address) now)
    else none

/-- A late connection that the tick takes down again. -/
def reconciles (backend : Backend) (file : Store Key Value) (now : Int) : String × Device → Bool
  | (address, device) =>
    device.connected.getD false && (peer backend.adapter address).inhibited file &&
      decide (now < (peer backend.adapter address).number file .disconnectUntil) &&
      decide ((peer backend.adapter address).number file .disconnectUntil ≤ now + disconnectReconciliation) &&
      decide ((peer backend.adapter address).number file .nextDisconnect ≤ now)

/-- The worker once the tick has looked after its outstanding attempt. -/
def surveyed (backend : Backend) (file : Store Key Value) (now : Int) (worker : Worker) : Worker :=
  (worker.renewed backend).expired backend { loaded := file } now

/-- The tick comes to its candidate scan. -/
def scans (backend : Backend) (file : Store Key Value) (now : Int) (worker : Worker) : Bool :=
  worker.owner && backend.ready && !(surveyed backend file now worker).disconnecting &&
    !backend.devices.any (reconciles backend file now) && (surveyed backend file now worker).pending == ""

/-- What is seen and committed in one step. -/
def witnessed (file : Store Key Value) (worker : Worker) (now : Int) : Entry → List Event
  | .tick backend _ => if scans backend file now worker then backend.devices.filterMap (sight backend file now) else []
  | .userOperation adapter address operation => [.operated (peer adapter address) operation now]
  | _ => []

/-- A process that hosts the policy for its adapter. -/
structure Host where
  adapter : Nat
  settings : Settings Key Value
  worker : Worker := {}
  unanswered : List Message := []

structure Desktop where
  file : Store Key Value
  hosts : Nat → Host
  /-- Who holds the name of an adapter on the session bus. -/
  holder : Nat → Option Nat := fun _ => none
  clock : Int
  log : List Event := []

inductive Act where
  | wake (process : Nat) (entry : Entry) (now : Int)
  | restart (process : Nat)
deriving Repr, DecidableEq

/-- The bus gives the name of an adapter to one process at a time. -/
def Desktop.available (d : Desktop) (process : Nat) : Bool :=
  d.holder (d.hosts process).adapter == none || d.holder (d.hosts process).adapter == some process

/-- A device is listed once. -/
def listedOnce (backend : Backend) : Bool := decide (backend.devices.map fun device => device.1.toUpper).Nodup

def Desktop.admits (d : Desktop) (process : Nat) : Entry → Bool
  | .tick backend acquired =>
    backend.adapter == (d.hosts process).adapter && listedOnce backend && (!acquired || d.available process)
  | .acquire acquired => !acquired || d.available process
  | .userOperation adapter _ _ => adapter == (d.hosts process).adapter
  | .isAutomaticAttempt => true
  | .reply _ _ => true

/-- What the handler of an entry does when nothing comes between. -/
def Desktop.handled (d : Desktop) (process : Nat) (entry : Entry) (now : Int) : Outcome Key Value Message Worker :=
  (program entry (d.hosts process).worker).alone now (d.hosts process).settings d.file

def Desktop.wake (d : Desktop) (process : Nat) (entry : Entry) (now : Int) (unanswered : List Message) : Desktop where
  file := (d.handled process entry now).file
  hosts := Function.update d.hosts process
    { adapter := (d.hosts process).adapter
      settings := (d.handled process entry now).settings
      worker := (d.handled process entry now).result
      unanswered := unanswered ++ (d.handled process entry now).sent }
  holder :=
    if (d.handled process entry now).result.owner then
      Function.update d.holder (d.hosts process).adapter (some process)
    else d.holder
  clock := now
  log := d.log ++ witnessed d.file (d.hosts process).worker now entry ++
    (d.handled process entry now).sent.map fun message => .sent process now message

/-- Only the file outlives a process. -/
def Desktop.restart (d : Desktop) (process : Nat) : Desktop where
  file := d.file
  hosts := Function.update d.hosts process { adapter := (d.hosts process).adapter, settings := { loaded := d.file } }
  holder :=
    if d.holder (d.hosts process).adapter == some process then
      Function.update d.holder (d.hosts process).adapter none
    else d.holder
  clock := d.clock
  log := d.log

def Desktop.step (d : Desktop) : Act → Option Desktop
  | .wake process entry now =>
    if decide (d.clock ≤ now) && d.admits process entry then
      (accept entry (d.hosts process).unanswered).map (d.wake process entry now)
    else none
  | .restart process => some (d.restart process)

def Desktop.run (d : Desktop) : List Act → Option Desktop
  | [] => some d
  | act :: rest => (d.step act).bind fun next => next.run rest

/-- Every process has just been started, each for its adapter. -/
def start (adapters : Nat → Nat) (file : Store Key Value) (clock : Nat) : Desktop where
  file
  hosts process := { adapter := adapters process, settings := { loaded := file } }
  clock

end Handoff
end FlossDesktop
