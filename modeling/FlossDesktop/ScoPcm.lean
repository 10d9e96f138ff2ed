import Mathlib.Data.List.Basic
import Mathlib.Data.BitVec

/-! The published state of the software voice socket. Two threads touch it, the stack
thread and the worker of the socket, always in sections under one lock; a step here is
one such section, or one queued task of the stack thread. The generation counter is
unbounded. -/

namespace FlossDesktop.ScoPcm

abbrev RawAddress := BitVec 48

def RawAddress.kEmpty : RawAddress := 0

structure PcmConfig where
  ready : Bool := false
  sampleRate : Nat := 0
  codec : Nat := 0
  generation : Nat := 0
deriving Repr, DecidableEq

/-- A queued call of `disconnect_failed_transport`. -/
structure Teardown where
  address : RawAddress
  generation : Nat
deriving Repr, DecidableEq

/-- What the teardown reads of an entry in the table of voice links. -/
structure ScoLink where
  connected : Bool
  address : RawAddress
  inband : Bool
deriving Repr, DecidableEq

structure State where
  config : PcmConfig := {}
  address : RawAddress := RawAddress.kEmpty
  socketOpen : Bool := false
  uipc : Bool := false
  links : List ScoLink := []
  posted : List Teardown := []
  removed : List (Teardown × Nat) := []
deriving Repr, DecidableEq

namespace State

def sampleRateOf (codec : Nat) : Nat :=
  match codec with
  | 1 => 8000
  | 2 => 16000
  | 4 => 32000
  | _ => 0

/-- The unlocked part of `open`: the worker is started and the listener made. -/
def openSocket (s : State) (init opened : Bool) : State :=
  if init then { s with uipc := true, socketOpen := opened } else { s with uipc := false }

/-- The locked part of `open_for_codec`. -/
def publish (s : State) (address : RawAddress) (codec : Nat) (srvfd : Int) : State :=
  let sampleRate := sampleRateOf codec
  let ready := s.socketOpen && s.uipc && decide (srvfd ≥ 0) && sampleRate != 0
  { s with address, config := { ready, sampleRate, codec, generation := s.config.generation + 1 } }

def getPcmConfig (s : State) (address : RawAddress) : PcmConfig :=
  if address ≠ s.address ∨ s.config.ready = false then { generation := s.config.generation } else s.config

/-- The locked part of `cleanup`. -/
def cleanup (s : State) : State :=
  { s with config := { generation := s.config.generation + 1 }, address := RawAddress.kEmpty }

/-- The rest of `cleanup`, which joins the worker. -/
def closeSocket (s : State) : State := { s with socketOpen := false, uipc := false }

/-- The task a failure of the transport would post. -/
def failing (s : State) : Option Teardown :=
  if s.address = RawAddress.kEmpty ∨ s.config.ready = false then none
  else some ⟨s.address, s.config.generation + 1⟩

def failTransport (s : State) : State :=
  match s.failing with
  | none => s
  | some task =>
    { s with
      config := { s.config with ready := false, generation := task.generation }, posted := s.posted ++ [task] }

/-- The link the teardown removes, unless its transport is no longer the current one. -/
def disconnectFailedTransport (s : State) (task : Teardown) : Option Nat :=
  let snapshot := s.getPcmConfig task.address
  if snapshot.generation ≠ task.generation ∨ snapshot.ready = true then none
  else s.links.findIdx? fun link => link.connected && link.address == task.address && link.inband

/-- Take a task from the queue and run it. -/
def runTask (s : State) (index : Nat) : State :=
  match s.posted[index]? with
  | none => s
  | some task =>
    let s := { s with posted := s.posted.eraseIdx index }
    match s.disconnectFailedTransport task with
    | none => s
    | some link => { s with removed := s.removed ++ [(task, link)] }

inductive Step where
  | openSocket (init opened : Bool)
  | publish (address : RawAddress) (codec : Nat) (srvfd : Int)
  | cleanup
  | closeSocket
  | fail
  | task (index : Nat)
  | links (links : List ScoLink)
deriving Repr, DecidableEq

def step (s : State) : Step → State
  | .openSocket init opened => s.openSocket init opened
  | .publish address codec srvfd => s.publish address codec srvfd
  | .cleanup => s.cleanup
  | .closeSocket => s.closeSocket
  | .fail => s.failTransport
  | .task index => s.runTask index
  | .links links => { s with links }

def run (s : State) (steps : List Step) : State := steps.foldl step s

end State
end FlossDesktop.ScoPcm
