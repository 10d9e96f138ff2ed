import FlossDesktop.EncodingHost
import FlossDesktop.ScoPcm

/-! Calls about one peer of the software encoder. Each is made on a thread of the service, and
what it asks for is done on the main thread of the stack, one job after another. A call that
waited for too long returns, and its job is done all the same. -/

namespace FlossDesktop.A2dpIntf

open EncodingHost (PcmConfig PresentationPosition)
open ScoPcm (RawAddress)

/-- The source side of the stack, as far as jobs look at it. -/
structure Stack where
  enabled : Bool := false
  activePeer : RawAddress := RawAddress.kEmpty
  streamStartedReady : Bool := false
  pcm : PcmConfig := {}
  position : PresentationPosition := { remoteDelayReportNs := 0, totalBytesRead := 0, dataPosition := {} }
deriving Repr, DecidableEq

/-- What the stack does in between, or when it is asked to. The feeder of the encoder only changes by
updates, each with a rate, bits and channels. -/
structure Change where
  enabled : Bool
  activePeer : RawAddress
  streamStartedReady : Bool
  updates : List (Nat × Nat × Nat) := []
  position : PresentationPosition
deriving Repr, DecidableEq

def Stack.change (stack : Stack) (change : Change) : Stack where
  enabled := change.enabled
  activePeer := change.activePeer
  streamStartedReady := change.streamStartedReady
  pcm := change.updates.foldl (fun pcm (rate, bits, channels) => pcm.update rate bits channels) stack.pcm
  position := change.position

/-- How a request to the stack goes. -/
structure Native where
  accepted : Bool
  change : Change
deriving Repr, DecidableEq

structure A2dpPcmConfig extends PcmConfig where
  socketPath : String := ""
deriving Repr, DecidableEq

/-- How the audio bridge opens its socket: the format it read before is still there after. -/
def A2dpPcmConfig.opens (config confirmed : A2dpPcmConfig) : Bool :=
  config.ready && confirmed.ready && confirmed.generation == config.generation && confirmed.sampleRate == config.sampleRate &&
    confirmed.channelsCount == config.channelsCount && confirmed.bitsPerSample == config.bitsPerSample

/-- What the bridge looks for each second, with the generation that it was opened with. -/
def A2dpPcmConfig.keeps (config : A2dpPcmConfig) (generation : Nat) : Bool := config.ready && config.generation == generation

structure SessionPosition where
  valid : Bool := false
  position : PresentationPosition := { remoteDelayReportNs := 0, totalBytesRead := 0, dataPosition := {} }
deriving Repr, DecidableEq

inductive Reply where
  | flag (value : Bool)
  | pcmConfig (config : A2dpPcmConfig)
  | position (position : SessionPosition)
deriving Repr, DecidableEq

inductive Request where
  | startAudio
  | stopAudio
  | pcmConfig
  | position
deriving Repr, DecidableEq

/-- What is done on the main thread. A start selects its peer first. -/
inductive Task where
  | select
  | start
  | stop
  | pcmConfig
  | position
deriving Repr, DecidableEq

structure Job where
  call : Nat
  task : Task
deriving Repr, DecidableEq

namespace Request

def firstTask : Request → Task
  | .startAudio => .select
  | .stopAudio => .stop
  | .pcmConfig => .pcmConfig
  | .position => .position

/-- What is returned when no job could be posted. -/
def unposted : Request → Reply
  | .startAudio | .stopAudio => .flag false
  | .pcmConfig => .pcmConfig {}
  | .position => .position {}

/-- What is returned when the last job takes too long. It may still be done, so a start or a
stop is not denied. -/
def late : Request → Reply
  | .startAudio | .stopAudio => .flag true
  | .pcmConfig => .pcmConfig {}
  | .position => .position {}

end Request

/-- What a call waits for. -/
inductive Stage where
  | selecting
  | readying
  | waiting
  | returned (reply : Reply)
deriving Repr, DecidableEq

def Request.firstStage : Request → Stage
  | .startAudio => .selecting
  | _ => .waiting

/-- A call with what its two threads share. -/
structure Call where
  request : Request
  address : RawAddress
  stage : Stage
  cancelled : Bool := false
  accepted : Option Bool := none
  ready : Bool := false
  result : Option Reply := none
deriving Repr, DecidableEq

/-- `selecting` is the call whose peer is being selected, from the look at `cancelled` on. -/
structure System where
  stack : Stack := {}
  queue : List Job := []
  selecting : Option Nat := none
  calls : List Call := []
deriving Repr, DecidableEq

inductive Mark where
  | called (call : Nat) (request : Request) (address : RawAddress)
  | served (job : Job)
  | selected (call : Nat) (accepted : Bool)
  | setActivePeer (call : Nat) (address : RawAddress) (stack : Stack)
  | startRequest (call : Nat) (address : RawAddress) (stack : Stack) (accepted : Bool)
  | stopRequest (call : Nat) (address : RawAddress) (stack : Stack) (accepted : Bool)
  | disconnect (call : Nat) (address : RawAddress) (stack : Stack) (accepted : Bool)
  | returned (call : Nat) (reply : Reply)
deriving Repr, DecidableEq

namespace Stack

variable (stack : Stack) (address : RawAddress)

/-- The peer is the one that audio goes to. -/
def streamsTo : Bool := stack.activePeer == address && stack.streamStartedReady

def pcmConfigForPeer : A2dpPcmConfig :=
  if stack.streamsTo address then { stack.pcm with socketPath := "/var/run/bluetooth/audio/.a2dp_data" } else {}

def positionForPeer : SessionPosition := if stack.streamsTo address then { valid := true, position := stack.position } else {}

end Stack

namespace System

variable (s : System)

def update (id : Nat) (call : Call) : System := { s with calls := s.calls.set id call }

def post (id : Nat) (task : Task) : System := { s with queue := s.queue ++ [{ call := id, task }] }

def returnWith (id : Nat) (call : Call) (reply : Reply) : System × List Mark :=
  (s.update id { call with stage := .returned reply }, [.returned id reply])

def enter (request : Request) (address : RawAddress) (stage : Stage) : System :=
  { s with calls := s.calls ++ [{ request, address, stage }] }

/-- A call is made. -/
def call (request : Request) (address : RawAddress) (posted : Bool) : System × List Mark :=
  let id := s.calls.length
  if posted then
    ((s.enter request address request.firstStage).post id request.firstTask, [.called id request address])
  else
    (s.enter request address (.returned request.unposted), [.called id request address, .returned id request.unposted])

/-- A call looks whether what it waits for is there, or gives up the wait. -/
def wait (id : Nat) (expired posted : Bool) : System × List Mark :=
  match s.calls[id]? with
  | none => (s, [])
  | some call =>
    match call.stage with
    | .selecting =>
      if call.accepted.isSome then (s.update id { call with stage := .readying }, [])
      else if expired then s.returnWith id { call with cancelled := true } (.flag false)
      else (s, [])
    | .readying =>
      if call.ready then
        if call.accepted == some true && posted then ((s.update id { call with stage := .waiting }).post id .start, [])
        else s.returnWith id call (.flag false)
      else if expired then s.returnWith id call (.flag false)
      else (s, [])
    | .waiting =>
      match call.result with
      | some reply => s.returnWith id call reply
      | none => if expired then s.returnWith id call call.request.late else (s, [])
    | .returned _ => (s, [])

/-- A job of the main thread. A selection that is not cancelled goes on in `select`. -/
def perform (id : Nat) (call : Call) (native : Native) : Task → System × List Mark
  | .select =>
    if call.cancelled || !s.stack.enabled then
      (s.update id { call with ready := true, accepted := some false }, [.selected id false])
    else ({ s with selecting := some id }, [])
  | .start =>
    if s.stack.activePeer == call.address then
      ({ s with stack := s.stack.change native.change }.update id { call with result := some (.flag native.accepted) },
        [.startRequest id call.address s.stack native.accepted])
    else (s.update id { call with result := some (.flag false) }, [])
  | .stop =>
    ({ s with stack := s.stack.change native.change }.update id { call with result := some (.flag native.accepted) },
      [if s.stack.streamsTo call.address then .stopRequest id call.address s.stack native.accepted
       else .disconnect id call.address s.stack native.accepted])
  | .pcmConfig => (s.update id { call with result := some (.pcmConfig (s.stack.pcmConfigForPeer call.address)) }, [])
  | .position => (s.update id { call with result := some (.position (s.stack.positionForPeer call.address)) }, [])

/-- The main thread takes the next job. -/
def serve (native : Native) : System × List Mark :=
  match s.selecting, s.queue with
  | none, job :: rest =>
    match s.calls[job.call]? with
    | some call =>
      let (after, marks) := { s with queue := rest }.perform job.call call native job.task
      (after, .served job :: marks)
    | none => (s, [])
  | _, _ => (s, [])

/-- A stream to any peer is kept, and only a call for that peer is accepted. -/
def select (native : Native) (ready : Bool) : System × List Mark :=
  match s.selecting with
  | none => (s, [])
  | some id =>
    let s := { s with selecting := none }
    match s.calls[id]? with
    | none => (s, [])
    | some call =>
      if s.stack.streamStartedReady then
        let accepted := s.stack.activePeer == call.address
        (s.update id { call with ready := true, accepted := some accepted }, [.selected id accepted])
      else
        ({ s with stack := s.stack.change native.change }.update id { call with ready, accepted := some native.accepted },
          [.setActivePeer id call.address s.stack, .selected id native.accepted])

/-- The stack is done with a selection. -/
def readied (id : Nat) : System :=
  match s.calls[id]? with
  | some call => if call.accepted.isSome then s.update id { call with ready := true } else s
  | none => s

inductive Event where
  | change (change : Change)
  | call (request : Request) (address : RawAddress) (posted : Bool)
  | wait (id : Nat) (expired posted : Bool)
  | serve (native : Native)
  | select (native : Native) (ready : Bool)
  | readied (id : Nat)
deriving Repr, DecidableEq

/-- One event. The stack does nothing of its own in the middle of a selection. -/
def step : Event → System × List Mark
  | .change change => if s.selecting.isNone then ({ s with stack := s.stack.change change }, []) else (s, [])
  | .call request address posted => s.call request address posted
  | .wait id expired posted => s.wait id expired posted
  | .serve native => s.serve native
  | .select native ready => s.select native ready
  | .readied id => (s.readied id, [])

end System
end FlossDesktop.A2dpIntf
