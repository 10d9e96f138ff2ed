import FlossDesktop.Bridge

/-! How the audio bridge selects a profile. Graph events, the desktop's choices and the
timer run on one loop; a timer tick may switch the transport with a chain of bounded calls
to the daemon. What the daemon, the graph and the clock answer is an argument of the call
that asks. The log keeps what was said to the daemon, and what was reported. -/

namespace FlossDesktop.Profiles

open FlossDesktop.Bridge (PcmConfig)

/-- What a call to the daemon, a start or a failure leaves behind. -/
inductive Act where
  | report (reason : String)
  | starting (hfp : Bool)
  | reserve (hfp : Bool)
  | reserved (token : Nat)
  | start (token : Nat)
  | stop (token : Nat)
  | setAudioConfig (address : String) (codec rate bits mode : Nat)
  | fallback
  | profile (selected : Nat)
deriving Repr, DecidableEq

/-- The chosen parameters of an A2DP codec. Zero is none. -/
structure Codec where
  rate : Nat := 0
  mode : Nat := 0
  bits : Nat := 0
deriving Repr, DecidableEq

def spaIdInvalid : Nat := 0xffffffff

structure CaptureObject where
  id : Nat
  node : Bool
  output : Nat := spaIdInvalid
  input : Nat := spaIdInvalid
  monitor : Bool := false
  passive : Bool := false
  running : Bool := false
deriving Repr, DecidableEq

structure Bridge where
  address : String := ""
  automatic : Bool := true
  main : Bool := false
  registry : Bool := false
  graphObjects : List CaptureObject := []
  requestedProfile : Nat := 0
  selectedProfile : Nat := 0
  codecs : List Codec := []
  microphone : Bool := false
  a2dpAvailable : Bool := false
  hfp : Bool := false
  hfpTransportUnavailable : Bool := false
  transitioning : Bool := false
  failed : Bool := false
  -- A quit of the main loop has been requested.
  quitting : Bool := false
  captureDemand : Bool := false
  captureIdleMs : Int := 0
  discoveryDeadline : Int := 0
  hfpRetryDeadline : Int := 0
  -- The microphone's stream, and its node's id once it is bound.
  capture : Option Nat := none
  playbackFormatReady : Bool := false
  captureFormatReady : Bool := false
  session : Nat := 0
  audioFd : Option Nat := none
  -- The descriptor that the loop watches.
  audioSource : Option Nat := none
  rate : Nat := 0
  channels : Nat := 2
  bits : Nat := 0
  captureRate : Nat := 0
  queueLimit : Nat := 0
  log : List Act := []
deriving Repr, DecidableEq

namespace Bridge

def note (b : Bridge) (act : Act) : Bridge := { b with log := b.log ++ [act] }

/-- A failure quits the loop, once there is one and no transition is under way. -/
def fail (b : Bridge) (reason : String) : Bridge :=
  let b := if b.failed then b else b.note (.report reason)
  { b with failed := true, quitting := b.quitting || (b.main && !b.transitioning) }

/-! What the graph says about the consumers of the microphone. -/

/-- A text of the graph, with what `spa_atob` of PipeWire makes of it. -/
structure DictValue where
  text : String
  spaAtob : Bool
deriving Repr, DecidableEq

/-- The properties of a node, as far as they matter. -/
structure NodeProps where
  monitor : Option DictValue := none
  passive : Option DictValue := none
deriving Repr, DecidableEq

def captureNodeInfo (o : CaptureObject) (running : Option Bool) (props : Option NodeProps) : CaptureObject :=
  let o := { o with running := running.getD o.running }
  match props with
  | none => o
  | some props =>
    { o with
      monitor := props.monitor.any DictValue.spaAtob
      passive := props.passive.any fun passive =>
        passive.spaAtob || passive.text == "in-follow" || passive.text == "out-follow" }

def captureLinkInfo (o : CaptureObject) (output input : Nat) (active : Option Bool) : CaptureObject :=
  { o with output, input, running := active.getD o.running }

/-- The interface of an object that appears in the graph. -/
inductive Interface where
  | node
  | link
  | other
deriving Repr, DecidableEq

def captureGlobal (b : Bridge) (id : Nat) (type : Interface) (bound : Bool) : Bridge :=
  if type = .other ∨ bound = false then b
  else { b with graphObjects := b.graphObjects ++ [{ id, node := type = .node }] }

def captureRemove (b : Bridge) (id : Nat) : Bridge := { b with graphObjects := b.graphObjects.eraseP (·.id == id) }

def captureRequested (b : Bridge) : Bool :=
  match b.capture with
  | none => false
  | some source =>
    b.registry && source != spaIdInvalid && b.graphObjects.any fun link =>
      !link.node && link.running && link.output == source && b.graphObjects.any fun node =>
        node.node && node.id == link.input && node.running && !node.monitor && !node.passive

/-! The profiles of the card. -/

/-- The codec each profile asks for. Automatic and Handsfree ask for none. -/
def profileCodecs : List (Option Nat) := [none, some 0, some 1, none, some 2, some 3, some 4]

def profileHasMicrophone (b : Bridge) (profile : Nat) : Bool := b.microphone && (profile == 0 || profile == 3)

/-- The chosen parameters of a codec, if it can be asked for. -/
def codec (b : Bridge) (codec : Nat) : Option Codec :=
  (b.codecs[codec]?).filter fun choice => choice.rate != 0 && choice.mode != 0 && choice.bits != 0

def profileAvailable (b : Bridge) (profile : Nat) : Bool :=
  match profileCodecs[profile]? with
  | none => false
  | some none => profile == 0 || b.microphone && !b.hfpTransportUnavailable
  | some (some codec) => (b.codec codec).isSome

/-- The desktop chooses a profile. `none` is a request that does not parse. -/
def profileSet (b : Bridge) (profile : Option Int) : Bridge :=
  match profile with
  | some (.ofNat profile) => if b.profileAvailable profile then { b with requestedProfile := profile } else b
  | _ => b

/-! The snapshot of the connected devices. -/

structure Device where
  address : Option String
  a2dp : Bool
  hfp : Bool
  codecs : List Codec := []
deriving Repr, DecidableEq

def validAddress (address : String) : Bool :=
  address.length == 17 && address.toList.zipIdx.all fun (c, i) =>
    if i % 3 == 2 then c == ':' else c.isDigit || ('a' ≤ c.toLower && c.toLower ≤ 'f')

/-- The first device that can be used, and is the selected one if there is one. -/
def usable (b : Bridge) (device : Device) : Bool :=
  (device.a2dp || device.hfp) && device.address.any fun address =>
    validAddress address && (b.address == "" || address.toLower == b.address.toLower)

def discoverDevice (b : Bridge) (reply : Option (List Device)) : Bridge × Bool :=
  match reply.bind (·.find? b.usable) with
  | none => (b, false)
  | some device =>
    let b := { b with codecs := device.codecs }
    if b.address ≠ "" ∧ device.hfp ≠ b.microphone then (b.fail "headset capabilities changed; refreshing nodes", false)
    else ({ b with address := device.address.getD "", microphone := device.hfp, a2dpAvailable := device.a2dp }, true)

/-! Starting and stopping a transport. -/

/-- What the bus does while the bridge waits. -/
inductive Interruption where
  | none
  | failure (reason : String)
  | cancelled
deriving Repr, DecidableEq

def dispatchBus (b : Bridge) : Interruption → Bridge
  | .failure reason => b.fail reason
  | _ => b

/-- A reply to one call, `none` if it is not valid, and what happens before the next. -/
structure Attempt (α : Type) where
  reply : Option α
  interruption : Interruption := .none
deriving Repr, DecidableEq

def refused (b : Bridge) : Bridge × Bool := (b.fail "Floss refused the address-scoped audio reservation", false)

/-- The attempts to reserve, the last of which may run into the deadline. -/
def reserveAttempts (b : Bridge) : List (Attempt Nat) → Bridge × Bool
  | [] => b.refused
  | attempt :: rest =>
    let b := b.note (.reserve b.hfp)
    match attempt.reply with
    | none => b.refused
    | some token =>
      let b := { b with session := token }.note (.reserved token)
      if token ≠ 0 then (b, true)
      else if b.transitioning = false then b.refused
      else
        let b := b.dispatchBus attempt.interruption
        if b.failed ∨ attempt.interruption = .cancelled then b.refused else b.reserveAttempts rest

/-- A reservation, its start, and the wait for the notification. -/
structure Acquisition where
  cancelled : Bool := false
  first : Attempt Nat
  retries : List (Attempt Nat) := []
  socketpair : Bool := true
  accepted : Bool := true
  notified : Bool := true
  interruption : Interruption := .none
deriving Repr, DecidableEq

def reserveAudio (b : Bridge) (x : Acquisition) : Bridge × Bool := b.reserveAttempts (x.first :: x.retries)

def requestStart (b : Bridge) (accepted : Bool) : Bridge × Bool :=
  let b := b.note (.start b.session)
  if accepted then (b, true) else (b.fail "Floss did not accept the reserved audio start", false)

/-- The part that both starts share, up to the failure they report. -/
def acquire (b : Bridge) (x : Acquisition) (reason : String) : Bridge × Bool :=
  if x.cancelled then (b, false)
  else
    let reserved := b.reserveAudio x
    if reserved.2 = false then (reserved.1, false)
    else if x.socketpair = false then (reserved.1, false)
    else
      let started := reserved.1.requestStart x.accepted
      let heard := started.2 && !started.1.failed && x.notified
      let b := if started.2 && !started.1.failed then started.1.dispatchBus x.interruption else started.1
      if heard = false ∨ b.failed ∨ x.interruption = .cancelled then (b.fail reason, false) else (b, true)

def assign (b : Bridge) {hfp : Bool} (config : PcmConfig hfp) : Bridge :=
  { b with rate := config.rate, channels := config.channels, bits := config.bits }

def misread (b : Bridge) : Bridge := b.fail "missing or unsupported negotiated PCM configuration"

/-- How a configuration that was known reads again. -/
inductive Rereading where
  | same
  | changed
  | misread
deriving Repr, DecidableEq

def reread (b : Bridge) (rereading : Rereading) (reason : String) : Bridge × Bool :=
  match rereading with
  | .same => (b, true)
  | .changed => (b.fail reason, false)
  | .misread => (b.misread.fail reason, false)

/-- One turn of the loop that opens the voice socket. -/
inductive HfpTurn where
  | misread
  | pending (interruption : Interruption)
  | unsocketed
  | postponed (interruption : Interruption)
  | unreachable
  | connected (fd : Nat) (confirmed : Rereading) (config : PcmConfig true) (interruption : Interruption) (arrived : Bool)

/-- `arrived` is whether a sample came in time. -/
def hfpPcmArrives (b : Bridge) (interruption : Interruption) (arrived : Bool) : Bridge × Bool :=
  if arrived then (b, true)
  else
    let b := { b.dispatchBus interruption with hfpTransportUnavailable := true }
    (b.fail "HFP connected without microphone PCM; controller SCO transport is unavailable", false)

def openHfp (b : Bridge) : List HfpTurn → Bridge × Bool
  | [] => (b.fail "Floss HFP PCM socket did not become ready", false)
  | turn :: rest =>
    let next (interruption : Interruption) : Bridge × Bool :=
      let b := b.dispatchBus interruption
      if b.failed ∨ interruption = .cancelled then (b.fail "Floss HFP PCM socket did not become ready", false)
      else b.openHfp rest
    match turn with
    | .misread => (b.misread, false)
    | .pending interruption => next interruption
    | .unsocketed => ({ b with audioFd := none }, false)
    | .postponed interruption => next interruption
    | .unreachable => ({ b with audioFd := none }, false)
    | .connected fd confirmed config interruption arrived =>
      let confirmed := { b with audioFd := some fd }.reread confirmed "HFP transport changed while opening PCM"
      if confirmed.2 then (confirmed.1.assign config).hfpPcmArrives interruption arrived else confirmed

/-- `turns` ends where the deadline does. -/
structure HfpStart where
  acquisition : Acquisition
  turns : List HfpTurn := []

def startHfp (b : Bridge) (x : HfpStart) : Bridge × Bool :=
  let acquired := (b.note (.starting true)).acquire x.acquisition "Floss did not complete HFP start successfully"
  if acquired.2 then acquired.1.openHfp x.turns else acquired

/-- How the music socket opens. -/
inductive AudioOpening where
  | misread
  | unready
  | unsocketed
  | unreachable (fd : Nat)
  | connected (fd : Nat) (confirmed : Rereading) (config : PcmConfig false)

def openAudio (b : Bridge) : AudioOpening → Bridge × Bool
  | .misread => (b.misread, false)
  | .unready => (b, false)
  | .unsocketed => ({ b with audioFd := none }, false)
  | .unreachable fd => ({ b with audioFd := some fd }, false)
  | .connected fd confirmed config =>
    let confirmed := { b with audioFd := some fd }.reread confirmed "A2DP configuration changed while opening PCM"
    if confirmed.2 then (confirmed.1.assign config, true) else confirmed

structure AudioStart where
  acquisition : Acquisition
  opening : AudioOpening

def startAudio (b : Bridge) (x : AudioStart) : Bridge × Bool :=
  let acquired := (b.note (.starting false)).acquire x.acquisition "Floss did not complete A2DP start successfully"
  if acquired.2 then acquired.1.openAudio x.opening else acquired

def startTransport (b : Bridge) (hfpStart : HfpStart) (audioStart : AudioStart) : Bridge × Bool :=
  if b.hfp then b.startHfp hfpStart else b.startAudio audioStart

def stopTransport (b : Bridge) : Bridge :=
  let b := if b.session ≠ 0 then b.note (.stop b.session) else b
  { b with audioSource := none, session := 0, audioFd := none }

/-- The attempts to configure a codec as it was chosen, the last of which may run into the
deadline. -/
def codecAttempts (b : Bridge) (codec : Nat) (choice : Codec) : List (Attempt Bool) → Bridge × Bool
  | [] => (b, false)
  | attempt :: rest =>
    let b := b.note (.setAudioConfig b.address codec choice.rate choice.bits choice.mode)
    match attempt.reply with
    | none => (b, false)
    | some true => (b, true)
    | some false =>
      let b := b.dispatchBus attempt.interruption
      if b.failed ∨ attempt.interruption = .cancelled then (b, false) else b.codecAttempts codec choice rest

def requestCodec (b : Bridge) (profile : Nat) (first : Attempt Bool) (retries : List (Attempt Bool)) : Bridge × Bool :=
  match profileCodecs[profile]? with
  | none => (b, false)
  | some none => (b, true)
  | some (some codec) =>
    match b.codec codec with
    | none => (b, false)
    | some choice => b.codecAttempts codec choice (first :: retries)

/-- How the microphone's stream is connected: it may not be created at all. -/
inductive Connection where
  | uncreated
  | refused
  | connected
deriving Repr, DecidableEq

def syncCaptureProfile (b : Bridge) (profile : Nat) (connection : Connection) : Bridge × Bool :=
  let wanted := if b.automatic then b.profileHasMicrophone profile else b.hfp
  if wanted then
    if b.capture.isSome then (b, true)
    else
      match connection with
      | .uncreated => (b, false)
      | .refused => ({ b with capture := some spaIdInvalid }, false)
      | .connected => ({ b with capture := some spaIdInvalid }, true)
  else if b.capture.isSome then
    ({ b with capture := none, captureDemand := false, captureFormatReady := false, captureIdleMs := 0 }, true)
  else (b, true)

/-! The timer. -/

/-- Everything one tick asks about. `later` is the time of a fallback, `reported` what the
streams and the PCM socket report before the transition ends. -/
structure Tick where
  now : Int
  devices : Option (List Device) := none
  a2dpConfig : Rereading := .same
  codec : Attempt Bool := { reply := some true }
  codecRetries : List (Attempt Bool) := []
  hfpStart : HfpStart
  audioStart : AudioStart
  cancelled : Bool := false
  later : Int
  fallbackStart : AudioStart
  connection : Connection := .connected
  playbackRenegotiated : Bool := true
  captureRenegotiated : Bool := true
  watched : Bool := true
  reported : List String := []

/-- The transport that the tick wants. -/
def wantedHfp (b : Bridge) (demand : Bool) (now : Int) : Bool :=
  let wanted := !b.a2dpAvailable || (demand && decide (b.hfpRetryDeadline ≤ now)) ||
    (b.hfp && decide (now - b.captureIdleMs < 2000))
  let wanted := if b.requestedProfile ≠ 0 then b.requestedProfile == 3 else wanted
  if b.hfpTransportUnavailable && b.a2dpAvailable then false else wanted

def observe (b : Bridge) (demand : Bool) (now : Int) : Bridge :=
  { b with captureIdleMs := if b.captureDemand && !demand then now else b.captureIdleMs, captureDemand := demand }

/-- The device is looked up each second; a transport that has changed is given up. -/
def rediscover (b : Bridge) (x : Tick) : Bridge × Bool :=
  if x.now < b.discoveryDeadline then (b, true)
  else
    let discovered := { b with discoveryDeadline := x.now + 1000 }.discoverDevice x.devices
    if discovered.2 = false then
      (discovered.1.fail "audio device is no longer ready; waiting for reconnect", false)
    else if discovered.1.hfp then discovered
    else discovered.1.reread x.a2dpConfig "A2DP configuration changed; refreshing transport"

/-- The codec of the requested profile, or the profile there was. -/
def chooseProfile (b : Bridge) (wanted : Bool) (x : Tick) : Bridge :=
  if b.requestedProfile = b.selectedProfile then { b with hfp := wanted }
  else
    let chosen := b.requestCodec b.requestedProfile x.codec x.codecRetries
    if chosen.2 then { chosen.1 with hfp := wanted }
    else { chosen.1 with requestedProfile := b.selectedProfile }

/-- A start that failed falls back to music and to the Automatic profile. -/
def fallBack (b : Bridge) (x : Tick) : Bridge × Bool :=
  let fallback := b.hfp && b.a2dpAvailable && !x.cancelled
  let b := { (b.note .fallback).stopTransport with
    failed := false, hfp := false, hfpRetryDeadline := x.later + 10000, requestedProfile := 0 }
  if fallback then b.startAudio x.fallbackStart else (b, false)

def restart (b : Bridge) (x : Tick) : Bridge × Bool :=
  let started := b.startTransport x.hfpStart x.audioStart
  if started.2 then started else started.1.fallBack x

/-- The end of a transition that failed. -/
def giveUp (b : Bridge) (reason : String) : Bridge := { b with transitioning := false }.fail reason

/-- The fields that follow the new format. -/
def reformat (b : Bridge) : Bridge :=
  { b with
    captureRate := if b.hfp then b.rate else 16000
    queueLimit := b.rate * b.channels * (b.bits / 8) / 10 }

/-- The end of a transition that went through. -/
def commit (b : Bridge) : Bridge :=
  let b := { b with selectedProfile := b.requestedProfile }.note (.profile b.requestedProfile)
  { b with transitioning := false, quitting := b.quitting || b.failed }

/-- The nodes follow the new transport. `old` is the bridge before the transition. -/
def publish (b : Bridge) (old : Bridge) (x : Tick) : Bridge :=
  let b := b.reformat
  let playbackChanged := old.rate != b.rate || old.bits != b.bits
  let captureChanged := old.captureRate != b.captureRate
  let synced := b.syncCaptureProfile b.requestedProfile x.connection
  if synced.2 = false then synced.1.giveUp "could not publish profile microphone"
  else
    let b := { synced.1 with
      playbackFormatReady := synced.1.playbackFormatReady && !playbackChanged
      captureFormatReady := synced.1.captureFormatReady && !captureChanged }
    if playbackChanged && !x.playbackRenegotiated || b.capture.isSome && captureChanged && !x.captureRenegotiated then
      b.giveUp "could not renegotiate PipeWire profile format"
    else if x.watched = false then b.giveUp "could not watch new audio transport"
    else (x.reported.foldl fail { b with audioSource := b.audioFd }).commit

def switch (b : Bridge) (wanted : Bool) (x : Tick) : Bridge :=
  let chosen := ({ b with transitioning := true }.stopTransport).chooseProfile wanted x
  let restarted := chosen.restart x
  if restarted.2 then restarted.1.publish b x
  else restarted.1.giveUp "profile transition failed; waiting before retry"

def automaticTick (b : Bridge) (x : Tick) : Bridge :=
  let demand := b.captureRequested
  let observed := b.observe demand x.now
  let wanted := observed.wantedHfp demand x.now
  if observed.transitioning then observed
  else
    let discovered := observed.rediscover x
    if discovered.2 = false then discovered.1
    else if wanted = discovered.1.hfp ∧ discovered.1.requestedProfile = discovered.1.selectedProfile then discovered.1
    else discovered.1.switch wanted x

/-! The whole bridge. -/

/-- What the start of the bridge asks about. `choices` are the desktop's while the card is
exported, `ready` lumps the objects without which it does not run. -/
structure Startup where
  devices : Option (List Device)
  hfpStart : HfpStart
  audioStart : AudioStart
  cancelled : Bool := false
  ready : Bool := true
  choices : List (Option Int) := []
  connection : Connection := .connected
  registry : Bool := true
  reported : List String := []

/-- The nodes and the graph's registry, at the end of the start. -/
def publishFirst (b : Bridge) (x : Startup) : Bridge × Bool :=
  let synced := b.syncCaptureProfile b.requestedProfile x.connection
  if synced.2 = false ∨ x.registry = false then (synced.1, false)
  else
    let b := x.reported.foldl fail { synced.1 with registry := true }
    (b, !b.failed)

/-- The way from the first transport to the main loop, and whether it gets there. -/
def enterLoop (b : Bridge) (x : Startup) : Bridge × Bool :=
  let b := b.reformat
  if x.cancelled ∨ x.ready = false then (b, false)
  else (x.choices.foldl profileSet { b with main := true, audioSource := b.audioFd }).publishFirst x

/-- The bridge up to its main loop, and whether it gets there. -/
def startup (x : Startup) : Bridge × Bool :=
  let discovered := discoverDevice {} x.devices
  if discovered.2 = false then discovered
  else
    let started := { discovered.1 with hfp := !discovered.1.a2dpAvailable }.startTransport x.hfpStart x.audioStart
    if started.2 then started.1.enterLoop x else started

/-- Everything that reaches the main loop. A failure is one that another callback reports. -/
inductive Event where
  | global (id : Nat) (type : Interface) (bound : Bool)
  | nodeInfo (index : Nat) (running : Option Bool) (props : Option NodeProps)
  | linkInfo (index : Nat) (output input : Nat) (active : Option Bool)
  | removed (id : Nat)
  | captureBound (id : Nat)
  | profileSet (profile : Option Int)
  | failure (reason : String)
  | tick (x : Tick)

/-- Information about one object of the graph. -/
def informed (b : Bridge) (index : Nat) (update : CaptureObject → CaptureObject) : Bridge :=
  { b with graphObjects := b.graphObjects.modify index update }

def step (b : Bridge) : Event → Bridge
  | .global id type bound => b.captureGlobal id type bound
  | .nodeInfo index running props => b.informed index (captureNodeInfo · running props)
  | .linkInfo index output input active => b.informed index (captureLinkInfo · output input active)
  | .removed id => b.captureRemove id
  | .captureBound id => { b with capture := b.capture.map fun _ => id }
  | .profileSet profile => b.profileSet profile
  | .failure reason => b.fail reason
  | .tick x => if b.automatic && !b.failed then b.automaticTick x else b

def run (b : Bridge) (events : List Event) : Bridge := events.foldl step b

/-- The bridge returns, and releases its lease while the bus is there. -/
def finish (b : Bridge) (connected : Bool) : Bridge :=
  if b.session ≠ 0 ∧ connected = true then b.note (.stop b.session) else b

/-- From the start to the return. The main loop is run if the start gets there. -/
def runBridge (start : Startup) (events : List Event) (connected : Bool) : Bridge :=
  let started := startup start
  (if started.2 then started.1.run events else started.1).finish connected

end Bridge
end FlossDesktop.Profiles
