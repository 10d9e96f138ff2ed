import FlossDesktop.ScoPcm
import FlossDesktop.Library.Machine

/-! The audio lease of the media service. One session at a time owns the audio path, and
its two listeners are told once how the start went. The callers' proxies are known by the
bus name that was authenticated for them. The answers of the native stack come with the
call that asks, and its callbacks are inputs like any other. -/

namespace FlossDesktop.Media

open ScoPcm (RawAddress)

/-- One notification descriptor. It is moved into the call that passes it. -/
abbrev File := Nat

inductive BtavConnectionState where
  | disconnected
  | connecting
  | connected
  | disconnecting
deriving Repr, DecidableEq

inductive BtavAudioState where
  | remoteSuspend
  | stopped
  | started
deriving Repr, DecidableEq

inductive BthfConnectionState where
  | disconnected
  | connecting
  | connected
  | slcConnected
  | disconnecting
deriving Repr, DecidableEq

inductive BthfAudioState where
  | disconnected
  | connecting
  | connected
  | disconnecting
deriving Repr, DecidableEq

/-- A hash map from addresses, as an association list without repeated keys. -/
abbrev AddressMap (α : Type) := List (RawAddress × α)

namespace AddressMap

variable {α : Type}

def get (map : AddressMap α) (address : RawAddress) : Option α := map.lookup address

def remove (map : AddressMap α) (address : RawAddress) : AddressMap α := map.filter (·.1 != address)

def insert (map : AddressMap α) (address : RawAddress) (value : α) : AddressMap α := (address, value) :: map.remove address

end AddressMap

structure AudioSession where
  token : Nat
  address : RawAddress
  hfp : Bool
  owner : String
  started : Bool := false
  stopping : Bool := false
deriving Repr, DecidableEq

/-- A byte for a listener, the reply to the caller, or a call into the native stack. The
getters reply what the native stack knows of a peer, or a default. -/
inductive Effect where
  | write (listener : File) (byte : UInt8)
  | token (token : Nat)
  | answer (accepted : Bool)
  | pcmConfig (peer : Option RawAddress)
  | position (peer : Option RawAddress)
  | connectAudio (address : RawAddress)
  | startAudioForPeer (address : RawAddress)
  | disconnectAudio (address : RawAddress)
  | stopAudioForPeer (address : RawAddress)
  | startAudioRequest
  | suspendAudioRequest
  | stopAudioRequest
  | setActiveDevice (address : RawAddress)
  | resetActiveDevice
  | setHfpActiveDevice (address : RawAddress)
  | setAudioConfig (address : RawAddress)
  | disableProfiles
deriving Repr, DecidableEq

structure BluetoothMedia where
  initialized : Bool := false
  audioSession : Option AudioSession := none
  nextAudioToken : Nat := 0
  hfpAudioConnectionListener : Option File := none
  a2dpAudioConnectionListener : Option File := none
  hfpStates : AddressMap BthfConnectionState := []
  a2dpStates : AddressMap BtavConnectionState := []
  hfpAudioState : AddressMap BthfAudioState := []
  a2dpAudioState : AddressMap BtavAudioState := []
deriving Repr, DecidableEq

namespace BluetoothMedia

/-- The state a call leaves, and what it did outside. -/
abbrev Result := BluetoothMedia × List Effect

def andThen (result : Result) (next : BluetoothMedia → Result) : Result :=
  ((next result.1).1, result.2 ++ (next result.1).2)

def sessionMatches (s : BluetoothMedia) (address : RawAddress) (hfp : Bool) : Bool :=
  s.audioSession.any fun session => session.address == address && session.hfp == hfp

def sessionOwner (s : BluetoothMedia) (token : Nat) (owner : String) : Bool :=
  s.audioSession.any fun session => session.token == token && session.owner == owner

/-- The reservation of a started session is kept until a terminal callback. -/
def cancelAudioSession (s : BluetoothMedia) (token : Nat) : Result :=
  match s.audioSession.filter (·.token == token) with
  | none => (s, [])
  | some session =>
    if session.started = false then ({ s with audioSession := none }, [])
    else
      let s : BluetoothMedia := { s with audioSession := some { session with stopping := true } }
      if session.hfp then ({ s with hfpAudioConnectionListener := none }, [.disconnectAudio session.address])
      else ({ s with a2dpAudioConnectionListener := none }, [.stopAudioForPeer session.address])

def audioSessionState (s : BluetoothMedia) (address : RawAddress) (hfp terminal : Bool) : Result :=
  if s.sessionMatches address hfp = false then (s, [])
  else if terminal then ({ s with audioSession := none }, [])
  else
    match s.audioSession.filter (·.stopping) with
    | none => (s, [])
    | some session => s.cancelAudioSession session.token

/-- Tell the listener of a profile, unless the session is for something else. -/
def notify (s : BluetoothMedia) (address : RawAddress) (hfp : Bool) (byte : UInt8) : Result :=
  if s.audioSession.all (fun session => session.hfp == hfp && session.address == address) = false then (s, [])
  else if hfp then
    match s.hfpAudioConnectionListener with
    | none => (s, [])
    | some listener => ({ s with hfpAudioConnectionListener := none }, [.write listener byte])
  else
    match s.a2dpAudioConnectionListener with
    | none => (s, [])
    | some listener => ({ s with a2dpAudioConnectionListener := none }, [.write listener byte])

def a2dpConnectionState (s : BluetoothMedia) (address : RawAddress) : BtavConnectionState → Result
  | .disconnected =>
    andThen (s.notify address false 0) fun s =>
      { s with a2dpStates := s.a2dpStates.remove address, a2dpAudioState := s.a2dpAudioState.remove address }
        |>.audioSessionState address false true
  | state => ({ s with a2dpStates := s.a2dpStates.insert address state }, [])

def a2dpStarted : BtavAudioState → UInt8
  | .started => 1
  | _ => 0

def a2dpAudioStateChanged (s : BluetoothMedia) (address : RawAddress) (state : BtavAudioState) : Result :=
  andThen (s.notify address false (a2dpStarted state)) fun s =>
    { s with a2dpAudioState := s.a2dpAudioState.insert address state }
      |>.audioSessionState address false (a2dpStarted state == 0)

def hfpConnectionState (s : BluetoothMedia) (address : RawAddress) : BthfConnectionState → Result
  | .disconnected =>
    andThen (s.notify address true 0) fun s =>
      { s with hfpStates := s.hfpStates.remove address, hfpAudioState := s.hfpAudioState.remove address }
        |>.audioSessionState address true true
  | state => ({ s with hfpStates := s.hfpStates.insert address state }, [])

/-- `codec` is the byte of the final codec. -/
def hfpAudioStateChanged (s : BluetoothMedia) (address : RawAddress) (codec : UInt8) : BthfAudioState → Result
  | .connected =>
    andThen ({ s with hfpAudioState := s.hfpAudioState.insert address .connected }.notify address true codec) fun s =>
      s.audioSessionState address true false
  | .disconnected =>
    andThen (s.notify address true 0) fun s =>
      { s with hfpAudioState := s.hfpAudioState.insert address .disconnected }.audioSessionState address true true
  | state => ({ s with hfpAudioState := s.hfpAudioState.insert address state }, [])

def expireAudioReservation (s : BluetoothMedia) (token : Nat) : Result :=
  if s.audioSession.any (fun session => session.token == token && !session.started) then s.cancelAudioSession token
  else (s, [])

def hfpAudioBusy (s : BluetoothMedia) : Bool := s.hfpAudioState.any (·.2 != .disconnected)

/-- Another peer is streaming, or this one where HFP wants the air. -/
def a2dpAudioBusy (s : BluetoothMedia) (address : RawAddress) (hfp : Bool) : Bool :=
  s.a2dpAudioState.any fun peer => peer.2 == .started && (hfp || peer.1 != address)

def profileConnected (s : BluetoothMedia) (address : RawAddress) (hfp : Bool) : Bool :=
  if hfp then s.hfpStates.get address == some .slcConnected else s.a2dpStates.get address == some .connected

/-- The token, or zero where the reservation is refused. -/
def reserveAudioSession (s : BluetoothMedia) (address : RawAddress) (hfp : Bool) (owner : String) : BluetoothMedia × Nat :=
  if !s.initialized || owner.isEmpty || s.audioSession.isSome || s.hfpAudioConnectionListener.isSome ||
      s.a2dpAudioConnectionListener.isSome || s.hfpAudioBusy || s.a2dpAudioBusy address hfp ||
      !s.profileConnected address hfp then (s, 0)
  else if s.nextAudioToken + 1 < 2 ^ 64 then
    let token := s.nextAudioToken + 1
    ({ s with nextAudioToken := token, audioSession := some { token, address, hfp, owner } }, token)
  else (s, 0)

/-- What the native stack answers: `ready` is the status of the start, `valid` that of the
peer's position, `parsed` whether the disabled codecs make sense. -/
structure Native where
  ready : Bool
  valid : Bool := false
  parsed : Bool := true
deriving Repr, DecidableEq

def startScoTransport (s : BluetoothMedia) (address : RawAddress) (native : Native) : Result × Bool :=
  if s.hfpStates.get address ≠ some .slcConnected then ((s, []), false)
  else if s.hfpAudioBusy then ((s, []), false)
  else if native.parsed = false then ((s, []), false)
  else if native.ready = false then ((s, [.connectAudio address]), false)
  else (({ s with hfpAudioState := s.hfpAudioState.insert address .connecting }, [.connectAudio address]), true)

/-- The native start of a session, with its listener in place. -/
def startNative (s : BluetoothMedia) (address : RawAddress) (hfp : Bool) (listener : File) (native : Native) :
    Result × Bool :=
  if hfp then
    let started := { s with hfpAudioConnectionListener := some listener }.startScoTransport address
      { native with parsed := true }
    ((started.1.1, .setHfpActiveDevice address :: started.1.2), started.2)
  else
    (({ s with a2dpAudioConnectionListener := some listener }, [.startAudioForPeer address]), native.ready)

/-- A stream that was already started has its notification at once. -/
def acknowledge (s : BluetoothMedia) (address : RawAddress) (hfp : Bool) (native : Native) : Result :=
  if hfp = false ∧ s.a2dpAudioState.get address = some .started ∧ native.valid = true then
    match s.a2dpAudioConnectionListener with
    | none => (s, [])
    | some listener => ({ s with a2dpAudioConnectionListener := none }, [.write listener 1])
  else (s, [])

def refuse (s : BluetoothMedia) : BluetoothMedia :=
  { s with hfpAudioConnectionListener := none, a2dpAudioConnectionListener := none, audioSession := none }

/-- The session that the call may start. -/
def startable (s : BluetoothMedia) (token : Nat) (owner : String) : Option AudioSession :=
  s.audioSession.filter fun session =>
    s.sessionOwner token owner && !(session.started || session.stopping)

def startAudioSession (s : BluetoothMedia) (token : Nat) (owner : String) (listener : File) (native : Native) :
    Result × Bool :=
  match s.startable token owner with
  | none => ((s, []), false)
  | some session =>
    let marked : BluetoothMedia := { s with audioSession := some { session with started := true } }
    let started := marked.startNative session.address session.hfp listener native
    if started.2 then (andThen started.1 (·.acknowledge session.address session.hfp native), true)
    else ((started.1.1.refuse, started.1.2), false)

def stopAudioSession (s : BluetoothMedia) (token : Nat) (owner : String) : Result × Bool :=
  if s.audioSession.all (·.token != token) then ((s, []), true)
  else if s.sessionOwner token owner = false then ((s, []), false)
  else (s.cancelAudioSession token, true)

/-- The session whose PCM format and position may be read. -/
def readable (s : BluetoothMedia) (token : Nat) (owner : String) : Option AudioSession :=
  s.audioSession.filter fun session =>
    s.sessionOwner token owner && !(session.hfp || !session.started || session.stopping) &&
      s.a2dpAudioState.get session.address == some .started

def peerOf (s : BluetoothMedia) (token : Nat) (owner : String) : Option RawAddress :=
  (s.readable token owner).map AudioSession.address

def replyToken (reserved : BluetoothMedia × Nat) : Result := (reserved.1, [.token reserved.2])

def reply (answered : Result × Bool) : Result := (answered.1.1, answered.1.2 ++ [.answer answered.2])

/-- What a call outside the session does where no session holds the audio path. -/
def unowned (s : BluetoothMedia) (free : Result) : Result := if s.audioSession.isSome then (s, []) else free

def unownedAnswer (s : BluetoothMedia) (free : Result × Bool) : Result × Bool :=
  if s.audioSession.isSome then ((s, []), false) else free

def startAudioRequestImpl (s : BluetoothMedia) (native : Native) : Result × Bool :=
  s.unownedAnswer ((s, [.startAudioRequest]), native.ready)

def suspendAudioRequestImpl (s : BluetoothMedia) : Result := s.unowned (s, [.suspendAudioRequest])

def startScoCallImpl (s : BluetoothMedia) (address : RawAddress) (native : Native) : Result × Bool :=
  s.unownedAnswer (s.startScoTransport address native)

def stopScoCallImpl (s : BluetoothMedia) (address : RawAddress) : Result := s.unowned (s, [.disconnectAudio address])

def startAudioRequest (s : BluetoothMedia) (listener : File) (native : Native) : Result × Bool :=
  if s.audioSession.isSome || s.a2dpAudioConnectionListener.isSome then ((s, []), false)
  else
    let started := { s with a2dpAudioConnectionListener := some listener }.startAudioRequestImpl native
    if started.2 then started else (({ started.1.1 with a2dpAudioConnectionListener := none }, started.1.2), false)

def startScoCall (s : BluetoothMedia) (address : RawAddress) (listener : File) (native : Native) : Result × Bool :=
  if s.audioSession.isSome then ((s, []), false)
  else if s.hfpAudioConnectionListener.isSome then ((s, []), false)
  else
    let started := { s with hfpAudioConnectionListener := some listener }.startScoCallImpl address native
    if started.2 then started else (({ started.1.1 with hfpAudioConnectionListener := none }, started.1.2), false)

/-- `left` is the listener that the call leaves in its slot. -/
def stopAudioRequest (s : BluetoothMedia) (left : Option File) : Result :=
  s.unowned ({ s with a2dpAudioConnectionListener := left }, [.stopAudioRequest])

def stopScoCall (s : BluetoothMedia) (address : RawAddress) (left : Option File) : Result :=
  s.unowned ({ s with hfpAudioConnectionListener := left }, [.disconnectAudio address])

def setActiveDevice (s : BluetoothMedia) (address : RawAddress) : Result :=
  s.unowned (s, if s.a2dpStates.get address = some .connected then [.setActiveDevice address] else [])

def resetActiveDevice (s : BluetoothMedia) (completeProfilesRequired : Bool) : Result :=
  s.unowned (s, if completeProfilesRequired then [] else [.resetActiveDevice])

def setHfpActiveDevice (s : BluetoothMedia) (address : RawAddress) : Result :=
  s.unowned (s, if s.hfpStates.get address = some .slcConnected then [.setHfpActiveDevice address] else [])

def setAudioConfig (s : BluetoothMedia) (address : RawAddress) : Result × Bool :=
  s.unownedAnswer
    (if (s.a2dpStates.get address).isNone then ((s, []), false) else ((s, [.setAudioConfig address]), true))

/-- The cleanup of the daemon itself. -/
def cleanup (s : BluetoothMedia) (initialized : Bool) : Result :=
  ({ s with
      audioSession := none, hfpAudioConnectionListener := none, a2dpAudioConnectionListener := none, initialized },
    [.disableProfiles])

/-- The cleanup that a client asks for. -/
def cleanupCall (s : BluetoothMedia) (initialized : Bool) : Result × Bool :=
  s.unownedAnswer (s.cleanup initialized, true)

/-- Everything that reaches the service: calls, delayed messages and native callbacks. -/
inductive Input where
  | initialized
  | cleanup (initialized : Bool)
  | reserveAudioSession (address : RawAddress) (hfp : Bool) (owner : String)
  | startAudioSession (token : Nat) (owner : String) (listener : File) (native : Native)
  | stopAudioSession (token : Nat) (owner : String)
  | getA2dpPcmConfig (token : Nat) (owner : String)
  | getAudioSessionPosition (token : Nat) (owner : String)
  | expireAudioReservation (token : Nat)
  | cancelAudioSession (token : Nat)
  | startAudioRequest (listener : File) (native : Native)
  | stopAudioRequest (left : Option File)
  | startScoCall (address : RawAddress) (listener : File) (native : Native)
  | stopScoCall (address : RawAddress) (left : Option File)
  | startAudioRequestImpl (native : Native)
  | suspendAudioRequestImpl
  | startScoCallImpl (address : RawAddress) (native : Native)
  | stopScoCallImpl (address : RawAddress)
  | setActiveDevice (address : RawAddress)
  | resetActiveDevice (completeProfilesRequired : Bool)
  | setHfpActiveDevice (address : RawAddress)
  | setAudioConfig (address : RawAddress)
  | cleanupCall (initialized : Bool)
  | a2dpConnectionState (address : RawAddress) (state : BtavConnectionState)
  | a2dpAudioState (address : RawAddress) (state : BtavAudioState)
  | hfpConnectionState (address : RawAddress) (state : BthfConnectionState)
  | hfpAudioState (address : RawAddress) (codec : UInt8) (state : BthfAudioState)
deriving Repr, DecidableEq

/-- The peer and the profile that a native callback is about. -/
def Input.callback : Input → Option (RawAddress × Bool)
  | .a2dpConnectionState address _ => some (address, false)
  | .a2dpAudioState address _ => some (address, false)
  | .hfpConnectionState address _ => some (address, true)
  | .hfpAudioState address _ _ => some (address, true)
  | _ => none

/-- The peer and the profile whose audio a native callback reports as gone. -/
def Input.terminal : Input → Option (RawAddress × Bool)
  | .a2dpConnectionState address .disconnected => some (address, false)
  | .a2dpAudioState address state => if a2dpStarted state = 0 then some (address, false) else none
  | .hfpConnectionState address .disconnected => some (address, true)
  | .hfpAudioState address _ .disconnected => some (address, true)
  | _ => none

def step (s : BluetoothMedia) : Input → Result
  | .initialized => ({ s with initialized := true }, [])
  | .cleanup initialized => s.cleanup initialized
  | .reserveAudioSession address hfp owner => replyToken (s.reserveAudioSession address hfp owner)
  | .startAudioSession token owner listener native => reply (s.startAudioSession token owner listener native)
  | .stopAudioSession token owner => reply (s.stopAudioSession token owner)
  | .getA2dpPcmConfig token owner => (s, [.pcmConfig (s.peerOf token owner)])
  | .getAudioSessionPosition token owner => (s, [.position (s.peerOf token owner)])
  | .expireAudioReservation token => s.expireAudioReservation token
  | .cancelAudioSession token => s.cancelAudioSession token
  | .startAudioRequest listener native => reply (s.startAudioRequest listener native)
  | .stopAudioRequest left => s.stopAudioRequest left
  | .startScoCall address listener native => reply (s.startScoCall address listener native)
  | .stopScoCall address left => s.stopScoCall address left
  | .startAudioRequestImpl native => reply (s.startAudioRequestImpl native)
  | .suspendAudioRequestImpl => s.suspendAudioRequestImpl
  | .startScoCallImpl address native => reply (s.startScoCallImpl address native)
  | .stopScoCallImpl address => s.stopScoCallImpl address
  | .setActiveDevice address => s.setActiveDevice address
  | .resetActiveDevice required => s.resetActiveDevice required
  | .setHfpActiveDevice address => s.setHfpActiveDevice address
  | .setAudioConfig address => reply (s.setAudioConfig address)
  | .cleanupCall initialized => reply (s.cleanupCall initialized)
  | .a2dpConnectionState address state => s.a2dpConnectionState address state
  | .a2dpAudioState address state => s.a2dpAudioStateChanged address state
  | .hfpConnectionState address state => s.hfpConnectionState address state
  | .hfpAudioState address codec state => s.hfpAudioStateChanged address codec state

def run (inputs : List Input) : BluetoothMedia := Machine.state step {} inputs

def effects (inputs : List Input) : List Effect := Machine.outputs step {} inputs

end BluetoothMedia
end FlossDesktop.Media
