import FlossDesktop.Bridge

/-! Position feedback of the music transport. On every fifth tick, which is every 100 ms, the
daemon is asked how many bytes it has consumed and when; from the last answer the level of
the buffers is extrapolated. Levels are exact rationals, times are nanoseconds of the raw
clock, and any reading of that clock is an argument. -/

namespace FlossDesktop

namespace Feedback

/-- A value of the reply. Only the types of known keys are told apart. -/
inductive Value where
  | boolean (value : Bool)
  | int64 (value : Int64)
  | uint64 (value : UInt64)
  | other (signature : String)
deriving Repr, DecidableEq

abbrev Entries := List (String × Value)

/-- The keys that are read. -/
inductive Field where
  | valid
  | bytes
  | sec
  | nsec
  | remote
deriving Repr, DecidableEq

structure Position where
  valid : Bool := false
  bytes : UInt64 := 0
  sec : Int64 := 0
  nsec : Int64 := 0
  remote : UInt64 := 0
deriving Repr, DecidableEq

def positionTimeout : UInt64 := 2000 * 1000000

/-- Idle gaps are not extrapolated over. -/
def extrapolationLimit : UInt64 := 200000000

def uint64Max : UInt64 := 18446744073709551615

def unavailable : String := "A2DP lease position unavailable or transport counter reset"

def field (key : String) : Option Field :=
  if key = "valid" then some .valid
  else if key = "total_bytes_read" then some .bytes
  else if key = "data_position_sec" then some .sec
  else if key = "data_position_nsec" then some .nsec
  else if key = "remote_delay_report_ns" then some .remote
  else none

def Field.bit : Field → Nat
  | .valid => 1
  | .bytes => 2
  | .sec => 4
  | .nsec => 8
  | .remote => 16

/-- Put a value into the record. It must have the type of its field. -/
def store (position : Position) : Field → Value → Option Position
  | .valid, .boolean valid => some { position with valid }
  | .bytes, .uint64 bytes => some { position with bytes }
  | .sec, .int64 sec => some { position with sec }
  | .nsec, .int64 nsec => some { position with nsec }
  | .remote, .uint64 remote => some { position with remote }
  | _, _ => none

/-- One entry of the dictionary, with the keys seen so far. -/
def readEntry (state : Position × Nat) (entry : String × Value) : Option (Position × Nat) :=
  match field entry.1 with
  | none => some state
  | some known =>
    if state.2 &&& known.bit ≠ 0 then none
    else (store state.1 known entry.2).map fun position => (position, state.2 ||| known.bit)

def readEntries (state : Position × Nat) : Entries → Option (Position × Nat)
  | [] => some state
  | entry :: rest => (readEntry state entry).bind fun state => readEntries state rest

/-- The time of a position, in the arithmetic of 64 bits. -/
def Position.stamp (position : Position) : UInt64 := position.sec.toUInt64 * 1000000000 + position.nsec.toUInt64

/-- How the request for a position went. -/
inductive PollOutcome where
  | sent
  | unallocated
  | unsent
  | unwatched
deriving Repr, DecidableEq

end Feedback

structure Feedback where
  bridge : Bridge
  session : UInt64 := 0
  positionCall : Bool := false
  positionBytes : UInt64 := 0
  positionNs : UInt64 := 0
  positionReceivedNs : UInt64 := 0
  remoteDelayNs : UInt64 := 0
  positionValid : Bool := false
  positionTicks : Nat := 0
  positionProgressNs : UInt64 := 0
  positionRequestNs : UInt64 := 0
  /-- The positions accepted in this lease. Nothing reads them. -/
  accepted : List (UInt64 × UInt64) := []

namespace Feedback

open Bridge (LevelFailure Offer Verdict SendOutcome StreamState Transition PcmConfig Reception Request)

def fail (s : Feedback) (reason : String) : Feedback := { s with bridge := s.bridge.fail reason }

/-- What is checked before the time is computed. The last division keeps it in 64 bits. -/
def acceptable (s : Feedback) (position : Position) (seen : Nat) : Bool :=
  seen == 31 && position.valid && !decide (position.sec < 0) && !decide (position.nsec < 0) &&
    !decide (position.nsec ≥ 1000000000) &&
    !decide (position.sec.toUInt64 > (uint64Max - position.nsec.toUInt64) / 1000000000) &&
    !decide (position.bytes.toNat > s.bridge.audioWritten) && !(s.positionValid && decide (position.bytes < s.positionBytes))

def positionAccepted (s : Feedback) (position : Position) (now : UInt64) : Feedback :=
  { s with
    positionProgressNs :=
      if s.positionValid = false ∨ position.bytes ≠ s.positionBytes ∨ s.bridge.playbackRunning = false then now
      else s.positionProgressNs
    positionBytes := position.bytes
    positionNs := position.stamp
    positionReceivedNs := now
    remoteDelayNs := position.remote
    positionValid := true
    accepted := s.accepted ++ [(position.bytes, position.stamp)] }

/-- Entries that could not be read, or an unacceptable position, fail the bridge. -/
def positionRead (s : Feedback) (read : Option (Position × Nat)) (now : UInt64) : Feedback :=
  match read with
  | none => s.fail unavailable
  | some (position, seen) =>
    if s.acceptable position seen = false then s.fail unavailable
    else if position.stamp > now ∨ s.positionValid = true ∧ position.stamp < s.positionNs then s.fail unavailable
    else s.positionAccepted position now

/-- The answer to a request. Without a reply, or with one of another signature, there are
no entries. -/
def positionReceived (s : Feedback) (reply : Option Entries) (now : UInt64) : Feedback :=
  { s with positionCall := false }.positionRead (reply.bind (readEntries ({}, 0))) now

def pollPosition (s : Feedback) (now : UInt64) (outcome : PollOutcome) : Feedback :=
  if s.positionCall then
    if now - s.positionRequestNs > positionTimeout then s.fail "A2DP position request timed out" else s
  else if s.session = 0 then s
  else
    let s := { s with positionRequestNs := now }
    match outcome with
    | .unallocated => s.fail "could not allocate position request"
    | .unsent => s.fail "could not request A2DP transport position"
    | .unwatched => s.fail "could not watch A2DP transport position"
    | .sent => { s with positionCall := true }

/-- Every fifth tick asks for a position. -/
def busTick (s : Feedback) (now : UInt64) (outcome : PollOutcome) : Feedback :=
  if s.bridge.hfp ∨ s.bridge.failed then s
  else if s.positionTicks + 1 ≥ 5 then { s with positionTicks := 0 }.pollPosition now outcome
  else { s with positionTicks := s.positionTicks + 1 }

def bytesPerSecond (b : Bridge) : Rat := b.rate * b.channels * ((b.bits / 8 : Nat) : Rat)

/-- The bytes that the transport has consumed by now. -/
def consumed (s : Feedback) (now : UInt64) : Rat :=
  let consumed : Rat := s.positionBytes.toNat
  let consumed :=
    if s.positionNs ≠ 0 ∧ now ≥ s.positionNs then
      consumed + (min (now - s.positionNs) extrapolationLimit).toNat / 1000000000 * bytesPerSecond s.bridge
    else consumed
  if consumed > s.bridge.audioWritten then s.bridge.audioWritten else consumed

/-- Feedback is stale when no position came for two seconds, or none that moved while there
was something to consume. -/
def levelFailure (s : Feedback) (now : UInt64) : Option LevelFailure :=
  if s.bridge.hfp ∨ s.positionValid = false then none
  else if now - s.positionReceivedNs > positionTimeout then some .feedbackStalled
  else if s.bridge.playbackRunning = true ∧ s.bridge.audioWritten > s.positionBytes.toNat ∧
      now - s.positionProgressNs > positionTimeout then some .transportStopped
  else none

/-- Seconds of audio between the graph and the transport's consumer, or a negative number
when they are unknown. -/
def playbackLevel (s : Feedback) (now : UInt64) : Feedback × Rat :=
  if s.bridge.hfp then (s, s.bridge.voiceQueue.queued / bytesPerSecond s.bridge)
  else if s.positionValid = false then (s, -1)
  else
    match s.levelFailure now with
    | some failure => (s.fail failure.reason, -1)
    | none => (s, (s.bridge.queue.queued + s.bridge.audioWritten - s.consumed now) / bytesPerSecond s.bridge)

/-- A playback buffer, with the failure of the level decided by the feedback. -/
def process (s : Feedback) (offer : Offer) (verdict : Verdict) (before after : List SendOutcome) (now : UInt64) : Feedback :=
  { s with bridge := s.bridge.process offer { verdict with levelFailure := s.levelFailure now } before after }

def stateChanged (s : Feedback) (state : StreamState) (error : Option String) (now : UInt64) : Feedback :=
  { s with
    positionProgressNs := if state ≠ .streaming then now else s.positionProgressNs
    bridge := s.bridge.stateChanged state error }

/-- What stopping the transport does to the feedback. Times stay. -/
def stopPosition (s : Feedback) : Feedback :=
  { s with
    positionCall := false, session := 0, positionValid := false, positionBytes := 0, positionTicks := 0, accepted := [] }

def stopTransport (s : Feedback) : Feedback := { s.stopPosition with bridge := s.bridge.stopTransport }

/-- A profile transition stops the transport first, and may reserve another session. -/
def transition (s : Feedback) (t : Transition) (session : UInt64) : Feedback :=
  { s.stopPosition with bridge := s.bridge.transition t, session }

/-- The rings are primed and the loop starts. -/
def enter (s : Feedback) (flush : List SendOutcome) (now : UInt64) (outcome : PollOutcome) : Feedback :=
  let s := { s with bridge := s.bridge.prime flush }
  let s := if s.bridge.hfp then s else s.pollPosition now outcome
  { s with bridge := { s.bridge with starting := false } }

/-- The bridge when its transport has been started. -/
def initial {hfp : Bool} (config : PcmConfig hfp) (session : UInt64) : Feedback :=
  { bridge := ((Bridge.configure { hfp } config).setLimits), session }

inductive Event where
  | enter (flush : List SendOutcome) (now : UInt64) (outcome : PollOutcome)
  | busTick (now : UInt64) (outcome : PollOutcome)
  | positionReceived (reply : Option Entries) (now : UInt64)
  | process (offer : Offer) (verdict : Verdict) (before after : List SendOutcome) (now : UInt64)
  | readCapture (receptions : List Reception)
  | flushAudio (outcomes : List SendOutcome)
  | captureProcess (request : Request) (verdict : Verdict)
  | stateChanged (state : StreamState) (error : Option String) (now : UInt64)
  | captureStateChanged (state : StreamState) (error : Option String)
  | formatReady (playback capture : Bool)
  | disconnected
  | stopTransport
  | transition (t : Transition) (session : UInt64)

/-- One callback. A reply comes only while one is expected. -/
def step (s : Feedback) : Event → Feedback
  | .enter flush now outcome => s.enter flush now outcome
  | .busTick now outcome => s.busTick now outcome
  | .positionReceived reply now => if s.positionCall then s.positionReceived reply now else s
  | .process offer verdict before after now => s.process offer verdict before after now
  | .readCapture receptions => { s with bridge := s.bridge.step (.readCapture receptions) }
  | .flushAudio outcomes => { s with bridge := s.bridge.step (.flushAudio outcomes) }
  | .captureProcess request verdict => { s with bridge := s.bridge.step (.captureProcess request verdict) }
  | .stateChanged state error now => s.stateChanged state error now
  | .captureStateChanged state error => { s with bridge := s.bridge.step (.captureStateChanged state error) }
  | .formatReady playback capture => { s with bridge := s.bridge.step (.formatReady playback capture) }
  | .disconnected => { s with bridge := s.bridge.step .disconnected }
  | .stopTransport => s.stopTransport
  | .transition t session => s.transition t session

def run (s : Feedback) (events : List Event) : Feedback := events.foldl step s

end Feedback
end FlossDesktop
