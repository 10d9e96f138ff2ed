import FlossDesktop.Bridge

/-! The stall watchdog of the music transport: the counters it compares, the replies
that refresh its timestamp and the check each graph buffer makes. Times are in
nanoseconds of one clock. The counters of the source have 64 bits: a clock that starts
with the machine fills them in five centuries, and the bytes of a lease, of which there are
fewer in a second than nanoseconds, later still. -/

namespace FlossDesktop

/-- `POSITION_TIMEOUT_MS` in nanoseconds. -/
def positionTimeout : Nat := 2000 * 1000000

structure Watchdog where
  failed : Bool := false
  messages : List String := []
  playbackRunning : Bool := false
  audioWritten : Nat := 0
  positionValid : Bool := false
  positionBytes : Nat := 0
  positionNs : Nat := 0
  positionReceivedNs : Nat := 0
  positionProgressNs : Nat := 0
  remoteDelayNs : Nat := 0
deriving Repr, DecidableEq

namespace Watchdog

/-- A position reply with all its fields. -/
structure Position where
  valid : Bool := true
  bytes : Nat
  sec : Int := 0
  nsec : Int := 0
  remote : Nat := 0
deriving Repr, DecidableEq

def fail (w : Watchdog) (reason : String) : Watchdog :=
  { w with failed := true, messages := if w.failed then w.messages else w.messages ++ [reason] }

def Position.stamp (p : Position) : Nat := (p.sec * 1000000000 + p.nsec).toNat

/-- The checks of `position_received` on a complete reply. -/
def accepts (w : Watchdog) (now : Nat) (p : Position) : Bool :=
  p.valid && decide (0 ≤ p.sec) && decide (0 ≤ p.nsec) && decide (p.nsec < 1000000000) &&
    decide (p.sec.toNat ≤ (2 ^ 64 - 1 - p.nsec.toNat) / 1000000000) && decide (p.bytes ≤ w.audioWritten) &&
    (!w.positionValid || decide (w.positionBytes ≤ p.bytes)) &&
    decide (p.stamp ≤ now) && (!w.positionValid || decide (w.positionNs ≤ p.stamp))

def positionReceived (w : Watchdog) (now : Nat) (reply : Option Position) : Watchdog :=
  match reply with
  | none => w.fail "A2DP lease position unavailable or transport counter reset"
  | some p =>
    if w.accepts now p then
      { w with
        positionProgressNs :=
          if w.positionValid = false ∨ p.bytes ≠ w.positionBytes ∨ w.playbackRunning = false then now
          else w.positionProgressNs
        positionBytes := p.bytes
        positionNs := p.stamp
        positionReceivedNs := now
        remoteDelayNs := p.remote
        positionValid := true }
    else w.fail "A2DP lease position unavailable or transport counter reset"

/-- Why `playback_level` fails for the music transport, if it does. -/
def playbackLevel (w : Watchdog) (now : Nat) : Option Bridge.LevelFailure :=
  if w.positionValid = false then none
  else if now - w.positionReceivedNs > positionTimeout then some .feedbackStalled
  else if w.playbackRunning ∧ w.audioWritten > w.positionBytes ∧ now - w.positionProgressNs > positionTimeout then
    some .transportStopped
  else none

/-- A buffer of the graph. What it then sends is a step of its own. -/
def process (w : Watchdog) (now : Nat) : Watchdog :=
  if w.failed then w
  else match w.playbackLevel now with
    | none => w
    | some failure => w.fail failure.reason

/-- A send that the socket took bytes of. -/
def sent (w : Watchdog) (count : Nat) : Watchdog :=
  if w.failed then w else { w with audioWritten := w.audioWritten + count }

def stateChanged (w : Watchdog) (now : Nat) (streaming : Bool) : Watchdog :=
  let w := { w with playbackRunning := streaming }
  if streaming = false then { w with positionProgressNs := now } else w

inductive Move where
  | process
  | sent (count : Nat)
  | positionReceived (reply : Option Position)
  | stateChanged (streaming : Bool)
deriving Repr, DecidableEq

structure Event where
  time : Nat
  move : Move
deriving Repr, DecidableEq

def step (w : Watchdog) (event : Event) : Watchdog :=
  match event.move with
  | .process => w.process event.time
  | .sent count => w.sent count
  | .positionReceived reply => w.positionReceived event.time reply
  | .stateChanged streaming => w.stateChanged event.time streaming

def run (events : List Event) : Watchdog := events.foldl step {}

end Watchdog
end FlossDesktop
