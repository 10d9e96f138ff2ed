import FlossDesktop.Library.Machine
import Mathlib.Logic.Function.Basic

/-! The position of the software encoder's stream, and the PCM configuration of its feeder.
The encoder thread reads audio and adds up its bytes, the main thread starts streams and
answers questions about the position, and both take `position_mutex_`. A read holds it before
and after the bytes come in, never between. What happens under the mutex is one step. The two
`uint64_t` counters are plain numbers: one counts starts, and at the two megabytes a second of
the widest format the other would need 2^63 microseconds of one stream to run out. -/

namespace FlossDesktop.EncodingHost

structure Timespec where
  sec : Nat := 0
  nsec : Nat := 0
deriving Repr, DecidableEq

structure PresentationPosition where
  remoteDelayReportNs : Nat
  totalBytesRead : Nat
  dataPosition : Timespec
deriving Repr, DecidableEq

/-- `reading` has the generation that a read found, from its first section to its second. -/
structure Host where
  positionGeneration : Nat := 0
  totalBytesRead : Nat := 0
  dataPosition : Timespec := {}
  remoteDelayReport : Nat := 0
  calls : Nat := 0
  reading : Nat → Option Nat := fun _ => none

/-- What is done under the mutex. A start counts as `ready` when it gets to a stream that is
ready; a rejected or repeated start leaves the position alone. -/
inductive Section where
  | startRequest (ready : Bool)
  | init
  | setRemoteDelay (delayReport : Nat)
  | getPresentationPosition
  | beginRead
  | finishRead (call bytesRead : Nat) (now : Timespec)
deriving Repr, DecidableEq

inductive Mark where
  | reset
  | position (position : PresentationPosition)
  | began (call : Nat)
  | returned (call bytesRead : Nat)
deriving Repr, DecidableEq

def Host.resetPosition (host : Host) : Host :=
  { host with positionGeneration := host.positionGeneration + 1, totalBytesRead := 0, dataPosition := {} }

/-- The product of the delay has 32 bits. -/
def Host.presentationPosition (host : Host) : PresentationPosition where
  remoteDelayReportNs := host.remoteDelayReport * 100000 % 2 ^ 32
  totalBytesRead := host.totalBytesRead
  dataPosition := host.dataPosition

def Host.beginRead (host : Host) : Host :=
  { host with calls := host.calls + 1, reading := Function.update host.reading host.calls (some host.positionGeneration) }

def Host.endRead (host : Host) (call : Nat) : Host := { host with reading := Function.update host.reading call none }

def Host.finishRead (host : Host) (call generation bytesRead : Nat) (now : Timespec) : Host :=
  if generation ≠ host.positionGeneration then host.endRead call
  else { host.endRead call with totalBytesRead := host.totalBytesRead + bytesRead, dataPosition := now }

/-- A section and what it leaves a mark of. The second section of a read that is not under way
does not happen. -/
def step (host : Host) : Section → Host × List Mark
  | .startRequest ready => if ready then (host.resetPosition, [.reset]) else (host, [])
  | .init => ({ host.resetPosition with remoteDelayReport := 0 }, [.reset])
  | .setRemoteDelay delayReport => ({ host with remoteDelayReport := delayReport }, [])
  | .getPresentationPosition => (host, [.position host.presentationPosition])
  | .beginRead => (host.beginRead, [.began host.calls])
  | .finishRead call bytesRead now =>
    match host.reading call with
    | some generation => (host.finishRead call generation bytesRead now, [.returned call bytesRead])
    | none => (host, [])

/-- Snapshot of the actual initialized software encoder feeder, not capabilities. -/
structure PcmConfig where
  ready : Bool := false
  sampleRate : Nat := 0
  bitsPerSample : Nat := 0
  channelsCount : Nat := 0
  generation : Nat := 0
deriving Repr, DecidableEq

def PcmConfig.update (config : PcmConfig) (rate bits channels : Nat) : PcmConfig where
  ready := rate != 0 && bits != 0 && channels != 0
  sampleRate := rate
  bitsPerSample := bits
  channelsCount := channels
  generation := config.generation + 1

end FlossDesktop.EncodingHost
