import FlossDesktop.Bridge

/-! The negotiated PCM configuration as the daemon reports it: a dictionary from strings to
typed values, read entry by entry into one record. -/

namespace FlossDesktop

/-- A value of the dictionary. Only the types of known keys are told apart. -/
inductive Value where
  | boolean (value : Bool)
  | byte (value : UInt8)
  | uint32 (value : UInt32)
  | uint64 (value : UInt64)
  | string (value : String)
  | other (signature : String)
deriving Repr, DecidableEq

structure HfpPcmConfig where
  ready : Bool := false
  active : Bool := false
  rate : UInt32 := 0
  codec : UInt32 := 0
  bits : UInt8 := 0
  channels : UInt8 := 0
  generation : UInt64 := 0
  socketPath : String := ""
deriving Repr, DecidableEq

namespace PcmDictionary

abbrev Entries := List (String × Value)

/-- The keys that are read. -/
inductive Field where
  | ready
  | active
  | rate
  | bits
  | channels
  | codec
  | generation
  | socketPath
deriving Repr, DecidableEq

/-- The size of `sun_path`. -/
def sunPath : Nat := 108

def audioPath : String := "/var/run/bluetooth/audio/.a2dp_data"

def scoPath : String := "/var/run/bluetooth/audio/.sco_data"

def invalid : String := "missing or unsupported negotiated PCM configuration"

def field (key : String) : Option Field :=
  if key = "ready" then some .ready
  else if key = "active" then some .active
  else if key = "sample_rate" then some .rate
  else if key = "bits_per_sample" then some .bits
  else if key = "channels_count" then some .channels
  else if key = "codec" then some .codec
  else if key = "generation" then some .generation
  else if key = "socket_path" then some .socketPath
  else none

def Field.bit : Field → Nat
  | .ready => 1
  | .active => 128
  | .rate => 2
  | .bits => 4
  | .channels => 8
  | .codec => 16
  | .generation => 32
  | .socketPath => 64

/-- Put a value into the record. It must have the type of its field, and a path must leave
room for its terminator. -/
def store (config : HfpPcmConfig) : Field → Value → Option HfpPcmConfig
  | .ready, .boolean ready => some { config with ready }
  | .active, .boolean active => some { config with active }
  | .rate, .uint32 rate => some { config with rate }
  | .bits, .byte bits => some { config with bits }
  | .channels, .byte channels => some { config with channels }
  | .codec, .uint32 codec => some { config with codec }
  | .generation, .uint64 generation => some { config with generation }
  | .socketPath, .string path => if path.utf8ByteSize ≥ sunPath then none else some { config with socketPath := path }
  | _, _ => none

/-- One entry of the dictionary, with the keys seen so far. -/
def readEntry (state : HfpPcmConfig × Nat) (entry : String × Value) : Option (HfpPcmConfig × Nat) :=
  match field entry.1 with
  | none => some state
  | some known =>
    if state.2 &&& known.bit ≠ 0 then none
    else (store state.1 known entry.2).map fun config => (config, state.2 ||| known.bit)

def readEntries (state : HfpPcmConfig × Nat) : Entries → Option (HfpPcmConfig × Nat)
  | [] => some state
  | entry :: rest => (readEntry state entry).bind fun state => readEntries state rest

def validHfp (config : HfpPcmConfig) (seen : Nat) : Bool :=
  seen &&& 161 == 161 && (!config.ready || (seen == 255 && config.active && config.generation != 0 &&
    config.bits == 16 && config.channels == 1 &&
    ((config.codec == 1 && config.rate == 8000) || (config.codec == 2 && config.rate == 16000)) &&
    config.socketPath == scoPath))

def validA2dp (config : HfpPcmConfig) (seen : Nat) : Bool :=
  seen &&& 33 == 33 && (!config.ready || (seen &&& 111 == 111 && config.generation != 0 &&
    (config.bits == 16 || config.bits == 24 || config.bits == 32) && (config.channels == 1 || config.channels == 2) &&
    (config.rate == 44100 || config.rate == 48000 || config.rate == 88200 || config.rate == 96000) &&
    config.socketPath == audioPath))

/-- Without a reply, or with one of another signature, there are no entries. -/
def getPcmConfig (hfp : Bool) (reply : Option Entries) : Except String HfpPcmConfig :=
  match reply.bind (readEntries ({}, 0)) with
  | none => .error invalid
  | some (config, seen) =>
    if (if hfp then validHfp config seen else validA2dp config seen) = true then .ok config else .error invalid

/-- The limit that a transition computes from an accepted configuration. -/
def queueLimit (config : HfpPcmConfig) : Nat :=
  config.rate.toNat * config.channels.toNat * (config.bits.toNat / 8) / 10

end PcmDictionary
end FlossDesktop
