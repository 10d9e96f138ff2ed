import FlossDesktop.Profiles

/-! The snapshot of the connected audio devices, as it comes over the bus. Each device is a
dictionary, with one dictionary for each of its music codecs. Of what a codec can do, one rate,
one depth and one channel mode are chosen. -/

namespace FlossDesktop.AudioDevices

open Profiles (Codec)
open Profiles.Bridge (Device)

/-- A value in the dictionary of a codec. Only 32-bit integers are read. -/
inductive Field where
  | int32 (value : BitVec 32)
  | other
deriving Repr, DecidableEq

abbrev Capability := List (String × Field)

/-- A value in the dictionary of a device. An array may have elements that are not arrays. -/
inductive Value where
  | string (value : String)
  | int32 (value : BitVec 32)
  | arrays (elements : List Capability)
  | array (length : Nat)
  | other
deriving Repr, DecidableEq

abbrev Entries := List (String × Value)

def a2dpCodecCount : Nat := 5

/-- What a codec can do, as sets of flags. -/
structure Offer where
  codec : BitVec 32 := -1
  rates : BitVec 32 := 0
  modes : BitVec 32 := 0
  bits : BitVec 32 := 0
deriving Repr, DecidableEq

/-- The last value of a key counts. -/
def Offer.read (offer : Offer) : String × Field → Offer
  | (field, .int32 value) =>
    let offer := if field = "codec_type" then { offer with codec := value } else offer
    let offer := if field = "sample_rate" then { offer with rates := value } else offer
    let offer := if field = "channel_mode" then { offer with modes := value } else offer
    if field = "bits_per_sample" then { offer with bits := value } else offer
  | _ => offer

def offer (capability : Capability) : Offer := capability.foldl Offer.read {}

def has (flags : BitVec 32) (flag : Nat) : Bool := flags &&& BitVec.ofNat 32 flag != 0

def chooseRate (codec : Nat) (rates : BitVec 32) : Nat :=
  if codec == 4 && has rates 8 then 8
  else if codec == 4 && has rates 4 then 4
  else if decide (2 ≤ codec) && has rates 2 then 2
  else if has rates 1 then 1
  else if has rates 2 then 2
  else 0

def chooseBits (codec : Nat) (bits : BitVec 32) : Nat :=
  if codec == 4 && has bits 4 then 4 else if decide (3 ≤ codec) && has bits 2 then 2 else if has bits 1 then 1 else 0

def chooseMode (modes : BitVec 32) : Nat := if has modes 2 then 2 else if has modes 1 then 1 else 0

def Offer.choice (offer : Offer) : Codec where
  rate := chooseRate offer.codec.toNat offer.rates
  mode := chooseMode offer.modes
  bits := chooseBits offer.codec.toNat offer.bits

/-- A codec that is not known is passed over. -/
def choose (codecs : List Codec) (capability : Capability) : List Codec :=
  let offer := offer capability
  if 0 ≤ offer.codec.toInt ∧ offer.codec.toInt < a2dpCodecCount then codecs.set offer.codec.toNat offer.choice else codecs

/-- A device as it is read, entry by entry. -/
structure Reading where
  address : Option String := none
  name : Option String := none
  hfp : BitVec 32 := 0
  a2dp : Bool := false
  codecs : List Codec := List.replicate a2dpCodecCount {}
deriving Repr, DecidableEq

def Reading.read (reading : Reading) : String × Value → Reading
  | (key, value) =>
    match value with
    | .string value =>
      if key = "address" then { reading with address := some value }
      else if key = "name" then { reading with name := some value }
      else reading
    | .int32 value => if key = "hfp_cap" then { reading with hfp := value } else reading
    | .arrays elements =>
      if key = "a2dp_caps" then { reading with a2dp := elements != [], codecs := elements.foldl choose reading.codecs }
      else reading
    | .array length => if key = "a2dp_caps" then { reading with a2dp := length != 0 } else reading
    | .other => reading

def read (entries : Entries) : Reading := entries.foldl Reading.read {}

def Reading.device (reading : Reading) : Device where
  address := reading.address
  a2dp := reading.a2dp
  hfp := reading.hfp != 0
  codecs := reading.codecs

/-- The name on the desktop: names that do not fit are not cut, but replaced. -/
def Reading.label (reading : Reading) (address : String) : String :=
  match reading.name with
  | some name => if name.utf8ByteSize < 249 then name else address
  | none => address

abbrev Reply := List Entries

def devices (reply : Reply) : List Device := reply.map fun entries => (read entries).device

end FlossDesktop.AudioDevices
