import FlossDesktop.Usb

/-! The endpoints and alternate settings found in the configuration descriptor. The native
list of interfaces reaches `discover` already flattened, with null pointers refused. -/

namespace FlossDesktop.Usb

structure Endpoint where
  address : UInt8
  attributes : UInt8
  size : UInt16
deriving Repr, DecidableEq

structure Alternate where
  number : UInt8
  alternate : UInt8
  class_ : UInt8
  subclass : UInt8
  protocol : UInt8
  endpoints : List Endpoint
deriving Repr, DecidableEq

def Endpoint.kind (ep : Endpoint) : UInt8 := ep.attributes &&& 3

def Endpoint.incoming (ep : Endpoint) : Bool := ep.address &&& 0x80 != 0

/-- The packet size without the additional transactions of a high-speed endpoint. -/
def Endpoint.bytes (ep : Endpoint) : Nat := (ep.size &&& 0x7ff).toNat

def Alternate.bluetooth (alt : Alternate) : Bool := alt.class_ == 0xe0 && alt.subclass == 1 && alt.protocol == 1

/-- The isochronous endpoints of one alternate. -/
structure IsoPair where
  input : UInt8 := 0
  output : UInt8 := 0
  inputSize : Nat := 0
  outputSize : Nat := 0
deriving Repr, DecidableEq

def IsoPair.usable (pair : IsoPair) : Bool :=
  pair.input != 0 && pair.output != 0 && pair.inputSize == pair.outputSize && pair.inputSize > 0

def noteControl (alt : Alternate) (result : Endpoints) (ep : Endpoint) : Endpoints :=
  if alt.number = 0 ∧ alt.alternate = 0 then
    if ep.kind = 3 ∧ ep.incoming then { result with interruptIn := ep.address }
    else if ep.kind = 2 ∧ ep.incoming then { result with bulkIn := ep.address }
    else if ep.kind = 2 then { result with bulkOut := ep.address }
    else result
  else result

def noteIso (alt : Alternate) (pair : IsoPair) (ep : Endpoint) : IsoPair :=
  if alt.number = 1 ∧ ep.kind = 1 then
    if ep.incoming then { pair with input := ep.address, inputSize := ep.bytes }
    else { pair with output := ep.address, outputSize := ep.bytes }
  else pair

def noteEndpoint (alt : Alternate) (state : Endpoints × IsoPair) (ep : Endpoint) : Endpoints × IsoPair :=
  (noteControl alt state.1 ep, noteIso alt state.2 ep)

def noteAlternate (wanted : Int) (state : Endpoints × Bool) (alt : Alternate) : Endpoints × Bool :=
  let (result, found) := state
  let (result, pair) := alt.endpoints.foldl (noteEndpoint alt) (result, {})
  if alt.number = 1 ∧ pair.usable then
    let result := if alt.alternate = 1 ∧ result.wbsAlt = 0 then { result with wbsAlt := 1, wbsSize := 24 } else result
    let result := if alt.alternate = 6 ∧ pair.inputSize ≥ 63 then { result with wbsAlt := 6, wbsSize := 60 } else result
    if (alt.alternate.toNat : Int) = wanted then
      ({ result with isoIn := pair.input, isoOut := pair.output, isoSize := pair.inputSize }, true)
    else (result, found)
  else (result, found)

def discover (alternates : List Alternate) (wanted : Int) : Except Int Endpoints :=
  let (result, found) := (alternates.filter (·.bluetooth)).foldl (noteAlternate wanted) ({}, false)
  if found ∧ result.interruptIn ≠ 0 ∧ result.bulkIn ≠ 0 ∧ result.bulkOut ≠ 0 then .ok result else .error (-enotsup)

end FlossDesktop.Usb
