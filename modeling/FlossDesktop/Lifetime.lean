import FlossDesktop.Discovery
import FlossDesktop.Helper
import FlossDesktop.Library.Dialogue
import FlossDesktop.Rfkill

/-! The helper process from its start to its end: the radio is looked for and opened, the kernel
driver initializes its firmware, the radio is taken over, and a virtual adapter is registered
for it. Whatever fails, everything is given back in the order of the scopes. -/

namespace FlossDesktop.Lifetime

open Dialogue (Program ask)
open Usb (Alternate Endpoints Supply Claiming Cancellation Teardown)
open MainLoop (WriteOutcome ReadOutcome)

/-- An adapter of the kernel. The numbers are those of each directory on the way up from its
device, if that can be resolved. -/
structure Adapter where
  name : String
  ancestors : Option (List (Option Int × Option Int))
deriving Repr, DecidableEq

/-- The adapters, some of which may not be readable. -/
inductive Listing where
  | missing
  | unreadable (reason : String)
  | entries (adapters : List (Except String Adapter))

/-- `cancel` is for all transfers of the radio as it is then. -/
inductive Request where
  | libusbInit
  | libusbExit
  | getDeviceList
  | freeDeviceList
  | opens (device : Nat)
  | busAddress (device : Nat)
  | close
  | getConfig
  | freeConfig
  | kernelDriverActive
  | attachKernelDriver
  | detachKernelDriver
  | claimInterface (interface : Nat)
  | releaseInterface (interface : Nat)
  | setAlt
  | startReceivers
  | turn
  | cancel (usb : Usb)
  | readBluetooth
  | now
  | sleep
  | socket
  | bind (fd index : Nat)
  | closeSocket (fd : Nat)
  | openVhci
  | writeVhci (record : Bytes)
  | pollVhci
  | readVhci
  | closeVhci
  | stopping
  | writeSize (size : Nat)
  | setPermissions
  | rename
  | notify
  | exits (status : Int)

/-- An error number of the kernel is never zero. -/
abbrev Errno := { code : Int // 0 < code }

/-- A descriptor that could not be read is missing from the list of devices, and a configuration
with null pointers comes without its alternates. -/
abbrev Answer : Request → Type
  | .libusbInit | .opens _ | .kernelDriverActive | .attachKernelDriver | .detachKernelDriver | .claimInterface _
  | .releaseInterface _ | .setAlt | .pollVhci => Int
  | .getDeviceList => Option (List (Option (UInt16 × UInt16)))
  | .busAddress _ => UInt8 × UInt8
  | .getConfig => Option (Option (List Alternate))
  | .startReceivers => Supply × Supply × Supply
  | .turn => Helper.Turn
  | .cancel _ => Cancellation
  | .readBluetooth => Listing
  | .now => Nat
  | .socket => Except Errno Nat
  | .bind _ _ => Except Errno Unit
  | .openVhci | .writeSize _ | .setPermissions | .rename | .notify => Except String Unit
  | .writeVhci _ => WriteOutcome
  | .readVhci => ReadOutcome
  | .stopping => Bool
  | .libusbExit | .freeDeviceList | .close | .freeConfig | .sleep | .closeSocket _ | .closeVhci | .exits _ => Unit

abbrev Calls := Program Request Answer

def call (request : Request) : Calls (Answer request) := ask request

/-- How the process ends. A status is only given when it ends in the middle of things. -/
inductive Ending where
  | returned (result : Except String Unit)
  | exited (status : Int)

/-- The texts of errors that come with a code of the system. -/
def osError (code : Int) : String := "os error " ++ toString code

def checked (code : Int) (operation : String) : Except String Unit :=
  if code < 0 then .error (operation ++ " failed (" ++ toString code ++ ")") else .ok ()

def teardown : Teardown → Calls Unit
  | .setAlt => do let _ ← call .setAlt
  | .release interface => do let _ ← call (.releaseInterface interface)
  | .attachKernelDriver => do let _ ← call .attachKernelDriver
  | .close => call .close
  | .libusbExit => call .libusbExit

def teardownAll : List Teardown → Calls Unit
  | [] => return ()
  | first :: rest => do
    teardown first
    teardownAll rest

def drop (usb : Usb) (result : Except String Unit) : Calls Ending := do
  let cancellation ← call (.cancel usb)
  match (usb.drop cancellation).2 with
  | .exited status =>
    call (.exits status)
    return .exited status
  | .released calls =>
    teardownAll calls
    return .returned result

/-- The configuration is freed before it is looked into here, which makes no difference. -/
def loadDescriptors (wanted : Int) : Calls (Except Int Endpoints) := do
  match ← (call .getConfig : Calls (Option (Option (List Alternate)))) with
  | none => return .error (-Usb.eio)
  | some config =>
    call .freeConfig
    return config.elim (.error (-Usb.eio)) fun alternates => Usb.discover alternates wanted

def isRadio : Option (UInt16 × UInt16) → Bool
  | some (vendor, product) => vendor == 0x0bda && product == 0xc123
  | none => false

/-- The places of the radios in the list of devices. -/
def radios (devices : List (Option (UInt16 × UInt16))) : List Nat := devices.findIdxs isRadio

def refuseRadios (found : Nat) : Calls (Except Ending (Usb × Int × Int)) := do
  call .freeDeviceList
  call .libusbExit
  return .error (.returned (.error ("need exactly one accessible Realtek 0bda:c123 controller (found " ++ toString found ++ ")")))

/-- The rest of the opening, with a handle. The kernel's driver has to be there for its firmware. -/
def prepareUsb (selected : Nat) : Calls (Except Ending (Usb × Int × Int)) := do
  let (bus, address) ← call (.busAddress selected)
  call .freeDeviceList
  match ← loadDescriptors 2 with
  | .error code => return .error (← drop {} (.error (osError (-code))))
  | .ok endpoints =>
    if (← call .kernelDriverActive) = 0 then
      if (← call .attachKernelDriver) ≠ 0 then
        return .error (← drop (Usb.opened endpoints) (.error "could not restore btusb before bootstrap"))
    return .ok (Usb.opened endpoints, bus.toNat, address.toNat)

/-- An error that comes before there is anything to drop, or after it was dropped, is an ending. -/
def openUsb : Calls (Except Ending (Usb × Int × Int)) := do
  if (← call .libusbInit) ≠ 0 then return .error (.returned (.error "libusb initialization failed"))
  match ← (call .getDeviceList : Calls (Option (List (Option (UInt16 × UInt16))))) with
  | none =>
    call .libusbExit
    return .error (.returned (.error "USB enumeration failed"))
  | some devices =>
    match radios devices with
    | [selected] => if (← call (.opens selected)) = 0 then prepareUsb selected else refuseRadios 1
    | found => refuseRadios found.length

def hciIndex (name : String) : Option UInt32 :=
  if "hci".toList.isPrefixOf name.toList then Rfkill.parseU32 (name.toList.drop 3) else none

/-- The first adapter with a number whose device is that one, or is plugged into it. -/
def findPhysicalIndex (bus address : Int) : List (Except String Adapter) → Except String (Option UInt32)
  | [] => .ok none
  | .error reason :: _ => .error reason
  | .ok adapter :: rest =>
    if (adapter.ancestors.getD []).contains (some bus, some address) then
      match hciIndex adapter.name with
      | some index => .ok (some index)
      | none => findPhysicalIndex bus address rest
    else findPhysicalIndex bus address rest

def Listing.find (bus address : Int) : Listing → Except String (Option UInt32)
  | .missing => .ok none
  | .unreadable reason => .error reason
  | .entries adapters => findPhysicalIndex bus address adapters

/-- Milliseconds. -/
def registrationPatience : Nat := 10000

def physicalIndex (bus address : Int) : Calls (Except String UInt32) := do
  let deadline := (← call .now) + registrationPatience
  Dialogue.repeatUntil (fun _ => do
    match (← call .readBluetooth).find bus address with
    | .error reason => return .inr (.error reason)
    | .ok (some index) => return .inr (.ok index)
    | .ok none =>
      if (← call .now) ≥ deadline then return .inr (.error "physical btusb adapter did not register")
      call .sleep
      return .inl ()) ()

/-- The kernel initializes the firmware while its raw channel is bound. -/
def bootstrap (index : Nat) : Calls Int := do
  if index > 65535 then return -Usb.einval
  match ← call .socket with
  | .error errno => return -errno.val
  | .ok fd =>
    let bound ← call (.bind fd index)
    call (.closeSocket fd)
    match bound with
    | .error errno => return -errno.val
    | .ok _ => return 0

def claim (usb : Usb) : Calls (Usb × Int) := do
  let detach ← call .detachKernelDriver
  if detach ≠ 0 then return usb.claim { detach }
  let claim0 ← call (.claimInterface 0)
  if claim0 ≠ 0 then return usb.claim { claim0 }
  let claim1 ← call (.claimInterface 1)
  if claim1 ≠ 0 then return usb.claim { claim1 }
  let setAlt ← call .setAlt
  if setAlt ≠ 0 then return usb.claim { setAlt }
  let (first, second, third) ← call .startReceivers
  return usb.claim { first, second, third }

def writeRecord (record : Bytes) : Calls (Except String Unit) :=
  Dialogue.repeatUntil (fun _ => do
    match ← call (.writeVhci record) with
    | .complete => return .inr (.ok ())
    | .short => return .inr (.error "short virtual-HCI packet write")
    | .interrupted => return .inl ()
    | .failed reason => return .inr (.error reason)) ()

/-- What the reply to a registration says. -/
def registered : ReadOutcome → Except String (Option Nat)
  | .packet [0xff, 0, low, high] => .ok (some (u16FromLeBytes low high))
  | .packet _ => .error "invalid virtual-HCI registration reply"
  | .interrupted | .wouldBlock => .ok none
  | .failed reason => .error reason

def waitRegistration (timeout : Nat) : Calls (Except String Nat) := do
  let deadline := (← call .now) + timeout
  Dialogue.repeatUntil (fun _ => do
    if ← call .stopping then return .inr (.error "virtual HCI registration cancelled")
    if (← call .now) ≥ deadline then return .inr (.error "virtual-HCI registration timed out")
    let result ← call .pollVhci
    if result < 0 then return .inr (.error (osError (-result)))
    if result = 0 then return .inl ()
    match registered (← call .readVhci) with
    | .error reason => return .inr (.error reason)
    | .ok (some index) => return .inr (.ok index)
    | .ok none => return .inl ()) ()

def bootstrapped (bus address : Int) : ExceptT String Calls Unit := do
  let index ← ExceptT.mk (physicalIndex bus address)
  ExceptT.mk do
    return checked (← bootstrap index.toNat) "kernel firmware initialization (controller must be unblocked and unused)"

/-- The packet size is there for the other services before they are told. -/
def publish (size : Nat) : ExceptT String Calls Unit := do
  ExceptT.mk (call (.writeSize size))
  ExceptT.mk (call .setPermissions)
  ExceptT.mk (call .rename)
  ExceptT.mk (call .notify)

/-- Only the first virtual adapter will do. -/
def register (size : Nat) : ExceptT String Calls Unit := do
  ExceptT.mk (writeRecord [0xff, 0])
  let index ← ExceptT.mk (waitRegistration 5000)
  if index = 0 then publish size
  else throw ("expected virtual hci0, got hci" ++ toString index ++ "; multiple adapters are unsupported")

/-- The main loop, turn by turn. A turn that is not possible is none. -/
def mainLoop (usb : Usb) : Calls (Usb × Except String Unit) :=
  Dialogue.repeatUntil (fun helper : Helper => do
    match helper.loop.phase with
    | .finished result => return .inr (helper.usb, result)
    | _ =>
      let turn ← (call .turn : Calls Helper.Turn)
      return .inl ((helper.turn turn).getD helper)) { usb }

/-- What happens while the radio is held, and whether the virtual adapter is open at the end. -/
def attended (usb : Usb) (bus address : Int) : Calls (Usb × Bool × Except String Unit) := do
  match ← (bootstrapped bus address).run with
  | .error reason => return (usb, false, .error reason)
  | .ok _ =>
    let (usb, code) ← claim usb
    match checked code "exclusive USB claim" with
    | .error reason => return (usb, false, .error reason)
    | .ok _ =>
      match ← call .openVhci with
      | .error reason => return (usb, false, .error reason)
      | .ok _ =>
        match ← (register usb.endpoints.wbsSize).run with
        | .error reason => return (usb, true, .error reason)
        | .ok _ =>
          let (usb, result) ← mainLoop usb
          return (usb, true, result)

/-- The virtual adapter goes before the radio does. -/
def run : Calls Ending := do
  match ← openUsb with
  | .error ending => return ending
  | .ok (usb, bus, address) =>
    let (usb, opened, result) ← attended usb bus address
    if opened then call .closeVhci
    drop usb result

end FlossDesktop.Lifetime
