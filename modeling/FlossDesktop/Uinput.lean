import FlossDesktop.Library.Dialogue
import FlossDesktop.Transport

/-! The virtual keyboard for the buttons of a headset. Every call to the kernel may fail, and is
answered in whatever way. -/

namespace FlossDesktop.Uinput

open Dialogue (Program ask)

/-- The kinds of errors that are told apart. -/
inductive ErrorKind where
  | notFound
  | interrupted
  | writeZero
  | notConnected
  | other
deriving Repr, DecidableEq

structure OsError where
  kind : ErrorKind
  text : String
deriving Repr, DecidableEq

inductive EventType where
  | key
  | rel
  | rep
  | syn
deriving Repr, DecidableEq

/-- A whole record for the kernel. -/
inductive Packet where
  | device (name : Bytes)
  | event (type : EventType) (code : UInt16) (value : UInt8)
deriving Repr, DecidableEq

inductive Ioctl where
  | setEvbit (event : EventType)
  | setPhys (phys : String)
  | setKeybit (key : UInt16)
  | devCreate
  | devDestroy
deriving Repr, DecidableEq

inductive Request where
  | opens (path : String)
  | ioctl (fd : Nat) (operation : Ioctl)
  | write (fd : Nat) (packet : Packet)
  | close (fd : Nat)
deriving Repr, DecidableEq

/-- How much of a record was taken. -/
inductive Written where
  | whole
  | short
  | failed (error : OsError)
deriving Repr, DecidableEq

abbrev Answer : Request → Type
  | .opens _ => Except OsError Nat
  | .ioctl _ _ => Except OsError Unit
  | .write _ _ => Written
  | .close _ => Unit

abbrev Calls := Program Request Answer

def openFile (path : String) : Calls (Except OsError Nat) := ask (Request.opens path)

def ioctl (fd : Nat) (operation : Ioctl) : Calls (Except OsError Unit) := ask (Request.ioctl fd operation)

def write (fd : Nat) (packet : Packet) : Calls Written := ask (Request.write fd packet)

def closeFile (fd : Nat) : Calls Unit := ask (Request.close fd)

def utf8 (chars : List Char) : Bytes := chars.flatMap String.utf8EncodeChar

/-- What the service has from elsewhere. `uinputKey` is the table of keys, looked up. -/
structure Constants where
  maxNameSize : Nat
  suffix : String
  suffixSize : Nat
  keyMap : List UInt16
  uinputKey : UInt8 → Option UInt16
  floorCharBoundary : String → Nat → Nat

structure UInputDev where
  fd : Option Nat := none
  addr : String := "00:00:00:00:00:00"
  name : Bytes
deriving Repr, DecidableEq

section

variable (constants : Constants)

/-- The name with its suffix, in a buffer of zeros. -/
def deviceName (name : String) : Bytes :=
  let newLen := constants.floorCharBoundary name (constants.maxNameSize - constants.suffixSize - 1)
  let name := (utf8 name.toList).take newLen ++ utf8 constants.suffix.toList
  (name ++ List.replicate constants.maxNameSize 0).take constants.maxNameSize

def UInputDev.initial : UInputDev := { name := List.replicate constants.maxNameSize 0 }

def paths : List String := ["/dev/uinput", "/dev/input/uinput", "/dev/misc/uinput"]

/-- The error of a path that is missing is only kept for lack of another. -/
def openPaths : List String → Option OsError → Calls (Except (Option OsError) Nat)
  | [], error => return .error error
  | path :: rest, error => do
    match ← openFile path with
    | .ok fd => return .ok fd
    | .error reason =>
      openPaths rest (if error.isNone || reason.kind != .notFound then some reason else error)

/-- Interrupted calls are made again, and parts of a record are not taken up. -/
def writePacket (fd : Nat) (packet : Packet) : Calls (Except OsError Unit) :=
  Dialogue.repeatUntil (fun _ => do
    match ← write fd packet with
    | .whole => return .inr (.ok ())
    | .short => return .inr (.error ⟨.writeZero, "Short uinput write"⟩)
    | .failed error => if error.kind = .interrupted then return .inl () else return .inr (.error error)) ()

def check (addr : String) (fd : Nat) (operation : Ioctl) (name : String) : ExceptT String Calls Unit := do
  match ← ioctl fd operation with
  | .ok _ => return ()
  | .error error => throw (name ++ " for " ++ addr ++ ": " ++ error.text)

def setup (addr : String) (fd : Nat) (name : Bytes) : ExceptT String Calls Unit := do
  [EventType.key, .rel, .rep, .syn].forM fun event => check addr fd (.setEvbit event) "UI_SET_EVBIT"
  check addr fd (.setPhys addr) "UI_SET_PHYS"
  constants.keyMap.forM fun key => check addr fd (.setKeybit key) "UI_SET_KEYBIT"
  match ← writePacket fd (.device name) with
  | .ok _ => check addr fd .devCreate "UI_DEV_CREATE"
  | .error error => throw ("Can't write device information for " ++ addr ++ ": " ++ error.text)

/-- The descriptor is closed when the setup fails. -/
def UInputDev.init (device : UInputDev) (name addr : String) : Calls (UInputDev × Except String Unit) := do
  if device.fd.isSome then return (device, .error "uinput device is already initialized")
  if addr.toList.contains '\x00' then return (device, .error "Invalid uinput address")
  let device := { device with name := deviceName constants name }
  match ← openPaths paths none with
  | .error error => return (device, .error ("Failed to open uinput for " ++ addr ++ ": " ++ (error.elim "" OsError.text)))
  | .ok fd =>
    match ← (setup constants addr fd device.name).run with
    | .error reason =>
      closeFile fd
      return (device, .error reason)
    | .ok _ => return ({ device with fd := some fd, addr }, .ok ())

def UInputDev.close (device : UInputDev) : Calls UInputDev := do
  match device.fd with
  | some fd =>
    let _ ← ioctl fd .devDestroy
    closeFile fd
    return { device with fd := none }
  | none => return device

def UInputDev.sendEvent (device : UInputDev) (type : EventType) (code : UInt16) (value : UInt8) : Calls (Except OsError Unit) :=
  match device.fd with
  | some fd => writePacket fd (.event type code value)
  | none => return .error ⟨.notConnected, "uinput device is closed"⟩

def UInputDev.sendKey (device : UInputDev) (key value : UInt8) : Calls (Except String Unit) := do
  match constants.uinputKey key with
  | none => return .error ("AVRCP key: " ++ toString key ++ " is not supported for device: " ++ device.addr)
  | some code =>
    if value > 1 then return .error ("Invalid uinput key state: " ++ toString value)
    let failed (error : OsError) := Except.error ("Failed to send uinput event for " ++ device.addr ++ ": " ++ error.text)
    match ← device.sendEvent .key code value with
    | .error error => return failed error
    | .ok _ =>
      match ← device.sendEvent .syn 0 0 with
      | .error error => return failed error
      | .ok _ => return .ok ()

inductive Method where
  | init (name addr : String)
  | close
  | sendKey (key value : UInt8)
deriving Repr, DecidableEq

def UInputDev.apply (device : UInputDev) : Method → Calls UInputDev
  | .init name addr => do
    let (device, _) ← device.init constants name addr
    return device
  | .close => device.close
  | .sendKey key value => do
    let _ ← device.sendKey constants key value
    return device

/-- A descriptor that is still held is closed with the device. -/
def UInputDev.drop (device : UInputDev) : Calls Unit :=
  match device.fd with
  | some fd => closeFile fd
  | none => return ()

/-- All that becomes of a device. -/
def UInputDev.live (device : UInputDev) : List Method → Calls Unit
  | [] => device.drop
  | method :: rest => do
    let device ← device.apply constants method
    device.live rest

end
end FlossDesktop.Uinput
