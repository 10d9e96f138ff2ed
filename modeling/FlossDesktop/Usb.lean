import FlossDesktop.Transport
import FlossDesktop.Library.Ledger

/-! The owner of the asynchronous USB transfers. Pointers are numbers into two
ledgers, one for transfers and one for buffers. What libusb and the clock decide
is an argument of the operation that asks for it: a `Supply` for an allocation and
its submission, a `Completion` for each callback, a `Poll` for one call of the
event loop. A value of `Usb` exists only after `open` has initialised libusb and
opened the device, so neither of these two pointers is null here. -/

namespace FlossDesktop

abbrev SlotIndex := Fin 72

namespace Usb

def rxIsoPackets : Nat := 10

abbrev eio : Int := 5
abbrev enomem : Int := 12
abbrev ebusy : Int := 16
abbrev einval : Int := 22
abbrev enotsup : Int := 95
abbrev enobufs : Int := 105
abbrev enotconn : Int := 107
abbrev etimedout : Int := 110
abbrev ecanceled : Int := 125
abbrev libusbErrorInterrupted : Int := -10

/-- The status libusb reports for a transfer or for one isochronous packet. -/
inductive Status where
  | completed
  | error
  | timedOut
  | cancelled
  | stall
  | noDevice
  | overflow
deriving Repr, DecidableEq

inductive TransferType where
  | control
  | iso
  | bulk
  | interrupt
deriving Repr, DecidableEq

structure LibusbTransfer where
  endpoint : UInt8 := 0
  transferType : TransferType := .control
  timeout : Nat := 0
  length : Nat := 0
  userData : Option SlotIndex := none
  buffer : Option Nat := none
  isoLengths : List Nat := []
deriving Repr, DecidableEq

structure Endpoints where
  interruptIn : UInt8 := 0
  bulkIn : UInt8 := 0
  bulkOut : UInt8 := 0
  isoIn : UInt8 := 0
  isoOut : UInt8 := 0
  isoSize : Nat := 0
  wbsAlt : Nat := 0
  wbsSize : Nat := 0
deriving Repr, DecidableEq

structure Slot where
  transfer : Option Nat := none
  kind : UInt8 := 0
  receive : Bool := false
deriving Repr, DecidableEq

/-- Misuse of memory that the source could only commit, never report. -/
inductive Fault where
  | dangling (transfer : Nat)
  | freedInFlight (transfer : Nat)
  | submittedTwice (transfer : Nat)
deriving Repr, DecidableEq

/-- Whether an allocation succeeds, and what its submission returns. -/
structure Supply where
  transfer : Bool := true
  buffer : Bool := true
  submit : Int := 0
deriving Repr, DecidableEq

structure IsoOutcome where
  status : Status := .completed
  actualLength : Nat := 0
deriving Repr, DecidableEq

/-- One callback: what libusb reports, whether the receiver panics on a packet,
and what submitting the transfer again would return. -/
structure Completion where
  transfer : Nat
  status : Status := .completed
  actualLength : Nat := 0
  packets : Nat → IsoOutcome := fun _ => {}
  data : Bytes := []
  panics : Nat → Bool := fun _ => false
  resubmit : Int := 0

/-- One call of the event loop. -/
structure Poll where
  completions : List Completion := []
  code : Int := 0

/-- The clock readings and events of one cancellation. After the last of them
the next reading is past the deadline. -/
structure Cancellation where
  start : Option Int := some 0
  rounds : List (Option Int × Poll) := []

structure Claiming where
  detach : Int := 0
  claim0 : Int := 0
  claim1 : Int := 0
  setAlt : Int := 0
  first : Supply := {}
  second : Supply := {}
  third : Supply := {}

structure Switch where
  cancellation : Cancellation := {}
  release : Int := 0
  descriptors : Except Int Endpoints := .ok {}
  select : Int := 0
  first : Supply := {}
  second : Supply := {}

/-- What a transfer is set up for, and the bytes its buffer starts with. -/
structure Request where
  endpoint : UInt8
  transferType : TransferType
  timeout : Nat
  length : Nat
  isoLengths : List Nat
  contents : Bytes

end Usb

open Usb

structure Usb where
  slots : SlotIndex → Slot := fun _ => {}
  endpoints : Endpoints := {}
  alt : Nat := 0
  fatal : Int := 0
  detached : Bool := false
  claimed0 : Bool := false
  claimed1 : Bool := false
  stopping : Bool := false
  stoppingSco : Bool := false
  alt6Phase : Bool := false
  isoRxErrors : Nat := 0
  isoTxErrors : Nat := 0
  -- What the receiver was called with, and libusb's side of the transfers.
  received : List (UInt8 × Bytes) := []
  transfers : Ledger LibusbTransfer := {}
  buffers : Ledger Bytes := {}
  inFlight : Finset Nat := ∅
  cancelling : Finset Nat := ∅
  faults : List Fault := []

namespace Usb

/-- The owner as `open` returns it, with the descriptors of alternate two loaded. -/
def opened (endpoints : Endpoints) : Usb := { endpoints }

def fault (s : Usb) (fault : Fault) : Usb := { s with faults := s.faults ++ [fault] }

def Slot.selected (slot : Slot) (isoOnly : Bool) : Bool := slot.transfer.isSome && (!isoOnly || slot.kind == 3)

def active (s : Usb) (isoOnly : Bool) : Nat := (List.finRange 72).countP fun index => (s.slots index).selected isoOnly

def freeSlot (s : Usb) (index : SlotIndex) : Usb :=
  match (s.slots index).transfer with
  | none => s
  | some id =>
    match s.transfers.cells id with
    | none => s.fault (.dangling id)
    | some transfer =>
      let s := if id ∈ s.inFlight then s.fault (.freedInFlight id) else s
      { s with
        buffers := match transfer.buffer with | none => s.buffers | some buffer => s.buffers.free buffer
        transfers := s.transfers.free id
        slots := Function.update s.slots index { s.slots index with transfer := none } }

/-- Hand a transfer to libusb, which takes it when the code is zero. -/
def submit (s : Usb) (id : Nat) (code : Int) : Usb :=
  let s :=
    if (s.transfers.cells id).isNone then s.fault (.dangling id)
    else if id ∈ s.inFlight then s.fault (.submittedTwice id)
    else s
  if code = 0 then { s with inFlight := insert id s.inFlight } else s

/-- Take the first free slot. Both allocations may fail, and the first is undone
when the second does. -/
def allocate (s : Usb) (kind : UInt8) (receive : Bool) (bytes packets : Nat) (supply : Supply) :
    Usb × Except Int SlotIndex :=
  match (List.finRange 72).find? fun index => (s.slots index).transfer.isNone with
  | none => (s, .error (-enobufs))
  | some index =>
    if supply.transfer = false then (s, .error (-enomem))
    else
      let id := s.transfers.next
      let transfer : LibusbTransfer := { isoLengths := List.replicate packets 0 }
      let s := { s with transfers := s.transfers.alloc transfer }
      if supply.buffer = false then ({ s with transfers := s.transfers.free id }, .error (-enomem))
      else
        let buffer := s.buffers.next
        ({ s with
          buffers := s.buffers.alloc (List.replicate bytes 0)
          slots := Function.update s.slots index ⟨some id, kind, receive⟩
          transfers := s.transfers.write id { transfer with buffer := some buffer, userData := some index } },
          .ok index)

/-- Fill in the transfer of a slot before its first submission. -/
def prepare (s : Usb) (index : SlotIndex) (request : Request) : Usb :=
  match (s.slots index).transfer with
  | none => s
  | some id =>
    match s.transfers.cells id with
    | none => s.fault (.dangling id)
    | some transfer =>
      { s with
        transfers := s.transfers.write id
          { transfer with
            endpoint := request.endpoint, transferType := request.transferType, timeout := request.timeout
            length := request.length, isoLengths := request.isoLengths }
        buffers := match transfer.buffer with
          | none => s.buffers
          | some buffer => s.buffers.write buffer request.contents }

def submitSlot (s : Usb) (index : SlotIndex) (code : Int) : Usb × Int :=
  let s := match (s.slots index).transfer with | none => s | some id => s.submit id code
  (if code ≠ 0 then s.freeSlot index else s, code)

/-- A receive buffer keeps the zeros it was allocated with. -/
def receiveRequest (endpoints : Endpoints) (kind : UInt8) : Request :=
  if kind = 3 then
    let size := endpoints.isoSize * rxIsoPackets
    ⟨endpoints.isoIn, .iso, 0, size, List.replicate rxIsoPackets endpoints.isoSize, List.replicate size 0⟩
  else if kind = 4 then ⟨endpoints.interruptIn, .interrupt, 0, 260, [], List.replicate 260 0⟩
  else ⟨endpoints.bulkIn, .bulk, 0, 4096, [], List.replicate 4096 0⟩

/-- Allocate a slot, set its transfer up and submit it. -/
def launch (s : Usb) (kind : UInt8) (receive : Bool) (packets : Nat) (request : Request) (supply : Supply) :
    Usb × Int :=
  match s.allocate kind receive request.length packets supply with
  | (s, .error code) => (s, code)
  | (s, .ok index) => (s.prepare index request).submitSlot index supply.submit

def receive (s : Usb) (kind : UInt8) (supply : Supply) : Usb × Int :=
  s.launch kind true (if kind = 3 then rxIsoPackets else 0) (receiveRequest s.endpoints kind) supply

/-- Start receivers one after another until one of them fails. -/
def receiveAll (s : Usb) : List (UInt8 × Supply) → Usb × Int
  | [] => (s, 0)
  | (kind, supply) :: rest =>
    match s.receive kind supply with
    | (s, code) => if code ≠ 0 then (s, code) else s.receiveAll rest

def startReceivers (s : Usb) (first second third : Supply) : Usb × Int :=
  s.receiveAll [(4, first), (2, second), (2, third)]

def claim (s : Usb) (claiming : Claiming) : Usb × Int :=
  if claiming.detach ≠ 0 then (s, -ebusy)
  else
    let s := { s with detached := true }
    if claiming.claim0 ≠ 0 then (s, -ebusy)
    else
      let s := { s with claimed0 := true }
      if claiming.claim1 ≠ 0 then (s, -ebusy)
      else
        let s := { s with claimed1 := true }
        if claiming.setAlt ≠ 0 then (s, -eio)
        else s.startReceivers claiming.first claiming.second claiming.third

/-- Call the receiver. A panic is caught and becomes a fatal error. -/
def deliver (s : Usb) (kind : UInt8) (bytes : Bytes) (panics : Bool) : Usb :=
  let s := { s with received := s.received ++ [(kind, bytes)] }
  if panics then { s with fatal := -eio } else s

/-- One packet of a completed isochronous reception. Its bytes start after the
declared lengths of the packets before it. -/
def receivePacket (transfer : LibusbTransfer) (c : Completion) (s : Usb) (i : Nat) : Usb :=
  let packet := c.packets i
  if packet.status ≠ .completed then { s with isoRxErrors := s.isoRxErrors + 1 }
  else if packet.actualLength ≠ 0 then
    let offset := (transfer.isoLengths.take i).sum
    s.deliver 3 ((c.data.drop offset).take packet.actualLength) (c.panics i)
  else s

def sentPacket (transfer : LibusbTransfer) (c : Completion) (s : Usb) (i : Nat) : Usb :=
  let packet := c.packets i
  if packet.status ≠ .completed ∨ packet.actualLength ≠ transfer.isoLengths.getD i 0 then
    { s with isoTxErrors := s.isoTxErrors + 1 }
  else s

/-- A successful completion outside a stop. -/
def accept (s : Usb) (slot : Slot) (transfer : LibusbTransfer) (c : Completion) : Usb :=
  if slot.receive then
    if slot.kind = 3 then (List.range transfer.isoLengths.length).foldl (receivePacket transfer c) s
    else if c.actualLength > 0 then s.deliver slot.kind (c.data.take c.actualLength) (c.panics 0)
    else s
  else if transfer.transferType = .iso then
    (List.range transfer.isoLengths.length).foldl (sentPacket transfer c) s
  else
    let setup := if slot.kind = 1 then 8 else 0
    if c.actualLength + setup ≠ transfer.length then { s with fatal := -eio } else s

def countLoss (s : Usb) (slot : Slot) : Usb :=
  if slot.receive then { s with isoRxErrors := s.isoRxErrors + 1 } else { s with isoTxErrors := s.isoTxErrors + 1 }

/-- The fatal error a status stands for. -/
def noteStatus (s : Usb) (status : Status) (stopping isoLoss : Bool) : Usb :=
  let s := if status = .cancelled ∧ stopping = false then { s with fatal := -ecanceled } else s
  if status ≠ .completed ∧ status ≠ .cancelled ∧ isoLoss = false then { s with fatal := -eio } else s

/-- What a completion records before the receiver is armed again or its slot is
given up. -/
def report (s : Usb) (slot : Slot) (transfer : LibusbTransfer) (c : Completion) (stopping isoLoss : Bool) : Usb :=
  let s := if isoLoss && !stopping then s.countLoss slot else s
  let s := s.noteStatus c.status stopping isoLoss
  if c.status = .completed ∧ stopping = false then s.accept slot transfer c else s

/-- An isochronous transfer may lose data without ending its stream. -/
def Slot.isoLoss (slot : Slot) (status : Status) : Bool :=
  slot.kind == 3 && (status == .error || status == .timedOut)

/-- Completions of this slot are expected to be cancellations. -/
def Slot.stopping (slot : Slot) (s : Usb) : Bool := s.stopping || (slot.kind == 3 && s.stoppingSco)

def completedInner (s : Usb) (c : Completion) : Usb :=
  match s.transfers.cells c.transfer with
  | none => s.fault (.dangling c.transfer)
  | some transfer =>
    match transfer.userData with
    | none => s
    | some index =>
      let slot := s.slots index
      let stopping := slot.stopping s
      let isoLoss := slot.isoLoss c.status
      let s := s.report slot transfer c stopping isoLoss
      if slot.receive && !stopping && s.fatal == 0 && (c.status == .completed || isoLoss) then
        let s := s.submit c.transfer c.resubmit
        if c.resubmit = 0 then s else { s with fatal := -eio }.freeSlot index
      else s.freeSlot index

/-- libusb calls back once for a transfer in flight, and never for another. -/
def complete (s : Usb) (c : Completion) : Usb :=
  if c.transfer ∈ s.inFlight then
    { s with inFlight := s.inFlight.erase c.transfer, cancelling := s.cancelling.erase c.transfer }.completedInner c
  else s

def pump (s : Usb) (poll : Poll) : Usb × Int :=
  let s := poll.completions.foldl complete s
  (s, if poll.code ≠ 0 ∧ poll.code ≠ libusbErrorInterrupted then poll.code else s.fatal)

/-- Ask libusb to cancel a transfer. Its callback still follows. -/
def requestCancel (isoOnly : Bool) (s : Usb) (index : SlotIndex) : Usb :=
  match (s.slots index).transfer with
  | none => s
  | some id =>
    if (s.slots index).selected isoOnly then { s with cancelling := insert id s.cancelling } else s

def cancelLoop (s : Usb) (isoOnly : Bool) (deadline : Int) : List (Option Int × Poll) → Usb × Int
  | [] => (s, if s.active isoOnly = 0 then 0 else -etimedout)
  | (reading, poll) :: rest =>
    if s.active isoOnly = 0 then (s, 0)
    else
      match reading with
      | none => (s, -eio)
      | some now => if now ≥ deadline then (s, -etimedout) else (s.pump poll).1.cancelLoop isoOnly deadline rest

def cancel (s : Usb) (isoOnly : Bool) (cancellation : Cancellation) : Usb × Int :=
  match cancellation.start with
  | none => (s, -eio)
  | some start =>
    ((List.finRange 72).foldl (requestCancel isoOnly) s).cancelLoop isoOnly (start + 2000) cancellation.rounds

/-- The alternate setting for an air mode. -/
def alternate (s : Usb) (mode : Int) : Nat :=
  if mode = 2 then 2 else if mode = 3 then s.endpoints.wbsAlt else 0

/-- The new endpoints are selected and both receivers started. -/
def selectAlt (s : Usb) (alt : Nat) (switch : Switch) : Usb × Int :=
  match switch.descriptors with
  | .error _ => (s, -eio)
  | .ok endpoints =>
    let s := { s with endpoints }
    if switch.select ≠ 0 then (s, -eio)
    else
      let s := { s with alt, stoppingSco := false }
      match s.receiveAll [(3, switch.first), (3, switch.second)] with
      | (s, code) => (s, if code ≠ 0 then -eio else 0)

def setSco (s : Usb) (mode : Int) (switch : Switch) : Usb × Int :=
  if mode ≠ 0 ∧ mode ≠ 2 ∧ mode ≠ 3 then (s, -einval)
  else
    let alt := s.alternate mode
    if mode ≠ 0 ∧ alt = 0 then (s, -enotsup)
    else if alt = s.alt then (s, 0)
    else
      match { s with stoppingSco := true }.cancel true switch.cancellation with
      | (s, code) =>
        if code ≠ 0 then (s, code)
        else if s.fatal ≠ 0 then (s, s.fatal)
        else if switch.release ≠ 0 then (s, -eio)
        else
          let s := { s with alt := 0, isoRxErrors := 0, isoTxErrors := 0 }
          if alt = 0 then ({ s with stoppingSco := false }, 0) else s.selectAlt alt switch

/-- The declared lengths of a packet cut to the endpoint size. -/
def segments (isoSize remain : Nat) : Nat → List Nat
  | 0 => []
  | packets + 1 => min remain isoSize :: segments isoSize (remain - min remain isoSize) packets

/-- How many isochronous packets a transmission needs. Alternate six alternates
between seven and eight, with the data in the last one. -/
def sendPackets (s : Usb) (kind : UInt8) (length : Nat) : Nat :=
  if kind = 3 then
    if s.alt = 6 then (if s.alt6Phase then 8 else 7)
    else (length + s.endpoints.isoSize - 1) / s.endpoints.isoSize
  else 0

def sendRequest (s : Usb) (kind : UInt8) (data : Bytes) : Request :=
  let packets := s.sendPackets kind data.length
  if kind = 1 then
    let setup : Bytes :=
      [0x20, 0, 0, 0, 0, 0, UInt8.ofNat (data.length &&& 0xff), UInt8.ofNat (data.length >>> 8)]
    ⟨0, .control, 1000, data.length + 8, [], setup ++ data⟩
  else if kind = 2 then ⟨s.endpoints.bulkOut, .bulk, 1000, data.length, [], data⟩
  else
    let lengths :=
      if s.alt = 6 then List.replicate (packets - 1) 0 ++ [data.length]
      else segments s.endpoints.isoSize data.length packets
    ⟨s.endpoints.isoOut, .iso, 1000, data.length, lengths, data⟩

def send (s : Usb) (kind : UInt8) (data : Bytes) (supply : Supply) : Usb × Int :=
  if data.isEmpty ∨ data.length > 4096 ∨ ¬ (kind = 1 ∨ kind = 2 ∨ kind = 3) then (s, -einval)
  else if kind = 3 ∧ s.alt = 0 then (s, -enotconn)
  else if kind = 3 ∧ s.alt = 6 ∧ data.length > s.endpoints.isoSize then (s, -einval)
  else
    let alt6 := kind = 3 ∧ s.alt = 6
    match s.launch kind false (s.sendPackets kind data.length) (s.sendRequest kind data) supply with
    | (s, code) => (if code = 0 ∧ alt6 then { s with alt6Phase := !s.alt6Phase } else s, code)

/-- The calls made while the device is given back. -/
inductive Teardown where
  | setAlt
  | release (interface : Nat)
  | attachKernelDriver
  | close
  | libusbExit
deriving Repr, DecidableEq

/-- Dropping the owner either ends the process with its transfers in place, or
gives the device back and frees the memory the callbacks use. -/
inductive Dropped where
  | exited (status : Int)
  | released (calls : List Teardown)
deriving Repr, DecidableEq

def drop (s : Usb) (cancellation : Cancellation) : Usb × Dropped :=
  match { s with stopping := true }.cancel false cancellation with
  | (s, code) =>
    if code ≠ 0 then (s, .exited 1)
    else
      (s, .released ((if s.claimed1 then [.setAlt, .release 1] else []) ++
        (if s.claimed0 then [.release 0] else []) ++
        (if s.detached then [.attachKernelDriver] else []) ++ [.close, .libusbExit]))

inductive Operation where
  | send (kind : UInt8) (data : Bytes) (supply : Supply)
  | receive (kind : UInt8) (supply : Supply)
  | startReceivers (first second third : Supply)
  | claim (claiming : Claiming)
  | pump (poll : Poll)
  | cancel (isoOnly : Bool) (cancellation : Cancellation)
  | setSco (mode : Int) (switch : Switch)

def perform (s : Usb) : Operation → Usb × Int
  | .send kind data supply => s.send kind data supply
  | .receive kind supply => s.receive kind supply
  | .startReceivers first second third => s.startReceivers first second third
  | .claim claiming => s.claim claiming
  | .pump poll => s.pump poll
  | .cancel isoOnly cancellation => s.cancel isoOnly cancellation
  | .setSco mode switch => s.setSco mode switch

/-- A sequence of operations, whatever each of them returns. -/
def performAll (s : Usb) (operations : List Operation) : Usb :=
  operations.foldl (fun s operation => (s.perform operation).1) s

end Usb
end FlossDesktop
