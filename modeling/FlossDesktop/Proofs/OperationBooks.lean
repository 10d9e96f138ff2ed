import FlossDesktop.Floss
import FlossDesktop.Proofs.PairingEpochs

/-! The bookkeeping of operations. The addresses with an operation, the devices that show
one as pending and the timers that run are three views of one desk of tickets. What is stale
changes none of what a user sees: an answer or a timer of an operation that has ended, and
an answer that a former daemon owes. -/

namespace FlossDesktop.Floss.Backend

open Tickets Devices

/-- The daemon is the same, and what is outstanding was so before or has just been sent. -/
structure Timely (b after : Backend) : Prop where
  prompts : Pairing.Backend.Timely b.pairing after.pairing
  calls : ∀ call ∈ after.calls, call ∈ b.calls ∨ call.epoch = b.epoch

/-- The operations are as they were. -/
structure Quiet (b after : Backend) : Prop where
  timely : Timely b after
  operations : after.operations = b.operations
  pending : ∀ address, after.pending address = b.pending address
  serial : after.serial = b.serial
  timers : after.timers = b.timers
  fired : after.fired = b.fired

variable {b after middle : Backend}

theorem timely_idle (pairing : after.pairing = b.pairing) (calls : after.calls = b.calls) : Timely b after where
  prompts := by
    rw [pairing]
    exact .refl _
  calls := by
    rw [calls]
    exact fun call member => .inl member

theorem Timely.refl (b : Backend) : Timely b b := timely_idle rfl rfl

theorem Timely.trans (first : Timely b middle) (last : Timely middle after) : Timely b after where
  prompts := first.prompts.trans last.prompts
  calls := by
    intro call member
    rcases last.calls call member with old | now
    · exact first.calls call old
    · exact .inr (now.trans first.prompts.epoch)

theorem Quiet.refl (b : Backend) : Quiet b b := ⟨.refl b, rfl, fun _ => rfl, rfl, rfl, rfl⟩

theorem Quiet.trans (first : Quiet b middle) (last : Quiet middle after) : Quiet b after where
  timely := first.timely.trans last.timely
  operations := last.operations.trans first.operations
  pending := fun address => (last.pending address).trans (first.pending address)
  serial := last.serial.trans first.serial
  timers := last.timers.trans first.timers
  fired := last.fired.trans first.fired

/-- What holds operations and calls. -/
def books (b : Backend) : Pairing.Backend × List Call × (String → Option Entry) × (String → Option Nat) × Nat ×
    List (Ticket String String) × List (Ticket String String) :=
  (b.pairing, b.calls, b.devices, b.operations, b.serial, b.timers, b.fired)

theorem quiet_aside (same : books after = books b) : Quiet b after := by
  obtain ⟨pairing, calls, devices, operations, serial, timers, fired⟩ :
      after.pairing = b.pairing ∧ after.calls = b.calls ∧ after.devices = b.devices ∧ after.operations = b.operations ∧
        after.serial = b.serial ∧ after.timers = b.timers ∧ after.fired = b.fired := by
    simpa only [books, Prod.mk.injEq] using same
  refine ⟨timely_idle pairing calls, operations, ?_, serial, timers, fired⟩
  intro address
  unfold pending
  rw [devices]

theorem fail_quiet (b : Backend) (message : String) : Quiet b (b.fail message) where
  timely := ⟨Pairing.Backend.fail_timely _ _, fun _ member => .inl member⟩
  operations := rfl
  pending := fun _ => rfl
  serial := rfl
  timers := rfl
  fired := rfl

theorem sent_quiet (b : Backend) (request : Request) (reportErrors : Bool) :
    Quiet b { b with calls := b.calls ++ [⟨b.epoch, request, reportErrors⟩] } where
  timely := by
    refine ⟨.refl _, ?_⟩
    intro call member
    rcases List.mem_append.mp member with old | new
    · exact .inl old
    · cases List.mem_singleton.mp new
      exact .inr rfl
  operations := rfl
  pending := fun _ => rfl
  serial := rfl
  timers := rfl
  fired := rfl

theorem call_quiet (b : Backend) (request : Request) (reportErrors : Bool) : Quiet b (b.call request reportErrors) := by
  unfold call
  split
  · exact fail_quiet b _
  · exact sent_quiet b request reportErrors

theorem batteryCall_quiet (b : Backend) (request : Request) : Quiet b (b.batteryCall request) := by
  unfold batteryCall
  split
  · exact .refl b
  · exact sent_quiet b request false

theorem modify_pending (b : Backend) (address : String) (change : Entry → Entry) (other : String) :
    (b.modify address change).pending other =
      if other = address then (change ((b.devices address).getD {})).pending else b.pending other := by
  unfold pending modify
  dsimp only
  rw [Function.update_apply]
  split
  · rfl
  · rfl

theorem getD_pending (b : Backend) (address : String) : ((b.devices address).getD {}).pending = b.pending address := by
  unfold pending
  cases b.devices address with
  | none => rfl
  | some entry => rfl

theorem modify_quiet (b : Backend) (address : String) (change : Entry → Entry)
    (kept : ∀ entry, (change entry).pending = entry.pending) : Quiet b (b.modify address change) where
  timely := timely_idle rfl rfl
  operations := rfl
  pending := by
    intro other
    rw [modify_pending]
    split
    · next same => rw [kept, getD_pending, same]
    · rfl
  serial := rfl
  timers := rfl
  fired := rfl

/-- The batteries are looked at last, if at all. -/
theorem looked_quiet (asked : Quiet b middle) (skipped : Bool) (address : String) :
    Quiet b (if skipped then middle
      else { middle with batteryRevisions := bump middle.batteryRevisions address }.batteryCall
        (.getBatteryInformation address (bump middle.batteryRevisions address address))) := by
  split
  · exact asked
  · apply Quiet.trans _ (batteryCall_quiet _ _)
    exact asked.trans (quiet_aside rfl)

theorem readDeviceDetails_quiet (b : Backend) (address : String) : Quiet b (b.readDeviceDetails address) := by
  unfold readDeviceDetails
  split
  · exact .refl b
  · apply looked_quiet
    have revised : Quiet b { b with aliasRevisions := bump b.aliasRevisions address } :=
      quiet_aside rfl
    split
    · exact revised
    · exact revised.trans (call_quiet _ _ _)

theorem readDevice_quiet (b : Backend) (device : Remote) : Quiet b (b.readDevice device) := by
  unfold readDevice
  split
  · exact .refl b
  · have stored : Quiet b (b.modify device.address (named device)) := modify_quiet b _ _ fun _ => rfl
    exact ((stored.trans (call_quiet _ _ _)).trans (call_quiet _ _ _)).trans (readDeviceDetails_quiet _ _)

theorem meet_quiet (b : Backend) (device : Remote) : Quiet b (b.meet device) := by
  unfold meet
  split
  · exact readDevice_quiet b device
  · exact .refl b

theorem initializeDeviceDetails_quiet (b : Backend) : Quiet b b.initializeDeviceDetails := by
  unfold initializeDeviceDetails
  split
  · exact .refl b
  · exact (quiet_aside rfl : Quiet b { b with batteryInitializing := true }).trans (batteryCall_quiet _ _)

theorem initializeBackend_quiet (b : Backend) : Quiet b b.initializeBackend := by
  unfold initializeBackend
  have begun : Quiet b { b with initializing := true } := quiet_aside rfl
  split
  · exact initializeDeviceDetails_quiet b
  · split
    · exact .refl b
    · dsimp only
      split
      · exact begun.trans (call_quiet _ _ _)
      · exact begun.trans (call_quiet _ _ _)

theorem discover_quiet (b : Backend) (enabled : Bool) : Quiet b (b.discover enabled) := by
  unfold discover
  split
  · exact call_quiet b _ _
  · exact .refl b

theorem snapshot_quiet (b : Backend) (property : Property) (address : String) (revision : Nat) (answer : Answer) :
    Quiet b (b.snapshot property address revision answer) := by
  unfold snapshot
  split
  · exact .refl b
  · refine (modify_quiet b address _ ?_).trans (readDeviceDetails_quiet _ _)
    intro entry
    cases property with
    | paired => rfl
    | connected => rfl

theorem aliasRead_quiet (b : Backend) (address : String) (revision : Nat) (answer : Answer) :
    Quiet b (b.aliasRead address revision answer) := by
  unfold aliasRead
  split
  · split
    · exact .refl b
    · exact modify_quiet b address _ fun _ => rfl
  · exact .refl b

theorem confirmAlias_quiet (b : Backend) (address newAlias : String) (request attempts : Nat) :
    Quiet b (b.confirmAlias address newAlias request attempts) := by
  unfold confirmAlias
  split
  · exact .refl b
  · exact call_quiet b _ _

theorem aliasEnded_quiet (b : Backend) (address : String) : Quiet b (b.aliasEnded address) :=
  quiet_aside rfl

theorem aliasSet_quiet (b : Backend) (address newAlias : String) (request : Nat) (answer : Answer) :
    Quiet b (b.aliasSet address newAlias request answer) := by
  unfold aliasSet
  split
  · exact .refl b
  · split
    · dsimp only
      apply Quiet.trans _ (fail_quiet _ _)
      split
      · exact aliasEnded_quiet b address
      · exact (aliasEnded_quiet b address).trans (modify_quiet _ address _ fun _ => rfl)
    · exact confirmAlias_quiet b _ _ _ _

theorem aliasConfirmed_quiet (b : Backend) (address newAlias : String) (request attempts : Nat) (answer : Answer) :
    Quiet b (b.aliasConfirmed address newAlias request attempts answer) := by
  unfold aliasConfirmed
  split
  · exact .refl b
  · split
    · exact (aliasEnded_quiet b address).trans (modify_quiet _ address _ fun _ => rfl)
    · split
      · apply Quiet.trans _ (fail_quiet _ _)
        exact (aliasEnded_quiet b address).trans (modify_quiet _ address _ fun _ => rfl)
      · exact quiet_aside rfl

theorem updateBattery_quiet (b : Backend) (address : String) (set : Option BatterySet) :
    Quiet b (b.updateBattery address set) := by
  unfold updateBattery
  split
  · exact .refl b
  · exact modify_quiet b address _ fun _ => rfl

theorem batteryRead_quiet (b : Backend) (address : String) (revision : Nat) (answer : Answer) :
    Quiet b (b.batteryRead address revision answer) := by
  unfold batteryRead
  split
  · split
    · exact .refl b
    · exact updateBattery_quiet b _ _
  · exact .refl b

theorem batteryCallback_quiet (b : Backend) (address : String) (set : Option BatterySet) :
    Quiet b (b.batteryCallback address set) := by
  unfold batteryCallback
  split
  · exact .refl b
  · exact (quiet_aside rfl : Quiet b { b with
      batteryRevisions := bump b.batteryRevisions address }).trans (updateBattery_quiet _ _ _)

/-- What every element of a list does quietly, the list does. -/
theorem foldl_quiet {α : Type} (change : Backend → α → Backend) (quiet : ∀ b item, Quiet b (change b item)) (items : List α)
    (b : Backend) : Quiet b (items.foldl change b) := by
  induction items generalizing b with
  | nil => exact .refl b
  | cons item rest ih => exact (quiet b item).trans (ih _)

theorem registered_quiet (b : Backend) : Quiet b b.registered := by
  unfold registered
  have begun : Quiet b { b with initializing := false, connectionRegistered := true, ready := true } :=
    quiet_aside rfl
  have cleared := (begun.trans (initializeDeviceDetails_quiet _)).trans (fail_quiet _ "")
  exact ((cleared.trans (call_quiet _ _ _)).trans (call_quiet _ _ _)).trans (call_quiet _ _ _)

theorem batteryReady_quiet (b : Backend) (answer : Answer) : Quiet b (b.batteryReady answer) := by
  unfold batteryReady
  split
  · exact (quiet_aside rfl : Quiet b { b with
      batteryInitializing := false, batteryRegistered := true }).trans
        (foldl_quiet readDeviceDetails readDeviceDetails_quiet b.known _)
  · exact quiet_aside rfl

theorem listed_quiet (b : Backend) (answer : Answer) : Quiet b (b.listed answer) := by
  unfold listed
  split
  · exact foldl_quiet readDevice readDevice_quiet _ b
  · exact .refl b

theorem reported_quiet (b : Backend) (reportErrors : Bool) (answer : Answer) : Quiet b (b.reported reportErrors answer) := by
  unfold reported
  split
  · split
    · exact fail_quiet b _
    · exact .refl b
  · exact .refl b

theorem pairing_quiet (b : Backend) {pairing : Pairing.Backend} (timely : Pairing.Backend.Timely b.pairing pairing) :
    Quiet b { b with pairing } :=
  ⟨⟨timely, fun _ member => .inl member⟩, rfl, fun _ => rfl, rfl, rfl, rfl⟩

theorem paired_quiet (b : Backend) (event : Pairing.Backend.Event) (same : ∀ owner, event ≠ .reset owner) :
    Quiet b (b.paired event) := pairing_quiet b (Pairing.Backend.step_timely _ event same)

theorem prompted_quiet (b : Backend) (device : Remote) (event : Pairing.Backend.Event)
    (same : ∀ owner, event ≠ .reset owner) : Quiet b (b.prompted device event) := by
  unfold prompted
  split
  · exact .refl b
  · exact (meet_quiet b device).trans (paired_quiet _ event same)

/-- A callback passes the reads of a device, and makes it known. -/
theorem met_quiet (b : Backend) (device : Remote) :
    Quiet b ({ b with deviceRevisions := bump b.deviceRevisions device.address }.meet device) := by
  apply Quiet.trans _ (meet_quiet _ device)
  exact quiet_aside rfl

theorem linkChanged_quiet (b : Backend) (device : Remote) (connected : Bool) : Quiet b (b.linkChanged device connected) := by
  unfold linkChanged
  have stored : Quiet b (({ b with deviceRevisions := bump b.deviceRevisions device.address }.meet device).modify
      device.address fun entry => { entry with connected := some connected }) := by
    apply (met_quiet b device).trans
    exact modify_quiet _ _ _ fun _ => rfl
  dsimp only
  split
  · exact stored.trans (readDeviceDetails_quiet _ _)
  · have cut := stored.trans (modify_quiet _ device.address
      (fun entry => { entry with profileRequest := none, batteries := none, batteryText := none }) fun _ => rfl)
    exact cut.trans (quiet_aside rfl)

end FlossDesktop.Floss.Backend
