import FlossDesktop.Proofs.OperationTickets

/-! Most handlers of the backend are apart from the registrations and from the changes of names.
They may read a name, which is said of their calls, and none of them changes the daemon. -/

namespace FlossDesktop.Pairing.Backend

variable (s : Backend)

theorem present_owner (shown : Option Prompt) : (s.present shown).owner = s.owner := (present_record s shown).owner

theorem clearPairing_owner (address : String) : (s.clearPairing address).owner = s.owner :=
  (clearPairing_dropped s address).owner

theorem pairingChanged_owner : s.pairingChanged.owner = s.owner := by
  rw [pairingChanged_eq]
  exact present_owner s _

theorem acquirePairing_owner (registered : Bool) : (s.acquirePairing registered).owner = s.owner := by
  unfold acquirePairing
  split
  · rfl
  · dsimp only
    split
    · exact (showCachedPairing_dropped _).owner
    · rfl

theorem attachPairingView_owner (registered : Bool) : (s.attachPairingView registered).owner = s.owner := by
  unfold attachPairingView
  rw [pairingChanged_owner, acquirePairing_owner]

theorem detachPairingView_owner (view : Nat) : (s.detachPairingView view).owner = s.owner := by
  unfold detachPairingView
  rw [pairingChanged_owner]
  split
  · rfl
  · rfl

theorem call_owner (address : String) (token : Nat) (method : Method) : (s.call address token method).owner = s.owner := by
  unfold call
  split
  · rfl
  · rfl

theorem cancelPairing_owner (token : Nat) : (s.cancelPairing token).owner = s.owner := by
  unfold cancelPairing
  split
  · rfl
  · split
    · rfl
    · dsimp only
      split
      · exact present_owner _ _
      · rw [call_owner]
        exact present_owner _ _

theorem cancelReturned_owner (address : String) (token : Nat) (outcome : Outcome) :
    (s.cancelReturned address token outcome).owner = s.owner := by
  unfold cancelReturned
  split
  · rfl
  · split
    · rfl
    · split
      · exact clearPairing_owner s address
      · exact present_owner _ _

theorem answerPairing_owner (token : Nat) (accept : Bool) (pin : String) :
    (s.answerPairing token accept pin).owner = s.owner := by
  unfold answerPairing
  split
  · rfl
  · split
    · rfl
    · split
      · exact cancelPairing_owner s token
      · split
        · rfl
        · split
          · rfl
          · exact present_owner s _
          · rw [call_owner]
            exact present_owner s _

theorem answerReturned_owner (token : Nat) (outcome : Outcome) : (s.answerReturned token outcome).owner = s.owner := by
  unfold answerReturned
  split
  · rfl
  · split
    · rfl
    · have told : (if outcome = .accepted then s else s.fail (answerFailure outcome)).owner = s.owner := by
        split
        · rfl
        · rfl
      dsimp only
      split
      · rw [cancelPairing_owner, present_owner]
        exact told
      · rw [present_owner]
        exact told

theorem replied_owner (index : Nat) (outcome : Outcome) : (s.replied index outcome).owner = s.owner := by
  unfold replied
  split
  · rfl
  · split
    · rfl
    · dsimp only
      split
      · rfl
      · split
        · rw [answerReturned_owner]
        · rw [cancelReturned_owner]

theorem bondStateReturned_owner (index : Nat) (state : Except String Nat) : (s.bondStateReturned index state).owner = s.owner := by
  unfold bondStateReturned
  split
  · rfl
  next ticket _ =>
    obtain ⟨error, told⟩ := reported_eq { s with checks := s.checks.eraseIdx index } state
    dsimp only
    split
    · rfl
    · rw [told]
      split
      · rfl
      · split
        · exact (showCachedPairing_dropped _).owner
        · split
          · exact (showCachedPairing_dropped _).owner
          · exact present_owner _ _

theorem prompt_owner (address : String) (kind : Kind) (code : String) (minimum : Nat) :
    (s.prompt address kind code minimum).owner = s.owner := by
  unfold prompt
  split
  · rfl
  · dsimp only
    split
    · rfl
    · split
      · exact present_owner _ _
      · rfl

theorem expire_owner (index : Nat) : (s.expire index).owner = s.owner := by
  unfold expire
  split
  · rfl
  · next timer _ =>
    dsimp only
    split
    · rfl
    · unfold expireShown
      split
      · exact (expireCached_dropped _ timer).owner
      · split
        · exact (expireCached_dropped _ timer).owner
        · rw [cancelPairing_owner]
          exact (expireCached_dropped _ timer).owner

/-- Everything but a change of the daemon. -/
theorem step_owner (event : Event) (same : ∀ owner, event ≠ .reset owner) : (s.step event).owner = s.owner := by
  have called : ∀ handled : Backend, handled.owner = s.owner → (s.callback handled).owner = s.owner := by
    intro handled kept
    unfold callback
    split
    · rfl
    · exact kept
  cases event with
  | sspRequest address variant passkey =>
    apply called
    split
    · exact prompt_owner s _ _ _ _
    · exact prompt_owner s _ _ _ _
    · exact prompt_owner s _ _ _ _
    · rfl
  | pinRequest address min16 => exact called _ (prompt_owner s _ _ _ _)
  | pinDisplay address code => exact called _ (prompt_owner s _ _ _ _)
  | bondStateChanged address state =>
    apply called
    split
    · rfl
    · exact clearPairing_owner s address
  | deviceCleared address => exact called _ (clearPairing_owner s address)
  | attach registered => exact attachPairingView_owner s registered
  | detach view => exact detachPairingView_owner s view
  | unregistered registered => exact acquirePairing_owner s registered
  | answer token accept pin => exact answerPairing_owner s token accept pin
  | replied index outcome => exact replied_owner s index outcome
  | bondState index state => exact bondStateReturned_owner s index state
  | expire index => exact expire_owner s index
  | reset owner => exact absurd rfl (same owner)

end FlossDesktop.Pairing.Backend

namespace FlossDesktop.Floss

open Devices

/-- The calls of registrations and of name changes. -/
def Request.special : Request → Bool
  | .registerCallback | .registerConnectionCallback | .registerBatteryCallback => true
  | .setRemoteAlias _ _ _ | .confirmAlias _ _ _ _ => true
  | _ => false

namespace Backend

variable (b : Backend)

/-- The special calls to the present daemon that have not returned. -/
def specialCalls : List Call := b.calls.filter fun call => call.epoch == b.epoch && call.request.special

/-- How far the registrations are. -/
def flags : Bool × Bool × Bool × Bool × Bool × Bool :=
  (b.ready, b.initializing, b.callbackRegistered, b.connectionRegistered, b.batteryRegistered, b.batteryInitializing)

/-- The name of the device is shown to be changing. -/
def marked (address : String) : Bool := (b.devices address).any Entry.aliasPending

def shownName (address : String) : Option String := (b.devices address).bind Entry.alias_

/-- A name is only read while it is not being changed, and the answer is for a revision that has begun. -/
def Begins (b after : Backend) : Request → Prop
  | .getRemoteAlias device revision =>
    b.aliasRequests device.address = none ∧ revision ≤ after.aliasRevisions device.address
  | _ => True

structure Apart (b after : Backend) : Prop where
  owner : after.owner = b.owner
  epoch : after.epoch = b.epoch
  flags : after.flags = b.flags
  special : after.specialCalls = b.specialCalls
  requests : after.aliasRequests = b.aliasRequests
  timers : after.aliasTimers = b.aliasTimers
  marked : ∀ address, after.marked address = b.marked address
  shown : ∀ address, after.shownName address = b.shownName address
  serial : b.serial ≤ after.serial
  revisions : ∀ address, b.aliasRevisions address ≤ after.aliasRevisions address
  calls : ∀ call ∈ after.calls, call ∈ b.calls ∨
    call.epoch = b.epoch ∧ b.owner.isEmpty = false ∧ call.request.special = false ∧ Begins b after call.request

variable {b} {after middle : Backend}

theorem Begins.later {request : Request} (begins : Begins b middle request)
    (revisions : ∀ address, middle.aliasRevisions address ≤ after.aliasRevisions address) : Begins b after request := by
  cases request with
  | getRemoteAlias device revision => exact ⟨begins.1, begins.2.trans (revisions _)⟩
  | _ => exact trivial

theorem Begins.earlier {request : Request} (begins : Begins middle after request)
    (requests : middle.aliasRequests = b.aliasRequests) : Begins b after request := by
  cases request with
  | getRemoteAlias device revision => exact ⟨requests ▸ begins.1, begins.2⟩
  | _ => exact trivial

/-- Everything that is apart, but for the calls and revisions. -/
def settledPart (b : Backend) : String × Nat × (Bool × Bool × Bool × Bool × Bool × Bool) × (String → Option Nat) ×
    List AliasTimer × (String → Option Entry) := (b.owner, b.epoch, b.flags, b.aliasRequests, b.aliasTimers, b.devices)

theorem apart_aside (same : settledPart after = settledPart b) (calls : after.calls = b.calls) (serial : b.serial ≤ after.serial)
    (revisions : ∀ address, b.aliasRevisions address ≤ after.aliasRevisions address) : Apart b after := by
  obtain ⟨owner, epoch, flags, requests, timers, devices⟩ :
      after.owner = b.owner ∧ after.epoch = b.epoch ∧ after.flags = b.flags ∧ after.aliasRequests = b.aliasRequests ∧
        after.aliasTimers = b.aliasTimers ∧ after.devices = b.devices := by
    simpa only [settledPart, Prod.mk.injEq] using same
  refine ⟨owner, epoch, flags, ?_, requests, timers, ?_, ?_, serial, revisions, ?_⟩
  · unfold specialCalls
    rw [calls, epoch]
  · intro address
    unfold marked
    rw [devices]
  · intro address
    unfold shownName
    rw [devices]
  · intro call member
    exact .inl (calls ▸ member)

/-- Fields that neither registrations nor names have. -/
theorem apart_same (same : settledPart after = settledPart b) (calls : after.calls = b.calls) (serial : after.serial = b.serial)
    (revisions : after.aliasRevisions = b.aliasRevisions) : Apart b after :=
  apart_aside same calls serial.ge fun address => (congrFun revisions address).ge

theorem Apart.refl (b : Backend) : Apart b b := apart_same rfl rfl rfl rfl

theorem Apart.trans (first : Apart b middle) (last : Apart middle after) : Apart b after where
  owner := last.owner.trans first.owner
  epoch := last.epoch.trans first.epoch
  flags := last.flags.trans first.flags
  special := last.special.trans first.special
  requests := last.requests.trans first.requests
  timers := last.timers.trans first.timers
  marked := fun address => (last.marked address).trans (first.marked address)
  shown := fun address => (last.shown address).trans (first.shown address)
  serial := first.serial.trans last.serial
  revisions := fun address => (first.revisions address).trans (last.revisions address)
  calls := by
    intro call member
    rcases last.calls call member with before | ⟨epoch, owner, plain, begins⟩
    · rcases first.calls call before with old | ⟨epoch, owner, plain, begins⟩
      · exact .inl old
      · exact .inr ⟨epoch, owner, plain, begins.later last.revisions⟩
    · exact .inr ⟨epoch.trans first.epoch, first.owner ▸ owner, plain, begins.earlier first.requests⟩

theorem fail_apart (b : Backend) (message : String) : Apart b (b.fail message) := apart_same rfl rfl rfl rfl

theorem sent_apart {request : Request} (reportErrors : Bool) (there : b.owner.isEmpty = false)
    (plain : request.special = false) (begins : Begins b b request) :
    Apart b { b with calls := b.calls ++ [⟨b.epoch, request, reportErrors⟩] } where
  owner := rfl
  epoch := rfl
  flags := rfl
  special := by
    change (b.calls ++ [_]).filter _ = b.calls.filter _
    rw [List.filter_append, List.filter_singleton]
    dsimp only
    rw [plain, Bool.and_false]
    exact List.append_nil _
  requests := rfl
  timers := rfl
  marked := fun _ => rfl
  shown := fun _ => rfl
  serial := le_rfl
  revisions := fun _ => le_rfl
  calls := by
    intro call member
    rcases List.mem_append.mp member with old | new
    · exact .inl old
    · cases List.mem_singleton.mp new
      exact .inr ⟨rfl, there, plain, begins⟩

theorem call_apart (b : Backend) {request : Request} {reportErrors : Bool} (plain : request.special = false)
    (begins : Begins b b request) : Apart b (b.call request reportErrors) := by
  unfold call
  split
  · exact fail_apart b _
  · next there => exact sent_apart reportErrors (Bool.eq_false_of_not_eq_true there) plain begins

theorem batteryCall_apart (b : Backend) {request : Request} (plain : request.special = false) (begins : Begins b b request) :
    Apart b (b.batteryCall request) := by
  unfold batteryCall
  split
  · exact .refl b
  · next there => exact sent_apart false (Bool.eq_false_of_not_eq_true there) plain begins

theorem modify_marked (b : Backend) (address : String) (change : Entry → Entry) (other : String) :
    (b.modify address change).marked other =
      if other = address then (change ((b.devices address).getD {})).aliasPending else b.marked other := by
  unfold marked modify
  dsimp only
  rw [Function.update_apply]
  split
  · rfl
  · rfl

theorem getD_marked (b : Backend) (address : String) : ((b.devices address).getD {}).aliasPending = b.marked address := by
  unfold marked
  cases b.devices address with
  | none => rfl
  | some entry => rfl

theorem modify_shown (b : Backend) (address : String) (change : Entry → Entry) (other : String) :
    (b.modify address change).shownName other =
      if other = address then (change ((b.devices address).getD {})).alias_ else b.shownName other := by
  unfold shownName modify
  dsimp only
  rw [Function.update_apply]
  split
  · rfl
  · rfl

theorem getD_shown (b : Backend) (address : String) : ((b.devices address).getD {}).alias_ = b.shownName address := by
  unfold shownName
  cases b.devices address with
  | none => rfl
  | some entry => rfl

/-- An entry that is made has no name, and none that is changing. -/
theorem modify_apart (b : Backend) (address : String) (change : Entry → Entry)
    (pending : ∀ entry, (change entry).aliasPending = entry.aliasPending) (names : ∀ entry, (change entry).alias_ = entry.alias_) :
    Apart b (b.modify address change) where
  owner := rfl
  epoch := rfl
  flags := rfl
  special := rfl
  requests := rfl
  timers := rfl
  marked := by
    intro other
    rw [modify_marked]
    split
    · next same => rw [pending, getD_marked, same]
    · rfl
  shown := by
    intro other
    rw [modify_shown]
    split
    · next same => rw [names, getD_shown, same]
    · rfl
  serial := le_rfl
  revisions := fun _ => le_rfl
  calls := fun _ member => .inl member

theorem bump_le (revisions : String → Nat) (address other : String) : revisions other ≤ bump revisions address other := by
  unfold bump
  rw [Function.update_apply]
  split
  · next same =>
    subst same
    exact Nat.le_succ _
  · exact le_rfl

theorem readDeviceDetails_apart (b : Backend) (address : String) : Apart b (b.readDeviceDetails address) := by
  unfold readDeviceDetails
  split
  · exact .refl b
  · have revised : Apart b { b with aliasRevisions := bump b.aliasRevisions address } :=
      apart_aside rfl rfl le_rfl (bump_le _ _)
    have asked : Apart b (if (b.aliasRequests address).isSome then
        { b with aliasRevisions := bump b.aliasRevisions address }
      else ({ b with aliasRevisions := bump b.aliasRevisions address } : Backend).call
        (.getRemoteAlias (b.deviceArgument address) (bump b.aliasRevisions address address)) false) := by
      split
      · exact revised
      · next unchanged =>
        apply revised.trans
        apply call_apart _ rfl
        exact ⟨Option.not_isSome_iff_eq_none.mp unchanged, le_rfl⟩
    dsimp only
    split
    · exact asked
    · apply Apart.trans _ (batteryCall_apart _ (by rfl) (by trivial))
      exact asked.trans (apart_same rfl rfl rfl rfl)

theorem readDevice_apart (b : Backend) (device : Remote) : Apart b (b.readDevice device) := by
  unfold readDevice
  split
  · exact .refl b
  · have stored : Apart b (b.modify device.address (named device)) := modify_apart b _ _ (fun _ => rfl) fun _ => rfl
    apply Apart.trans _ (readDeviceDetails_apart _ _)
    apply Apart.trans _ (call_apart _ (by rfl) (by trivial))
    exact stored.trans (call_apart _ (by rfl) (by trivial))

theorem meet_apart (b : Backend) (device : Remote) : Apart b (b.meet device) := by
  unfold meet
  split
  · exact readDevice_apart b device
  · exact .refl b

theorem finish_apart (b : Backend) (address operation error : String) : Apart b (b.finish address operation error) := by
  unfold finish
  split
  · exact .refl b
  · have ended : Apart b ({ b with operations := Function.update b.operations address none }.modify address
        fun entry => { entry with pending := none }) := by
      apply Apart.trans _ (modify_apart _ _ _ (fun _ => by rfl) fun _ => by rfl)
      exact apart_same rfl rfl rfl rfl
    dsimp only
    split
    · exact ended
    · exact ended.trans (fail_apart _ error)

theorem beginOperation_apart (b : Backend) (address operation method : String) :
    Apart b (b.beginOperation address operation method) := by
  unfold beginOperation
  dsimp only
  generalize begun_eq : ({ b with
    serial := b.serial + 1
    deviceRevisions := bump b.deviceRevisions address
    operations := Function.update b.operations address (some (b.serial + 1)) } : Backend).modify address
      (fun entry => { entry with pending := some operation }) = begun
  have begun_apart : Apart b begun := by
    subst begun_eq
    apply Apart.trans _ (modify_apart _ _ _ (fun _ => by rfl) fun _ => by rfl)
    exact apart_aside rfl rfl (Nat.le_succ _) fun _ => le_rfl
  have sent : Apart begun (begun.call (.operate method (begun.deviceArgument address) operation begun.serial) true) :=
    call_apart begun rfl trivial
  exact (begun_apart.trans sent).trans (apart_same rfl rfl rfl rfl)

theorem operate_apart (b : Backend) (saved : Bool) (address operation : String) : Apart b (b.operate saved address operation) := by
  unfold operate
  split
  · exact .refl b
  · split
    · exact fail_apart b _
    · split
      · exact beginOperation_apart b _ _ _
      · exact fail_apart b _

theorem operated_apart (b : Backend) (address operation : String) (serial : Nat) (answer : Answer) :
    Apart b (b.operated address operation serial answer) := by
  unfold operated
  split
  · exact .refl b
  · split
    · exact finish_apart b _ _ _
    · split
      · exact finish_apart b _ _ _
      · split
        · apply Apart.trans _ (finish_apart _ _ _ _)
          exact modify_apart b _ _ (fun _ => rfl) fun _ => rfl
        · exact .refl b

theorem discover_apart (b : Backend) (enabled : Bool) : Apart b (b.discover enabled) := by
  unfold discover
  split
  · exact call_apart b rfl trivial
  · exact .refl b

theorem snapshot_apart (b : Backend) (property : Property) (address : String) (revision : Nat) (answer : Answer) :
    Apart b (b.snapshot property address revision answer) := by
  unfold snapshot
  split
  · exact .refl b
  · apply Apart.trans _ (readDeviceDetails_apart _ _)
    apply modify_apart b address
    · intro entry
      rfl
    · intro entry
      rfl

theorem updateBattery_apart (b : Backend) (address : String) (set : Option BatterySet) :
    Apart b (b.updateBattery address set) := by
  unfold updateBattery
  split
  · exact .refl b
  · exact modify_apart b address _ (fun _ => rfl) fun _ => rfl

theorem batteryRead_apart (b : Backend) (address : String) (revision : Nat) (answer : Answer) :
    Apart b (b.batteryRead address revision answer) := by
  unfold batteryRead
  split
  · split
    · exact .refl b
    · exact updateBattery_apart b _ _
  · exact .refl b

theorem batteryCallback_apart (b : Backend) (address : String) (set : Option BatterySet) :
    Apart b (b.batteryCallback address set) := by
  unfold batteryCallback
  split
  · exact .refl b
  · apply Apart.trans _ (updateBattery_apart _ _ _)
    exact apart_same rfl rfl rfl rfl

/-- What every element of a list does apart, the list does. -/
theorem foldl_apart {α : Type} (change : Backend → α → Backend) (apart : ∀ b item, Apart b (change b item)) (items : List α)
    (b : Backend) : Apart b (items.foldl change b) := by
  induction items generalizing b with
  | nil => exact .refl b
  | cons item rest ih => exact (apart b item).trans (ih _)

theorem listed_apart (b : Backend) (answer : Answer) : Apart b (b.listed answer) := by
  unfold listed
  split
  · exact foldl_apart readDevice readDevice_apart _ b
  · exact .refl b

theorem reported_apart (b : Backend) (reportErrors : Bool) (answer : Answer) : Apart b (b.reported reportErrors answer) := by
  unfold reported
  split
  · split
    · exact fail_apart b _
    · exact .refl b
  · exact .refl b

theorem paired_apart (b : Backend) (event : Pairing.Backend.Event) (same : ∀ owner, event ≠ .reset owner) :
    Apart b (b.paired event) := by
  have owner := Pairing.Backend.step_owner b.pairing event same
  have epoch := (Pairing.Backend.step_timely b.pairing event same).epoch
  apply apart_same
  · unfold settledPart
    rw [show (b.paired event).owner = b.owner from owner, show (b.paired event).epoch = b.epoch from epoch]
    rfl
  · rfl
  · rfl
  · rfl

theorem clearPairing_apart (b : Backend) (address : String) : Apart b (b.clearPairing address) := by
  have owner := Pairing.Backend.clearPairing_owner b.pairing address
  have epoch := (Pairing.Backend.clearPairing_timely b.pairing address).epoch
  apply apart_same
  · unfold settledPart
    rw [show (b.clearPairing address).owner = b.owner from owner, show (b.clearPairing address).epoch = b.epoch from epoch]
    rfl
  · rfl
  · rfl
  · rfl

theorem prompted_apart (b : Backend) (device : Remote) (event : Pairing.Backend.Event) (same : ∀ owner, event ≠ .reset owner) :
    Apart b (b.prompted device event) := by
  unfold prompted
  split
  · exact .refl b
  · exact (meet_apart b device).trans (paired_apart _ event same)

/-- A callback passes the reads of a device, and makes it known. -/
theorem met_apart (b : Backend) (device : Remote) :
    Apart b ({ b with deviceRevisions := bump b.deviceRevisions device.address }.meet device) := by
  apply Apart.trans _ (meet_apart _ device)
  exact apart_same rfl rfl rfl rfl

theorem linkChanged_apart (b : Backend) (device : Remote) (connected : Bool) : Apart b (b.linkChanged device connected) := by
  unfold linkChanged
  have stored : Apart b (({ b with deviceRevisions := bump b.deviceRevisions device.address }.meet device).modify
      device.address fun entry => { entry with connected := some connected }) := by
    apply (met_apart b device).trans
    exact modify_apart _ _ _ (fun _ => by rfl) fun _ => by rfl
  dsimp only
  split
  · exact stored.trans (readDeviceDetails_apart _ _)
  · have cut := stored.trans (modify_apart _ device.address
      (fun entry => { entry with profileRequest := none, batteries := none, batteryText := none }) (fun _ => rfl) fun _ => rfl)
    exact cut.trans (apart_same rfl rfl rfl rfl)

theorem settleBond_apart (b : Backend) (saved : Bool) (status : Nat) (address : String) (state : Nat) :
    Apart b (b.settleBond saved status address state) := by
  unfold settleBond
  have finished := finish_apart b address "pair" (bondFailure status state)
  have forgotten : Apart b (if state == 0 then (b.finish address "pair" (bondFailure status state)).finish address "forget" ""
      else b.finish address "pair" (bondFailure status state)) := by
    split
    · exact finished.trans (finish_apart _ _ _ _)
    · exact finished
  have cleared := forgotten.trans (clearPairing_apart _ address)
  dsimp only
  split
  · exact cleared.trans (operate_apart _ _ _ _)
  · exact cleared

theorem bondStateChanged_apart (b : Backend) (saved : Bool) (status : Nat) (address : String) (state : Nat) :
    Apart b (b.bondStateChanged saved status address state) := by
  unfold bondStateChanged
  have stored := (met_apart b ⟨address, address⟩).trans
    (modify_apart _ address (fun entry => { entry with paired := some (state == 2) }) (fun _ => rfl) fun _ => rfl)
  dsimp only
  split
  · exact stored
  · exact stored.trans (settleBond_apart _ _ _ _ _)

theorem connectionFailed_apart (b : Backend) (automatic : Bool) (device : Remote) (status : Nat) :
    Apart b (b.connectionFailed automatic device status) := by
  unfold connectionFailed
  have finished := finish_apart b device.address "connect" ""
  have cut : Apart b (if ((b.finish device.address "connect" "").devices device.address).isNone then
      b.finish device.address "connect" ""
    else (b.finish device.address "connect" "").modify device.address fun entry => { entry with profileRequest := none }) := by
    split
    · exact finished
    · exact finished.trans (modify_apart _ _ _ (fun _ => by rfl) fun _ => by rfl)
  dsimp only
  split
  · exact cut
  · exact cut.trans (fail_apart _ _)

theorem timeout_apart (b : Backend) (index : Nat) : Apart b (b.timeout index) := by
  unfold timeout
  split
  · exact .refl b
  · next timer _ =>
    have heard : Apart b { b with timers := b.timers.eraseIdx index, fired := b.fired ++ [timer] } :=
      apart_same rfl rfl rfl rfl
    unfold timedOut
    split
    · exact heard.trans (finish_apart _ _ _ _)
    · exact heard

/-- Every callback but the one that takes a device away. -/
theorem callback_apart (b : Backend) (policy : Policy) {callback : Callback} (stays : ∀ address, callback ≠ .deviceCleared address) :
    Apart b (b.callback policy callback) := by
  cases callback with
  | deviceFound device => exact readDevice_apart b device
  | devicePropertiesChanged device => exact readDevice_apart b device
  | deviceCleared address => exact absurd rfl (stays address)
  | discoveringChanged discovering => exact apart_same rfl rfl rfl rfl
  | bondStateChanged status address state => exact bondStateChanged_apart b _ _ _ _
  | deviceConnected device => exact linkChanged_apart b device true
  | deviceDisconnected device => exact linkChanged_apart b device false
  | deviceConnectionFailed device status => exact connectionFailed_apart b _ _ _
  | sspRequest device variant passkey =>
    dsimp only [Backend.callback]
    split
    · exact prompted_apart b device (.sspRequest device.address variant passkey) nofun
    · exact .refl b
  | pinRequest device min16 => exact prompted_apart b device (.pinRequest device.address min16) nofun
  | pinDisplay device code => exact prompted_apart b device (.pinDisplay device.address code) nofun
  | batteryInfoUpdated address set => exact batteryCallback_apart b _ _

end Backend
end FlossDesktop.Floss
