import FlossDesktop.Proofs.ApartSteps

/-! How the backend registers with a daemon. The callback comes first, the connections follow and the batteries come
last. Of all that its flags and its outstanding calls could be, only seven phases ever are. -/

namespace FlossDesktop.Floss

open Devices

def Request.registers : Request → Bool
  | .registerCallback | .registerConnectionCallback | .registerBatteryCallback => true
  | _ => false

inductive Phase where
  | absent
  | asking
  | heard
  | connecting
  | ready
  | detailing
  | detailed
deriving Repr, DecidableEq

namespace Phase

/-- The registration that is under way. -/
def awaits : Phase → Option Request
  | .asking => some .registerCallback
  | .connecting => some .registerConnectionCallback
  | .detailing => some .registerBatteryCallback
  | _ => none

/-- The flags `ready`, `initializing`, `callbackRegistered`, `connectionRegistered`, `batteryRegistered` and
`batteryInitializing`. -/
def flags : Phase → Bool × Bool × Bool × Bool × Bool × Bool
  | .absent => (false, false, false, false, false, false)
  | .asking => (false, true, false, false, false, false)
  | .heard => (false, false, true, false, false, false)
  | .connecting => (false, true, true, false, false, false)
  | .ready => (true, false, true, true, false, false)
  | .detailing => (true, false, true, true, false, true)
  | .detailed => (true, false, true, true, true, false)

/-- What is registered stays so, and what fails is only tried again. -/
inductive Moves : Phase → Phase → Prop
  | stays (phase : Phase) : Moves phase phase
  | ask : Moves .absent .asking
  | refused : Moves .asking .absent
  | taken : Moves .asking .connecting
  | again : Moves .heard .connecting
  | unconnected : Moves .connecting .heard
  | connected : Moves .connecting .detailing
  | detail : Moves .ready .detailing
  | undetailed : Moves .detailing .ready
  | detailed : Moves .detailing .detailed

end Phase

namespace Backend

variable (b : Backend)

/-- How many calls of this kind the present daemon has not answered. -/
def outstanding (request : Request) : Nat := b.calls.countP fun call => call.epoch == b.epoch && call.request == request

/-- One registration is outstanding, or none. -/
structure Waits (awaited : Option Request) : Prop where
  past : ∀ call ∈ b.calls, call.epoch ≤ b.epoch
  there : ∀ call ∈ b.calls, call.epoch = b.epoch → b.owner.isEmpty = false
  outstanding : ∀ request, request.registers = true → b.outstanding request = (awaited == some request).toNat

structure Stands (phase : Phase) : Prop where
  waits : b.Waits phase.awaits
  flags : b.flags = phase.flags
  alive : phase ≠ .absent → b.owner.isEmpty = false

/-- The registrations are as they were. -/
structure Still (after : Backend) : Prop where
  owner : after.owner = b.owner
  epoch : after.epoch = b.epoch
  flags : after.flags = b.flags
  outstanding : ∀ request, request.registers = true → after.outstanding request = b.outstanding request
  calls : ∀ call ∈ after.calls, call ∈ b.calls ∨ call.epoch = b.epoch ∧ b.owner.isEmpty = false

variable {b} {after middle : Backend} {awaited : Option Request} {phase : Phase}

theorem Still.trans (first : Still b middle) (last : Still middle after) : Still b after where
  owner := last.owner.trans first.owner
  epoch := last.epoch.trans first.epoch
  flags := last.flags.trans first.flags
  outstanding := fun request registers => (last.outstanding request registers).trans (first.outstanding request registers)
  calls := by
    intro call member
    rcases last.calls call member with before | ⟨epoch, owner⟩
    · exact first.calls call before
    · exact .inr ⟨epoch.trans first.epoch, first.owner ▸ owner⟩

theorem registers_special {request : Request} (registers : request.registers = true) : request.special = true := by
  cases request with
  | registerCallback | registerConnectionCallback | registerBatteryCallback => rfl
  | _ => cases registers

theorem outstanding_special {request : Request} (special : request.special = true) :
    b.outstanding request = b.specialCalls.countP fun call => call.request == request := by
  unfold outstanding specialCalls
  rw [List.countP_filter]
  apply List.countP_congr
  intro call _
  by_cases same : call.request = request
  · simp [same, special]
  · simp [same]

theorem Apart.still (apart : Apart b after) : Still b after where
  owner := apart.owner
  epoch := apart.epoch
  flags := apart.flags
  outstanding := by
    intro request registers
    have special := registers_special registers
    rw [outstanding_special special, outstanding_special special, apart.special]
  calls := fun call member => (apart.calls call member).imp_right fun sent => ⟨sent.1, sent.2.1⟩

/-- The daemon, the flags and the calls are the same. -/
theorem still_same (owner : after.owner = b.owner) (epoch : after.epoch = b.epoch) (flags : after.flags = b.flags)
    (calls : after.calls = b.calls) : Still b after where
  owner := owner
  epoch := epoch
  flags := flags
  outstanding := by
    intro request _
    unfold Backend.outstanding
    rw [calls, epoch]
  calls := by
    intro call member
    exact .inl (calls ▸ member)

theorem Still.waits (still : Still b after) (waits : Waits b awaited) : Waits after awaited where
  past := by
    intro call member
    rw [still.epoch]
    rcases still.calls call member with old | ⟨epoch, _⟩
    · exact waits.past call old
    · exact epoch.le
  there := by
    intro call member epoch
    rw [still.owner]
    rcases still.calls call member with old | ⟨_, there⟩
    · exact waits.there call old (epoch.trans still.epoch)
    · exact there
  outstanding := fun request registers => (still.outstanding request registers).trans (waits.outstanding request registers)

theorem Still.stands (still : Still b after) (stands : Stands b phase) : Stands after phase where
  waits := still.waits stands.waits
  flags := still.flags.trans stands.flags
  alive := still.owner ▸ stands.alive

theorem outstanding_sent (b : Backend) (request : Request) (reportErrors : Bool) (other : Request) :
    ({ b with calls := b.calls ++ [⟨b.epoch, request, reportErrors⟩] } : Backend).outstanding other =
      b.outstanding other + (request == other).toNat := by
  unfold outstanding
  change (b.calls ++ [_]).countP (fun call : Call => call.epoch == b.epoch && call.request == other) = _
  rw [List.countP_append, List.countP_singleton]
  change _ + (if (b.epoch == b.epoch && request == other) = true then 1 else 0) = _
  rw [beq_self_eq_true, Bool.true_and]
  cases request == other with
  | false => rfl
  | true => rfl

/-- A registration that goes out is waited for. -/
theorem sent_waits {request : Request} (reportErrors : Bool) (idle : Waits b none) (there : b.owner.isEmpty = false) :
    Waits { b with calls := b.calls ++ [⟨b.epoch, request, reportErrors⟩] } (some request) where
  past := by
    intro call member
    rcases List.mem_append.mp member with old | new
    · exact idle.past call old
    · cases List.mem_singleton.mp new
      exact le_rfl
  there := fun _ _ _ => there
  outstanding := by
    intro other registers
    rw [outstanding_sent, idle.outstanding other registers]
    by_cases same : request = other
    · rw [same, beq_self_eq_true, beq_self_eq_true]
      rfl
    · rw [beq_false_of_ne same, beq_false_of_ne (fun equal => same (Option.some.inj equal))]
      rfl

theorem call_waits (request : Request) (reportErrors : Bool) (idle : Waits b none) (there : b.owner.isEmpty = false) :
    Waits (b.call request reportErrors) (some request) := by
  unfold call
  rw [there, if_neg Bool.false_ne_true]
  exact sent_waits reportErrors idle there

theorem batteryCall_waits (request : Request) (idle : Waits b none) (there : b.owner.isEmpty = false) :
    Waits (b.batteryCall request) (some request) := by
  unfold batteryCall
  rw [there, if_neg Bool.false_ne_true]
  exact sent_waits false idle there

/-- Sending leaves the daemon and the flags alone. -/
theorem call_owner (b : Backend) (request : Request) (reportErrors : Bool) : (b.call request reportErrors).owner = b.owner := by
  unfold call
  split
  · rfl
  · rfl

theorem call_flags (b : Backend) (request : Request) (reportErrors : Bool) : (b.call request reportErrors).flags = b.flags := by
  unfold call
  split
  · rfl
  · rfl

theorem batteryCall_owner (b : Backend) (request : Request) : (b.batteryCall request).owner = b.owner := by
  unfold batteryCall
  split
  · rfl
  · rfl

theorem batteryCall_flags (b : Backend) (request : Request) : (b.batteryCall request).flags = b.flags := by
  unfold batteryCall
  split
  · rfl
  · rfl

/-- Another call than a registration. -/
theorem call_still (b : Backend) {request : Request} {reportErrors : Bool} (other : request.registers = false) :
    Still b (b.call request reportErrors) := by
  unfold call
  split
  · exact (fail_apart b _).still
  · next there =>
    refine ⟨rfl, rfl, rfl, ?_, ?_⟩
    · intro registration registers
      rw [outstanding_sent, beq_false_of_ne]
      · rfl
      · rintro rfl
        rw [registers] at other
        cases other
    · intro call member
      rcases List.mem_append.mp member with old | new
      · exact .inl old
      · cases List.mem_singleton.mp new
        exact .inr ⟨rfl, Bool.eq_false_of_not_eq_true there⟩

/-- Fields that no registration has, and no call. -/
theorem Still.refl (b : Backend) : Still b b := still_same rfl rfl rfl rfl

theorem modify_still (b : Backend) (address : String) (change : Entry → Entry) : Still b (b.modify address change) :=
  still_same rfl rfl rfl rfl

theorem fail_still (b : Backend) (message : String) : Still b (b.fail message) := still_same rfl rfl rfl rfl

theorem aliasRead_still (b : Backend) (address : String) (revision : Nat) (answer : Answer) :
    Still b (b.aliasRead address revision answer) := by
  unfold aliasRead
  split
  · split
    · exact .refl b
    · exact modify_still b _ _
  · exact .refl b

theorem confirmAlias_still (b : Backend) (address newAlias : String) (request attempts : Nat) :
    Still b (b.confirmAlias address newAlias request attempts) := by
  unfold confirmAlias
  split
  · exact .refl b
  · exact call_still b rfl

theorem setAlias_still (b : Backend) (address newAlias : String) : Still b (b.setAlias address newAlias) := by
  unfold setAlias
  split
  · exact .refl b
  · split
    · exact fail_still b _
    · have asked : Still b (({ b with
          serial := b.serial + 1
          aliasRevisions := bump b.aliasRevisions address
          aliasRequests := Function.update b.aliasRequests address (some (b.serial + 1)) } : Backend).modify address
            fun entry => { entry with aliasPending := true }) := still_same rfl rfl rfl rfl
      exact asked.trans (call_still _ rfl)

theorem aliasSet_still (b : Backend) (address newAlias : String) (request : Nat) (answer : Answer) :
    Still b (b.aliasSet address newAlias request answer) := by
  unfold aliasSet
  split
  · exact .refl b
  · split
    · dsimp only
      split
      · exact still_same rfl rfl rfl rfl
      · exact still_same rfl rfl rfl rfl
    · exact confirmAlias_still b _ _ _ _

theorem aliasConfirmed_still (b : Backend) (address newAlias : String) (request attempts : Nat) (answer : Answer) :
    Still b (b.aliasConfirmed address newAlias request attempts answer) := by
  unfold aliasConfirmed
  split
  · exact .refl b
  · split
    · exact still_same rfl rfl rfl rfl
    · split
      · exact still_same rfl rfl rfl rfl
      · exact still_same rfl rfl rfl rfl

theorem aliasTimeout_still (b : Backend) (index : Nat) : Still b (b.aliasTimeout index) := by
  unfold aliasTimeout
  split
  · exact .refl b
  · have heard : Still b { b with aliasTimers := b.aliasTimers.eraseIdx index } := still_same rfl rfl rfl rfl
    dsimp only
    split
    · exact heard
    · exact heard.trans (confirmAlias_still _ _ _ _ _)

theorem deviceCleared_still (b : Backend) (address : String) : Still b (b.deviceCleared address) := by
  unfold deviceCleared
  dsimp only
  apply Still.trans _ (clearPairing_apart _ address).still
  exact still_same rfl rfl rfl rfl

theorem callback_still (b : Backend) (policy : Policy) (callback : Callback) : Still b (b.callback policy callback) := by
  by_cases stays : ∀ address, callback ≠ .deviceCleared address
  · exact (callback_apart b policy stays).still
  · push Not at stays
    obtain ⟨address, rfl⟩ := stays
    exact deviceCleared_still b address

/-- The reply to another call than a registration. -/
theorem returned_still (b : Backend) (policy : Policy) (answer : Answer) {request : Request}
    (other : request.registers = false) : Still b (b.returned policy answer request) := by
  cases request with
  | registerCallback => cases other
  | registerConnectionCallback => cases other
  | registerBatteryCallback => cases other
  | isDiscovering =>
    dsimp only [returned]
    split
    · exact .refl b
    · exact still_same rfl rfl rfl rfl
  | getBondedDevices => exact (listed_apart b answer).still
  | getConnectedDevices => exact (listed_apart b answer).still
  | read property device revision => exact (snapshot_apart b _ _ _ _).still
  | discovery enabled =>
    dsimp only [returned]
    split
    · exact fail_still b _
    · exact .refl b
  | operate method device operation serial => exact (operated_apart b _ _ _ _).still
  | getRemoteAlias device revision => exact aliasRead_still b _ _ _
  | setRemoteAlias device newAlias request => exact aliasSet_still b _ _ _ _
  | confirmAlias device newAlias request attempts => exact aliasConfirmed_still b _ _ _ _ _
  | getBatteryInformation address revision => exact (batteryRead_apart b _ _ _).still
  | connectAllEnabledProfiles device =>
    dsimp only [returned]
    split
    · exact (readDevice_apart b _).still
    · exact .refl b
  | disconnectAllEnabledProfiles device => exact .refl b

/-- What is outstanding before a call returns and after it. -/
theorem outstanding_heard {index : Nat} {call : Call} (found : b.calls[index]? = some call) (request : Request) :
    b.outstanding request = ({ b with calls := b.calls.eraseIdx index } : Backend).outstanding request +
      (call.epoch == b.epoch && call.request == request).toNat := by
  obtain ⟨inside, rfl⟩ := List.getElem?_eq_some_iff.mp found
  unfold outstanding
  change _ = (b.calls.eraseIdx index).countP (fun call : Call => call.epoch == b.epoch && call.request == request) + _
  rw [← (List.getElem_cons_eraseIdx_perm inside).countP_eq, List.countP_cons]
  cases b.calls[index].epoch == b.epoch && b.calls[index].request == request with
  | false => rfl
  | true => rfl

theorem heard_still {index : Nat} {call : Call} (found : b.calls[index]? = some call)
    (other : call.epoch ≠ b.epoch ∨ call.request.registers = false) : Still b { b with calls := b.calls.eraseIdx index } where
  owner := rfl
  epoch := rfl
  flags := rfl
  outstanding := by
    intro request registers
    have nothing : (call.epoch == b.epoch && call.request == request) = false := by
      rcases other with stale | plain
      · rw [beq_false_of_ne stale, Bool.false_and]
      · have different : call.request ≠ request := by
          rintro rfl
          rw [registers] at plain
          cases plain
        rw [beq_false_of_ne different, Bool.and_false]
    rw [outstanding_heard found, nothing]
    rfl
  calls := fun _ member => .inl (List.mem_of_mem_eraseIdx member)

/-- The registration that returns is the one that was waited for. -/
theorem heard_waits {index : Nat} {call : Call} (waits : Waits b awaited) (found : b.calls[index]? = some call)
    (current : call.epoch = b.epoch) (registers : call.request.registers = true) :
    awaited = some call.request ∧ Waits { b with calls := b.calls.eraseIdx index } none := by
  have awaiting : awaited = some call.request := by
    have before := waits.outstanding call.request registers
    rw [outstanding_heard found, current, beq_self_eq_true, beq_self_eq_true] at before
    by_contra different
    rw [beq_false_of_ne different] at before
    cases before
  refine ⟨awaiting, ?_, ?_, ?_⟩
  · exact fun other member => waits.past other (List.mem_of_mem_eraseIdx member)
  · exact fun other member => waits.there other (List.mem_of_mem_eraseIdx member)
  · intro request also
    have before := waits.outstanding request also
    rw [outstanding_heard found, current, beq_self_eq_true, Bool.true_and, awaiting] at before
    by_cases same : call.request = request
    · rw [same, beq_self_eq_true, beq_self_eq_true] at before
      exact Nat.succ.inj before
    · rw [beq_false_of_ne same, beq_false_of_ne (fun equal => same (Option.some.inj equal))] at before
      exact before

/-- The flags of the phase, one by one. -/
theorem flags_each (same : b.flags = phase.flags) :
    b.ready = phase.flags.1 ∧ b.initializing = phase.flags.2.1 ∧ b.callbackRegistered = phase.flags.2.2.1 ∧
      b.connectionRegistered = phase.flags.2.2.2.1 ∧ b.batteryRegistered = phase.flags.2.2.2.2.1 ∧
        b.batteryInitializing = phase.flags.2.2.2.2.2 := by
  rw [← same]
  exact ⟨rfl, rfl, rfl, rfl, rfl, rfl⟩

theorem flags_of (ready initializing callbackRegistered connectionRegistered batteryRegistered batteryInitializing : Bool)
    (same : b.ready = ready ∧ b.initializing = initializing ∧
      b.callbackRegistered = callbackRegistered ∧ b.connectionRegistered = connectionRegistered ∧
        b.batteryRegistered = batteryRegistered ∧ b.batteryInitializing = batteryInitializing) :
    b.flags = (ready, initializing, callbackRegistered, connectionRegistered, batteryRegistered, batteryInitializing) := by
  obtain ⟨rfl, rfl, rfl, rfl, rfl, rfl⟩ := same
  rfl

/-- With the backend ready, the batteries are asked for. -/
theorem ready_details (stands : Stands b .ready) : Stands b.initializeDeviceDetails .detailing := by
  obtain ⟨ready, initializing, callbackRegistered, connectionRegistered, batteryRegistered, batteryInitializing⟩ :=
    flags_each stands.flags
  have there := stands.alive nofun
  have asked : (!b.ready || b.batteryRegistered || b.batteryInitializing) = false := by
    rw [ready, batteryRegistered, batteryInitializing]
    rfl
  unfold initializeDeviceDetails
  rw [if_neg (Bool.eq_false_iff.mp asked)]
  refine ⟨?_, ?_, fun _ => ?_⟩
  · exact batteryCall_waits (b := { b with batteryInitializing := true }) _
      ⟨stands.waits.past, stands.waits.there, stands.waits.outstanding⟩ there
  · refine (batteryCall_flags _ _).trans ?_
    exact flags_of _ _ _ _ _ _ ⟨ready, initializing, callbackRegistered, connectionRegistered, batteryRegistered, rfl⟩
  · exact (congrArg String.isEmpty (batteryCall_owner _ _)).trans there

theorem initializeDeviceDetails_moves (stands : Stands b phase) :
    ∃ next, Stands b.initializeDeviceDetails next ∧ phase.Moves next := by
  by_cases idle : phase = .ready
  · subst idle
    exact ⟨.detailing, ready_details stands, .detail⟩
  · have nothing : b.initializeDeviceDetails = b := by
      obtain ⟨ready, _, _, _, batteryRegistered, batteryInitializing⟩ := flags_each stands.flags
      unfold initializeDeviceDetails
      rw [ready, batteryRegistered, batteryInitializing]
      cases phase with
      | ready => exact absurd rfl idle
      | _ => rfl
    rw [nothing]
    exact ⟨phase, stands, .stays phase⟩

theorem initializeBackend_moves (stands : Stands b phase) : ∃ next, Stands b.initializeBackend next ∧ phase.Moves next := by
  unfold initializeBackend
  split
  · exact initializeDeviceDetails_moves stands
  · next unready =>
    split
    · exact ⟨phase, stands, .stays phase⟩
    · next idle =>
      simp only [Bool.or_eq_true, not_or, Bool.not_eq_true] at idle
      obtain ⟨idle, there⟩ := idle
      obtain ⟨ready, initializing, callbackRegistered, connectionRegistered, batteryRegistered, batteryInitializing⟩ :=
        flags_each stands.flags
      rw [ready] at unready
      rw [initializing] at idle
      have begun : ∀ awaited, Waits b awaited → Waits { b with initializing := true } awaited :=
        fun _ waits => ⟨waits.past, waits.there, waits.outstanding⟩
      dsimp only
      cases phase with
      | asking | connecting => cases idle
      | ready | detailing | detailed => exact absurd rfl unready
      | absent =>
        rw [if_neg (show ¬ b.callbackRegistered = true from callbackRegistered ▸ Bool.false_ne_true)]
        refine ⟨.asking, ⟨?_, ?_, fun _ => ?_⟩, .ask⟩
        · exact call_waits _ _ (begun none stands.waits) there
        · refine (call_flags _ _ _).trans ?_
          exact flags_of _ _ _ _ _ _
            ⟨ready, rfl, callbackRegistered, connectionRegistered, batteryRegistered, batteryInitializing⟩
        · exact (congrArg String.isEmpty (call_owner _ _ _)).trans there
      | heard =>
        rw [if_pos (show b.callbackRegistered = true from callbackRegistered)]
        refine ⟨.connecting, ⟨?_, ?_, fun _ => ?_⟩, .again⟩
        · exact call_waits _ _ (begun none stands.waits) there
        · refine (call_flags _ _ _).trans ?_
          exact flags_of _ _ _ _ _ _
            ⟨ready, rfl, callbackRegistered, connectionRegistered, batteryRegistered, batteryInitializing⟩
        · exact (congrArg String.isEmpty (call_owner _ _ _)).trans there

/-- The backend after a registration has returned: nothing is waited for any more, and the flags are still those of before. -/
theorem returned_moves (policy : Policy) (answer : Answer) (idle : Waits b none) (flags : b.flags = phase.flags)
    (there : b.owner.isEmpty = false) {request : Request} (awaits : phase.awaits = some request) :
    ∃ next, Stands (b.returned policy answer request) next ∧ phase.Moves next := by
  obtain ⟨ready, initializing, callbackRegistered, connectionRegistered, batteryRegistered, batteryInitializing⟩ :=
    flags_each flags
  cases phase with
  | absent | heard | ready | detailed => cases awaits
  | asking =>
    cases awaits
    dsimp only [returned]
    split
    · refine ⟨.absent, ⟨⟨idle.past, idle.there, idle.outstanding⟩, ?_, nofun⟩, .refused⟩
      exact flags_of _ _ _ _ _ _
        ⟨ready, rfl, callbackRegistered, connectionRegistered, batteryRegistered, batteryInitializing⟩
    · refine ⟨.connecting, ⟨?_, ?_, fun _ => ?_⟩, .taken⟩
      · exact call_waits (b := { b with callbackRegistered := true }) _ _ ⟨idle.past, idle.there, idle.outstanding⟩ there
      · refine (call_flags _ _ _).trans ?_
        exact flags_of _ _ _ _ _ _ ⟨ready, initializing, rfl, connectionRegistered, batteryRegistered, batteryInitializing⟩
      · exact (congrArg String.isEmpty (call_owner _ _ _)).trans there
  | connecting =>
    cases awaits
    dsimp only [returned]
    split
    · refine ⟨.heard, ⟨⟨idle.past, idle.there, idle.outstanding⟩, ?_, fun _ => there⟩, .unconnected⟩
      exact flags_of _ _ _ _ _ _
        ⟨ready, rfl, callbackRegistered, connectionRegistered, batteryRegistered, batteryInitializing⟩
    · refine ⟨.detailing, ?_, .connected⟩
      have begun : Stands { b with initializing := false, connectionRegistered := true, ready := true } .ready := by
        refine ⟨⟨idle.past, idle.there, idle.outstanding⟩, ?_, fun _ => there⟩
        exact flags_of _ _ _ _ _ _ ⟨rfl, rfl, callbackRegistered, rfl, batteryRegistered, batteryInitializing⟩
      unfold registered
      dsimp only
      apply Still.stands _ (ready_details begun)
      apply Still.trans _ (call_still _ (by rfl))
      apply Still.trans _ (call_still _ (by rfl))
      apply Still.trans _ (call_still _ (by rfl))
      exact fail_still _ _
  | detailing =>
    cases awaits
    dsimp only [returned]
    unfold batteryReady
    split
    · refine ⟨.detailed, Still.stands (foldl_apart readDeviceDetails readDeviceDetails_apart b.known _).still ?_, .detailed⟩
      refine ⟨⟨idle.past, idle.there, idle.outstanding⟩, ?_, fun _ => there⟩
      exact flags_of _ _ _ _ _ _ ⟨ready, initializing, callbackRegistered, connectionRegistered, rfl, rfl⟩
    · refine ⟨.ready, ⟨⟨idle.past, idle.there, idle.outstanding⟩, ?_, fun _ => there⟩, .undetailed⟩
      exact flags_of _ _ _ _ _ _
        ⟨ready, initializing, callbackRegistered, connectionRegistered, batteryRegistered, rfl⟩

theorem replied_moves (stands : Stands b phase) (policy : Policy) (index : Nat) (answer : Answer) :
    ∃ next, Stands (b.replied policy index answer) next ∧ phase.Moves next := by
  unfold replied
  split
  · exact ⟨phase, stands, .stays phase⟩
  · next call found =>
    dsimp only
    split
    · next stale => exact ⟨phase, (heard_still found (.inl stale)).stands stands, .stays phase⟩
    · next current =>
      rw [not_ne_iff] at current
      cases registers : call.request.registers with
      | false =>
        refine ⟨phase, Still.stands ?_ stands, .stays phase⟩
        have heard := (heard_still found (.inr registers)).trans (reported_apart _ call.reportErrors answer).still
        exact heard.trans (returned_still _ policy answer registers)
      | true =>
        obtain ⟨awaits, idle⟩ := heard_waits stands.waits found current registers
        have reported := (reported_apart { b with calls := b.calls.eraseIdx index } call.reportErrors answer).still
        apply returned_moves policy answer (reported.waits idle) (reported.flags.trans stands.flags) _ awaits
        rw [reported.owner]
        apply stands.alive
        rintro rfl
        cases awaits

/-- A daemon that has come has no registrations, and is asked at once. -/
theorem reset_stands (stands : Stands b phase) (owner : String) :
    Stands (b.reset owner) .absent ∨ Stands (b.reset owner) .asking := by
  have cleared : Stands (b.cleared owner) .absent := by
    have later : ∀ call ∈ b.calls, call.epoch < b.epoch + 1 := fun call member => Nat.lt_succ_of_le (stands.waits.past call member)
    refine ⟨⟨fun call member => (later call member).le, ?_, ?_⟩, rfl, nofun⟩
    · intro call member current
      exact absurd current (later call member).ne
    · intro request _
      apply List.countP_eq_zero.mpr
      intro call member
      have stale : call.epoch ≠ b.epoch + 1 := (later call member).ne
      change ¬ (call.epoch == b.epoch + 1 && _) = true
      rw [beq_false_of_ne stale, Bool.false_and]
      exact Bool.false_ne_true
  obtain ⟨next, begun, moves⟩ := initializeBackend_moves cleared
  cases moves with
  | stays => exact .inl begun
  | ask => exact .inr begun

/-- One step stays in the phase, takes an arrow of the phases, or starts over with another daemon. -/
theorem step_moves (stands : Stands b phase) (policy : Policy) (input : Input) :
    ∃ next, Stands (b.step policy input) next ∧
      (phase.Moves next ∨ ∃ owner, input = .reset owner ∧ (next = .absent ∨ next = .asking)) := by
  have quiet : ∀ {after : Backend}, Still b after → ∃ next, Stands after next ∧
      (phase.Moves next ∨ ∃ owner, input = .reset owner ∧ (next = .absent ∨ next = .asking)) :=
    fun still => ⟨phase, still.stands stands, .inl (.stays phase)⟩
  cases input with
  | reset owner =>
    rcases reset_stands stands owner with absent | asking
    · exact ⟨.absent, absent, .inr ⟨owner, rfl, .inl rfl⟩⟩
    · exact ⟨.asking, asking, .inr ⟨owner, rfl, .inr rfl⟩⟩
  | retry =>
    obtain ⟨next, after, moves⟩ := initializeBackend_moves stands
    exact ⟨next, after, .inl moves⟩
  | callback callback =>
    dsimp only [step]
    split
    · exact quiet (.refl b)
    · exact quiet (callback_still b policy callback)
  | replied index answer =>
    obtain ⟨next, after, moves⟩ := replied_moves stands policy index answer
    exact ⟨next, after, .inl moves⟩
  | timeout index => exact quiet (timeout_apart b index).still
  | aliasTimeout index => exact quiet (aliasTimeout_still b index)
  | operate address operation => exact quiet (operate_apart b _ _ _).still
  | discover enabled => exact quiet (discover_apart b enabled).still
  | setAlias address newAlias => exact quiet (setAlias_still b _ _)
  | clearError => exact quiet (fail_still b _)
  | attach registered => exact quiet (paired_apart b (.attach registered) nofun).still
  | detach view => exact quiet (paired_apart b (.detach view) nofun).still
  | unregistered registered => exact quiet (paired_apart b (.unregistered registered) nofun).still
  | answer token accept pin => exact quiet (paired_apart b (.answer token accept pin) nofun).still
  | promptReplied index outcome => exact quiet (paired_apart b (.replied index outcome) nofun).still
  | bondState index state => exact quiet (paired_apart b (.bondState index state) nofun).still
  | promptExpired index => exact quiet (paired_apart b (.expire index) nofun).still
  | probe address => exact quiet (readDevice_apart b _).still
  | reconnect address => exact quiet (call_still b rfl)
  | reconcile address => exact quiet (call_still b rfl)

theorem run_stands (stands : Stands b phase) (inputs : List (Policy × Input)) : ∃ next, Stands (b.run inputs) next := by
  induction inputs generalizing b phase with
  | nil => exact ⟨phase, stands⟩
  | cons input rest ih =>
    obtain ⟨next, after, _⟩ := step_moves stands input.1 input.2
    exact ih after

theorem start_stands : Stands {} .absent :=
  ⟨⟨nofun, nofun, fun _ _ => rfl⟩, rfl, nofun⟩

/-- In every run the flags and the outstanding registrations are those of one of the phases, and each step follows their
arrows unless the daemon has changed. -/
theorem registrations_follow_the_phases (inputs : List (Policy × Input)) (policy : Policy) (input : Input) :
    ∃ phase next, Stands (run {} inputs) phase ∧ Stands ((run {} inputs).step policy input) next ∧
      (phase.Moves next ∨ ∃ owner, input = .reset owner ∧ (next = .absent ∨ next = .asking)) := by
  obtain ⟨phase, stands⟩ := run_stands start_stands inputs
  obtain ⟨next, after, moves⟩ := step_moves stands policy input
  exact ⟨phase, next, stands, after, moves⟩

end Backend
end FlossDesktop.Floss
