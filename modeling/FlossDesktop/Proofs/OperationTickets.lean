import FlossDesktop.Proofs.OperationBooks

/-! Operations are tickets of one desk. An operation is issued a number and a timer, and its
end, in whichever way it comes, gives the ticket back; the alias requests only use numbers
up. -/

namespace FlossDesktop.Floss.Backend

open Tickets Devices

/-- The addresses with an operation and the devices with a pending one are the keys of the
desk's current tickets. -/
structure Shows (b : Backend) (desk : Desk String String) : Prop where
  operations : ∀ address, b.operations address = (desk.current address).map Ticket.number
  pending : ∀ address, b.pending address = (desk.current address).map Ticket.purpose
  serial : b.serial = desk.last
  timers : b.timers = desk.timers
  fired : b.fired = desk.fired

def Booked (b : Backend) : Prop := ∃ desk, Shows b desk ∧ desk.Sound

/-- The books are kept while the daemon is the same, and a timer that has fired is not set
again. -/
structure Keeps (b after : Backend) : Prop where
  timely : Timely b after
  fired : ∀ timer ∈ b.fired, timer ∈ after.fired
  booked : Booked b → Booked after

variable {b after middle : Backend} {desk : Desk String String}

theorem Quiet.shows (quiet : Quiet b after) (shown : Shows b desk) : Shows after desk where
  operations := by
    rw [quiet.operations]
    exact shown.operations
  pending := fun address => (quiet.pending address).trans (shown.pending address)
  serial := quiet.serial.trans shown.serial
  timers := quiet.timers.trans shown.timers
  fired := quiet.fired.trans shown.fired

theorem Quiet.keeps (quiet : Quiet b after) : Keeps b after where
  timely := quiet.timely
  fired := fun _ member => quiet.fired ▸ member
  booked := fun ⟨desk, shown, sound⟩ => ⟨desk, quiet.shows shown, sound⟩

theorem Keeps.refl (b : Backend) : Keeps b b := (Quiet.refl b).keeps

theorem Keeps.trans (first : Keeps b middle) (last : Keeps middle after) : Keeps b after where
  timely := first.timely.trans last.timely
  fired := fun timer member => last.fired timer (first.fired timer member)
  booked := fun booked => last.booked (first.booked booked)

/-- The operation of an address has ended, and its device shows none. -/
theorem dropped_shows (shown : Shows b desk) (address : String)
    (operations : after.operations = Function.update b.operations address none)
    (pending : ∀ other, after.pending other = if other = address then none else b.pending other)
    (serial : after.serial = b.serial) (timers : after.timers = b.timers) (fired : after.fired = b.fired) :
    Shows after (desk.drop address) where
  operations := by
    intro other
    change after.operations other = (Function.update desk.current address none other).map Ticket.number
    rw [operations, Function.update_apply, Function.update_apply]
    split
    · rfl
    · exact shown.operations other
  pending := by
    intro other
    change after.pending other = (Function.update desk.current address none other).map Ticket.purpose
    rw [pending, Function.update_apply]
    split
    · rfl
    · exact shown.pending other
  serial := serial.trans shown.serial
  timers := timers.trans shown.timers
  fired := fired.trans shown.fired

theorem finish_timely (b : Backend) (address operation error : String) : Timely b (b.finish address operation error) := by
  unfold finish
  split
  · exact .refl b
  · have ended : Timely b ({ b with operations := Function.update b.operations address none }.modify address
        fun entry => { entry with pending := none }) := timely_idle rfl rfl
    dsimp only
    split
    · exact ended
    · exact ended.trans (fail_quiet _ error).timely

/-- An operation that is pending ends. -/
theorem finish_shows (shown : Shows b desk) {address operation : String} (error : String)
    (pending : (b.pending address).getD "" = operation) : Shows (b.finish address operation error) (desk.drop address) := by
  unfold finish
  rw [if_neg (by rw [pending, bne_self_eq_false]; exact Bool.false_ne_true)]
  have ended : Shows ({ b with operations := Function.update b.operations address none }.modify address
      fun entry => { entry with pending := none }) (desk.drop address) := by
    apply dropped_shows shown address
    · rfl
    · exact modify_pending _ address _
    · rfl
    · rfl
    · rfl
  dsimp only
  split
  · exact ended
  · exact (fail_quiet _ error).shows ended

theorem finish_fired (b : Backend) (address operation error : String) :
    (b.finish address operation error).fired = b.fired := by
  unfold finish
  split
  · rfl
  · dsimp only
    split <;> rfl

theorem finish_keeps (b : Backend) (address operation error : String) : Keeps b (b.finish address operation error) where
  timely := finish_timely b address operation error
  fired := fun _ member => finish_fired b address operation error ▸ member
  booked := by
    rintro ⟨desk, shown, sound⟩
    by_cases pending : (b.pending address).getD "" = operation
    · exact ⟨desk.drop address, finish_shows shown error pending, sound.drop address⟩
    · unfold finish
      rw [if_pos (bne_iff_ne.mpr pending)]
      exact ⟨desk, shown, sound⟩

/-- An address has begun an operation, and its timer runs. -/
theorem issued_shows (shown : Shows b desk) (address operation : String)
    (operations : after.operations = Function.update b.operations address (some (b.serial + 1)))
    (pending : ∀ other, after.pending other = if other = address then some operation else b.pending other)
    (serial : after.serial = b.serial + 1) (timers : after.timers = b.timers ++ [⟨address, operation, b.serial + 1⟩])
    (fired : after.fired = b.fired) : Shows after (desk.issue address operation) where
  operations := by
    intro other
    change after.operations other = (Function.update desk.current address _ other).map Ticket.number
    rw [operations, Function.update_apply, Function.update_apply]
    split
    · exact congrArg (fun last => some (last + 1)) shown.serial
    · exact shown.operations other
  pending := by
    intro other
    change after.pending other = (Function.update desk.current address _ other).map Ticket.purpose
    rw [pending, Function.update_apply]
    split
    · rfl
    · exact shown.pending other
  serial := serial.trans (congrArg (· + 1) shown.serial)
  timers := by
    rw [timers, shown.timers, shown.serial]
    rfl
  fired := fired.trans shown.fired

/-- The call may be refused when there is no daemon; the timer runs all the same. -/
theorem beginOperation_keeps (b : Backend) (address operation method : String) :
    Keeps b (b.beginOperation address operation method) := by
  unfold beginOperation
  dsimp only
  generalize begun_eq : ({ b with
    serial := b.serial + 1
    deviceRevisions := bump b.deviceRevisions address
    operations := Function.update b.operations address (some (b.serial + 1)) } : Backend).modify address
      (fun entry => { entry with pending := some operation }) = begun
  have begun_timely : Timely b begun := by
    subst begun_eq
    exact timely_idle rfl rfl
  have sent := call_quiet begun (.operate method (begun.deviceArgument address) operation begun.serial) true
  refine ⟨begun_timely.trans ⟨sent.timely.prompts, sent.timely.calls⟩, ?_, ?_⟩
  · intro timer member
    change timer ∈ (begun.call _ true).fired
    rw [sent.fired, ← begun_eq]
    exact member
  rintro ⟨desk, shown, sound⟩
  refine ⟨desk.issue address operation, issued_shows shown address operation ?_ ?_ ?_ ?_ ?_, sound.issue address operation⟩
  · exact sent.operations.trans (by rw [← begun_eq]; rfl)
  · intro other
    refine (sent.pending other).trans ?_
    rw [← begun_eq]
    exact modify_pending _ address _ other
  · exact sent.serial.trans (by rw [← begun_eq]; rfl)
  · change (begun.call _ true).timers ++ _ = _
    rw [sent.timers, ← begun_eq]
    rfl
  · exact sent.fired.trans (by rw [← begun_eq]; rfl)

theorem operate_keeps (b : Backend) (saved : Bool) (address operation : String) :
    Keeps b (b.operate saved address operation) := by
  unfold operate
  split
  · exact .refl b
  · split
    · exact (fail_quiet b _).keeps
    · split
      · exact beginOperation_keeps b _ _ _
      · exact (fail_quiet b _).keeps

theorem operated_keeps (b : Backend) (address operation : String) (serial : Nat) (answer : Answer) :
    Keeps b (b.operated address operation serial answer) := by
  unfold operated
  split
  · exact .refl b
  · split
    · exact finish_keeps b _ _ _
    · split
      · exact finish_keeps b _ _ _
      · split
        · have requested : Quiet b (b.modify address fun entry => { entry with profileRequest := some operation }) :=
            modify_quiet b _ _ fun _ => rfl
          exact requested.keeps.trans (finish_keeps _ _ _ _)
        · exact .refl b

/-- A name that is asked for takes a number, and no ticket. -/
theorem setAlias_keeps (b : Backend) (address newAlias : String) : Keeps b (b.setAlias address newAlias) := by
  unfold setAlias
  split
  · exact .refl b
  · split
    · exact (fail_quiet b _).keeps
    · have asked : Keeps b ({ b with
          serial := b.serial + 1
          aliasRevisions := bump b.aliasRevisions address
          aliasRequests := Function.update b.aliasRequests address (some (b.serial + 1)) } : Backend) := by
        refine ⟨timely_idle rfl rfl, fun _ member => member, ?_⟩
        rintro ⟨desk, shown, sound⟩
        exact ⟨desk.skip, ⟨shown.operations, shown.pending, congrArg (· + 1) shown.serial, shown.timers, shown.fired⟩,
          sound.skip⟩
      have marked := asked.trans (modify_quiet _ address (fun entry => { entry with aliasPending := true }) fun _ => rfl).keeps
      exact marked.trans (call_quiet _ _ _).keeps

theorem clearPairing_quiet (b : Backend) (address : String) : Quiet b (b.clearPairing address) :=
  pairing_quiet b (Pairing.Backend.clearPairing_timely b.pairing address)

/-- A device that is gone has no operation. -/
theorem deviceCleared_keeps (b : Backend) (address : String) : Keeps b (b.deviceCleared address) := by
  unfold deviceCleared
  dsimp only
  apply Keeps.trans _ (clearPairing_quiet _ address).keeps
  refine ⟨timely_idle rfl rfl, fun _ member => member, ?_⟩
  rintro ⟨desk, shown, sound⟩
  refine ⟨desk.drop address, dropped_shows shown address rfl ?_ rfl rfl rfl, sound.drop address⟩
  intro other
  change (Function.update b.devices address none other).bind _ = _
  rw [Function.update_apply]
  split
  · rfl
  · rfl

/-- The connection that follows a bond is an operation of its own. -/
theorem settleBond_keeps (b : Backend) (saved : Bool) (status : Nat) (address : String) (state : Nat) :
    Keeps b (b.settleBond saved status address state) := by
  unfold settleBond
  have finished := finish_keeps b address "pair" (bondFailure status state)
  have forgotten : Keeps b (if state == 0 then (b.finish address "pair" (bondFailure status state)).finish address "forget" ""
      else b.finish address "pair" (bondFailure status state)) := by
    split
    · exact finished.trans (finish_keeps _ _ _ _)
    · exact finished
  have cleared := forgotten.trans (clearPairing_quiet _ address).keeps
  dsimp only
  split
  · exact cleared.trans (operate_keeps _ _ _ _)
  · exact cleared

theorem bondStateChanged_keeps (b : Backend) (saved : Bool) (status : Nat) (address : String) (state : Nat) :
    Keeps b (b.bondStateChanged saved status address state) := by
  unfold bondStateChanged
  have stored := (met_quiet b ⟨address, address⟩).trans
    (modify_quiet _ address (fun entry => { entry with paired := some (state == 2) }) fun _ => rfl)
  dsimp only
  split
  · exact stored.keeps
  · exact stored.keeps.trans (settleBond_keeps _ _ _ _ _)

theorem connectionFailed_keeps (b : Backend) (automatic : Bool) (device : Remote) (status : Nat) :
    Keeps b (b.connectionFailed automatic device status) := by
  unfold connectionFailed
  have finished := finish_keeps b device.address "connect" ""
  have cut : Keeps b (if ((b.finish device.address "connect" "").devices device.address).isNone then
      b.finish device.address "connect" ""
    else (b.finish device.address "connect" "").modify device.address fun entry => { entry with profileRequest := none }) := by
    split
    · exact finished
    · apply finished.trans
      apply Quiet.keeps
      exact modify_quiet _ _ _ fun _ => rfl
  dsimp only
  split
  · exact cut
  · exact cut.trans (fail_quiet _ _).keeps

theorem callback_keeps (b : Backend) (policy : Policy) (callback : Callback) : Keeps b (b.callback policy callback) := by
  cases callback with
  | deviceFound device => exact (readDevice_quiet b device).keeps
  | devicePropertiesChanged device => exact (readDevice_quiet b device).keeps
  | deviceCleared address => exact deviceCleared_keeps b address
  | discoveringChanged discovering =>
    exact (quiet_aside rfl : Quiet b { b with discovering }).keeps
  | bondStateChanged status address state => exact bondStateChanged_keeps b _ _ _ _
  | deviceConnected device => exact (linkChanged_quiet b device true).keeps
  | deviceDisconnected device => exact (linkChanged_quiet b device false).keeps
  | deviceConnectionFailed device status => exact connectionFailed_keeps b _ _ _
  | sspRequest device variant passkey =>
    dsimp only [Backend.callback]
    split
    · exact (prompted_quiet b device (.sspRequest device.address variant passkey) nofun).keeps
    · exact .refl b
  | pinRequest device min16 => exact (prompted_quiet b device (.pinRequest device.address min16) nofun).keeps
  | pinDisplay device code => exact (prompted_quiet b device (.pinDisplay device.address code) nofun).keeps
  | batteryInfoUpdated address set => exact (batteryCallback_quiet b _ _).keeps

theorem returned_keeps (b : Backend) (policy : Policy) (answer : Answer) (request : Request) :
    Keeps b (b.returned policy answer request) := by
  have stopped : Quiet b { b with initializing := false } := quiet_aside rfl
  cases request with
  | registerCallback =>
    dsimp only [returned]
    split
    · exact stopped.keeps
    · apply Quiet.keeps
      exact (quiet_aside rfl : Quiet b { b with callbackRegistered := true }).trans (call_quiet _ _ _)
  | registerConnectionCallback =>
    dsimp only [returned]
    split
    · exact stopped.keeps
    · exact (registered_quiet b).keeps
  | isDiscovering =>
    dsimp only [returned]
    split
    · exact .refl b
    · exact (quiet_aside rfl : Quiet b { b with discovering := answer.toBool }).keeps
  | getBondedDevices => exact (listed_quiet b answer).keeps
  | getConnectedDevices => exact (listed_quiet b answer).keeps
  | read property device revision => exact (snapshot_quiet b _ _ _ _).keeps
  | discovery enabled =>
    dsimp only [returned]
    split
    · exact (fail_quiet b _).keeps
    · exact .refl b
  | operate method device operation serial => exact operated_keeps b _ _ _ _
  | getRemoteAlias device revision => exact (aliasRead_quiet b _ _ _).keeps
  | setRemoteAlias device newAlias request => exact (aliasSet_quiet b _ _ _ _).keeps
  | confirmAlias device newAlias request attempts => exact (aliasConfirmed_quiet b _ _ _ _ _).keeps
  | registerBatteryCallback => exact (batteryReady_quiet b answer).keeps
  | getBatteryInformation address revision => exact (batteryRead_quiet b _ _ _).keeps
  | connectAllEnabledProfiles device =>
    dsimp only [returned]
    split
    · exact (readDevice_quiet b _).keeps
    · exact .refl b
  | disconnectAllEnabledProfiles device => exact .refl b

/-- A call that has returned is outstanding no more. -/
theorem heard_keeps (b : Backend) (index : Nat) : Keeps b { b with calls := b.calls.eraseIdx index } where
  timely := ⟨.refl _, fun _ member => .inl (List.mem_of_mem_eraseIdx member)⟩
  fired := fun _ member => member
  booked := fun ⟨desk, shown, sound⟩ =>
    ⟨desk, ⟨shown.operations, shown.pending, shown.serial, shown.timers, shown.fired⟩, sound⟩

theorem replied_keeps (b : Backend) (policy : Policy) (index : Nat) (answer : Answer) :
    Keeps b (b.replied policy index answer) := by
  unfold replied
  split
  · exact .refl b
  · dsimp only
    split
    · exact heard_keeps b index
    · exact ((heard_keeps b index).trans (reported_quiet _ _ _).keeps).trans (returned_keeps _ _ _ _)

theorem aliasTimeout_keeps (b : Backend) (index : Nat) : Keeps b (b.aliasTimeout index) := by
  unfold aliasTimeout
  split
  · exact .refl b
  · have heard : Quiet b { b with aliasTimers := b.aliasTimers.eraseIdx index } := quiet_aside rfl
    dsimp only
    split
    · exact heard.keeps
    · exact (heard.trans (confirmAlias_quiet _ _ _ _ _)).keeps

/-- The timer of an operation ends it, unless the desk has taken the ticket back. -/
theorem timeout_shows (shown : Shows b desk) (sound : desk.Sound) (index : Nat) :
    Shows (b.timeout index) (desk.fire index) := by
  unfold timeout Desk.fire
  rw [← shown.timers]
  cases found : b.timers[index]? with
  | none => exact shown
  | some timer =>
    have heard : Shows { b with timers := b.timers.eraseIdx index, fired := b.fired ++ [timer] }
        { desk with timers := b.timers.eraseIdx index, fired := desk.fired ++ [timer] } :=
      ⟨shown.operations, shown.pending, shown.serial, rfl, congrArg (· ++ [timer]) shown.fired⟩
    have inside : timer ∈ desk.timers := shown.timers ▸ List.mem_of_getElem? found
    dsimp only [timedOut]
    split
    · next live =>
      obtain ⟨ticket, current, number⟩ := Option.map_eq_some_iff.mp ((shown.operations timer.key).symm.trans live)
      have same : ticket = timer :=
        List.inj_on_of_nodup_map sound.numbered (sound.timed _ ticket current) inside number
      subst same
      rw [if_pos current]
      apply finish_shows heard
      change (b.pending ticket.key).getD "" = _
      rw [shown.pending, current]
      rfl
    · next stale =>
      rw [if_neg]
      · exact heard
      · intro current
        apply stale
        rw [shown.operations, current]
        rfl

theorem timedOut_timely (b : Backend) (timer : Ticket String String) : Timely b (b.timedOut timer) := by
  unfold timedOut
  split
  · exact finish_timely b _ _ _
  · exact .refl b

theorem timedOut_fired (b : Backend) (timer : Ticket String String) : (b.timedOut timer).fired = b.fired := by
  unfold timedOut
  split
  · exact finish_fired b _ _ _
  · rfl

theorem timeout_fired {index : Nat} {timer : Ticket String String} (found : b.timers[index]? = some timer) :
    (b.timeout index).fired = b.fired ++ [timer] := by
  unfold timeout
  rw [found]
  exact timedOut_fired _ timer

theorem timeout_keeps (b : Backend) (index : Nat) : Keeps b (b.timeout index) where
  timely := by
    unfold timeout
    split
    · exact .refl b
    · next timer _ =>
      exact (timely_idle rfl rfl : Timely b { b with
        timers := b.timers.eraseIdx index, fired := b.fired ++ [timer] }).trans (timedOut_timely _ _)
  fired := by
    intro timer member
    cases found : b.timers[index]? with
    | none =>
      unfold timeout
      rw [found]
      exact member
    | some spent =>
      rw [timeout_fired found]
      exact List.mem_append_left _ member
  booked := fun ⟨desk, shown, sound⟩ => ⟨desk.fire index, timeout_shows shown sound index, sound.fire index⟩

/-- Everything but a change of the daemon. -/
theorem step_keeps (b : Backend) (policy : Policy) (input : Input) (same : ∀ owner, input ≠ .reset owner) :
    Keeps b (b.step policy input) := by
  cases input with
  | reset owner => exact absurd rfl (same owner)
  | retry => exact (initializeBackend_quiet b).keeps
  | callback callback =>
    dsimp only [step]
    split
    · exact .refl b
    · exact callback_keeps b policy callback
  | replied index answer => exact replied_keeps b policy index answer
  | timeout index => exact timeout_keeps b index
  | aliasTimeout index => exact aliasTimeout_keeps b index
  | operate address operation => exact operate_keeps b _ _ _
  | discover enabled => exact (discover_quiet b enabled).keeps
  | setAlias address newAlias => exact setAlias_keeps b _ _
  | clearError => exact (fail_quiet b _).keeps
  | attach registered => exact (paired_quiet b (.attach registered) nofun).keeps
  | detach view => exact (paired_quiet b (.detach view) nofun).keeps
  | unregistered registered => exact (paired_quiet b (.unregistered registered) nofun).keeps
  | answer token accept pin => exact (paired_quiet b (.answer token accept pin) nofun).keeps
  | promptReplied index outcome => exact (paired_quiet b (.replied index outcome) nofun).keeps
  | bondState index state => exact (paired_quiet b (.bondState index state) nofun).keeps
  | promptExpired index => exact (paired_quiet b (.expire index) nofun).keeps
  | probe address => exact (readDevice_quiet b _).keeps
  | reconnect address => exact (call_quiet b _ _).keeps
  | reconcile address => exact (call_quiet b _ _).keeps

end FlossDesktop.Floss.Backend
