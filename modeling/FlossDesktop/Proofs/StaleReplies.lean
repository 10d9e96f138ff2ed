import FlossDesktop.Proofs.OperationTickets

/-! What is stale does nothing. A reply or a timer carries the serial of its operation, and
every call the epoch in which it was made; a serial is used once, and an epoch never comes
back. -/

namespace FlossDesktop.Floss.Backend

open Tickets Devices

variable {b after former : Backend}

theorem reset_quiet (b : Backend) (owner : String) : Quiet (b.cleared owner) (b.reset owner) :=
  initializeBackend_quiet (b.cleared owner)

/-- The desk is cleared, and its numbers go on. -/
theorem reset_booked (booked : Booked b) (owner : String) : Booked (b.reset owner) := by
  obtain ⟨desk, shown, sound⟩ := booked
  have emptied : Shows (b.cleared owner) desk.clear :=
    ⟨fun _ => rfl, fun _ => rfl, shown.serial, shown.timers, shown.fired⟩
  exact ⟨desk.clear, (reset_quiet b owner).shows emptied, sound.clear⟩

/-- A step within an epoch keeps what `Keeps` says, and the others are changes of the daemon. -/
theorem step_cases (b : Backend) (policy : Policy) (input : Input) :
    (∃ owner, input = .reset owner) ∨ Keeps b (b.step policy input) := by
  by_cases change : ∃ owner, input = .reset owner
  · exact .inl change
  · exact .inr (step_keeps b policy input fun owner same => change ⟨owner, same⟩)

theorem step_booked (booked : Booked b) (policy : Policy) (input : Input) : Booked (b.step policy input) := by
  rcases step_cases b policy input with ⟨owner, rfl⟩ | keeps
  · exact reset_booked booked owner
  · exact keeps.booked booked

theorem run_booked (booked : Booked b) (inputs : List (Policy × Input)) : Booked (b.run inputs) := by
  induction inputs generalizing b with
  | nil => exact booked
  | cons input rest ih => exact ih (step_booked booked input.1 input.2)

theorem booked_start : Booked ({} : Backend) :=
  ⟨{}, ⟨fun _ => rfl, fun _ => rfl, rfl, rfl, rfl⟩, Desk.sound_empty⟩

/-- An address is busy just when its device shows a pending operation. -/
theorem Booked.busy (booked : Booked b) (address : String) : (b.operations address).isSome ↔
    ∃ entry operation, b.devices address = some entry ∧ entry.pending = some operation := by
  obtain ⟨desk, shown, _⟩ := booked
  have pending : (b.pending address).isSome ↔
      ∃ entry operation, b.devices address = some entry ∧ entry.pending = some operation := by
    unfold Backend.pending
    rw [Option.isSome_iff_exists]
    constructor
    · rintro ⟨operation, holds⟩
      obtain ⟨entry, stored, same⟩ := Option.bind_eq_some_iff.mp holds
      exact ⟨entry, operation, stored, same⟩
    · rintro ⟨entry, operation, stored, same⟩
      exact ⟨operation, Option.bind_eq_some_iff.mpr ⟨entry, stored, same⟩⟩
  rw [← pending, shown.operations, shown.pending, Option.isSome_map, Option.isSome_map]

theorem Booked.apart (booked : Booked b) {first second : String} {serial : Nat} (holds : b.operations first = some serial)
    (also : b.operations second = some serial) : first = second := by
  obtain ⟨desk, shown, sound⟩ := booked
  obtain ⟨ticket, current, number⟩ := Option.map_eq_some_iff.mp ((shown.operations first).symm.trans holds)
  obtain ⟨other, elsewhere, same⟩ := Option.map_eq_some_iff.mp ((shown.operations second).symm.trans also)
  exact sound.apart current elsewhere (number.trans same.symm)

/-- The timer of a running operation has yet to fire. -/
theorem Booked.timed (booked : Booked b) {address : String} {serial : Nat} (holds : b.operations address = some serial) :
    (∃ timer ∈ b.timers, timer.key = address ∧ timer.number = serial) ∧ ∀ timer ∈ b.fired, timer.number ≠ serial := by
  obtain ⟨desk, shown, sound⟩ := booked
  obtain ⟨ticket, current, number⟩ := Option.map_eq_some_iff.mp ((shown.operations address).symm.trans holds)
  rw [shown.timers, shown.fired]
  refine ⟨⟨ticket, sound.timed address ticket current, sound.keyed address ticket current, number⟩, ?_⟩
  intro timer fired same
  exact sound.spent current fired (number.trans same.symm)

theorem step_fired (b : Backend) (policy : Policy) (input : Input) {timer : Ticket String String} (member : timer ∈ b.fired) :
    timer ∈ (b.step policy input).fired := by
  rcases step_cases b policy input with ⟨owner, rfl⟩ | keeps
  · change timer ∈ (b.reset owner).fired
    rw [(reset_quiet b owner).fired]
    exact member
  · exact keeps.fired timer member

theorem run_fired (inputs : List (Policy × Input)) {timer : Ticket String String} (member : timer ∈ b.fired) :
    timer ∈ (b.run inputs).fired := by
  induction inputs generalizing b with
  | nil => exact member
  | cons input rest ih => exact ih (step_fired b input.1 input.2 member)

/-- An operation whose timer fires has ended, and its device shows it no more. -/
theorem Booked.timed_out (booked : Booked b) {index : Nat} {timer : Ticket String String}
    (found : b.timers[index]? = some timer) (live : b.operations timer.key = some timer.number) :
    (b.timeout index).operations timer.key = none ∧ (b.timeout index).pending timer.key = none := by
  obtain ⟨desk, shown, sound⟩ := booked
  have after := timeout_shows shown sound index
  obtain ⟨ticket, current, number⟩ := Option.map_eq_some_iff.mp ((shown.operations timer.key).symm.trans live)
  have inside : timer ∈ desk.timers := shown.timers ▸ List.mem_of_getElem? found
  obtain rfl : ticket = timer := List.inj_on_of_nodup_map sound.numbered (sound.timed _ ticket current) inside number
  have ended : (desk.fire index).current ticket.key = none := by
    rw [shown.timers] at found
    simp only [Desk.fire, found, current, if_true, Function.update_self]
  rw [after.operations, after.pending, ended]
  exact ⟨rfl, rfl⟩

/-- The serial of a timer that has fired is in no later state that of an operation. -/
theorem Booked.never_again (booked : Booked b) {index : Nat} {timer : Ticket String String}
    (found : b.timers[index]? = some timer) (later : List (Policy × Input)) (address : String) :
    ((b.timeout index).run later).operations address ≠ some timer.number := by
  intro live
  have spent : timer ∈ ((b.timeout index).run later).fired := by
    apply run_fired
    rw [timeout_fired found]
    exact List.mem_append_right _ (List.mem_singleton_self _)
  exact ((run_booked ((timeout_keeps b index).booked booked) later).timed live).2 timer spent rfl

/-- No outstanding call is from a later epoch. -/
structure Dated (b : Backend) : Prop where
  calls : ∀ call ∈ b.calls, call.epoch ≤ b.epoch
  prompts : ∀ call ∈ b.pairing.calls, call.epoch ≤ b.epoch
  checks : ∀ check ∈ b.pairing.checks, check.epoch ≤ b.epoch

theorem Timely.dated (timely : Timely b after) (dated : Dated b) : Dated after := by
  have same : after.epoch = b.epoch := timely.prompts.epoch
  constructor
  · intro call member
    rcases timely.calls call member with old | now
    · exact same ▸ dated.calls call old
    · exact (now.trans same.symm).le
  · intro call member
    obtain ⟨index, found⟩ := List.mem_iff_getElem?.mp member
    rcases timely.prompts.calls index call found with ⟨old, before, equal⟩ | ⟨_, now⟩
    · rw [← equal, same]
      exact dated.prompts old (List.mem_of_getElem? before)
    · exact (now.trans same.symm).le
  · intro check member
    rcases timely.prompts.checks check member with old | now
    · exact same ▸ dated.checks check old
    · exact (now.trans same.symm).le

theorem step_dated (dated : Dated b) (policy : Policy) (input : Input) : Dated (b.step policy input) := by
  rcases step_cases b policy input with ⟨owner, rfl⟩ | keeps
  · have emptied : Dated (b.cleared owner) :=
      ⟨fun call member => (dated.calls call member).trans (Nat.le_succ _),
        fun call member => (dated.prompts call member).trans (Nat.le_succ _),
        fun check member => (dated.checks check member).trans (Nat.le_succ _)⟩
    exact (reset_quiet b owner).timely.dated emptied
  · exact keeps.timely.dated dated

theorem run_dated (dated : Dated b) (inputs : List (Policy × Input)) : Dated (b.run inputs) := by
  induction inputs generalizing b with
  | nil => exact dated
  | cons input rest ih => exact ih (step_dated dated input.1 input.2)

theorem dated_start : Dated ({} : Backend) :=
  ⟨fun _ member => absurd member List.not_mem_nil, fun _ member => absurd member List.not_mem_nil,
    fun _ member => absurd member List.not_mem_nil⟩

/-- A former epoch has ended, and the prompts' calls of its time keep their places. -/
structure Outlives (b former : Backend) : Prop where
  newer : former.epoch < b.epoch
  longer : former.pairing.calls.length ≤ b.pairing.calls.length
  prompts : ∀ index < former.pairing.calls.length, ∀ call, b.pairing.calls[index]? = some call → call.epoch ≤ former.epoch

theorem Timely.outlives (timely : Timely b after) (outlives : Outlives b former) : Outlives after former where
  newer := outlives.newer.trans_eq timely.prompts.epoch.symm
  longer := outlives.longer.trans timely.prompts.longer
  prompts := by
    intro index inside call found
    rcases timely.prompts.calls index call found with ⟨old, before, equal⟩ | ⟨new, _⟩
    · exact equal ▸ outlives.prompts index inside old before
    · have longer := outlives.longer
      omega

/-- The epoch in which the daemon changes is over. -/
theorem reset_outlives (dated : Dated b) (owner : String) : Outlives (b.reset owner) b := by
  apply (reset_quiet b owner).timely.outlives
  exact ⟨Nat.lt_succ_self _, le_rfl, fun index _ call found => dated.prompts call (List.mem_of_getElem? found)⟩

theorem step_outlives (outlives : Outlives b former) (policy : Policy) (input : Input) :
    Outlives (b.step policy input) former := by
  rcases step_cases b policy input with ⟨owner, rfl⟩ | keeps
  · apply (reset_quiet b owner).timely.outlives
    exact ⟨outlives.newer.trans (Nat.lt_succ_self _), outlives.longer, outlives.prompts⟩
  · exact keeps.timely.outlives outlives

theorem run_outlives (outlives : Outlives b former) (inputs : List (Policy × Input)) : Outlives (b.run inputs) former := by
  induction inputs generalizing b with
  | nil => exact outlives
  | cons input rest ih => exact ih (step_outlives outlives input.1 input.2)

theorem run_append (b : Backend) (first last : List (Policy × Input)) : b.run (first ++ last) = (b.run first).run last :=
  List.foldl_append

/-- Nothing that a user sees of devices, operations and prompts has changed. -/
structure Same (b after : Backend) : Prop where
  devices : after.devices = b.devices
  operations : after.operations = b.operations
  pairing : after.pairing.pairing = b.pairing.pairing
  pairingCache : after.pairing.pairingCache = b.pairing.pairingCache

theorem Same.refl (b : Backend) : Same b b := ⟨rfl, rfl, rfl, rfl⟩

theorem reported_same (b : Backend) (reportErrors : Bool) (answer : Answer) : Same b (b.reported reportErrors answer) := by
  unfold reported
  split
  · split
    · exact ⟨rfl, rfl, rfl, rfl⟩
    · exact .refl b
  · exact .refl b

/-- The reply to a call of an epoch that is over. -/
theorem replied_past (policy : Policy) {index : Nat} (answer : Answer) {call : Call} (found : b.calls[index]? = some call)
    (past : call.epoch < b.epoch) : Same b (b.replied policy index answer) := by
  unfold replied
  rw [found]
  dsimp only
  rw [if_pos past.ne]
  exact ⟨rfl, rfl, rfl, rfl⟩

theorem promptReplied_past {index : Nat} (outcome : Pairing.Outcome)
    (past : ∀ call, b.pairing.calls[index]? = some call → call.epoch < b.epoch) : Same b (b.paired (.replied index outcome)) := by
  obtain ⟨pairing, pairingCache⟩ := Pairing.Backend.replied_past outcome past
  exact ⟨rfl, rfl, pairing, pairingCache⟩

theorem bondState_past {index : Nat} (state : Except String Nat) {check : Pairing.Ticket}
    (found : b.pairing.checks[index]? = some check) (past : check.epoch < b.epoch) :
    Same b (b.paired (.bondState index state)) := by
  obtain ⟨pairing, pairingCache⟩ := Pairing.Backend.bondStateReturned_past state found past
  exact ⟨rfl, rfl, pairing, pairingCache⟩

/-- The reply to an operation that is no longer the one of its address. -/
theorem replied_stale (policy : Policy) {index : Nat} (answer : Answer) {epoch serial : Nat} {method operation : String}
    {device : Remote} {reportErrors : Bool}
    (found : b.calls[index]? = some ⟨epoch, .operate method device operation serial, reportErrors⟩)
    (stale : b.operations device.address ≠ some serial) : Same b (b.replied policy index answer) := by
  unfold replied
  rw [found]
  dsimp only
  split
  · exact ⟨rfl, rfl, rfl, rfl⟩
  · have told := reported_same { b with calls := b.calls.eraseIdx index } reportErrors answer
    dsimp only [returned, operated]
    rw [if_pos]
    · exact ⟨told.devices, told.operations, told.pairing, told.pairingCache⟩
    · rw [told.operations]
      exact stale

theorem timeout_stale {index : Nat} {timer : Ticket String String} (found : b.timers[index]? = some timer)
    (stale : b.operations timer.key ≠ some timer.number) : Same b (b.timeout index) := by
  unfold timeout
  rw [found]
  dsimp only [timedOut]
  rw [if_neg stale]
  exact ⟨rfl, rfl, rfl, rfl⟩

/-- A pairing runs out of time, and another device asks for an answer, which is given. -/
def strayed : List (Policy × Input) :=
  [.reset ":1.5", .replied 0 (.number 1), .replied 0 (.number 2), .callback (.deviceFound ⟨"A", "phone"⟩),
    .operate "A" "pair", .timeout 0, .attach true, .callback (.sspRequest ⟨"B", "speaker"⟩ 0 7),
    .answer 0 true ""].map fun input => (⟨true, false, true⟩, input)

/-- The books agree in every state, a timer ends its operation if that still runs, and
nothing stale changes what a user sees. -/
theorem bookkeeping (inputs : List (Policy × Input)) :
    let b := ({} : Backend).run inputs
    (∀ address, (b.operations address).isSome ↔
      ∃ entry operation, b.devices address = some entry ∧ entry.pending = some operation) ∧
    (∀ first second serial, b.operations first = some serial → b.operations second = some serial → first = second) ∧
    (∀ address serial, b.operations address = some serial →
      (∃ timer ∈ b.timers, timer.key = address ∧ timer.number = serial) ∧ ∀ timer ∈ b.fired, timer.number ≠ serial) ∧
    (∀ policy index timer, b.timers[index]? = some timer →
      (∀ later address, ((b.step policy (.timeout index)).run later).operations address ≠ some timer.number) ∧
      (b.operations timer.key = some timer.number → (b.step policy (.timeout index)).operations timer.key = none ∧
        (b.step policy (.timeout index)).pending timer.key = none)) ∧
    (∀ policy index answer epoch method device operation serial reportErrors,
      b.calls[index]? = some ⟨epoch, .operate method device operation serial, reportErrors⟩ →
        b.operations device.address ≠ some serial → Same b (b.step policy (.replied index answer))) ∧
    (∀ policy index timer, b.timers[index]? = some timer → b.operations timer.key ≠ some timer.number →
      Same b (b.step policy (.timeout index))) ∧
    ∀ before owner after (change : Policy), inputs = before ++ (change, .reset owner) :: after →
      let former := ({} : Backend).run before
      (∀ policy index answer, ∀ call ∈ former.calls, b.calls[index]? = some call →
        Same b (b.step policy (.replied index answer))) ∧
      (∀ policy outcome, ∀ index < former.pairing.calls.length, Same b (b.step policy (.promptReplied index outcome))) ∧
      ∀ policy index state, ∀ check ∈ former.pairing.checks, b.pairing.checks[index]? = some check →
        Same b (b.step policy (.bondState index state)) := by
  intro b
  have booked : Booked b := run_booked booked_start inputs
  refine ⟨booked.busy, fun _ _ _ => booked.apart, fun _ _ => booked.timed, ?_, ?_, ?_, ?_⟩
  · exact fun policy index timer found => ⟨booked.never_again found, booked.timed_out found⟩
  · intro policy index answer epoch method device operation serial reportErrors found stale
    exact replied_stale policy answer found stale
  · intro policy index timer found stale
    exact timeout_stale found stale
  · intro before owner after change split former
    have dated : Dated former := run_dated dated_start before
    have outlives : Outlives b former := by
      change Outlives (({} : Backend).run inputs) former
      rw [split, run_append]
      exact run_outlives (reset_outlives dated owner) after
    refine ⟨?_, ?_, ?_⟩
    · intro policy index answer call member found
      exact replied_past policy answer found ((dated.calls call member).trans_lt outlives.newer)
    · intro policy outcome index inside
      apply promptReplied_past
      intro call found
      exact (outlives.prompts index inside call found).trans_lt outlives.newer
    · intro policy index state check member found
      exact bondState_past state found ((dated.checks check member).trans_lt outlives.newer)

/-- The timer of the pairing ends it, the reply to it comes later, and the reply to the answer
after a new daemon. -/
theorem bookkeeping_strayed :
    ((({} : Backend).run (strayed.take 5)).step ⟨true, false, true⟩ (.timeout 0)).operations "A" = none ∧
    Same (({} : Backend).run strayed) ((({} : Backend).run strayed).step ⟨true, false, true⟩ (.replied 7 (.number 0))) ∧
    Same (({} : Backend).run (strayed ++ [(⟨true, false, true⟩, .reset ":1.6")]))
      ((({} : Backend).run (strayed ++ [(⟨true, false, true⟩, .reset ":1.6")])).step ⟨true, false, true⟩
        (.promptReplied 0 .accepted)) := by
  refine ⟨?_, ?_, ?_⟩
  · obtain ⟨_, _, _, fires, _⟩ := bookkeeping (strayed.take 5)
    refine ((fires ⟨true, false, true⟩ 0 ⟨"A", "pair", 1⟩ ?_).2 ?_).1
    · decide +kernel
    · decide +kernel
  · obtain ⟨_, _, _, _, stale, _⟩ := bookkeeping strayed
    apply stale ⟨true, false, true⟩ 7 (.number 0) 1 "CreateBond" ⟨"A", "phone"⟩ "pair" 1 true
    · decide +kernel
    · decide +kernel
  · obtain ⟨_, _, _, _, _, _, former⟩ := bookkeeping (strayed ++ [(⟨true, false, true⟩, .reset ":1.6")])
    apply (former strayed ":1.6" [] ⟨true, false, true⟩ rfl).2.1
    decide +kernel

end FlossDesktop.Floss.Backend
