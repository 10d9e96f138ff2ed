import FlossDesktop.Library.Monitor
import FlossDesktop.RadioPower

/-! A power request is a protocol of its own, whatever polls, late replies and further requests
come in between. Exactly one of its steps is under way as long as it is pending, the radio is
only started when it was seen not to be blocked, and polls that began before do not count. -/

namespace FlossDesktop.RadioPower

/-- Where a power request is. -/
inductive Phase where
  | idle
  | starting (enabled : Bool)
  | asking
  | granted
  | blocked
  | unblocking
  | unblocked (attempts : Nat)
  | confirming (attempts : Nat)
  | still (attempts : Nat)
  | sleeping (attempts : Nat)
  | switching (enabled : Bool)
  | ending
deriving Repr, DecidableEq

namespace Phase

/-- What a read of the block state decides, of a radio that may be missing only the first time. -/
def read (soft : Phase) (required : Bool) : Message → Phase
  | .rfkillState available hardBlocked softBlocked =>
    if required && !available then .ending
    else if available && hardBlocked then .ending
    else if available && softBlocked then soft
    else .granted
  | _ => .ending

/-- The protocol. Polls are no part of it, but none is sent while it is under way. -/
def watch : Phase → Mark → Option Phase
  | phase, .answered (.refresh _) _ => some phase
  | .idle, .sent (.refresh _) => some .idle
  | .idle, .requested enabled => some (.starting enabled)
  | .starting true, .sent .setPowered => some .asking
  | .starting false, .sent (.managerPower false) => some (.switching false)
  | .asking, .answered .setPowered message => some (read .blocked false message)
  | .granted, .sent (.managerPower true) => some (.switching true)
  | .blocked, .sent .unblock => some .unblocking
  | .unblocking, .answered .unblock message => some (if message = .flag true then .unblocked 10 else .ending)
  | .unblocked attempts, .sent (.confirm left) => if left = attempts then some (.confirming attempts) else none
  | .confirming attempts, .answered (.confirm left) message =>
    if left = attempts then some (read (if attempts ≤ 1 then .ending else .still attempts) true message) else none
  | .still attempts, .slept left => if left = attempts then some (.sleeping attempts) else none
  | .sleeping attempts, .woke left => if left = attempts then some (.unblocked (attempts - 1)) else none
  | .switching enabled, .answered (.managerPower answered) _ => if answered = enabled then some .ending else none
  | .ending, .ended => some .idle
  | _, _ => none

/-- What is outstanding for a request between two events. -/
def outstanding : Phase → List Task
  | .asking => [.call .setPowered]
  | .unblocking => [.call .unblock]
  | .confirming attempts => [.call (.confirm attempts)]
  | .sleeping attempts => [.timer attempts]
  | .switching enabled => [.call (.managerPower enabled)]
  | _ => []

/-- Between two events a request is at rest. -/
def rests : Phase → Bool
  | .idle | .asking | .unblocking | .confirming _ | .sleeping _ | .switching _ => true
  | _ => false

/-- What was seen of the radio when a phase was entered, and has to be shown as long as it lasts. -/
def shows (backend : Backend) : Phase → Prop
  | .unblocking | .confirming _ | .sleeping _ =>
    backend.radioAvailable = true ∧ backend.hardBlocked = false ∧ backend.softBlocked = true
  | .switching true => backend.hardBlocked = false ∧ backend.softBlocked = false
  | _ => True

end Phase

def Task.isPower : Task → Bool
  | .call (.refresh _) => false
  | _ => true

/-- The state of the backend agrees with the phase of its power request. -/
structure Agrees (backend : Backend) (phase : Phase) : Prop where
  rests : phase.rests = true
  pending : backend.powerPending = true ↔ phase ≠ .idle
  power : backend.tasks.filter Task.isPower = phase.outstanding
  polls : (backend.tasks.filter fun task => !task.isPower).length = if backend.radioReading then 1 else 0
  stale : ∀ revision, .call (.refresh revision) ∈ backend.tasks →
    revision ≤ backend.radioRevision ∧ (backend.powerPending = true → revision < backend.radioRevision)
  shown : phase.shows backend
  present : backend.radioAvailable = false → backend.hardBlocked = false ∧ backend.softBlocked = false

theorem Agrees.start : Agrees {} .idle :=
  ⟨rfl, by simp, rfl, rfl, by simp, trivial, fun _ => ⟨rfl, rfl⟩⟩

theorem Agrees.fails {backend : Backend} {phase : Phase} (agrees : Agrees backend phase) (message : String) :
    Agrees (backend.fail message) phase := by
  refine ⟨agrees.rests, agrees.pending, agrees.power, agrees.polls, agrees.stale, ?_, agrees.present⟩
  have shown := agrees.shown
  cases phase with
  | switching enabled =>
    cases enabled
    · trivial
    · exact shown
  | _ => exact shown

/-- The backend in the middle of a step of a request: nothing is outstanding for it. -/
structure Open (backend : Backend) : Prop where
  pending : backend.powerPending = true
  power : backend.tasks.filter Task.isPower = []
  polls : (backend.tasks.filter fun task => !task.isPower).length = if backend.radioReading then 1 else 0
  stale : ∀ revision, .call (.refresh revision) ∈ backend.tasks → revision < backend.radioRevision
  present : backend.radioAvailable = false → backend.hardBlocked = false ∧ backend.softBlocked = false

namespace Open

variable {backend : Backend} (opened : Open backend)
include opened

/-- A step that leaves one more task for the request. -/
theorem leaves {task : Task} (isPower : task.isPower = true) {phase : Phase} (rests : phase.rests = true) (busy : phase ≠ .idle)
    (outstanding : phase.outstanding = [task]) (shows : phase.shows { backend with tasks := backend.tasks ++ [task] }) :
    Agrees { backend with tasks := backend.tasks ++ [task] } phase where
  rests := rests
  pending := iff_of_true opened.pending busy
  power := by rw [List.filter_append, opened.power, outstanding, List.filter_cons_of_pos isPower]; rfl
  polls := by rw [List.filter_append, List.filter_cons_of_neg (by simp [isPower]), List.filter_nil, List.append_nil, opened.polls]
  stale := by
    intro revision member
    rcases List.mem_append.mp member with before | new
    · exact ⟨Nat.le_of_lt (opened.stale revision before), fun _ => opened.stale revision before⟩
    · rw [← List.mem_singleton.mp new] at isPower
      cases isPower
  shown := shows
  present := opened.present

theorem ends : Agrees { backend with powerPending := false } .idle where
  rests := rfl
  pending := by simp
  power := opened.power
  polls := opened.polls
  stale := fun revision member => ⟨Nat.le_of_lt (opened.stale revision member), nofun⟩
  shown := trivial
  present := opened.present

theorem givesUp (message : String) : Agrees (backend.giveUp message).1 .idle := opened.ends.fails message

theorem reads {after : Backend} {message : Message} (read : backend.readRadioState message = some after) : Open after := by
  cases message with
  | rfkillState available hardBlocked softBlocked =>
    cases read
    exact ⟨opened.pending, opened.power, opened.polls, opened.stale, by rintro rfl; exact ⟨rfl, rfl⟩⟩
  | _ => cases read

end Open

theorem erased {tasks : List Task} {place : Nat} {task : Task} (found : tasks[place]? = some task) :
    ∃ early late, tasks = early ++ task :: late ∧ tasks.eraseIdx place = early ++ late := by
  obtain ⟨inside, same⟩ := List.getElem?_eq_some_iff.mp found
  refine ⟨tasks.take place, tasks.drop (place + 1), ?_, List.eraseIdx_eq_take_drop_succ ..⟩
  rw [← same, ← List.drop_eq_getElem_cons inside, List.take_append_drop]

namespace Agrees

variable {backend : Backend} {phase : Phase} (agrees : Agrees backend phase)
include agrees

/-- The one task of a request is taken out to be served. -/
theorem takes {place : Nat} {task : Task} (found : backend.tasks[place]? = some task) (isPower : task.isPower = true) :
    phase.outstanding = [task] ∧ Open { backend with tasks := backend.tasks.eraseIdx place } := by
  obtain ⟨early, late, whole, rest⟩ := erased found
  have power := agrees.power
  have polls := agrees.polls
  rw [whole, List.filter_append, List.filter_cons_of_pos isPower] at power
  rw [whole, List.filter_append, List.filter_cons_of_neg (by simp [isPower]), ← List.filter_append] at polls
  have single : early.filter Task.isPower = [] ∧ late.filter Task.isPower = [] ∧ phase.outstanding = [task] := by
    have short : phase.outstanding.length ≤ 1 := by cases phase <;> simp [Phase.outstanding]
    rw [← power, List.length_append, List.length_cons] at short
    have first : early.filter Task.isPower = [] := List.eq_nil_of_length_eq_zero (by omega)
    have second : late.filter Task.isPower = [] := List.eq_nil_of_length_eq_zero (by omega)
    rw [first, second] at power
    exact ⟨first, second, power.symm⟩
  have busy : phase ≠ .idle := by
    rintro rfl
    cases single.2.2
  have pending := agrees.pending.mpr busy
  refine ⟨single.2.2, pending, ?_, by rw [rest]; exact polls, fun revision member => ?_, agrees.present⟩
  · rw [rest, List.filter_append, single.1, single.2.1]
    rfl
  · refine (agrees.stale revision ?_).2 pending
    exact List.mem_of_mem_eraseIdx member

theorem idle_of_free (free : backend.powerPending = false) : phase = .idle := by
  by_contra busy
  rw [agrees.pending.mpr busy] at free
  cases free

theorem polls_step : ∃ next, Monitor.run Phase.watch phase backend.refreshRadioState.2 = some next ∧
    Agrees backend.refreshRadioState.1 next := by
  unfold Backend.refreshRadioState
  split
  · exact ⟨phase, rfl, agrees⟩
  next free =>
    rw [Bool.or_eq_true, not_or, Bool.not_eq_true, Bool.not_eq_true] at free
    obtain rfl := agrees.idle_of_free free.1
    refine ⟨.idle, Monitor.run_singleton.trans rfl, rfl, agrees.pending, ?_, ?_, ?_, trivial, agrees.present⟩
    · rw [Backend.managerCall, List.filter_append, agrees.power]
      rfl
    · have none := agrees.polls
      rw [free.2] at none
      rw [Backend.managerCall, List.filter_append, List.length_append, none]
      rfl
    · intro revision member
      rcases List.mem_append.mp member with before | new
      · exact ⟨Nat.le_succ_of_le (agrees.stale revision before).1, fun pending => by rw [free.1] at pending; cases pending⟩
      · cases List.mem_singleton.mp new
        exact ⟨Nat.le_refl _, fun pending => by rw [free.1] at pending; cases pending⟩

theorem setPowered_step (enabled : Bool) : ∃ next, Monitor.run Phase.watch phase (backend.setPowered enabled).2 = some next ∧
    Agrees (backend.setPowered enabled).1 next := by
  unfold Backend.setPowered
  split
  · exact ⟨phase, rfl, agrees⟩
  next free =>
    obtain rfl := agrees.idle_of_free (Bool.not_eq_true _ ▸ free)
    have opened : Open { backend with radioRevision := backend.radioRevision + 1, powerPending := true, error := "" } :=
      ⟨rfl, agrees.power, agrees.polls, fun revision member => Nat.lt_succ_of_le (agrees.stale revision member).1, agrees.present⟩
    cases enabled with
    | true => exact ⟨.asking, rfl, opened.leaves rfl rfl nofun rfl trivial⟩
    | false => exact ⟨.switching false, rfl, opened.leaves rfl rfl nofun rfl trivial⟩

/-- A poll that is older than a request changes nothing of what is shown. -/
theorem refresh_step {place : Nat} {revision : Nat} (found : backend.tasks[place]? = some (.call (.refresh revision)))
    (message : Message) :
    ∃ next, Monitor.run Phase.watch phase
        (.answered (.refresh revision) message ::
          ({ backend with tasks := backend.tasks.eraseIdx place }.finished message (.refresh revision)).2) = some next ∧
      Agrees ({ backend with tasks := backend.tasks.eraseIdx place }.finished message (.refresh revision)).1 next := by
  obtain ⟨early, late, whole, rest⟩ := erased found
  have power := agrees.power
  have polls := agrees.polls
  rw [whole, List.filter_append, List.filter_cons_of_neg Bool.false_ne_true, ← List.filter_append, ← rest] at power
  rw [whole, List.filter_append, List.filter_cons_of_pos rfl, List.length_append, List.length_cons] at polls
  have none : ((backend.tasks.eraseIdx place).filter fun task => !task.isPower).length = 0 := by
    rw [rest, List.filter_append, List.length_append]
    split at polls <;> omega
  have stale : ∀ revision, .call (.refresh revision) ∈ backend.tasks.eraseIdx place →
      revision ≤ backend.radioRevision ∧ (backend.powerPending = true → revision < backend.radioRevision) :=
    fun revision member => agrees.stale revision (List.mem_of_mem_eraseIdx member)
  have same : Phase.watch phase (.answered (.refresh revision) message) = some phase := by
    unfold Phase.watch
    rfl
  dsimp only [Backend.finished]
  split
  next old =>
    exact ⟨phase, Monitor.run_singleton.trans same, agrees.rests, agrees.pending, power, none, stale, by
      have shown := agrees.shown
      cases phase with
      | switching enabled => cases enabled <;> exact shown
      | _ => exact shown, agrees.present⟩
  next current =>
    -- A poll of the current revision was sent after the last request, which has to be over.
    have free : backend.powerPending = false := by
      by_contra pending
      have older := (agrees.stale revision (List.mem_of_getElem? found)).2 (Bool.not_eq_false _ ▸ pending)
      exact absurd older (by rw [not_not.mp current]; exact Nat.lt_irrefl _)
    obtain rfl := agrees.idle_of_free free
    cases message with
    | rfkillState available hardBlocked softBlocked =>
      exact ⟨.idle, Monitor.run_singleton.trans same, rfl, agrees.pending, power, none, stale, trivial,
        by rintro rfl; exact ⟨rfl, rfl⟩⟩
    | _ => exact ⟨.idle, Monitor.run_singleton.trans same, rfl, agrees.pending, power, none, stale, trivial, fun _ => ⟨rfl, rfl⟩⟩

theorem reply_step {place : Nat} {continuation : Continuation} (found : backend.tasks[place]? = some (.call continuation))
    (message : Message) :
    ∃ next, Monitor.run Phase.watch phase
        (.answered continuation message :: ({ backend with tasks := backend.tasks.eraseIdx place }.finished message continuation).2) =
          some next ∧
      Agrees ({ backend with tasks := backend.tasks.eraseIdx place }.finished message continuation).1 next := by
  cases continuation with
  | refresh revision => exact agrees.refresh_step found message
  | setPowered =>
    obtain ⟨outstanding, opened⟩ := agrees.takes found rfl
    have asking : phase = .asking := by cases phase <;> simp_all [Phase.outstanding]
    subst asking
    generalize { backend with tasks := backend.tasks.eraseIdx place } = before at opened
    cases message with
    | rfkillState available hardBlocked softBlocked =>
      have read := opened.reads (show before.readRadioState (.rfkillState available hardBlocked softBlocked) = _ from rfl)
      cases available <;> cases hardBlocked <;> cases softBlocked <;> first
        | exact ⟨.idle, rfl, read.givesUp _⟩
        | exact ⟨.switching true, rfl, read.leaves rfl rfl nofun rfl ⟨rfl, rfl⟩⟩
        | exact ⟨.unblocking, rfl, read.leaves rfl rfl nofun rfl ⟨rfl, rfl, rfl⟩⟩
    | _ => exact ⟨.idle, rfl, opened.givesUp _⟩
  | unblock =>
    obtain ⟨outstanding, opened⟩ := agrees.takes found rfl
    have unblocking : phase = .unblocking := by cases phase <;> simp_all [Phase.outstanding]
    subst unblocking
    have shown : Phase.unblocking.shows { backend with tasks := backend.tasks.eraseIdx place } := agrees.shown
    generalize { backend with tasks := backend.tasks.eraseIdx place } = before at opened shown
    have failed : ∃ next, Monitor.run Phase.watch .ending
        (.ended :: (before.giveUp "Could not unblock the Bluetooth adapter.").1.refreshRadioState.2) = some next ∧
        Agrees (before.giveUp "Could not unblock the Bluetooth adapter.").1.refreshRadioState.1 next := by
      obtain ⟨next, watched, reached⟩ := (opened.givesUp "Could not unblock the Bluetooth adapter.").polls_step
      exact ⟨next, Monitor.run_cons.mpr ⟨.idle, rfl, watched⟩, reached⟩
    obtain ⟨next, watched, reached⟩ := failed
    cases message with
    | flag value =>
      cases value with
      | true => exact ⟨.confirming 10, rfl, opened.leaves rfl rfl nofun rfl shown⟩
      | false => exact ⟨next, Monitor.run_cons.mpr ⟨.ending, rfl, watched⟩, reached⟩
    | _ => exact ⟨next, Monitor.run_cons.mpr ⟨.ending, rfl, watched⟩, reached⟩
  | confirm attempts =>
    obtain ⟨outstanding, opened⟩ := agrees.takes found rfl
    have confirming : phase = .confirming attempts := by cases phase <;> simp_all [Phase.outstanding]
    subst confirming
    generalize { backend with tasks := backend.tasks.eraseIdx place } = before at opened
    have answered : ∀ message, Phase.watch (.confirming attempts) (.answered (.confirm attempts) message) =
        some (.read (if attempts ≤ 1 then .ending else .still attempts) true message) := fun message => if_pos rfl
    cases message with
    | rfkillState available hardBlocked softBlocked =>
      have read := opened.reads (show before.readRadioState (.rfkillState available hardBlocked softBlocked) = _ from rfl)
      cases available with
      | false => exact ⟨.idle, Monitor.run_cons.mpr ⟨_, answered _, rfl⟩, read.givesUp _⟩
      | true =>
        cases hardBlocked with
        | true => exact ⟨.idle, Monitor.run_cons.mpr ⟨_, answered _, rfl⟩, read.givesUp _⟩
        | false =>
          cases softBlocked with
          | false =>
            exact ⟨.switching true, Monitor.run_cons.mpr ⟨_, answered _, rfl⟩, read.leaves rfl rfl nofun rfl ⟨rfl, rfl⟩⟩
          | true =>
            have decided : before.finished (.rfkillState true false true) (.confirm attempts) =
                if attempts ≤ 1 then
                  Backend.giveUp { before with radioAvailable := true, hardBlocked := false, softBlocked := true }
                    "The Bluetooth adapter is still blocked."
                else ({ before with radioAvailable := true, hardBlocked := false, softBlocked := true
                                    tasks := before.tasks ++ [.timer attempts] }, [.slept attempts]) := rfl
            have answered := answered (.rfkillState true false true)
            rw [decided]
            by_cases last : attempts ≤ 1
            · rw [if_pos last] at answered ⊢
              exact ⟨.idle, Monitor.run_cons.mpr ⟨_, answered, rfl⟩, read.givesUp _⟩
            · rw [if_neg last] at answered ⊢
              exact ⟨.sleeping attempts, Monitor.run_cons.mpr ⟨_, answered, Monitor.run_singleton.trans (if_pos rfl)⟩,
                read.leaves rfl rfl nofun rfl ⟨rfl, rfl, rfl⟩⟩
    | _ => exact ⟨.idle, Monitor.run_cons.mpr ⟨_, answered _, rfl⟩, opened.givesUp _⟩
  | managerPower enabled =>
    obtain ⟨outstanding, opened⟩ := agrees.takes found rfl
    have switching : phase = .switching enabled := by cases phase <;> simp_all [Phase.outstanding]
    subst switching
    generalize { backend with tasks := backend.tasks.eraseIdx place } = before at opened
    have answered : Phase.watch (.switching enabled) (.answered (.managerPower enabled) message) = some .ending := if_pos rfl
    cases message with
    | error text =>
      obtain ⟨next, watched, reached⟩ := (opened.ends.fails text).polls_step
      exact ⟨next, Monitor.run_cons.mpr ⟨_, answered, Monitor.run_cons.mpr ⟨.idle, rfl, watched⟩⟩, reached⟩
    | _ =>
      obtain ⟨next, watched, reached⟩ := opened.ends.polls_step
      exact ⟨next, Monitor.run_cons.mpr ⟨_, answered, Monitor.run_cons.mpr ⟨.idle, rfl, watched⟩⟩, reached⟩

theorem wake_step {place attempts : Nat} (found : backend.tasks[place]? = some (.timer attempts)) :
    ∃ next, Monitor.run Phase.watch phase
        (.woke attempts :: ({ backend with tasks := backend.tasks.eraseIdx place }.confirmRadioUnblocked (attempts - 1)).2) =
          some next ∧
      Agrees ({ backend with tasks := backend.tasks.eraseIdx place }.confirmRadioUnblocked (attempts - 1)).1 next := by
  obtain ⟨outstanding, opened⟩ := agrees.takes found rfl
  have sleeping : phase = .sleeping attempts := by cases phase <;> simp_all [Phase.outstanding]
  subst sleeping
  have shown : (Phase.sleeping attempts).shows { backend with tasks := backend.tasks.eraseIdx place } := agrees.shown
  refine ⟨.confirming (attempts - 1), ?_, opened.leaves rfl rfl nofun rfl shown⟩
  exact Monitor.run_cons.mpr ⟨_, if_pos rfl, Monitor.run_singleton.trans (if_pos rfl)⟩

theorem steps (event : Backend.Event) :
    ∃ next, Monitor.run Phase.watch phase (backend.step event).2 = some next ∧ Agrees (backend.step event).1 next := by
  cases event with
  | poll => exact agrees.polls_step
  | setPowered enabled => exact agrees.setPowered_step enabled
  | reply place message =>
    dsimp only [Backend.step]
    split
    next continuation found => exact agrees.reply_step found message
    · exact ⟨phase, rfl, agrees⟩
  | wake place =>
    dsimp only [Backend.step]
    split
    next attempts found => exact agrees.wake_step found
    · exact ⟨phase, rfl, agrees⟩

end Agrees

/-- Every run follows the protocol, and its state agrees with the phase it got to. -/
theorem runs_follow_the_protocol (events : List Backend.Event) :
    ∃ phase, Monitor.run Phase.watch .idle (Machine.outputs Backend.step {} events) = some phase ∧
      Agrees (Machine.state Backend.step {} events) phase :=
  Monitor.follows (fun _ _ event agrees => agrees.steps event) Agrees.start events

end FlossDesktop.RadioPower
