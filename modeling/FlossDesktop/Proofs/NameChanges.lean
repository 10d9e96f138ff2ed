import FlossDesktop.Proofs.Registrations

/-! The change of a name is followed to its end. While it is under way exactly one call or timer of it is there, which
is passed on a bounded number of times; nothing else touches the name that is shown, and at the end it is the name that was
asked for, or the old one, or the device is gone. -/

namespace FlossDesktop.Floss

open Devices

/-- A call or a timer of a change. What is left goes down whenever it is passed on. -/
structure Thread where
  address : String
  name : String
  request : Nat
  left : Nat
deriving DecidableEq

def Request.thread : Request → Option Thread
  | .setRemoteAlias device newAlias request => some ⟨device.address, newAlias, request, 21⟩
  | .confirmAlias device newAlias request attempts => some ⟨device.address, newAlias, request, 2 * attempts⟩
  | _ => none

def AliasTimer.thread (timer : AliasTimer) : Thread :=
  ⟨timer.address, timer.newAlias, timer.request, 2 * timer.attempts - 1⟩

namespace Backend

variable (b : Backend)

def callThread (call : Call) : Option Thread := if call.epoch = b.epoch then call.request.thread else none

def timerThread (timer : AliasTimer) : Option Thread := if timer.epoch = b.epoch then some timer.thread else none

/-- All that is outstanding with the present daemon. -/
def threads : Multiset Thread := ↑(b.calls.filterMap b.callThread) + ↑(b.aliasTimers.filterMap b.timerThread)

/-- The changes and the names are as they were. A name may be read when it is not being changed. -/
structure Aloof (after : Backend) : Prop where
  owner : after.owner = b.owner
  epoch : after.epoch = b.epoch
  requests : after.aliasRequests = b.aliasRequests
  timers : after.aliasTimers = b.aliasTimers
  threads : after.threads = b.threads
  marked : ∀ address, after.marked address = b.marked address
  shown : ∀ address, (b.aliasRequests address).isSome = true → after.shownName address = b.shownName address
  serial : b.serial ≤ after.serial
  revisions : ∀ address, b.aliasRevisions address ≤ after.aliasRevisions address
  calls : ∀ call ∈ after.calls, call ∈ b.calls ∨ call.epoch = b.epoch ∧ Begins b after call.request

/-- The books of the changes, when the threads `held` are being attended to. -/
structure Orderly (held : Multiset Thread) : Prop where
  past : ∀ call ∈ b.calls, call.epoch ≤ b.epoch
  expiring : ∀ timer ∈ b.aliasTimers, timer.epoch ≤ b.epoch ∧ 1 ≤ timer.attempts
  alive : ∀ address, (b.aliasRequests address).isSome = true → b.owner.isEmpty = false
  single : ∀ address request, b.aliasRequests address = some request →
    ∃ thread, (held + b.threads).filter (fun other => other.request = request) = {thread} ∧ thread.address = address
  numbered : ∀ thread ∈ held + b.threads, thread.request ≤ b.serial
  marked : ∀ address, b.marked address = (b.aliasRequests address).isSome
  reads : ∀ call ∈ b.calls, call.epoch = b.epoch → ∀ device revision, call.request = .getRemoteAlias device revision →
    revision ≤ b.aliasRevisions device.address ∧
      ((b.aliasRequests device.address).isSome = true → revision < b.aliasRevisions device.address)

/-- The change goes on, and the name is the old one. -/
structure GoesOn (after : Backend) (address : String) (request : Nat) (thread : Thread) : Prop where
  requests : after.aliasRequests address = some request
  shown : after.shownName address = b.shownName address
  passed : ∃ next, after.threads.filter (fun other => other.request = request) = {next} ∧
    next.address = thread.address ∧ next.name = thread.name ∧ (next = thread ∨ next.left < thread.left)

/-- The change has come to one of its ends. -/
structure Ends (after : Backend) (address : String) (thread : Thread) : Prop where
  requests : after.aliasRequests address = none
  shown : after.shownName address = some thread.name ∨ after.shownName address = b.shownName address ∨
    after.devices address = none

def Follows (all : Multiset Thread) (after : Backend) : Prop :=
  ∀ address request thread, b.aliasRequests address = some request →
    all.filter (fun other => other.request = request) = {thread} →
      GoesOn b after address request thread ∨ Ends b after address thread

variable {b} {after middle : Backend} {held all : Multiset Thread}

theorem Aloof.refl (b : Backend) : Aloof b b :=
  ⟨rfl, rfl, rfl, rfl, rfl, fun _ => rfl, fun _ _ => rfl, le_rfl, fun _ => le_rfl, fun _ member => .inl member⟩

theorem Aloof.trans (first : Aloof b middle) (last : Aloof middle after) : Aloof b after where
  owner := last.owner.trans first.owner
  epoch := last.epoch.trans first.epoch
  requests := last.requests.trans first.requests
  timers := last.timers.trans first.timers
  threads := last.threads.trans first.threads
  marked := fun address => (last.marked address).trans (first.marked address)
  shown := fun address changing =>
    (last.shown address (first.requests ▸ changing)).trans (first.shown address changing)
  serial := first.serial.trans last.serial
  revisions := fun address => (first.revisions address).trans (last.revisions address)
  calls := by
    intro call member
    rcases last.calls call member with before | ⟨epoch, begins⟩
    · rcases first.calls call before with old | ⟨epoch, begins⟩
      · exact .inl old
      · exact .inr ⟨epoch, begins.later last.revisions⟩
    · exact .inr ⟨epoch.trans first.epoch, begins.earlier first.requests⟩

theorem thread_special {request : Request} (plain : request.special = false) : request.thread = none := by
  cases request with
  | setRemoteAlias device newAlias number => cases plain
  | confirmAlias device newAlias number attempts => cases plain
  | _ => rfl

/-- Only special calls have a thread. -/
theorem threads_special (b : Backend) : b.calls.filterMap b.callThread = b.specialCalls.filterMap b.callThread := by
  unfold specialCalls
  rw [List.filterMap_filter]
  apply List.filterMap_congr
  intro call _
  unfold callThread
  by_cases current : call.epoch = b.epoch
  · rw [if_pos current, current, beq_self_eq_true, Bool.true_and]
    cases special : call.request.special with
    | true => rfl
    | false => exact thread_special special
  · rw [if_neg current, ite_self]

theorem Apart.aloof (apart : Apart b after) : Aloof b after where
  owner := apart.owner
  epoch := apart.epoch
  requests := apart.requests
  timers := apart.timers
  threads := by
    unfold Backend.threads
    rw [threads_special, threads_special, apart.special, apart.timers]
    unfold callThread timerThread
    rw [apart.epoch]
  marked := apart.marked
  shown := fun address _ => apart.shown address
  serial := apart.serial
  revisions := apart.revisions
  calls := fun call member => (apart.calls call member).imp_right fun sent => ⟨sent.1, sent.2.2.2⟩

/-- Everything that names have, but for the calls and revisions. -/
def namePart (b : Backend) : String × Nat × (String → Option Nat) × List AliasTimer × (String → Option Entry) :=
  (b.owner, b.epoch, b.aliasRequests, b.aliasTimers, b.devices)

theorem aloof_same (same : namePart after = namePart b) (calls : after.calls = b.calls) (serial : after.serial = b.serial)
    (revisions : after.aliasRevisions = b.aliasRevisions) : Aloof b after := by
  obtain ⟨owner, epoch, requests, timers, devices⟩ :
      after.owner = b.owner ∧ after.epoch = b.epoch ∧ after.aliasRequests = b.aliasRequests ∧
        after.aliasTimers = b.aliasTimers ∧ after.devices = b.devices := by
    simpa only [namePart, Prod.mk.injEq] using same
  refine ⟨owner, epoch, requests, timers, ?_, ?_, ?_, serial.ge, fun address => (congrFun revisions address).ge, ?_⟩
  · unfold threads callThread timerThread
    rw [calls, timers, epoch]
  · intro address
    unfold marked
    rw [devices]
  · intro address _
    unfold shownName
    rw [devices]
  · intro call member
    exact .inl (calls ▸ member)

theorem Aloof.orderly (aloof : Aloof b after) (orderly : Orderly b held) : Orderly after held where
  past := by
    intro call member
    rw [aloof.epoch]
    rcases aloof.calls call member with old | ⟨epoch, _⟩
    · exact orderly.past call old
    · exact epoch.le
  expiring := by
    rw [aloof.timers, aloof.epoch]
    exact orderly.expiring
  alive := by
    rw [aloof.requests, aloof.owner]
    exact orderly.alive
  single := by
    rw [aloof.requests, aloof.threads]
    exact orderly.single
  numbered := by
    rw [aloof.threads]
    exact fun thread member => (orderly.numbered thread member).trans aloof.serial
  marked := by
    intro address
    rw [aloof.marked, aloof.requests]
    exact orderly.marked address
  reads := by
    intro call member epoch device revision asks
    rw [aloof.requests]
    rcases aloof.calls call member with old | ⟨_, begins⟩
    · obtain ⟨upper, strict⟩ := orderly.reads call old (epoch.trans aloof.epoch) device revision asks
      have grows := aloof.revisions device.address
      exact ⟨upper.trans grows, fun changing => (strict changing).trans_le grows⟩
    · rw [asks] at begins
      refine ⟨begins.2, fun changing => ?_⟩
      rw [begins.1] at changing
      cases changing

theorem Aloof.follows (aloof : Aloof b after) : Follows b b.threads after := by
  intro address request thread current only
  refine .inl ⟨?_, ?_, thread, ?_, rfl, rfl, .inl rfl⟩
  · rw [aloof.requests]
    exact current
  · apply aloof.shown address
    rw [current]
    rfl
  · rw [aloof.threads]
    exact only

theorem call_aloof (b : Backend) {request : Request} {reportErrors : Bool}
    (nothing : request.thread = none) (begins : Begins b b request) :
    Aloof b (b.call request reportErrors) := by
  unfold call
  split
  · exact (fail_apart b _).aloof
  · refine ⟨rfl, rfl, rfl, rfl, ?_, fun _ => rfl, fun _ _ => rfl, le_rfl, fun _ => le_rfl, ?_⟩
    · unfold threads
      change ((b.calls ++ [_]).filterMap b.callThread : Multiset Thread) + _ = _
      rw [List.filterMap_append, List.filterMap_cons_none, List.filterMap_nil, List.append_nil]
      · rfl
      · exact (if_pos rfl).trans nothing
    · intro call member
      rcases List.mem_append.mp member with old | new
      · exact .inl old
      · cases List.mem_singleton.mp new
        exact .inr ⟨rfl, begins⟩

theorem batteryCall_aloof (b : Backend) {request : Request} (nothing : request.thread = none)
    (begins : Begins b b request) : Aloof b (b.batteryCall request) := by
  cases there : b.owner.isEmpty with
  | true =>
    unfold batteryCall
    rw [there, if_pos rfl]
    exact .refl b
  | false =>
    have same : b.batteryCall request = b.call request false := by
      unfold batteryCall call
      rw [there]
      rfl
    rw [same]
    exact call_aloof b nothing begins

theorem initializeDeviceDetails_aloof (b : Backend) : Aloof b b.initializeDeviceDetails := by
  unfold initializeDeviceDetails
  split
  · exact .refl b
  · apply Aloof.trans _ (batteryCall_aloof _ (by rfl) (by trivial))
    exact aloof_same rfl rfl rfl rfl

theorem initializeBackend_aloof (b : Backend) : Aloof b b.initializeBackend := by
  unfold initializeBackend
  split
  · exact initializeDeviceDetails_aloof b
  · split
    · exact .refl b
    · have begun : Aloof b { b with initializing := true } := aloof_same rfl rfl rfl rfl
      dsimp only
      split
      · exact begun.trans (call_aloof _ rfl trivial)
      · exact begun.trans (call_aloof _ rfl trivial)

theorem registered_aloof (b : Backend) : Aloof b b.registered := by
  unfold registered
  have begun : Aloof b { b with initializing := false, connectionRegistered := true, ready := true } :=
    aloof_same rfl rfl rfl rfl
  have cleared := (begun.trans (initializeDeviceDetails_aloof _)).trans (fail_apart _ "").aloof
  apply Aloof.trans _ (call_aloof _ (by rfl) (by trivial))
  apply Aloof.trans _ (call_aloof _ (by rfl) (by trivial))
  exact cleared.trans (call_aloof _ (by rfl) (by trivial))

theorem batteryReady_aloof (b : Backend) (answer : Answer) : Aloof b (b.batteryReady answer) := by
  unfold batteryReady
  split
  · apply Aloof.trans _ (foldl_apart readDeviceDetails readDeviceDetails_apart b.known _).aloof
    exact aloof_same rfl rfl rfl rfl
  · exact aloof_same rfl rfl rfl rfl

/-- An answer that is not of the present revision is dropped, and there is none while the name is changing. -/
theorem aliasRead_aloof (b : Backend) (address : String) {revision : Nat} (answer : Answer)
    (older : (b.aliasRequests address).isSome = true → revision < b.aliasRevisions address) :
    Aloof b (b.aliasRead address revision answer) := by
  unfold aliasRead
  split
  · split
    · exact .refl b
    · next value now =>
      have unchanged : ¬ (b.aliasRequests address).isSome = true := by
        intro changing
        apply now
        rw [Bool.or_eq_true]
        exact .inr (bne_iff_ne.mpr (older changing).ne)
      refine ⟨rfl, rfl, rfl, rfl, rfl, ?_, ?_, le_rfl, fun _ => le_rfl, fun _ member => .inl member⟩
      · intro other
        rw [modify_marked]
        split
        · next same => rw [same, getD_marked]
        · rfl
      · intro other changing
        rw [modify_shown, if_neg]
        rintro rfl
        exact unchanged changing
  · exact .refl b

/-- A handler that leaves nothing in hand. -/
structure Settles (held : Multiset Thread) (b after : Backend) : Prop where
  orderly : Orderly after 0
  follows : Follows b (held + b.threads) after

theorem Aloof.settles (aloof : Aloof b after) (orderly : Orderly b 0) : Settles 0 b after where
  orderly := aloof.orderly orderly
  follows := by
    rw [zero_add]
    exact aloof.follows

/-- What is in hand belongs to the change that its number tells. -/
theorem Orderly.owned (orderly : Orderly b held) {thread : Thread} (member : thread ∈ held + b.threads) {address : String}
    (current : b.aliasRequests address = some thread.request) : thread.address = address := by
  obtain ⟨only, filtered, here⟩ := orderly.single address thread.request current
  have inside := Multiset.mem_filter_of_mem member (p := fun other => other.request = thread.request) rfl
  rw [filtered, Multiset.mem_singleton] at inside
  rw [inside]
  exact here

/-- A change that what is in hand does not belong to has its thread outside. -/
theorem Orderly.outside (orderly : Orderly b held) {address : String} {request : Nat}
    (current : b.aliasRequests address = some request) (apart : ∀ thread ∈ held, thread.address ≠ address) :
    (held + b.threads).filter (fun other => other.request = request) =
      b.threads.filter (fun other => other.request = request) := by
  rw [Multiset.filter_add, Multiset.filter_eq_nil.mpr, zero_add]
  intro thread member same
  subst same
  exact apart thread member (orderly.owned (Multiset.mem_add.mpr (.inl member)) current)

/-- What is in hand is of a former change. -/
theorem Orderly.stale {t : Thread} (orderly : Orderly b {t}) (former : b.aliasRequests t.address ≠ some t.request) :
    Settles {t} b b := by
  have outside : ∀ address request, b.aliasRequests address = some request →
      ({t} + b.threads).filter (fun other => other.request = request) =
        b.threads.filter (fun other => other.request = request) := by
    intro address request current
    rw [Multiset.filter_add, Multiset.filter_eq_nil.mpr, zero_add]
    intro thread member same
    rw [Multiset.mem_singleton.mp member] at same
    subst same
    apply former
    have owned := orderly.owned (Multiset.mem_add.mpr (.inl (Multiset.mem_singleton_self t))) current
    rw [owned]
    exact current
  refine ⟨⟨orderly.past, orderly.expiring, orderly.alive, ?_, ?_, orderly.marked, orderly.reads⟩, ?_⟩
  · intro address request current
    rw [zero_add, ← outside address request current]
    exact orderly.single address request current
  · rw [zero_add]
    exact fun thread member => orderly.numbered thread (Multiset.mem_add.mpr (.inr member))
  · intro address request thread current only
    refine .inl ⟨current, rfl, thread, ?_, rfl, rfl, .inl rfl⟩
    rw [← outside address request current]
    exact only

/-- The change of an address is over, or there was none. -/
structure Drops (b after : Backend) (address : String) : Prop where
  owner : after.owner = b.owner
  epoch : after.epoch = b.epoch
  calls : after.calls = b.calls
  timers : after.aliasTimers = b.aliasTimers
  serial : after.serial = b.serial
  revisions : ∀ other, b.aliasRevisions other ≤ after.aliasRevisions other
  requests : after.aliasRequests = Function.update b.aliasRequests address none
  marked : ∀ other, after.marked other = if other = address then false else b.marked other
  shown : ∀ other, other ≠ address → after.shownName other = b.shownName other

theorem Drops.threads {address : String} (drops : Drops b after address) : after.threads = b.threads := by
  unfold Backend.threads callThread timerThread
  rw [drops.calls, drops.timers, drops.epoch]

theorem Drops.current {address other : String} {request : Nat} (drops : Drops b after address)
    (current : after.aliasRequests other = some request) : other ≠ address ∧ b.aliasRequests other = some request := by
  rw [drops.requests, Function.update_apply] at current
  split at current
  · cases current
  · next different => exact ⟨different, current⟩

theorem Drops.changing {address other : String} (drops : Drops b after address)
    (changing : (after.aliasRequests other).isSome = true) : (b.aliasRequests other).isSome = true := by
  obtain ⟨request, current⟩ := Option.isSome_iff_exists.mp changing
  rw [(drops.current current).2]
  rfl

theorem Drops.settles {address : String} (drops : Drops b after address) (orderly : Orderly b held)
    (mine : ∀ thread ∈ held, thread.address = address)
    (ends : ∀ thread, (held + b.threads).filter (fun other => b.aliasRequests address = some other.request) = {thread} →
      after.shownName address = some thread.name ∨ after.shownName address = b.shownName address ∨
        after.devices address = none) : Settles held b after := by
  have outside : ∀ other request, other ≠ address → b.aliasRequests other = some request →
      (held + b.threads).filter (fun thread => thread.request = request) =
        after.threads.filter (fun thread => thread.request = request) := by
    intro other request different current
    rw [drops.threads]
    apply orderly.outside current
    intro thread member same
    exact different (same.symm.trans (mine thread member))
  refine ⟨⟨?_, ?_, ?_, ?_, ?_, ?_, ?_⟩, ?_⟩
  · rw [drops.calls, drops.epoch]
    exact orderly.past
  · rw [drops.timers, drops.epoch]
    exact orderly.expiring
  · intro other changing
    rw [drops.owner]
    exact orderly.alive other (drops.changing changing)
  · intro other request current
    obtain ⟨different, before⟩ := drops.current current
    rw [zero_add, ← outside other request different before]
    exact orderly.single other request before
  · rw [zero_add, drops.threads, drops.serial]
    exact fun thread member => orderly.numbered thread (Multiset.mem_add.mpr (.inr member))
  · intro other
    rw [drops.marked, drops.requests, Function.update_apply]
    split
    · rfl
    · exact orderly.marked other
  · intro call member epoch device revision asks
    rw [drops.calls] at member
    obtain ⟨upper, strict⟩ := orderly.reads call member (epoch.trans drops.epoch) device revision asks
    have grows := drops.revisions device.address
    exact ⟨upper.trans grows, fun changing => (strict (drops.changing changing)).trans_le grows⟩
  · intro other request thread current only
    by_cases same : other = address
    · subst same
      refine .inr ⟨?_, ends thread ?_⟩
      · rw [drops.requests, Function.update_self]
      · rw [← only]
        apply Multiset.filter_congr
        intro one _
        rw [current, Option.some.injEq, eq_comm]
    · refine .inl ⟨?_, drops.shown other same, thread, ?_, rfl, rfl, .inl rfl⟩
      · rw [drops.requests, Function.update_of_ne same]
        exact current
      · rw [← outside other request same current]
        exact only

/-- What is in hand is passed on. -/
structure Passes (b after : Backend) (t next : Thread) : Prop where
  owner : after.owner = b.owner
  epoch : after.epoch = b.epoch
  requests : after.aliasRequests = b.aliasRequests
  threads : after.threads = next ::ₘ b.threads
  devices : after.devices = b.devices
  serial : after.serial = b.serial
  revisions : after.aliasRevisions = b.aliasRevisions
  calls : ∀ call ∈ after.calls, call ∈ b.calls ∨ call.epoch = b.epoch ∧ call.request.thread = some next
  timers : ∀ timer ∈ after.aliasTimers, timer ∈ b.aliasTimers ∨ timer.epoch = b.epoch ∧ 1 ≤ timer.attempts
  address : next.address = t.address
  name : next.name = t.name
  request : next.request = t.request
  less : next.left < t.left

theorem Passes.settles {t next : Thread} (passes : Passes b after t next) (orderly : Orderly b {t}) :
    Settles {t} b after := by
  have swapped : ∀ request thread, ({t} + b.threads).filter (fun other => other.request = request) = {thread} →
      ∃ now, after.threads.filter (fun other => other.request = request) = {now} ∧ now.address = thread.address ∧
        now.name = thread.name ∧ (now = thread ∨ now.left < thread.left) := by
    intro request thread only
    rw [passes.threads]
    rw [Multiset.singleton_add] at only
    by_cases mine : t.request = request
    · rw [Multiset.filter_cons_of_pos (p := fun other : Thread => other.request = request) _ mine] at only
      obtain ⟨rfl, nothing⟩ := (Multiset.singleton_eq_cons_iff _).mp only.symm
      rw [Multiset.filter_cons_of_pos (p := fun other : Thread => other.request = request) _ (passes.request.trans mine),
        nothing]
      exact ⟨next, rfl, passes.address, passes.name, .inr passes.less⟩
    · rw [Multiset.filter_cons_of_neg (p := fun other : Thread => other.request = request) _ mine] at only
      rw [Multiset.filter_cons_of_neg (p := fun other : Thread => other.request = request) _ (passes.request ▸ mine)]
      exact ⟨thread, only, rfl, rfl, .inl rfl⟩
  have shown : ∀ address, after.shownName address = b.shownName address := by
    intro address
    unfold shownName
    rw [passes.devices]
  refine ⟨⟨?_, ?_, ?_, ?_, ?_, ?_, ?_⟩, ?_⟩
  · intro call member
    rw [passes.epoch]
    rcases passes.calls call member with old | ⟨epoch, _⟩
    · exact orderly.past call old
    · exact epoch.le
  · intro timer member
    rw [passes.epoch]
    rcases passes.timers timer member with old | ⟨epoch, more⟩
    · exact orderly.expiring timer old
    · exact ⟨epoch.le, more⟩
  · rw [passes.requests, passes.owner]
    exact orderly.alive
  · intro address request current
    rw [passes.requests] at current
    obtain ⟨thread, only, here⟩ := orderly.single address request current
    obtain ⟨now, filtered, same, _⟩ := swapped request thread only
    rw [zero_add]
    exact ⟨now, filtered, same.trans here⟩
  · intro thread member
    rw [zero_add, passes.threads] at member
    rw [passes.serial]
    rcases Multiset.mem_cons.mp member with rfl | old
    · rw [passes.request]
      exact orderly.numbered t (Multiset.mem_add.mpr (.inl (Multiset.mem_singleton_self t)))
    · exact orderly.numbered thread (Multiset.mem_add.mpr (.inr old))
  · intro address
    rw [passes.requests]
    unfold marked
    rw [passes.devices]
    exact orderly.marked address
  · intro call member epoch device revision asks
    rw [passes.requests, passes.revisions]
    rcases passes.calls call member with old | ⟨_, thread⟩
    · exact orderly.reads call old (epoch.trans passes.epoch) device revision asks
    · rw [asks] at thread
      cases thread
  · intro address request thread current only
    refine .inl ⟨?_, shown address, swapped request thread only⟩
    rw [passes.requests]
    exact current

theorem call_there (request : Request) (reportErrors : Bool) (there : b.owner.isEmpty = false) :
    b.call request reportErrors = { b with calls := b.calls ++ [⟨b.epoch, request, reportErrors⟩] } := by
  unfold call
  rw [there]
  exact if_neg Bool.false_ne_true

theorem threads_sent (b : Backend) (request : Request) (reportErrors : Bool) :
    ({ b with calls := b.calls ++ [⟨b.epoch, request, reportErrors⟩] } : Backend).threads =
      (request.thread.toList : Multiset Thread) + b.threads := by
  unfold threads
  change ((b.calls ++ [_]).filterMap b.callThread : Multiset Thread) + _ = _
  have sent : b.callThread ⟨b.epoch, request, reportErrors⟩ = request.thread := if_pos rfl
  rw [List.filterMap_append, ← Multiset.coe_add, add_comm (↑(b.calls.filterMap b.callThread) : Multiset Thread), add_assoc]
  congr 2
  cases thread : request.thread with
  | none =>
    rw [List.filterMap_cons_none (sent.trans thread)]
    rfl
  | some one =>
    rw [List.filterMap_cons_some (sent.trans thread)]
    rfl

theorem threads_timed (b : Backend) (timer : AliasTimer) (epoch : timer.epoch = b.epoch) :
    ({ b with aliasTimers := b.aliasTimers ++ [timer] } : Backend).threads = timer.thread ::ₘ b.threads := by
  unfold threads
  change _ + ((b.aliasTimers ++ [timer]).filterMap b.timerThread : Multiset Thread) = _
  have set : b.timerThread timer = some timer.thread := if_pos epoch
  rw [List.filterMap_append, List.filterMap_cons_some set, List.filterMap_nil, ← Multiset.coe_add, ← add_assoc,
    add_comm _ (↑[timer.thread] : Multiset Thread)]
  rfl

/-- What one element of a list gives, and what the others give. -/
theorem filterMap_eraseIdx {α : Type} (f : α → Option Thread) {items : List α} {index : Nat} {item : α}
    (found : items[index]? = some item) :
    ((f item).toList : Multiset Thread) + ((items.eraseIdx index).filterMap f : Multiset Thread) = items.filterMap f := by
  obtain ⟨inside, rfl⟩ := List.getElem?_eq_some_iff.mp found
  have permuted := (List.getElem_cons_eraseIdx_perm inside).filterMap f
  rw [Multiset.coe_add, ← Multiset.coe_eq_coe.mpr permuted]
  apply congrArg
  cases thread : f items[index] with
  | none => exact (List.filterMap_cons_none thread).symm
  | some one => exact (List.filterMap_cons_some thread).symm

/-- What was outstanding before a call returned. -/
theorem threads_heard {index : Nat} {call : Call} (found : b.calls[index]? = some call) :
    ((b.callThread call).toList : Multiset Thread) + ({ b with calls := b.calls.eraseIdx index } : Backend).threads =
      b.threads := by
  unfold threads
  rw [← add_assoc, ← filterMap_eraseIdx b.callThread found]
  rfl

theorem threads_fired {index : Nat} {timer : AliasTimer} (found : b.aliasTimers[index]? = some timer) :
    ((b.timerThread timer).toList : Multiset Thread) +
      ({ b with aliasTimers := b.aliasTimers.eraseIdx index } : Backend).threads = b.threads := by
  unfold threads
  rw [add_left_comm, ← filterMap_eraseIdx b.timerThread found]
  rfl

/-- The books of a state with fewer calls and timers, and the rest in hand. -/
theorem Orderly.taken (orderly : Orderly b 0) (calls : ∀ call ∈ after.calls, call ∈ b.calls)
    (timers : ∀ timer ∈ after.aliasTimers, timer ∈ b.aliasTimers) (threads : held + after.threads = b.threads)
    (owner : after.owner = b.owner) (epoch : after.epoch = b.epoch) (requests : after.aliasRequests = b.aliasRequests)
    (devices : after.devices = b.devices) (serial : after.serial = b.serial)
    (revisions : after.aliasRevisions = b.aliasRevisions) : Orderly after held where
  past := fun call member => epoch ▸ orderly.past call (calls call member)
  expiring := fun timer member => epoch ▸ orderly.expiring timer (timers timer member)
  alive := by
    rw [requests, owner]
    exact orderly.alive
  single := by
    rw [requests, threads, ← zero_add b.threads]
    exact orderly.single
  numbered := by
    rw [threads, serial, ← zero_add b.threads]
    exact orderly.numbered
  marked := by
    unfold Backend.marked
    rw [requests, devices]
    exact orderly.marked
  reads := by
    rw [requests, revisions, epoch]
    exact fun call member => orderly.reads call (calls call member)

theorem heard_orderly {index : Nat} {call : Call} (orderly : Orderly b 0) (found : b.calls[index]? = some call) :
    Orderly { b with calls := b.calls.eraseIdx index } ((b.callThread call).toList : Multiset Thread) :=
  orderly.taken (fun _ member => List.mem_of_mem_eraseIdx member) (fun _ member => member) (threads_heard found) rfl rfl rfl
    rfl rfl rfl

theorem fired_orderly {index : Nat} {timer : AliasTimer} (orderly : Orderly b 0)
    (found : b.aliasTimers[index]? = some timer) :
    Orderly { b with aliasTimers := b.aliasTimers.eraseIdx index } ((b.timerThread timer).toList : Multiset Thread) :=
  orderly.taken (fun _ member => member) (fun _ member => List.mem_of_mem_eraseIdx member) (threads_fired found) rfl rfl rfl
    rfl rfl rfl

/-- What was before a handler, with other things in hand. -/
theorem Settles.before {before : Multiset Thread} (settles : Settles held middle after)
    (requests : middle.aliasRequests = b.aliasRequests)
    (shown : ∀ address, (b.aliasRequests address).isSome = true → middle.shownName address = b.shownName address)
    (threads : held + middle.threads = before + b.threads) : Settles before b after where
  orderly := settles.orderly
  follows := by
    intro address request thread current only
    have same := shown address (by rw [current]; rfl)
    rw [← threads] at only
    rcases settles.follows address request thread (requests ▸ current) only with goes | ends
    · exact .inl ⟨goes.requests, goes.shown.trans same, goes.passed⟩
    · exact .inr ⟨ends.requests, same ▸ ends.shown⟩

/-- Nothing came of it. -/
theorem Orderly.idle (orderly : Orderly b 0) : Settles 0 b b := (Aloof.refl b).settles orderly

theorem Orderly.present (orderly : Orderly b held) {address : String} {request : Nat}
    (current : b.aliasRequests address = some request) : (b.devices address).isNone = false := by
  have marked := orderly.marked address
  rw [current] at marked
  unfold Backend.marked at marked
  cases entry : b.devices address with
  | none =>
    rw [entry] at marked
    cases marked
  | some entry => rfl

variable {address newAlias : String} {request attempts left : Nat}

theorem confirmAlias_settles (orderly : Orderly b {⟨address, newAlias, request, left⟩}) (less : 2 * attempts < left) :
    Settles {⟨address, newAlias, request, left⟩} b (b.confirmAlias address newAlias request attempts) := by
  unfold confirmAlias
  by_cases current : b.aliasRequests address = some request
  · have there := orderly.alive address (by rw [current]; rfl)
    rw [if_neg (by simp [current, orderly.present current]), call_there _ _ there]
    refine Passes.settles (?_ : Passes b _ _ ⟨address, newAlias, request, 2 * attempts⟩) orderly
    refine ⟨rfl, rfl, rfl, threads_sent b _ _, rfl, rfl, rfl, ?_, fun _ member => .inl member, rfl, rfl, rfl, less⟩
    intro call member
    rcases List.mem_append.mp member with old | new
    · exact .inl old
    · cases List.mem_singleton.mp new
      exact .inr ⟨rfl, rfl⟩
  · rw [if_pos (by simp [current])]
    exact orderly.stale current

theorem ended_drops (b : Backend) (address : String) (change : Entry → Entry)
    (cleared : ∀ entry, (change entry).aliasPending = false) : Drops b ((b.aliasEnded address).modify address change) address where
  owner := rfl
  epoch := rfl
  calls := rfl
  timers := rfl
  serial := rfl
  revisions := fun _ => le_rfl
  requests := rfl
  marked := by
    intro other
    rw [modify_marked, cleared]
    rfl
  shown := by
    intro other different
    exact (modify_shown _ _ _ _).trans (if_neg different)

theorem Drops.fail (drops : Drops b after address) (message : String) : Drops b (after.fail message) address :=
  ⟨drops.owner, drops.epoch, drops.calls, drops.timers, drops.serial, drops.revisions, drops.requests, drops.marked,
    drops.shown⟩

/-- What is shown when a change has ended without success. -/
theorem ended_shown (b : Backend) (address : String) :
    ((b.aliasEnded address).modify address fun entry => { entry with aliasPending := false }).shownName address =
      b.shownName address := by
  rw [modify_shown, if_pos rfl]
  exact getD_shown b address

/-- A change in hand that has come to its end. -/
theorem Orderly.ended (orderly : Orderly b {⟨address, newAlias, request, left⟩})
    (current : b.aliasRequests address = some request) (drops : Drops b after address)
    (shown : after.shownName address = some newAlias ∨ after.shownName address = b.shownName address) :
    Settles {⟨address, newAlias, request, left⟩} b after := by
  apply drops.settles orderly
  · intro thread member
    rw [Multiset.mem_singleton.mp member]
  · intro thread only
    have inside := Multiset.mem_filter_of_mem
      (p := fun other : Thread => b.aliasRequests address = some other.request)
      (Multiset.mem_add.mpr (.inl (Multiset.mem_singleton_self _)) :
        (⟨address, newAlias, request, left⟩ : Thread) ∈ {⟨address, newAlias, request, left⟩} + b.threads) current
    rw [only, Multiset.mem_singleton] at inside
    rw [← inside]
    exact shown.imp_right .inl

theorem aliasSet_settles (orderly : Orderly b {⟨address, newAlias, request, 21⟩}) (answer : Answer) :
    Settles {⟨address, newAlias, request, 21⟩} b (b.aliasSet address newAlias request answer) := by
  unfold aliasSet
  by_cases current : b.aliasRequests address = some request
  · rw [if_neg (not_not.mpr current)]
    split
    · dsimp only
      rw [if_neg (by rw [orderly.present current]; exact Bool.false_ne_true)]
      apply orderly.ended current ((ended_drops b address _ fun _ => rfl).fail _)
      exact .inr (ended_shown b address)
    · exact confirmAlias_settles orderly (by decide)
  · rw [if_pos current]
    exact orderly.stale current

theorem aliasConfirmed_settles (orderly : Orderly b {⟨address, newAlias, request, 2 * attempts⟩}) (answer : Answer) :
    Settles {⟨address, newAlias, request, 2 * attempts⟩} b (b.aliasConfirmed address newAlias request attempts answer) := by
  unfold aliasConfirmed
  by_cases current : b.aliasRequests address = some request
  · rw [if_neg (by simp [current, orderly.present current])]
    split
    · apply orderly.ended current (ended_drops b address _ fun _ => rfl)
      left
      rw [modify_shown, if_pos rfl]
    · split
      · apply orderly.ended current ((ended_drops b address _ fun _ => rfl).fail _)
        exact .inr (ended_shown b address)
      · next more =>
        rw [Bool.or_eq_true, not_or, decide_eq_true_eq] at more
        have more := more.1
        refine Passes.settles (?_ : Passes b _ _ ⟨address, newAlias, request, 2 * attempts - 1⟩) orderly
        refine ⟨rfl, rfl, rfl, threads_timed b _ rfl, rfl, rfl, rfl, fun _ member => .inl member, ?_, rfl, rfl, rfl, ?_⟩
        · intro timer member
          rcases List.mem_append.mp member with old | new
          · exact .inl old
          · cases List.mem_singleton.mp new
            exact .inr ⟨rfl, (Nat.lt_of_not_le more).le⟩
        · dsimp only
          omega
  · rw [if_pos (by simp [current])]
    exact orderly.stale current

theorem aliasTimeout_settles (orderly : Orderly b 0) (index : Nat) : Settles 0 b (b.aliasTimeout index) := by
  unfold aliasTimeout
  split
  · exact orderly.idle
  · next timer found =>
    have fired := fired_orderly orderly found
    have threads := threads_fired found
    dsimp only
    split
    · next stale =>
      have nothing : b.timerThread timer = none := if_neg stale
      rw [nothing] at fired threads
      exact fired.idle.before rfl (fun _ _ => rfl) (threads.trans (zero_add _).symm)
    · next now =>
      have thread : b.timerThread timer = some timer.thread := if_pos (not_not.mp now)
      rw [thread] at fired threads
      have inHand : Orderly { b with aliasTimers := b.aliasTimers.eraseIdx index }
        {⟨timer.address, timer.newAlias, timer.request, 2 * timer.attempts - 1⟩} := fired
      have more := (orderly.expiring timer (List.mem_of_getElem? found)).2
      have less : 2 * (timer.attempts - 1) < 2 * timer.attempts - 1 := by omega
      exact (confirmAlias_settles inHand less).before rfl (fun _ _ => rfl) (threads.trans (zero_add _).symm)

/-- The reply to a call of another kind. -/
theorem returned_aloof (b : Backend) (policy : Policy) (answer : Answer) {request : Request} (nothing : request.thread = none)
    (older : ∀ device revision, request = .getRemoteAlias device revision →
      (b.aliasRequests device.address).isSome = true → revision < b.aliasRevisions device.address) :
    Aloof b (b.returned policy answer request) := by
  have stopped : Aloof b { b with initializing := false } := aloof_same rfl rfl rfl rfl
  cases request with
  | registerCallback =>
    dsimp only [returned]
    split
    · exact stopped
    · have taken : Aloof b { b with callbackRegistered := true } := aloof_same rfl rfl rfl rfl
      exact taken.trans (call_aloof _ rfl trivial)
  | registerConnectionCallback =>
    dsimp only [returned]
    split
    · exact stopped
    · exact registered_aloof b
  | registerBatteryCallback => exact batteryReady_aloof b answer
  | isDiscovering =>
    dsimp only [returned]
    split
    · exact .refl b
    · exact aloof_same rfl rfl rfl rfl
  | getBondedDevices => exact (listed_apart b answer).aloof
  | getConnectedDevices => exact (listed_apart b answer).aloof
  | read property device revision => exact (snapshot_apart b _ _ _ _).aloof
  | discovery enabled =>
    dsimp only [returned]
    split
    · exact (fail_apart b _).aloof
    · exact .refl b
  | operate method device operation serial => exact (operated_apart b _ _ _ _).aloof
  | getRemoteAlias device revision => exact aliasRead_aloof b _ _ (older device revision rfl)
  | setRemoteAlias device newAlias request => cases nothing
  | confirmAlias device newAlias request attempts => cases nothing
  | getBatteryInformation address revision => exact (batteryRead_apart b _ _ _).aloof
  | connectAllEnabledProfiles device =>
    dsimp only [returned]
    split
    · exact (readDevice_apart b _).aloof
    · exact .refl b
  | disconnectAllEnabledProfiles device => exact .refl b

theorem returned_settles {t : Thread} (orderly : Orderly b {t}) (policy : Policy) (answer : Answer) {request : Request}
    (thread : request.thread = some t) : Settles {t} b (b.returned policy answer request) := by
  cases request with
  | setRemoteAlias device newAlias request =>
    cases thread
    exact aliasSet_settles orderly answer
  | confirmAlias device newAlias request attempts =>
    cases thread
    exact aliasConfirmed_settles orderly answer
  | _ => cases thread

theorem replied_settles (orderly : Orderly b 0) (policy : Policy) (index : Nat) (answer : Answer) :
    Settles 0 b (b.replied policy index answer) := by
  unfold replied
  split
  · exact orderly.idle
  · next call found =>
    have heard := heard_orderly orderly found
    have threads := threads_heard found
    dsimp only
    split
    · next stale =>
      have nothing : b.callThread call = none := if_neg stale
      rw [nothing] at heard threads
      exact heard.idle.before rfl (fun _ _ => rfl) (threads.trans (zero_add _).symm)
    · next now =>
      have same : b.callThread call = call.request.thread := if_pos (not_not.mp now)
      have reported := (reported_apart { b with calls := b.calls.eraseIdx index } call.reportErrors answer).aloof
      rw [same] at heard threads
      cases thread : call.request.thread with
      | none =>
        rw [thread] at heard threads
        have returned := returned_aloof (Backend.reported { b with calls := b.calls.eraseIdx index } call.reportErrors answer)
          policy answer thread (by
            intro device revision asks changing
            rw [reported.requests] at changing
            have read := orderly.reads call (List.mem_of_getElem? found) (not_not.mp now) device revision asks
            exact (read.2 changing).trans_le (reported.revisions _))
        exact ((reported.trans returned).settles heard).before rfl (fun _ _ => rfl) (threads.trans (zero_add _).symm)
      | some t =>
        rw [thread] at heard threads
        have settles := returned_settles (reported.orderly heard) policy answer thread
        refine Settles.before (b := b) settles reported.requests reported.shown ?_
        rw [reported.threads, zero_add]
        exact threads

/-- A change that begins, with its first call. -/
structure Starts (b after : Backend) (address newAlias : String) : Prop where
  owner : after.owner = b.owner
  epoch : after.epoch = b.epoch
  requests : after.aliasRequests = Function.update b.aliasRequests address (some (b.serial + 1))
  threads : after.threads = ⟨address, newAlias, b.serial + 1, 21⟩ ::ₘ b.threads
  marked : ∀ other, after.marked other = if other = address then true else b.marked other
  shown : ∀ other, after.shownName other = b.shownName other
  serial : after.serial = b.serial + 1
  revisions : after.aliasRevisions = bump b.aliasRevisions address
  calls : ∀ call ∈ after.calls, call ∈ b.calls ∨ call.epoch = b.epoch ∧ ∃ thread, call.request.thread = some thread
  timers : after.aliasTimers = b.aliasTimers

theorem Starts.settles {address newAlias : String} (starts : Starts b after address newAlias) (orderly : Orderly b 0)
    (there : b.owner.isEmpty = false) (free : b.aliasRequests address = none) : Settles 0 b after := by
  have old : ∀ thread ∈ b.threads, thread.request ≠ b.serial + 1 := by
    intro thread member
    have bounded := orderly.numbered thread (by rw [zero_add]; exact member)
    omega
  have fresh : ∀ other request thread, b.aliasRequests other = some request →
      b.threads.filter (fun one => one.request = request) = {thread} →
      other ≠ address ∧ after.threads.filter (fun one => one.request = request) = {thread} := by
    intro other request thread current only
    have inside : thread ∈ b.threads.filter (fun one => one.request = request) := by
      rw [only]
      exact Multiset.mem_singleton_self thread
    have number : thread.request = request := (Multiset.mem_filter.mp inside).2
    refine ⟨?_, ?_⟩
    · rintro rfl
      rw [free] at current
      cases current
    · rw [starts.threads, Multiset.filter_cons_of_neg, only]
      intro same
      exact old thread (Multiset.mem_of_mem_filter inside) (number.trans same.symm)
  refine ⟨⟨?_, ?_, ?_, ?_, ?_, ?_, ?_⟩, ?_⟩
  · intro call member
    rw [starts.epoch]
    rcases starts.calls call member with before | ⟨epoch, _⟩
    · exact orderly.past call before
    · exact epoch.le
  · rw [starts.timers, starts.epoch]
    exact orderly.expiring
  · intro _ _
    exact starts.owner ▸ there
  · intro other request current
    rw [zero_add]
    rw [starts.requests, Function.update_apply] at current
    split at current
    · next same =>
      cases current
      refine ⟨⟨address, newAlias, b.serial + 1, 21⟩, ?_, same.symm⟩
      rw [starts.threads, Multiset.filter_cons_of_pos (p := fun other : Thread => other.request = b.serial + 1) _ rfl,
        Multiset.filter_eq_nil.mpr old]
      rfl
    · obtain ⟨thread, only, here⟩ := orderly.single other request current
      rw [zero_add] at only
      exact ⟨thread, (fresh other request thread current only).2, here⟩
  · intro thread member
    rw [zero_add, starts.threads] at member
    rw [starts.serial]
    rcases Multiset.mem_cons.mp member with rfl | before
    · exact le_rfl
    · exact (orderly.numbered thread (by rw [zero_add]; exact before)).trans (Nat.le_succ _)
  · intro other
    rw [starts.marked, starts.requests, Function.update_apply]
    split
    · rfl
    · exact orderly.marked other
  · intro call member epoch device revision asks
    rcases starts.calls call member with before | ⟨_, thread, sent⟩
    · obtain ⟨upper, strict⟩ := orderly.reads call before (epoch.trans starts.epoch) device revision asks
      rw [starts.revisions, starts.requests]
      unfold bump
      rw [Function.update_apply, Function.update_apply]
      split
      · next same =>
        rw [← same]
        exact ⟨upper.trans (Nat.le_succ _), fun _ => Nat.lt_succ_of_le upper⟩
      · exact ⟨upper, strict⟩
    · rw [asks] at sent
      cases sent
  · intro other request thread current only
    rw [zero_add] at only
    obtain ⟨different, goes⟩ := fresh other request thread current only
    refine .inl ⟨?_, starts.shown other, thread, goes, rfl, rfl, .inl rfl⟩
    rw [starts.requests, Function.update_of_ne different]
    exact current

/-- A change begins when the address has none. -/
theorem setAlias_settles (orderly : Orderly b 0) (ready : b.ready = true → b.owner.isEmpty = false)
    (address newAlias : String) : Settles 0 b (b.setAlias address newAlias) := by
  unfold setAlias
  split
  · exact orderly.idle
  · next free =>
    simp only [Bool.or_eq_true, Bool.not_eq_true', not_or, Bool.not_eq_false, Option.not_isSome_iff_eq_none] at free
    obtain ⟨⟨now, _⟩, free⟩ := free
    have there := ready now
    split
    · exact (fail_apart b _).aloof.settles orderly
    · dsimp only
      rw [call_there]
      on_goal 2 => exact there
      refine Starts.settles (?_ : Starts b _ address newAlias) orderly there free
      refine ⟨rfl, rfl, rfl, threads_sent _ _ _, ?_, ?_, rfl, rfl, ?_, rfl⟩
      · intro other
        unfold marked modify
        dsimp only
        rw [Function.update_apply]
        split
        · rfl
        · rfl
      · intro other
        unfold shownName modify
        dsimp only
        by_cases same : other = address
        · subst same
          rw [Function.update_self]
          exact getD_shown b other
        · rw [Function.update_of_ne same]
      · intro call member
        rcases List.mem_append.mp member with old | new
        · exact .inl old
        · cases List.mem_singleton.mp new
          exact .inr ⟨rfl, _, rfl⟩

theorem deviceCleared_drops (b : Backend) (address : String) : Drops b (b.deviceCleared address) address where
  owner := Pairing.Backend.clearPairing_owner b.pairing address
  epoch := (Pairing.Backend.clearPairing_timely b.pairing address).epoch
  calls := rfl
  timers := rfl
  serial := rfl
  revisions := bump_le _ _
  requests := rfl
  marked := by
    intro other
    change (Function.update b.devices address none other).any Entry.aliasPending = _
    rw [Function.update_apply]
    split
    · rfl
    · rfl
  shown := by
    intro other different
    change (Function.update b.devices address none other).bind Entry.alias_ = _
    rw [Function.update_of_ne different]
    rfl

theorem deviceCleared_settles (orderly : Orderly b 0) (address : String) : Settles 0 b (b.deviceCleared address) := by
  apply (deviceCleared_drops b address).settles orderly
  · exact fun thread member => absurd member (Multiset.notMem_zero thread)
  · intro thread _
    exact .inr (.inr (Function.update_self _ _ _))

theorem callback_settles (orderly : Orderly b 0) (policy : Policy) (callback : Callback) :
    Settles 0 b (b.callback policy callback) := by
  by_cases stays : ∀ address, callback ≠ .deviceCleared address
  · exact (callback_apart b policy stays).aloof.settles orderly
  · push Not at stays
    obtain ⟨address, rfl⟩ := stays
    exact deviceCleared_settles orderly address

theorem call_devices (b : Backend) (request : Request) (reportErrors : Bool) :
    (b.call request reportErrors).devices = b.devices := by
  unfold call
  split
  · rfl
  · rfl

theorem batteryCall_devices (b : Backend) (request : Request) : (b.batteryCall request).devices = b.devices := by
  unfold batteryCall
  split
  · rfl
  · rfl

theorem initializeBackend_devices (b : Backend) : b.initializeBackend.devices = b.devices := by
  unfold initializeBackend initializeDeviceDetails
  split
  · split
    · rfl
    · exact batteryCall_devices _ _
  · split
    · rfl
    · dsimp only
      split
      · exact call_devices _ _ _
      · exact call_devices _ _ _

/-- With another daemon nothing is under way, and no device is known. -/
theorem reset_settles (orderly : Orderly b 0) (owner : String) : Settles 0 b (b.reset owner) := by
  have begun : Aloof (b.cleared owner) (b.reset owner) := initializeBackend_aloof _
  have nothing : (b.cleared owner).threads = 0 := by
    unfold threads
    have calls : b.calls.filterMap (b.cleared owner).callThread = [] := by
      apply List.filterMap_eq_nil_iff.mpr
      intro call member
      exact if_neg (Nat.lt_succ_of_le (orderly.past call member)).ne
    have timers : b.aliasTimers.filterMap (b.cleared owner).timerThread = [] := by
      apply List.filterMap_eq_nil_iff.mpr
      intro timer member
      exact if_neg (Nat.lt_succ_of_le (orderly.expiring timer member).1).ne
    change (b.calls.filterMap (b.cleared owner).callThread : Multiset Thread) +
      (b.aliasTimers.filterMap (b.cleared owner).timerThread : Multiset Thread) = 0
    rw [calls, timers]
    rfl
  have cleared : Orderly (b.cleared owner) 0 := by
    refine ⟨?_, ?_, nofun, nofun, ?_, fun _ => rfl, ?_⟩
    · exact fun call member => (orderly.past call member).trans (Nat.le_succ _)
    · exact fun timer member => ⟨(orderly.expiring timer member).1.trans (Nat.le_succ _), (orderly.expiring timer member).2⟩
    · rw [zero_add, nothing]
      exact fun thread member => absurd member (Multiset.notMem_zero thread)
    · intro call member epoch
      exact absurd epoch (Nat.lt_succ_of_le (orderly.past call member)).ne
  refine ⟨begun.orderly cleared, ?_⟩
  intro address request thread _ _
  refine .inr ⟨?_, .inr (.inr ?_)⟩
  · rw [begun.requests]
    rfl
  · exact congrFun (initializeBackend_devices _) address

theorem step_settles (orderly : Orderly b 0) (ready : b.ready = true → b.owner.isEmpty = false) (policy : Policy)
    (input : Input) : Settles 0 b (b.step policy input) := by
  cases input with
  | reset owner => exact reset_settles orderly owner
  | retry => exact (initializeBackend_aloof b).settles orderly
  | callback callback =>
    dsimp only [step]
    split
    · exact orderly.idle
    · exact callback_settles orderly policy callback
  | replied index answer => exact replied_settles orderly policy index answer
  | timeout index => exact (timeout_apart b index).aloof.settles orderly
  | aliasTimeout index => exact aliasTimeout_settles orderly index
  | operate address operation => exact (operate_apart b _ _ _).aloof.settles orderly
  | discover enabled => exact (discover_apart b enabled).aloof.settles orderly
  | setAlias address newAlias => exact setAlias_settles orderly ready address newAlias
  | clearError => exact (fail_apart b _).aloof.settles orderly
  | attach registered => exact (paired_apart b (.attach registered) nofun).aloof.settles orderly
  | detach view => exact (paired_apart b (.detach view) nofun).aloof.settles orderly
  | unregistered registered => exact (paired_apart b (.unregistered registered) nofun).aloof.settles orderly
  | answer token accept pin => exact (paired_apart b (.answer token accept pin) nofun).aloof.settles orderly
  | promptReplied index outcome => exact (paired_apart b (.replied index outcome) nofun).aloof.settles orderly
  | bondState index state => exact (paired_apart b (.bondState index state) nofun).aloof.settles orderly
  | promptExpired index => exact (paired_apart b (.expire index) nofun).aloof.settles orderly
  | probe address => exact (readDevice_apart b _).aloof.settles orderly
  | reconnect address => exact (call_aloof b (by rfl) (by trivial)).settles orderly
  | reconcile address => exact (call_aloof b (by rfl) (by trivial)).settles orderly

theorem start_orderly : Orderly {} 0 := by
  refine ⟨nofun, nofun, nofun, nofun, ?_, fun _ => rfl, nofun⟩
  exact fun thread member => absurd member (Multiset.notMem_zero thread)

theorem Stands.owned {phase : Phase} (stands : Stands b phase) (ready : b.ready = true) : b.owner.isEmpty = false := by
  apply stands.alive
  rintro rfl
  rw [(flags_each stands.flags).1] at ready
  cases ready

theorem run_orderly {phase : Phase} (orderly : Orderly b 0) (stands : Stands b phase) (inputs : List (Policy × Input)) :
    Orderly (b.run inputs) 0 := by
  induction inputs generalizing b phase with
  | nil => exact orderly
  | cons input rest ih =>
    obtain ⟨next, after, _⟩ := step_moves stands input.1 input.2
    exact ih (step_settles orderly stands.owned input.1 input.2).orderly after

/-- In every run a device shows that its name is changing exactly while a change is under way. Such a change has one call or
timer at any time, and in the next step it goes on with the old name or comes to one of its ends. -/
theorem name_changes_settle (inputs : List (Policy × Input)) (policy : Policy) (input : Input) :
    (∀ address, (run {} inputs).marked address = ((run {} inputs).aliasRequests address).isSome) ∧
      ∀ address request, (run {} inputs).aliasRequests address = some request →
        ∃ thread, (run {} inputs).threads.filter (fun other => other.request = request) = {thread} ∧
          thread.address = address ∧
            (GoesOn (run {} inputs) ((run {} inputs).step policy input) address request thread ∨
              Ends (run {} inputs) ((run {} inputs).step policy input) address thread) := by
  have orderly := run_orderly start_orderly start_stands inputs
  obtain ⟨phase, stands⟩ := run_stands start_stands inputs
  refine ⟨orderly.marked, ?_⟩
  intro address request current
  obtain ⟨thread, only, here⟩ := orderly.single address request current
  have follows := (step_settles orderly stands.owned policy input).follows address request thread current only
  rw [zero_add] at only
  exact ⟨thread, only, here, follows⟩

end Backend
end FlossDesktop.Floss
