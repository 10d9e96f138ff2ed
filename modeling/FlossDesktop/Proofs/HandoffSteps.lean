import FlossDesktop.Handoff

/-! What one step of the desktop does to the settings. A tick is a sequence of changes, each
to one device, and each recorded as it is made; the invariants are about these changes. -/

namespace FlossDesktop.Handoff

open SharedSettings Reconnect

variable {settings : Settings Key Value} {file : Store Key Value} {log marks : List Event} {process : Nat}
  {now : Int} {worker : Worker} {backend : Backend}

namespace Peer

def write (peer : Peer) (setting : Setting) (value : Value) (file : Store Key Value) : Store Key Value :=
  Function.update file (peer.key setting) (some value)

variable {who other : Peer} {setting written : Setting} {value : Value}

theorem key_injective (same : who.key setting = other.key written) : who = other ∧ setting = written := by
  unfold key at same
  cases who
  cases other
  cases same
  exact ⟨rfl, rfl⟩

theorem write_same (who : Peer) (setting : Setting) (value : Value) (file : Store Key Value) :
    who.write setting value file (who.key setting) = some value := Function.update_self ..

theorem write_setting (apart : setting ≠ written) : other.write written value file (who.key setting) = file (who.key setting) :=
  Function.update_of_ne (fun same => apart (key_injective same).2) ..

theorem write_other (apart : who ≠ other) : other.write written value file (who.key setting) = file (who.key setting) :=
  Function.update_of_ne (fun same => apart (key_injective same).1) ..

/-- A connection was seen. -/
def cleared (who : Peer) (file : Store Key Value) : Store Key Value :=
  if who.number file .nextAttempt ≠ 0 then who.write .nextAttempt (.int 0) (who.write .failures (.int 0) file) else file

theorem cleared_pending (who : Peer) (file : Store Key Value) (pending : who.number file .nextAttempt ≠ 0) :
    who.cleared file = who.write .nextAttempt (.int 0) (who.write .failures (.int 0) file) := if_pos pending

theorem cleared_idle (who : Peer) (file : Store Key Value) (idle : ¬ who.number file .nextAttempt ≠ 0) :
    who.cleared file = file := if_neg idle

/-- The time of the next attempt is missing, or cannot be true. -/
def unscheduled (who : Peer) (file : Store Key Value) (now : Int) : Prop :=
  who.number file .nextAttempt ≤ 0 ∨ who.number file .nextAttempt > now + maximumDelay + connectionTimeout

instance (who : Peer) (file : Store Key Value) (now : Int) : Decidable (who.unscheduled file now) :=
  inferInstanceAs (Decidable (_ ∨ _))

/-- A device was seen that is not connected. -/
def scheduled (who : Peer) (now : Int) (file : Store Key Value) : Store Key Value :=
  if who.unscheduled file now then who.write .nextAttempt (.int (now + initialDelay)) file else file

theorem scheduled_anew (who : Peer) (file : Store Key Value) (missing : who.unscheduled file now) :
    who.scheduled now file = who.write .nextAttempt (.int (now + initialDelay)) file := if_pos missing

theorem scheduled_kept (who : Peer) (file : Store Key Value) (planned : ¬ who.unscheduled file now) :
    who.scheduled now file = file := if_neg planned

def failed (who : Peer) (file : Store Key Value) : Nat := (max 0 (min 6 (who.number file .failures))).toNat

def delay (who : Peer) (file : Store Key Value) : Int := min maximumDelay (initialDelay * 2 ^ who.failed file)

/-- An attempt is reserved. -/
def reserved (who : Peer) (now : Int) (file : Store Key Value) : Store Key Value :=
  who.write .nextAttempt (.int (now + connectionTimeout + who.delay file)) <|
    who.write .autoAttempt (.bool true) (who.write .failures (.int (who.failed file + 1)) file)

end Peer

/-- The message asks for an automatic connection. -/
def attempts : Message → Bool
  | .connectAllEnabledProfiles .. => true
  | _ => false

structure Record where
  file : Store Key Value
  log : List Event

/-- What a tick does, one device at a time. -/
inductive Change (process : Nat) (now : Int) : Record → Record → Prop where
  | aside {file : Store Key Value} {log : List Event} (who : Peer) (value : Value) :
    Change process now ⟨file, log⟩ ⟨who.write .nextDisconnect value file, log⟩
  | connected {file : Store Key Value} {log : List Event} (who : Peer) (permitted : who.inhibited file = false) :
    Change process now ⟨file, log⟩ ⟨who.cleared file, log ++ [.connected who now]⟩
  | disconnected {file : Store Key Value} {log : List Event} (who : Peer) (permitted : who.inhibited file = false) :
    Change process now ⟨file, log⟩ ⟨who.scheduled now file, log ++ [.disconnected who now]⟩
  | attempt {file : Store Key Value} {log : List Event} (adapter : Nat) (candidate : String) (request : Nat)
    (permitted : (peer adapter candidate).inhibited file = false)
    (positive : 0 < (peer adapter candidate).number file .nextAttempt)
    (due : (peer adapter candidate).number file .nextAttempt ≤ now) :
    Change process now ⟨file, log⟩ ⟨(peer adapter candidate).reserved now file,
      log ++ [.sent process now (.connectAllEnabledProfiles adapter candidate request ((peer adapter candidate).delay file)
        (now + connectionTimeout + (peer adapter candidate).delay file))]⟩
  | message {file : Store Key Value} {log : List Event} (message : Message) (other : attempts message = false) :
    Change process now ⟨file, log⟩ ⟨file, log ++ [.sent process now message]⟩

abbrev Changes (process : Nat) (now : Int) : Record → Record → Prop := Relation.ReflTransGen (Change process now)

/-- What a worker may send: an attempt only by itself, and under a new request. -/
def Sends (now : Int) (adapter : Nat) (worker : Worker) (outcome : Outcome Key Value Message Worker) : Prop :=
  (∀ message ∈ outcome.sent, attempts message = false) ∧ worker.request ≤ outcome.result.request ∨
    ∃ candidate delay,
      outcome.sent = [.connectAllEnabledProfiles adapter candidate outcome.result.request delay
        (now + connectionTimeout + delay)] ∧ worker.owner = true ∧ worker.request < outcome.result.request

/-- The rest of a tick: from these settings and this record it comes to its end, with these
sightings on the way. -/
structure Leads (process : Nat) (now : Int) (adapter : Nat) (worker : Worker) (file : Store Key Value)
    (log marks : List Event) (outcome : Outcome Key Value Message Worker) : Prop where
  changes : Changes process now ⟨file, log⟩
    ⟨outcome.file, log ++ marks ++ outcome.sent.map fun message => .sent process now message⟩
  idle : outcome.settings.Idle
  owner : outcome.result.owner = worker.owner
  sends : Sends now adapter worker outcome

theorem Leads.after (marks : List Event) {adapter : Nat} {middle : Store Key Value} {seen : List Event}
    {outcome : Outcome Key Value Message Worker} (change : Change process now ⟨file, log⟩ ⟨middle, log ++ seen⟩)
    (leads : Leads process now adapter worker middle (log ++ seen) marks outcome) :
    Leads process now adapter worker file log (seen ++ marks) outcome where
  changes := by
    have rest := leads.changes
    rw [List.append_assoc log seen marks] at rest
    exact .head change rest
  idle := leads.idle
  owner := leads.owner
  sends := leads.sends

theorem Leads.aside {adapter : Nat} {middle : Store Key Value} {outcome : Outcome Key Value Message Worker}
    (change : Change process now ⟨file, log⟩ ⟨middle, log⟩)
    (leads : Leads process now adapter worker middle log marks outcome) :
    Leads process now adapter worker file log marks outcome :=
  ⟨.head change leads.changes, leads.idle, leads.owner, leads.sends⟩

/-- The worker had only forgotten requests. -/
theorem Leads.before {adapter : Nat} {after : Worker} {outcome : Outcome Key Value Message Worker}
    (owner : after.owner = worker.owner) (request : worker.request ≤ after.request)
    (leads : Leads process now adapter after file log marks outcome) :
    Leads process now adapter worker file log marks outcome where
  changes := leads.changes
  idle := leads.idle
  owner := leads.owner.trans owner
  sends := by
    rcases leads.sends with ⟨quiet, later⟩ | ⟨candidate, delay, sent, owns, later⟩
    · exact .inl ⟨quiet, request.trans later⟩
    · exact .inr ⟨candidate, delay, sent, owner ▸ owns, request.trans_lt later⟩

/-- Nothing is sent, and nothing waits to be committed. -/
theorem leads_ret {adapter : Nat} {after : Worker} (idle : settings.Idle) (owner : after.owner = worker.owner)
    (request : worker.request ≤ after.request) :
    Leads process now adapter worker file log [] ⟨file, settings, after, []⟩ where
  changes := by
    simp only [List.map_nil, List.append_nil]
    exact .refl
  idle := idle
  owner := owner
  sends := .inl ⟨nofun, request⟩

theorem leads_send {adapter : Nat} {after : Worker} {message : Message} (other : attempts message = false)
    (idle : settings.Idle) (owner : after.owner = worker.owner) (request : worker.request ≤ after.request) :
    Leads process now adapter worker file log [] ⟨file, settings, after, [message]⟩ where
  changes := by
    rw [List.append_nil]
    exact .single (.message message other)
  idle := idle
  owner := owner
  sends := by
    refine .inl ⟨?_, request⟩
    intro sent member
    cases List.mem_singleton.mp member
    exact other

theorem value_setValue (adapter : Nat) (address : String) (setting : Setting) (value : Value) :
    (settings.setValue (key adapter address setting) value).value =
      (peer adapter address).write setting value settings.value := Settings.value_setValue ..

theorem attempt_leads (tracks : settings.Tracks file) (owner : worker.owner = true) (adapter : Nat) (candidate : String)
    (permitted : (peer adapter candidate).inhibited settings.value = false)
    (positive : 0 < (peer adapter candidate).number settings.value .nextAttempt)
    (due : (peer adapter candidate).number settings.value .nextAttempt ≤ now) :
    Leads process now adapter worker settings.value log []
      ((attempt adapter candidate ((peer adapter candidate).failed settings.value) now worker).alone now
        settings file) := by
  unfold attempt
  simp only [Program.alone_setValue]
  have reserving := ((tracks.setValue (key adapter candidate .failures)
    (.int ((peer adapter candidate).failed settings.value + 1))).setValue (key adapter candidate .autoAttempt)
      (.bool true)).setValue (key adapter candidate .nextAttempt) (.int (now + connectionTimeout +
        min maximumDelay (initialDelay * 2 ^ (peer adapter candidate).failed settings.value)))
  rw [Program.alone_sync_tracks reserving]
  simp only [Settings.value_setValue, Program.alone_get, Bool.false_eq_true, if_false, Program.alone_send, Program.alone_ret]
  refine ⟨?_, Settings.idle_loaded _, rfl, ?_⟩
  · rw [List.append_nil]
    exact .single (.attempt adapter candidate (worker.request + 1) permitted positive due)
  · exact .inr ⟨candidate, _, rfl, owner, Nat.lt_succ_self _⟩

/-- The candidate of a scan is a device whose attempt is due. -/
def Due (adapter : Nat) (candidate : String) (now : Int) (file : Store Key Value) : Prop :=
  (peer adapter candidate).inhibited file = false ∧ 0 < (peer adapter candidate).number file .nextAttempt ∧
    (peer adapter candidate).number file .nextAttempt ≤ now

theorem reserve_leads (tracks : settings.Tracks file) (owner : worker.owner = true) (adapter : Nat) (candidate : String)
    (due : candidate ≠ "" → Due adapter candidate now settings.value) :
    Leads process now adapter worker settings.value log []
      ((reserve adapter candidate now worker).alone now settings file) := by
  unfold reserve
  rw [Program.alone_sync_tracks tracks, Program.alone_get]
  split
  · exact leads_ret (Settings.idle_loaded _) rfl le_rfl
  · next chosen =>
    rw [not_or] at chosen
    obtain ⟨permitted, positive, due⟩ := due chosen.1
    rw [Program.alone_sync_tracks (Settings.tracks_loaded _), Settings.value_loaded, Program.alone_get]
    split
    · next refused => cases refused.symm.trans permitted
    · exact attempt_leads (Settings.tracks_loaded _) owner adapter candidate permitted positive due

theorem cleared_setting (who other : Peer) {setting : Setting} (failures : setting ≠ .failures)
    (nextAttempt : setting ≠ .nextAttempt) : other.cleared file (who.key setting) = file (who.key setting) := by
  unfold Peer.cleared
  split
  · rw [Peer.write_setting nextAttempt, Peer.write_setting failures]
  · rfl

theorem cleared_other {who other : Peer} (apart : who ≠ other) (setting : Setting) :
    other.cleared file (who.key setting) = file (who.key setting) := by
  unfold Peer.cleared
  split
  · rw [Peer.write_other apart, Peer.write_other apart]
  · rfl

theorem scheduled_setting (who other : Peer) {setting : Setting} (nextAttempt : setting ≠ .nextAttempt) :
    other.scheduled now file (who.key setting) = file (who.key setting) := by
  unfold Peer.scheduled
  split
  · rw [Peer.write_setting nextAttempt]
  · rfl

theorem scheduled_other {who other : Peer} (apart : who ≠ other) (setting : Setting) :
    other.scheduled now file (who.key setting) = file (who.key setting) := by
  unfold Peer.scheduled
  split
  · rw [Peer.write_other apart]
  · rfl

/-- What a scan sees depends on the inhibitions only, and it changes none. -/
theorem sight_congr {after : Store Key Value} (same : ∀ who : Peer, after (who.key .inhibited) = file (who.key .inhibited)) :
    sight backend after now = sight backend file now := by
  have considered_same : considered backend after = considered backend file := by
    funext address device
    unfold considered Peer.inhibited
    rw [same]
  funext device
  unfold sight
  rw [considered_same]

theorem Due.congr {adapter : Nat} {candidate : String} {after : Store Key Value}
    (same : ∀ setting, after ((peer adapter candidate).key setting) = file ((peer adapter candidate).key setting))
    (due : Due adapter candidate now file) : Due adapter candidate now after := by
  unfold Due Peer.inhibited Peer.number at *
  rw [same, same]
  exact due

theorem considered_iff (address : String) (device : Device) : considered backend settings.value address device = false ↔
    (device.paired.getD false = false ∨ device.connected = none ∨ address ∈ backend.operations ∨
      inhibited settings backend.adapter address = true) := by
  have same : (peer backend.adapter address).inhibited settings.value = inhibited settings backend.adapter address := rfl
  unfold considered
  rw [same]
  cases device.paired.getD false <;> cases device.connected <;> cases inhibited settings backend.adapter address <;> simp

theorem sight_skipped {address : String} {device : Device} (skipped : considered backend file address device = false) :
    sight backend file now (address, device) = none := by
  dsimp only [sight]
  rw [skipped]
  rfl

theorem sight_up {address : String} {device : Device} (seen : considered backend file address device = true)
    (up : device.connected = some true) :
    sight backend file now (address, device) = some (.connected (peer backend.adapter address) now) := by
  dsimp only [sight]
  rw [seen, up]
  rfl

theorem sight_down {address : String} {device : Device} (seen : considered backend file address device = true)
    (down : device.connected ≠ some true) :
    sight backend file now (address, device) = some (.disconnected (peer backend.adapter address) now) := by
  dsimp only [sight]
  rw [if_pos seen, if_neg (by simpa using down)]

theorem peer_apart {adapter : Nat} {first second : String} (apart : first.toUpper ≠ second.toUpper) :
    peer adapter first ≠ peer adapter second := fun same => apart (congrArg Peer.address same)

/-- The scan: each device that it considers is seen, and then the first that is due is tried. -/
theorem scan_leads (owner : worker.owner = true) (devices : List (String × Device))
    (once : (devices.map fun device => device.1.toUpper).Nodup) {candidate : String} {earliest : Int}
    (chosen : candidate ≠ "" → Due backend.adapter candidate now settings.value ∧
      candidate.toUpper ∉ devices.map fun device => device.1.toUpper)
    (early : earliest ≤ now + 1) (tracks : settings.Tracks file) :
    Leads process now backend.adapter worker settings.value log (devices.filterMap (sight backend settings.value now))
      ((scan backend now worker candidate earliest devices).alone now settings file) := by
  induction devices generalizing settings candidate earliest log with
  | nil => exact reserve_leads tracks owner backend.adapter candidate (fun named => (chosen named).1)
  | cons head rest ih =>
    obtain ⟨address, device⟩ := head
    obtain ⟨fresh, once⟩ := List.nodup_cons.mp once
    have kept : candidate ≠ "" → candidate.toUpper ∉ rest.map fun device => device.1.toUpper :=
      fun named member => (chosen named).2 (List.mem_cons_of_mem _ member)
    have apart : candidate ≠ "" → peer backend.adapter candidate ≠ peer backend.adapter address := by
      intro named
      apply peer_apart
      intro same
      exact (chosen named).2 (List.mem_cons.mpr (.inl same))
    rw [scan, Program.alone_get]
    split
    · next skipped =>
      rw [List.filterMap_cons_none (sight_skipped ((considered_iff address device).mpr skipped))]
      exact ih once (fun named => ⟨(chosen named).1, kept named⟩) early tracks
    · next considered_here =>
      have permitted : (peer backend.adapter address).inhibited settings.value = false := by
        cases held : (peer backend.adapter address).inhibited settings.value with
        | false => rfl
        | true => exact absurd (.inr (.inr (.inr held))) considered_here
      have seen : considered backend settings.value address device = true := by
        rw [← Bool.not_eq_false, considered_iff]
        exact considered_here
      split
      · next up =>
        rw [List.filterMap_cons_some (sight_up seen up)]
        have change : Change process now ⟨settings.value, log⟩ _ := .connected (peer backend.adapter address) permitted
        apply Leads.after (rest.filterMap (sight backend settings.value now)) change
        rw [← sight_congr fun who => cleared_setting who (peer backend.adapter address) (by decide) (by decide)]
        have due : candidate ≠ "" →
            Due backend.adapter candidate now ((peer backend.adapter address).cleared settings.value) :=
          fun named => (chosen named).1.congr fun setting => cleared_other (apart named) setting
        split
        · next pending =>
          rw [Peer.cleared_pending (peer backend.adapter address) settings.value pending, ← value_setValue, ← value_setValue] at due ⊢
          exact ih once (fun named => ⟨due named, kept named⟩) early ((tracks.setValue _ _).setValue _ _)
        · next idle =>
          rw [Peer.cleared_idle (peer backend.adapter address) settings.value idle] at due ⊢
          exact ih once (fun named => ⟨due named, kept named⟩) early tracks
      · next down =>
        rw [List.filterMap_cons_some (sight_down seen down)]
        have change : Change process now ⟨settings.value, log⟩ _ := .disconnected (peer backend.adapter address) permitted
        apply Leads.after (rest.filterMap (sight backend settings.value now)) change
        rw [← sight_congr fun who => scheduled_setting who (peer backend.adapter address) (by decide)]
        have due : candidate ≠ "" →
            Due backend.adapter candidate now ((peer backend.adapter address).scheduled now settings.value) :=
          fun named => (chosen named).1.congr fun setting => scheduled_other (apart named) setting
        dsimp only
        split
        · next missing =>
          rw [Peer.scheduled_anew (peer backend.adapter address) settings.value missing, ← value_setValue] at due ⊢
          rw [Program.alone_setValue]
          -- A new time is never due in the same scan.
          rw [if_neg (by unfold initialDelay; omega)]
          exact ih once (fun named => ⟨due named, kept named⟩) early (tracks.setValue _ _)
        · next planned =>
          rw [Peer.scheduled_kept (peer backend.adapter address) settings.value planned] at due ⊢
          split
          · next sooner =>
            have mine : Due backend.adapter address now settings.value := by
              refine ⟨permitted, ?_, ?_⟩
              · exact not_le.mp fun missing => planned (.inl missing)
              · have sooner : (peer backend.adapter address).number settings.value .nextAttempt < earliest := sooner
                omega
            exact ih once (fun _ => ⟨mine, fresh⟩) (by omega) tracks
          · exact ih once (fun named => ⟨due named, kept named⟩) early tracks

theorem proceed_leads (owner : worker.owner = true) (once : listedOnce backend = true) :
    Leads process now backend.adapter worker file log
      (if worker.pending == "" then backend.devices.filterMap (sight backend file now) else [])
      ((proceed backend now worker).alone now { loaded := file } file) := by
  unfold proceed
  by_cases idle : worker.pending = ""
  · rw [if_pos (by rw [idle]; rfl), if_neg (not_not.mpr idle)]
    exact scan_leads owner backend.devices (of_decide_eq_true once) (fun named => absurd rfl named) le_rfl
      (Settings.tracks_loaded file)
  · rw [if_neg (by simpa using idle), if_pos idle]
    split
    · exact leads_send rfl (Settings.idle_loaded _) rfl le_rfl
    · exact leads_ret (Settings.idle_loaded _) rfl le_rfl

theorem reconciles_iff (backend : Backend) (file : Store Key Value) (now : Int) (address : String) (device : Device) :
    reconciles backend file now (address, device) = false ↔
    (device.connected.getD false = false ∨ inhibited { loaded := file } backend.adapter address = false ∨
      number { loaded := file } backend.adapter address .disconnectUntil ≤ now ∨
      number { loaded := file } backend.adapter address .disconnectUntil > now + disconnectReconciliation ∨
      number { loaded := file } backend.adapter address .nextDisconnect > now) := by
  have until_same : (peer backend.adapter address).number file .disconnectUntil =
      number { loaded := file } backend.adapter address .disconnectUntil := rfl
  have next_same : (peer backend.adapter address).number file .nextDisconnect =
      number { loaded := file } backend.adapter address .nextDisconnect := rfl
  have inhibited_same : (peer backend.adapter address).inhibited file =
      inhibited { loaded := file } backend.adapter address := rfl
  dsimp only [reconciles]
  rw [until_same, next_same, inhibited_same]
  simp only [Bool.and_eq_false_iff, decide_eq_false_iff_not, not_lt, not_le, or_assoc, gt_iff_lt]

/-- A late connection is taken down, and the tick ends there, or the tick goes on. -/
theorem reconcile_leads (owner : worker.owner = true) (once : listedOnce backend = true)
    (devices : List (String × Device)) :
    Leads process now backend.adapter worker file log
      (if !devices.any (reconciles backend file now) && worker.pending == "" then
        backend.devices.filterMap (sight backend file now) else [])
      ((reconcile backend now worker devices).alone now { loaded := file } file) := by
  induction devices with
  | nil => exact proceed_leads owner once
  | cons head rest ih =>
    obtain ⟨address, device⟩ := head
    rw [reconcile, Program.alone_get]
    dsimp only
    rw [List.any_cons]
    cases found : reconciles backend file now (address, device) with
    | false =>
      rw [if_pos ((reconciles_iff backend file now address device).mp found), Bool.false_or]
      exact ih
    | true =>
      have late := mt (reconciles_iff backend file now address device).mpr (by rw [found]; decide)
      rw [if_neg late, Bool.true_or, Bool.not_true, Bool.false_and, if_neg Bool.false_ne_true]
      simp only [not_or] at late
      obtain ⟨_, permitted, running, _, _⟩ := late
      have tracks := (Settings.tracks_loaded file).setValue (key backend.adapter address .nextDisconnect)
        (.int (now + initialDelay))
      have kept : ∀ {setting : Setting}, setting ≠ .nextDisconnect →
          (peer backend.adapter address).write .nextDisconnect (.int (now + initialDelay)) file
            ((peer backend.adapter address).key setting) = file ((peer backend.adapter address).key setting) :=
        fun apart => Peer.write_setting apart
      rw [Program.alone_setValue, Program.alone_sync_tracks tracks, value_setValue, Program.alone_get]
      apply Leads.aside (.aside (peer backend.adapter address) (.int (now + initialDelay)))
      split
      · next stopped =>
        exfalso
        rcases stopped with broken | lifted | ended
        · cases broken
        · apply permitted
          change Reconnect.toBool _ = false at lifted ⊢
          rw [← lifted]
          exact congrArg Reconnect.toBool (kept (by decide)).symm
        · apply running
          change toLongLong _ ≤ now at ended ⊢
          refine le_trans (le_of_eq ?_) ended
          exact congrArg toLongLong (kept (by decide)).symm
      · exact leads_send rfl (Settings.idle_loaded _) rfl le_rfl

theorem renewed_owner (worker : Worker) (backend : Backend) : (worker.renewed backend).owner = worker.owner := by
  unfold Worker.renewed
  split
  · rfl
  · rfl

theorem renewed_request (worker : Worker) (backend : Backend) : worker.request ≤ (worker.renewed backend).request := by
  unfold Worker.renewed
  split
  · exact Nat.le_succ _
  · exact le_rfl

theorem expired_owner (worker : Worker) (backend : Backend) (settings : Settings Key Value) (now : Int) :
    (worker.expired backend settings now).owner = worker.owner := by
  unfold Worker.expired
  dsimp only
  split
  · rfl
  · rfl

theorem expired_request (worker : Worker) (backend : Backend) (settings : Settings Key Value) (now : Int) :
    worker.request ≤ (worker.expired backend settings now).request := by
  unfold Worker.expired
  dsimp only
  split
  · exact Nat.le_succ _
  · exact le_rfl

/-- A tick of the owner. -/
theorem tick_leads (idle : settings.Idle) (owner : worker.owner = true) (once : listedOnce backend = true)
    (acquired : Bool) :
    Leads process now backend.adapter worker file log (witnessed file worker now (.tick backend acquired))
      ((tick backend acquired worker).alone now settings file) := by
  have same := renewed_owner worker backend
  have request := renewed_request worker backend
  unfold witnessed scans tick
  dsimp only
  rw [owner, if_neg (show ¬ true = false by decide), Bool.true_and]
  cases ready : backend.ready with
  | false => exact leads_ret idle same request
  | true =>
    rw [if_neg (show ¬ true = false by decide), Program.alone_sync_idle idle, Program.alone_get,
      if_neg (show ¬ false = true by decide), Program.alone_clock, Bool.true_and]
    have owner_after : (surveyed backend file now worker).owner = worker.owner := (expired_owner ..).trans same
    have request_after : worker.request ≤ (surveyed backend file now worker).request := request.trans (expired_request ..)
    change Leads _ _ _ _ _ _ _ (Program.alone now (if (surveyed backend file now worker).disconnecting = true then
      Program.ret (surveyed backend file now worker) else _) _ _)
    cases waiting : (surveyed backend file now worker).disconnecting with
    | true => exact leads_ret (Settings.idle_loaded _) owner_after request_after
    | false =>
      apply Leads.before owner_after request_after
      exact reconcile_leads (owner_after.trans owner) once backend.devices

/-- The intent of the user, as it is committed. -/
def Peer.operated (who : Peer) (operation : String) (now : Int) (file : Store Key Value) : Store Key Value :=
  who.write .nextAttempt (.int (now + connectionTimeout)) <|
    who.write .failures (.int 0) <|
    who.write .nextDisconnect (.int (now + initialDelay)) <|
    who.write .disconnectUntil (.int (if inhibits operation then now + disconnectReconciliation else 0)) <|
    who.write .autoAttempt (.bool false) <|
    who.write .inhibited (.bool (inhibits operation)) file

theorem userOperation_alone (idle : settings.Idle) (adapter : Nat) (address operation : String) :
    (userOperation adapter address operation worker).alone now settings file =
      ⟨(peer adapter address).operated operation now file, { loaded := (peer adapter address).operated operation now file },
        worker, [.operate adapter address operation]⟩ := by
  unfold userOperation
  rw [Program.alone_sync_idle idle, Program.alone_clock]
  simp only [Program.alone_setValue, Program.alone_clock]
  have tracks := ((((((Settings.tracks_loaded file).setValue (key adapter address .inhibited)
    (.bool (inhibits operation))).setValue (key adapter address .autoAttempt) (.bool false)).setValue
      (key adapter address .disconnectUntil)
      (.int (if inhibits operation then now + disconnectReconciliation else 0))).setValue
        (key adapter address .nextDisconnect) (.int (now + initialDelay))).setValue (key adapter address .failures)
          (.int 0)).setValue (key adapter address .nextAttempt) (.int (now + connectionTimeout))
  rw [Program.alone_sync_tracks tracks]
  simp only [value_setValue, Settings.value_loaded]
  rfl

/-- A rejection moves the next attempt, unless something else has. -/
def Peer.delayed (who : Peer) (delay deadline now : Int) (file : Store Key Value) : Store Key Value :=
  if who.inhibited file = false ∧ who.number file .nextAttempt = deadline then
    who.write .nextAttempt (.int (now + delay)) file
  else file

theorem delayed_matching (who : Peer) (delay now : Int) (file : Store Key Value) {deadline : Int}
    (matching : who.inhibited file = false ∧ who.number file .nextAttempt = deadline) :
    who.delayed delay deadline now file = who.write .nextAttempt (.int (now + delay)) file := if_pos matching

theorem delayed_other (who : Peer) (delay now : Int) (file : Store Key Value) {deadline : Int}
    (other : ¬ (who.inhibited file = false ∧ who.number file .nextAttempt = deadline)) :
    who.delayed delay deadline now file = file := if_neg other

theorem replied_alone (now : Int) (file : Store Key Value) (idle : settings.Idle) (adapter : Nat) (candidate : String)
    {request : Nat} (delay deadline : Int)
    (current : request = worker.request) :
    ∃ after : Settings Key Value, after.Idle ∧
      (replied adapter candidate request delay deadline false worker).alone now settings file =
        ⟨(peer adapter candidate).delayed delay deadline now file, after, { worker with pending := "" }, []⟩ := by
  unfold replied
  rw [if_neg (not_not.mpr current), if_neg Bool.false_ne_true]
  dsimp only
  rw [Program.alone_sync_idle idle, Program.alone_get]
  split
  · next matching =>
    refine ⟨{ loaded := (peer adapter candidate).write .nextAttempt (.int (now + delay)) file },
      Settings.idle_loaded _, ?_⟩
    have tracks := (Settings.tracks_loaded file).setValue (key adapter candidate .nextAttempt) (.int (now + delay))
    rw [Program.alone_clock, Program.alone_setValue, Program.alone_sync_tracks tracks, value_setValue,
      delayed_matching (peer adapter candidate) delay now file matching]
    rfl
  · next other =>
    refine ⟨{ loaded := file }, Settings.idle_loaded _, ?_⟩
    rw [delayed_other (peer adapter candidate) delay now file other]
    rfl

/-- What handling an entry comes to, with the marks it leaves. -/
inductive Handled (d : Desktop) (process : Nat) (now : Int) :
    Entry → List Event → Outcome Key Value Message Worker → Prop where
  | tick {entry : Entry} {marks : List Event} {outcome : Outcome Key Value Message Worker}
    (owner : (d.hosts process).worker.owner = true)
    (leads : Leads process now (d.hosts process).adapter (d.hosts process).worker d.file d.log marks outcome) :
    Handled d process now entry marks outcome
  | quiet {entry : Entry} {outcome : Outcome Key Value Message Worker} (file : outcome.file = d.file) (idle : outcome.settings.Idle)
    (sent : ∀ message ∈ outcome.sent, attempts message = false)
    (request : outcome.result.request = (d.hosts process).worker.request)
    (kept : (d.hosts process).worker.owner = true → outcome.result.owner = true)
    (elected : outcome.result.owner = true → (d.hosts process).worker.owner = true ∨ d.available process = true) :
    Handled d process now entry [] outcome
  | operated (adapter : Nat) (address operation : String) :
    Handled d process now (.userOperation adapter address operation)
      [.operated (peer adapter address) operation now]
      ⟨(peer adapter address).operated operation now d.file,
        { loaded := (peer adapter address).operated operation now d.file }, (d.hosts process).worker,
        [.operate adapter address operation]⟩
  | rejected {settings : Settings Key Value} (adapter : Nat) (candidate : String) (delay deadline : Int)
    (idle : settings.Idle)
    (outstanding : .connectAllEnabledProfiles adapter candidate (d.hosts process).worker.request delay deadline ∈
      (d.hosts process).unanswered) :
    Handled d process now
      (.reply (.connectAllEnabledProfiles adapter candidate (d.hosts process).worker.request delay deadline) false) []
      ⟨(peer adapter candidate).delayed delay deadline now d.file, settings,
        { (d.hosts process).worker with pending := "" }, []⟩

variable {d next : Desktop} {entry : Entry} {rest : List Message}

theorem accept_subset {unanswered : List Message} (accepted : accept entry unanswered = some rest) : rest ⊆ unanswered := by
  cases entry with
  | reply message answer =>
    dsimp only [accept] at accepted
    split at accepted
    · cases accepted
      exact List.erase_subset
    · cases accepted
  | _ =>
    cases accepted
    exact List.Subset.refl _

/-- A handler that only touches its worker. -/
theorem handled_quiet {after : Worker} (idle : (d.hosts process).settings.Idle)
    (request : after.request = (d.hosts process).worker.request) (owner : after.owner = (d.hosts process).worker.owner) :
    Handled d process now entry [] ⟨d.file, (d.hosts process).settings, after, []⟩ :=
  .quiet rfl idle nofun request (fun owns => owner.trans owns) (fun owns => .inl (owner.symm.trans owns))

theorem handled_entry (idle : (d.hosts process).settings.Idle) (admitted : d.admits process entry = true)
    (accepted : accept entry (d.hosts process).unanswered = some rest) :
    Handled d process now entry (witnessed d.file (d.hosts process).worker now entry) (d.handled process entry now) := by
  cases entry with
  | tick backend acquired =>
    simp only [Desktop.admits, Bool.and_eq_true, beq_iff_eq, Bool.or_eq_true, Bool.not_eq_true'] at admitted
    obtain ⟨⟨mine, once⟩, elected⟩ := admitted
    cases owner : (d.hosts process).worker.owner with
    | true =>
      have leads : Leads process now backend.adapter (d.hosts process).worker d.file d.log
          (witnessed d.file (d.hosts process).worker now (.tick backend acquired)) _ :=
        tick_leads idle owner once acquired
      rw [mine] at leads
      exact .tick owner leads
    | false =>
      have unseen : scans backend d.file now (d.hosts process).worker = false := by
        unfold scans
        rw [owner]
        rfl
      unfold Desktop.handled program tick witnessed
      dsimp only
      rw [owner, unseen]
      refine .quiet rfl idle nofun rfl (fun owns => ?_) (fun owns => .inr ?_)
      · exact absurd owns (by rw [owner]; decide)
      · rcases elected with lost | free
        · exact absurd owns (by simp [lost])
        · exact free
  | acquire acquired =>
    simp only [Desktop.admits, Bool.or_eq_true, Bool.not_eq_true'] at admitted
    refine .quiet rfl idle nofun rfl (fun owns => ?_) (fun owns => ?_)
    · change ((d.hosts process).worker.owner || acquired) = true
      rw [owns]
      rfl
    · change ((d.hosts process).worker.owner || acquired) = true at owns
      rcases (Bool.or_eq_true _ _).mp owns with before | won
      · exact .inl before
      · rcases admitted with lost | free
        · cases lost.symm.trans won
        · exact .inr free
  | userOperation adapter address operation =>
    unfold Desktop.handled program
    rw [userOperation_alone idle]
    exact .operated adapter address operation
  | isAutomaticAttempt =>
    unfold Desktop.handled program isAutomaticAttempt
    rw [Program.alone_sync_idle idle]
    exact .quiet rfl (Settings.idle_loaded _) nofun rfl id .inl
  | reply message answer =>
    cases message with
    | connectAllEnabledProfiles adapter candidate request delay deadline =>
      unfold Desktop.handled program
      dsimp only
      by_cases current : request = (d.hosts process).worker.request
      · cases answer with
        | true =>
          unfold replied
          rw [if_neg (not_not.mpr current), if_pos rfl]
          refine .quiet rfl idle ?_ rfl id .inl
          intro sent member
          cases List.mem_singleton.mp member
          rfl
        | false =>
          obtain ⟨after, clean, same⟩ := replied_alone now d.file idle adapter candidate delay deadline current
          rw [same]
          cases current
          refine .rejected adapter candidate delay deadline clean ?_
          dsimp only [accept] at accepted
          split at accepted
          · next outstanding => exact outstanding
          · cases accepted
      · unfold replied
        rw [if_pos current]
        exact handled_quiet idle rfl rfl
    | disconnectAllEnabledProfiles adapter address => exact handled_quiet idle rfl rfl
    | readDevice adapter address => exact handled_quiet idle rfl rfl
    | operate adapter address operation => exact handled_quiet idle rfl rfl

/-- Every step is a restart or one handled entry. -/
theorem step_cases {act : Act} (idle : ∀ process, (d.hosts process).settings.Idle) (taken : d.step act = some next) :
    (∃ process, act = .restart process ∧ next = d.restart process) ∨
      ∃ process entry now rest, act = .wake process entry now ∧ d.clock ≤ now ∧
        accept entry (d.hosts process).unanswered = some rest ∧ next = d.wake process entry now rest ∧
        Handled d process now entry (witnessed d.file (d.hosts process).worker now entry) (d.handled process entry now) := by
  cases act with
  | restart process =>
    cases taken
    exact .inl ⟨process, rfl, rfl⟩
  | wake process entry now =>
    dsimp only [Desktop.step] at taken
    split at taken
    · next permitted =>
      rw [Bool.and_eq_true, decide_eq_true_eq] at permitted
      obtain ⟨rest, accepted, same⟩ := Option.map_eq_some_iff.mp taken
      exact .inr ⟨process, entry, now, rest, rfl, permitted.1, accepted, same.symm,
        handled_entry (idle process) permitted.2 accepted⟩
    · cases taken

/-- What every step preserves, a run preserves. -/
theorem run_keeps (property : Desktop → Prop)
    (kept : ∀ {d next : Desktop} {act : Act}, property d → d.step act = some next → property next)
    {acts : List Act} (holds : property d) (ran : d.run acts = some next) : property next := by
  induction acts generalizing d with
  | nil =>
    cases ran
    exact holds
  | cons act rest ih =>
    obtain ⟨middle, taken, rested⟩ := Option.bind_eq_some_iff.mp ran
    exact ih (kept holds taken) rested

/-- Settings wait idle between steps, owners hold the name of their adapter, and an attempt
without an answer is an owner's, sent under one of its requests. -/
structure Elected (d : Desktop) : Prop where
  idle : ∀ process, (d.hosts process).settings.Idle
  holds : ∀ process, (d.hosts process).worker.owner = true → d.holder (d.hosts process).adapter = some process
  mine : ∀ process adapter address request delay deadline,
    .connectAllEnabledProfiles adapter address request delay deadline ∈ (d.hosts process).unanswered →
      (d.hosts process).worker.owner = true ∧ adapter = (d.hosts process).adapter ∧
        request ≤ (d.hosts process).worker.request
  clock : 0 ≤ d.clock

theorem start_elected (adapters : Nat → Nat) (file : Store Key Value) (clock : Nat) : Elected (start adapters file clock) where
  idle := fun _ => Settings.idle_loaded file
  holds := nofun
  mine := nofun
  clock := Int.natCast_nonneg clock

/-- What a handled entry leaves of its host. -/
structure Kept (d : Desktop) (process : Nat) (outcome : Outcome Key Value Message Worker) : Prop where
  idle : outcome.settings.Idle
  owner : (d.hosts process).worker.owner = true → outcome.result.owner = true
  elected : outcome.result.owner = true → (d.hosts process).worker.owner = true ∨ d.available process = true
  request : (d.hosts process).worker.request ≤ outcome.result.request
  sent : ∀ adapter address request delay deadline,
    .connectAllEnabledProfiles adapter address request delay deadline ∈ outcome.sent →
      (d.hosts process).worker.owner = true ∧ adapter = (d.hosts process).adapter ∧ request = outcome.result.request

theorem Handled.kept {marks : List Event} {outcome : Outcome Key Value Message Worker}
    (handled : Handled d process now entry marks outcome) : Kept d process outcome := by
  cases handled with
  | tick owner leads =>
    refine ⟨leads.idle, fun owns => leads.owner.trans owns, fun owns => .inl owner, ?_, ?_⟩
    · rcases leads.sends with ⟨_, later⟩ | ⟨_, _, _, _, later⟩
      · exact later
      · exact later.le
    · intro adapter address request delay deadline member
      rcases leads.sends with ⟨quiet, _⟩ | ⟨candidate, delay, sent, owns, _⟩
      · cases quiet _ member
      · rw [sent] at member
        cases List.mem_singleton.mp member
        exact ⟨owns, rfl, rfl⟩
  | quiet file idle sent request kept elected =>
    refine ⟨idle, kept, elected, request.ge, ?_⟩
    intro adapter address request delay deadline member
    cases sent _ member
  | operated adapter address operation =>
    refine ⟨Settings.idle_loaded _, id, .inl, le_rfl, ?_⟩
    intro adapter address request delay deadline member
    cases List.mem_singleton.mp member
  | rejected adapter candidate delay deadline idle outstanding => exact ⟨idle, id, .inl, le_rfl, nofun⟩

theorem wake_same (d : Desktop) (process : Nat) (entry : Entry) (now : Int) (rest : List Message) :
    (d.wake process entry now rest).hosts process =
      { adapter := (d.hosts process).adapter
        settings := (d.handled process entry now).settings
        worker := (d.handled process entry now).result
        unanswered := rest ++ (d.handled process entry now).sent } := Function.update_self ..

theorem wake_other (d : Desktop) {process other : Nat} (apart : other ≠ process) (entry : Entry) (now : Int)
    (rest : List Message) : (d.wake process entry now rest).hosts other = d.hosts other := Function.update_of_ne apart ..

theorem restart_same (d : Desktop) (process : Nat) : (d.restart process).hosts process =
    { adapter := (d.hosts process).adapter, settings := { loaded := d.file } } := Function.update_self ..

theorem restart_other (d : Desktop) {process other : Nat} (apart : other ≠ process) :
    (d.restart process).hosts other = d.hosts other := Function.update_of_ne apart ..

/-- Two owners for one adapter are the same process. -/
theorem Elected.one_owner (elected : Elected d) {first second : Nat} (owns : (d.hosts first).worker.owner = true)
    (also : (d.hosts second).worker.owner = true) (same : (d.hosts first).adapter = (d.hosts second).adapter) :
    first = second := by
  have held := elected.holds first owns
  rw [same, elected.holds second also] at held
  cases held
  rfl

theorem Elected.restart (elected : Elected d) (process : Nat) : Elected (d.restart process) where
  idle := by
    intro other
    by_cases same : other = process
    · subst same
      rw [restart_same]
      exact Settings.idle_loaded _
    · rw [restart_other d same]
      exact elected.idle other
  holds := by
    intro other owns
    by_cases same : other = process
    · subst same
      rw [restart_same] at owns
      cases owns
    · rw [restart_other d same] at owns ⊢
      have held := elected.holds other owns
      unfold Desktop.restart
      dsimp only
      split
      · next lost =>
        rw [beq_iff_eq] at lost
        rw [Function.update_of_ne]
        · exact held
        · intro shared
          rw [shared, lost] at held
          cases held
          exact same rfl
      · exact held
  mine := by
    intro other adapter address request delay deadline member
    by_cases same : other = process
    · subst same
      rw [restart_same] at member
      cases member
    · rw [restart_other d same] at member ⊢
      exact elected.mine other adapter address request delay deadline member
  clock := elected.clock

theorem Elected.wake (elected : Elected d) (later : d.clock ≤ now)
    (accepted : accept entry (d.hosts process).unanswered = some rest) (kept : Kept d process (d.handled process entry now)) :
    Elected (d.wake process entry now rest) where
  idle := by
    intro other
    by_cases same : other = process
    · subst same
      rw [wake_same]
      exact kept.idle
    · rw [wake_other d same]
      exact elected.idle other
  holds := by
    intro other owns
    by_cases same : other = process
    · subst same
      rw [wake_same] at owns ⊢
      unfold Desktop.wake
      dsimp only
      rw [if_pos owns, Function.update_self]
    · rw [wake_other d same] at owns ⊢
      have held := elected.holds other owns
      unfold Desktop.wake
      dsimp only
      split
      · next won =>
        rw [Function.update_of_ne]
        · exact held
        · intro shared
          rcases kept.elected won with before | free
          · exact same (elected.one_owner owns before shared)
          · unfold Desktop.available at free
            rw [← shared, held] at free
            simp only [Bool.or_eq_true, beq_iff_eq, Option.some.injEq, reduceCtorEq, false_or] at free
            exact same free
      · exact held
  mine := by
    intro other adapter address request delay deadline member
    by_cases same : other = process
    · subst same
      rw [wake_same] at member ⊢
      rcases List.mem_append.mp member with old | new
      · obtain ⟨owns, here, past⟩ :=
          elected.mine other adapter address request delay deadline (accept_subset accepted old)
        exact ⟨kept.owner owns, here, past.trans kept.request⟩
      · obtain ⟨owns, here, current⟩ := kept.sent adapter address request delay deadline new
        exact ⟨kept.owner owns, here, current.le⟩
    · rw [wake_other d same] at member ⊢
      exact elected.mine other adapter address request delay deadline member
  clock := elected.clock.trans later

theorem Elected.step {act : Act} (elected : Elected d) (taken : d.step act = some next) : Elected next := by
  rcases step_cases elected.idle taken with ⟨process, rfl, rfl⟩ | ⟨process, entry, now, rest, rfl, later, accepted, rfl, handled⟩
  · exact elected.restart process
  · exact elected.wake later accepted handled.kept

/-- The message of a record, with its sender. -/
def message? : Event → Option (Nat × Message)
  | .sent process _ message => some (process, message)
  | _ => none

theorem witnessed_silent (file : Store Key Value) (worker : Worker) (now : Int) (entry : Entry) :
    (witnessed file worker now entry).filterMap message? = [] := by
  cases entry with
  | tick backend acquired =>
    dsimp only [witnessed]
    split
    · rw [List.filterMap_filterMap, List.filterMap_eq_nil_iff]
      rintro ⟨address, device⟩ _
      dsimp only [sight]
      split
      · split
        · rfl
        · rfl
      · rfl
    · rfl
  | userOperation adapter address operation => rfl
  | _ => rfl

/-- A process between two handlers. -/
structure Between (host : Host) (p : Process Key Value Message Worker) : Prop where
  program : p.program = none
  settings : p.settings = host.settings
  worker : p.result = host.worker
  unanswered : p.unanswered = host.unanswered

/-- The desktop, and one in which the steps of the processes interleave, at a moment when no
process is in the middle of a handler. -/
structure Matches (d : Desktop) (w : Reconnect.Desktop) : Prop where
  file : w.file = d.file
  hosts : ∀ process, Between (d.hosts process) (w.processes process)
  messages : w.messages = d.log.filterMap message?

variable {w : Reconnect.Desktop}

theorem Matches.restart (same : Matches d w) (process : Nat) :
    ∃ after : Reconnect.Desktop, w.run system [.restart process] = some after ∧ Matches (d.restart process) after := by
  refine ⟨w.update process { settings := { loaded := w.file }, result := system.fresh, seen := w.history.length }, rfl,
    same.file, ?_, same.messages⟩
  intro other
  by_cases here : other = process
  · subst here
    rw [World.update_same, restart_same, same.file]
    exact ⟨rfl, rfl, rfl, rfl⟩
  · rw [World.update_other _ here, restart_other d here]
    exact same.hosts other

theorem Matches.wake (same : Matches d w) {entry : Entry} (process : Nat) (now : Int) {rest : List Message}
    (accepted : accept entry (d.hosts process).unanswered = some rest) :
    ∃ actions, ∃ after : Reconnect.Desktop, w.run system actions = some after ∧
      Matches (d.wake process entry now rest) after := by
  have idle := same.hosts process
  have mine : Function.update w.processes process { w.processes process with unanswered := rest } process =
      { w.processes process with unanswered := rest } := Function.update_self ..
  obtain ⟨actions, after, ran, completed⟩ := World.handles system w now idle.program (idle.unanswered.symm ▸ accepted)
  rw [idle.worker, idle.settings, same.file] at completed
  refine ⟨actions, after, ran, completed.file, ?_, ?_⟩
  · intro other
    by_cases here : other = process
    · subst here
      rw [wake_same]
      refine ⟨completed.program, completed.settings, completed.result, ?_⟩
      rw [completed.unanswered]
      dsimp only
      rw [mine]
      rfl
    · rw [completed.others other here, wake_other d here]
      dsimp only
      rw [Function.update_of_ne here]
      exact same.hosts other
  · rw [completed.messages]
    change w.messages ++ _ = List.filterMap message? (d.log ++ _ ++ List.map _ _)
    rw [List.filterMap_append, List.filterMap_append, witnessed_silent, List.append_nil, ← same.messages,
      List.filterMap_map]
    have spoken : (message? ∘ fun message => Event.sent process now message) = some ∘ fun message => (process, message) :=
      rfl
    rw [spoken, List.filterMap_eq_map]
    rfl

/-- Every run of the desktop is one of the processes that interleave: the same settings, and
the same messages in the same order. -/
theorem run_interleaves {adapters : Nat → Nat} {file : Store Key Value} {clock : Nat} {acts : List Act}
    (ran : (start adapters file clock).run acts = some d) :
    ∃ actions, ∃ w : Reconnect.Desktop, (Reconnect.start file).run system actions = some w ∧ Matches d w := by
  have reached := run_keeps (fun d => Elected d ∧
      ∃ actions, ∃ w : Reconnect.Desktop, (Reconnect.start file).run system actions = some w ∧ Matches d w) ?_ ?_ ran
  · exact reached.2
  · intro d next act held taken
    obtain ⟨elected, actions, w, reached, same⟩ := held
    refine ⟨elected.step taken, ?_⟩
    have extend : ∀ {more : List (Action Nat Entry)} {after : Reconnect.Desktop}, w.run system more = some after →
        Matches next after → ∃ actions, ∃ w : Reconnect.Desktop,
          (Reconnect.start file).run system actions = some w ∧ Matches next w := by
      intro more after ran same
      refine ⟨actions ++ more, after, ?_, same⟩
      rw [World.run_append, reached]
      exact ran
    rcases step_cases elected.idle taken with ⟨process, _, rfl⟩ | ⟨process, entry, now, rest, _, _, accepted, rfl, _⟩
    · obtain ⟨after, ran, same⟩ := same.restart process
      exact extend ran same
    · obtain ⟨more, after, ran, same⟩ := same.wake process now accepted
      exact extend ran same
  · refine ⟨start_elected adapters file clock, [], Reconnect.start file, rfl, rfl, ?_, rfl⟩
    intro process
    exact ⟨rfl, rfl, rfl, rfl⟩

end FlossDesktop.Handoff
