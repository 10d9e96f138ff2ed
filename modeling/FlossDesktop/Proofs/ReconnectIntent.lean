import FlossDesktop.Reconnect

/-! Explicit intent and automatic retries. A retry is sent with the settings of the
synchronisation that reserved it, and the last look at the inhibition is one
synchronisation earlier. What was committed between the two decides. -/

namespace FlossDesktop.Reconnect

open SharedSettings

variable {settings : Settings Key Value} {window : List (Store Key Value)}

/-- The settings were loaded when nothing but this window had been committed to an
inhibition that was off. -/
def Allowed (settings : Settings Key Value) (window : List (Store Key Value)) : Message → Prop
  | .connectAllEnabledProfiles adapter address _ _ _ =>
    toBool (settings.loaded (key adapter address .inhibited)) = toBool (lastWrite window (key adapter address .inhibited))
  | _ => True

/-- No inhibition is among the changes. -/
def Clean (settings : Settings Key Value) : Prop := ∀ adapter address, settings.changes (key adapter address .inhibited) = none

theorem Clean.setValue (clean : Clean settings) (setting : Setting) (apart : setting ≠ .inhibited) {adapter : Nat}
    {address : String} {value : Value} : Clean (settings.setValue (key adapter address setting) value) := by
  intro other place
  have different : key other place .inhibited ≠ key adapter address setting := fun same =>
    apart (congrArg Key.setting same).symm
  change Function.update settings.changes (key adapter address setting) (some value) (key other place .inhibited) = none
  rw [Function.update_of_ne different]
  exact clean other place

theorem Clean.failed (clean : Clean settings) : Clean settings.failed := clean

theorem clean_synced (settings : Settings Key Value) (others : List (Store Key Value)) : Clean (settings.synced others) :=
  fun _ _ => rfl

/-- A synchronisation that commits no inhibition loads what the others committed. -/
theorem Clean.synced_inhibited (clean : Clean settings) (others : List (Store Key Value)) (adapter : Nat) (address : String) :
    (settings.synced others).loaded (key adapter address .inhibited) =
      (lastWrite others (key adapter address .inhibited)).or (settings.loaded (key adapter address .inhibited)) := by
  unfold Settings.synced overlay
  dsimp only
  rw [clean adapter address, Option.none_or, replay_last]

theorem Clean.value (clean : Clean settings) (adapter : Nat) (address : String) :
    inhibited settings adapter address = toBool (settings.loaded (key adapter address .inhibited)) := by
  unfold inhibited Settings.value overlay
  rw [clean adapter address, Option.none_or]

/-- The reservation: with the inhibition off before, the window alone decides about it. -/
theorem attempt_guarded (clean : Clean settings) (adapter : Nat) (candidate : String) (failures : Nat) (now : Int)
    (worker : Worker) (off : inhibited settings adapter candidate = false) :
    (attempt adapter candidate failures now worker).Guarded Allowed settings window := by
  have reserving : Clean (((settings.setValue (key adapter candidate .failures) (.int (failures + 1))).setValue
      (key adapter candidate .autoAttempt) (.bool true)).setValue (key adapter candidate .nextAttempt)
      (.int (now + connectionTimeout + min maximumDelay (initialDelay * 2 ^ failures)))) :=
    ((clean.setValue .failures (by decide)).setValue .autoAttempt (by decide)).setValue .nextAttempt (by decide)
  rw [clean.value] at off
  refine ⟨fun others => ?_, ?_⟩
  · dsimp only [Program.Guarded]
    split
    · trivial
    · refine ⟨?_, trivial⟩
      have loaded := reserving.synced_inhibited others adapter candidate
      change toBool _ = toBool _
      rw [loaded]
      change toBool ((lastWrite others (key adapter candidate .inhibited)).or
        (settings.loaded (key adapter candidate .inhibited))) = _
      cases lastWrite others (key adapter candidate .inhibited) with
      | none => exact off
      | some value => rfl
  · trivial

theorem reserve_guarded (clean : Clean settings) (adapter : Nat) (candidate : String) (now : Int) (worker : Worker) :
    (reserve adapter candidate now worker).Guarded Allowed settings window := by
  have read : ∀ (settings : Settings Key Value) window, Clean settings →
      (Program.get fun settings : Settings Key Value =>
        if inhibited settings adapter candidate then (.ret worker : Policy)
        else attempt adapter candidate (max 0 (min 6 (number settings adapter candidate .failures))).toNat now
          worker).Guarded Allowed settings window := by
    intro settings window clean
    dsimp only [Program.Guarded]
    split
    · trivial
    · next off => exact attempt_guarded clean adapter candidate _ now worker (Bool.eq_false_iff.mpr off)
  have again : ∀ (settings : Settings Key Value) window, Clean settings →
      (Program.get fun settings : Settings Key Value =>
        if candidate = "" ∨ settings.broken then (.ret worker : Policy)
        else .sync (.get fun settings =>
          if inhibited settings adapter candidate then .ret worker
          else attempt adapter candidate (max 0 (min 6 (number settings adapter candidate .failures))).toNat now
            worker)).Guarded Allowed settings window := by
    intro settings window clean
    dsimp only [Program.Guarded]
    split
    · trivial
    · exact ⟨fun others => read _ _ (clean_synced settings others), read _ _ clean.failed⟩
  exact ⟨fun others => again _ _ (clean_synced settings others), again _ _ clean.failed⟩

theorem scan_guarded (clean : Clean settings) (backend : Backend) (now : Int) (worker : Worker) (candidate : String)
    (earliest : Int) (devices : List (String × Device)) :
    (scan backend now worker candidate earliest devices).Guarded Allowed settings window := by
  induction devices generalizing settings candidate earliest with
  | nil => exact reserve_guarded clean backend.adapter candidate now worker
  | cons entry rest ih =>
    obtain ⟨address, device⟩ := entry
    dsimp only [scan, Program.Guarded]
    split_ifs
    · exact ih clean candidate earliest
    · exact ih ((clean.setValue .failures (by decide)).setValue .nextAttempt (by decide)) candidate earliest
    · exact ih clean candidate earliest
    · exact ih (clean.setValue .nextAttempt (by decide)) address _
    · exact ih (clean.setValue .nextAttempt (by decide)) candidate earliest
    · exact ih clean address _
    · exact ih clean candidate earliest

theorem proceed_guarded (clean : Clean settings) (backend : Backend) (now : Int) (worker : Worker) :
    (proceed backend now worker).Guarded Allowed settings window := by
  unfold proceed
  split_ifs
  · exact ⟨trivial, trivial⟩
  · trivial
  · exact scan_guarded clean backend now worker "" (now + 1) backend.devices

theorem reconcile_guarded (clean : Clean settings) (backend : Backend) (now : Int) (worker : Worker)
    (devices : List (String × Device)) : (reconcile backend now worker devices).Guarded Allowed settings window := by
  induction devices with
  | nil => exact proceed_guarded clean backend now worker
  | cons entry rest ih =>
    obtain ⟨address, device⟩ := entry
    dsimp only [reconcile, Program.Guarded]
    split_ifs
    · exact ih
    · refine ⟨fun others => ?_, ?_⟩
      · dsimp only [Program.Guarded]
        split
        · trivial
        · exact ⟨trivial, trivial⟩
      · trivial

/-- A tick begins by synchronising, so nothing but its own deadlines is among its changes. -/
theorem tick_guarded (settings : Settings Key Value) (window : List (Store Key Value)) (backend : Backend)
    (acquired : Bool) (worker : Worker) : (tick backend acquired worker).Guarded Allowed settings window := by
  unfold tick
  dsimp only
  split_ifs
  · trivial
  · trivial
  · refine ⟨fun others => ?_, trivial⟩
    dsimp only [Program.Guarded]
    split
    · trivial
    · intro now
      dsimp only
      split
      · trivial
      · exact reconcile_guarded (clean_synced settings others) backend now _ backend.devices

theorem userOperation_guarded (settings : Settings Key Value) (window : List (Store Key Value)) (adapter : Nat)
    (address operation : String) (worker : Worker) :
    (userOperation adapter address operation worker).Guarded Allowed settings window := by
  have sent : ∀ (settings : Settings Key Value) window, (Program.get fun settings : Settings Key Value =>
      if settings.broken then (.ret worker : Policy)
      else .send (.operate adapter address operation) (.ret worker)).Guarded Allowed settings window := by
    intro settings window
    dsimp only [Program.Guarded]
    split
    · trivial
    · exact ⟨trivial, trivial⟩
  exact ⟨fun _ _ _ => ⟨fun _ => sent _ _, sent _ _⟩, fun _ _ => ⟨fun _ => sent _ _, sent _ _⟩⟩

theorem replied_guarded (settings : Settings Key Value) (window : List (Store Key Value)) (adapter : Nat)
    (candidate : String) (request : Nat) (delay deadline : Int) (accepted : Bool) (worker : Worker) :
    (replied adapter candidate request delay deadline accepted worker).Guarded Allowed settings window := by
  unfold replied
  split_ifs
  · trivial
  · exact ⟨trivial, trivial⟩
  · have noted : ∀ (settings : Settings Key Value) window, (Program.get fun settings : Settings Key Value =>
        if inhibited settings adapter candidate = false ∧ number settings adapter candidate .nextAttempt = deadline then
          (.clock fun now =>
            .setValue (key adapter candidate .nextAttempt) (.int (now + delay)) <|
            .sync (.ret { worker with pending := "" }) : Policy)
        else .ret { worker with pending := "" }).Guarded Allowed settings window := by
      intro settings window
      dsimp only [Program.Guarded]
      split
      · exact fun _ => ⟨fun _ => trivial, trivial⟩
      · trivial
    exact ⟨fun _ => noted _ _, noted _ _⟩

theorem program_guarded (entry : Entry) (worker : Worker) (settings : Settings Key Value) (window : List (Store Key Value)) :
    (program entry worker).Guarded Allowed settings window := by
  cases entry with
  | tick backend acquired => exact tick_guarded settings window backend acquired worker
  | acquire acquired => trivial
  | userOperation adapter address operation => exact userOperation_guarded settings window adapter address operation worker
  | isAutomaticAttempt => exact ⟨fun _ => trivial, trivial⟩
  | reply message accepted =>
    cases message with
    | connectAllEnabledProfiles adapter candidate request delay deadline =>
      exact replied_guarded settings window adapter candidate request delay deadline accepted worker
    | disconnectAllEnabledProfiles adapter address => trivial
    | readDevice adapter address => trivial
    | operate adapter address operation => trivial

/-- A worker never writes an inhibition. -/
def Neutral (policy : Policy) : Prop := ∀ adapter address value, ¬ policy.Sets (key adapter address .inhibited) value

theorem neutral_setValue {policy : Policy} (neutral : Neutral policy) {adapter : Nat} {address : String} (setting : Setting)
    (apart : setting ≠ .inhibited) {value : Value} : Neutral (.setValue (key adapter address setting) value policy) := by
  rintro other place written (⟨same, _⟩ | sets)
  · exact apart (congrArg Key.setting same)
  · exact neutral other place written sets

theorem neutral_ret (worker : Worker) : Neutral (.ret worker) := fun _ _ _ => id

theorem neutral_get {next : Settings Key Value → Policy} (neutral : ∀ settings, Neutral (next settings)) :
    Neutral (.get next) := fun adapter address value ⟨settings, sets⟩ => neutral settings adapter address value sets

theorem neutral_clock {next : Int → Policy} (neutral : ∀ now, Neutral (next now)) : Neutral (.clock next) :=
  fun adapter address value ⟨now, sets⟩ => neutral now adapter address value sets

theorem neutral_sync {policy : Policy} (neutral : Neutral policy) : Neutral (.sync policy) := neutral

theorem neutral_send {policy : Policy} (neutral : Neutral policy) (message : Message) : Neutral (.send message policy) :=
  neutral

theorem attempt_neutral (adapter : Nat) (candidate : String) (failures : Nat) (now : Int) (worker : Worker) :
    Neutral (attempt adapter candidate failures now worker) := by
  apply neutral_setValue _ .failures (by decide)
  apply neutral_setValue _ .autoAttempt (by decide)
  apply neutral_setValue _ .nextAttempt (by decide)
  apply neutral_sync
  apply neutral_get
  intro settings
  split
  · exact neutral_ret _
  · exact neutral_send (neutral_ret _) _

theorem scan_neutral (backend : Backend) (now : Int) (worker : Worker) (candidate : String) (earliest : Int)
    (devices : List (String × Device)) : Neutral (scan backend now worker candidate earliest devices) := by
  induction devices generalizing candidate earliest with
  | nil =>
    apply neutral_sync
    apply neutral_get
    intro settings
    split
    · exact neutral_ret _
    · apply neutral_sync
      apply neutral_get
      intro settings
      split
      · exact neutral_ret _
      · exact attempt_neutral _ _ _ _ _
  | cons entry rest ih =>
    apply neutral_get
    intro settings
    dsimp only
    split_ifs
    · exact ih _ _
    · exact neutral_setValue (neutral_setValue (ih _ _) .nextAttempt (by decide)) .failures (by decide)
    · exact ih _ _
    · exact neutral_setValue (ih _ _) .nextAttempt (by decide)
    · exact neutral_setValue (ih _ _) .nextAttempt (by decide)
    · exact ih _ _
    · exact ih _ _

theorem reconcile_neutral (backend : Backend) (now : Int) (worker : Worker) (devices : List (String × Device)) :
    Neutral (reconcile backend now worker devices) := by
  induction devices with
  | nil =>
    unfold reconcile proceed
    split_ifs
    · exact neutral_send (neutral_ret _) _
    · exact neutral_ret _
    · exact scan_neutral _ _ _ _ _ _
  | cons entry rest ih =>
    apply neutral_get
    intro settings
    dsimp only
    split_ifs
    · exact ih
    · apply neutral_setValue _ .nextDisconnect (by decide)
      apply neutral_sync
      apply neutral_get
      intro settings
      split
      · exact neutral_ret _
      · exact neutral_send (neutral_ret _) _

theorem tick_neutral (backend : Backend) (acquired : Bool) (worker : Worker) : Neutral (tick backend acquired worker) := by
  unfold tick
  dsimp only
  split_ifs
  · exact neutral_ret _
  · exact neutral_ret _
  · apply neutral_sync
    apply neutral_get
    intro settings
    split
    · exact neutral_ret _
    · apply neutral_clock
      intro now
      split
      · exact neutral_ret _
      · exact reconcile_neutral _ _ _ _

theorem replied_neutral (adapter : Nat) (candidate : String) (request : Nat) (delay deadline : Int) (accepted : Bool)
    (worker : Worker) : Neutral (replied adapter candidate request delay deadline accepted worker) := by
  unfold replied
  split_ifs
  · exact neutral_ret _
  · exact neutral_send (neutral_ret _) _
  · apply neutral_sync
    apply neutral_get
    intro settings
    split
    · apply neutral_clock
      intro now
      exact neutral_setValue (neutral_sync (neutral_ret _)) .nextAttempt (by decide)
    · exact neutral_ret _

/-- Only the operations of a user write an inhibition, and they write what they mean. -/
theorem program_inhibits {entry : Entry} {worker : Worker} {adapter : Nat} {address : String} {value : Value}
    (sets : (program entry worker).Sets (key adapter address .inhibited) value) :
    ∃ place operation, entry = .userOperation adapter place operation ∧ place.toUpper = address.toUpper ∧
      value = .bool (inhibits operation) := by
  cases entry with
  | tick backend acquired => exact absurd sets (tick_neutral backend acquired worker adapter address value)
  | acquire acquired => exact sets.elim
  | userOperation other place operation =>
    obtain ⟨now, ⟨same, rfl⟩ | later⟩ := sets
    · cases congrArg Key.adapter same
      exact ⟨place, operation, rfl, congrArg Key.address same, rfl⟩
    · exfalso
      revert later
      apply neutral_setValue _ .autoAttempt (by decide)
      apply neutral_setValue _ .disconnectUntil (by decide)
      apply neutral_setValue _ .nextDisconnect (by decide)
      apply neutral_setValue _ .failures (by decide)
      apply neutral_clock
      intro later
      apply neutral_setValue _ .nextAttempt (by decide)
      apply neutral_sync
      apply neutral_get
      intro settings
      split
      · exact neutral_ret _
      · exact neutral_send (neutral_ret _) _
  | isAutomaticAttempt => exact sets.elim
  | reply message accepted =>
    cases message with
    | connectAllEnabledProfiles other candidate request delay deadline =>
      exact absurd sets (replied_neutral other candidate request delay deadline accepted worker adapter address value)
    | disconnectAllEnabledProfiles other place => exact sets.elim
    | readDevice other place => exact sets.elim
    | operate other place operation => exact sets.elim

/-- What every retry of a run was sent with. The settings of its last synchronisation hold no
inhibition just when none was the last thing that the others committed between that
synchronisation and the one before it, after which the inhibition was looked at. All that is
committed there comes from operations of a user. -/
theorem retry_follows_intent_iff {file : Store Key Value} {actions : List (Action Nat Entry)} {w : Desktop}
    (ran : (start file).run system actions = some w) {sent : Sent Nat Key Value Message} (member : sent ∈ w.log)
    {adapter request : Nat} {address : String} {delay deadline : Int}
    (retry : sent.message = .connectAllEnabledProfiles adapter address request delay deadline) :
    (toBool (sent.settings.loaded (key adapter address .inhibited)) = false ↔
      toBool (lastWrite sent.window (key adapter address .inhibited)) = false) ∧
    sent.settings.loaded (key adapter address .inhibited) =
      (lastWrite sent.seen (key adapter address .inhibited)).or (file (key adapter address .inhibited)) ∧
    ∀ changes ∈ sent.window, ∀ value, changes (key adapter address .inhibited) = some value →
      ∃ process place operation, (process, .userOperation adapter place operation) ∈ w.started ∧
        place.toUpper = address.toUpper ∧ value = .bool (inhibits operation) := by
  have recorded := (World.run_sound program_guarded ran).log sent member
  have traced := World.run_traced ran
  have allowed : Allowed sent.settings sent.window sent.message := recorded.allowed
  rw [retry] at allowed
  refine ⟨?_, ?_, ?_⟩
  · change toBool _ = toBool _ at allowed
    rw [allowed]
  · rw [recorded.loaded, replay_last]
  · intro changes inside value written
    obtain ⟨process, entry, worker, began, sets⟩ := traced.history changes (recorded.window inside) _ value written
    obtain ⟨place, operation, rfl, same, rfl⟩ := program_inhibits sets
    exact ⟨process, place, operation, began, same, rfl⟩

/-- A bonded device whose attempt is due. -/
def known : Backend := { devices := [("A1", { paired := some true, connected := some false })] }

def due : Store Key Value := fun k => if k = key 0 "A1" .nextAttempt then some (.int 1) else none

/-- A process becomes the owner and ticks, up to its look at the inhibition. -/
def looked : List (Action Nat Entry) :=
  [.start 0 (.tick known true), .advance 0 false 0, .start 0 (.tick known false)] ++
    List.replicate 9 (.advance 0 false 10000)

/-- The rest of the tick. -/
def reserved : List (Action Nat Entry) := List.replicate 6 (.advance 0 false 10000)

/-- Another process commits an explicit disconnect and sends it. -/
def disconnected : List (Action Nat Entry) :=
  .start 1 (.userOperation 0 "A1" "disconnect") :: List.replicate 12 (.advance 1 false 20000)

/-- What was sent, whether the settings then held an inhibition, and whether the window did. -/
def sentWith (sent : Sent Nat Key Value Message) : Message × Bool × Bool :=
  (sent.message, toBool (sent.settings.loaded (key 0 "A1" .inhibited)), toBool (lastWrite sent.window (key 0 "A1" .inhibited)))

/-- The user connects the device again. -/
def reconnected : List (Action Nat Entry) :=
  [.advance 1 false 20000, .start 1 (.userOperation 0 "A1" "connect")] ++ List.replicate 12 (.advance 1 false 30000)

theorem reconnected_sends : ((start due).run system (looked ++ disconnected ++ reconnected ++ reserved)).map
    (fun w => w.log.map fun sent => (sent.message, lastWrite sent.window (key 0 "A1" .inhibited))) =
    some [(.operate 0 "A1" "disconnect", none), (.operate 0 "A1" "connect", none),
      (.connectAllEnabledProfiles 0 "A1" 2 5000 45000, some (.bool false))] := by
  decide +kernel

/-- A disconnect and a connect are both committed between the look and the reservation. -/
theorem undisturbed_retry_sent : ∃ w, (start due).run system (looked ++ disconnected ++ reconnected ++ reserved) = some w ∧
    ∃ sent ∈ w.log, sent.message = .connectAllEnabledProfiles 0 "A1" 2 5000 45000 ∧
      lastWrite sent.window (key 0 "A1" .inhibited) = some (.bool false) ∧
      toBool (sent.settings.loaded (key 0 "A1" .inhibited)) = false := by
  obtain ⟨w, ran, same⟩ := Option.map_eq_some_iff.mp reconnected_sends
  obtain ⟨sent, member, message⟩ := List.mem_map.mp (same ▸ List.mem_cons_of_mem _ (List.mem_cons_of_mem _ List.mem_cons_self))
  have retry := congrArg Prod.fst message
  have last : lastWrite sent.window (key 0 "A1" .inhibited) = some (.bool false) := congrArg Prod.snd message
  exact ⟨w, ran, sent, member, retry, last,
    (retry_follows_intent_iff ran member retry).1.mpr (by rw [last]; rfl)⟩

/-- A disconnect between the look and the reservation: it is committed and sent, the
reservation loads it, and the retry follows. -/
theorem disconnected_device_retried : ∃ w, (start due).run system (looked ++ disconnected ++ reserved) = some w ∧
    w.log.map sentWith =
      [(.operate 0 "A1" "disconnect", true, false), (.connectAllEnabledProfiles 0 "A1" 2 5000 45000, true, true)] := by
  have traced : ((start due).run system (looked ++ disconnected ++ reserved)).map (fun w => w.log.map sentWith) =
      some [(.operate 0 "A1" "disconnect", true, false), (.connectAllEnabledProfiles 0 "A1" 2 5000 45000, true, true)] := by
    decide +kernel
  exact Option.map_eq_some_iff.mp traced

end FlossDesktop.Reconnect
