import FlossDesktop.Library.Mirror
import FlossDesktop.Proofs.DeviceHistory

/-! Agreement with the daemon. What a backend stores of a device is current when nothing is
under way, in any order of answers, changes and operations. What it was not told it does not
store, and nothing makes it ask again. -/

namespace FlossDesktop.Devices

open Mirror (Note Mirrored)

variable {b : Backend}

/-- A message as a note about one property of one device. -/
def Message.note : Message → Option (Note (String × Property) Bool)
  | .bondStateChanged _ address state => some (.changed (address, .paired) (state == 2))
  | .deviceConnected device => some (.changed (device.address, .connected) true)
  | .deviceDisconnected device => some (.changed (device.address, .connected) false)
  | .bondState address _ _ state => some (.answered (address, .paired) (state == 2))
  | .remoteConnected address _ _ connected => some (.answered (address, .connected) connected)
  | _ => none

/-- An answer is to a read that was made. -/
def Message.Made (b : Backend) : Message → Prop
  | .bondState address revision asked _ => Asked b address revision asked
  | .remoteConnected address revision asked _ => Asked b address revision asked
  | _ => True

def Backend.held (b : Backend) (key : String × Property) : Option Bool := b.value key.1 key.2

/-- A change that comes in is stored and leaves everything else as it was. -/
structure Changes (b after : Backend) (address : String) (property : Property) (value : Bool) : Prop where
  sound : Sound b → Sound after
  grown : Grown b after
  value : ∀ other asked, after.value other asked =
    if other = address ∧ asked = property then some value else b.value other asked

/-- What a message makes of a backend. -/
structure Taken (b after : Backend) (message : Message) : Prop where
  sound : Sound after
  grown : Grown b after
  mirrored : ∀ {current : String × Property → Bool} {notes : List (Note (String × Property) Bool)},
    Mirrored current (message.note.toList ++ notes) b.held → Mirrored current notes after.held

theorem Same.taken {after : Backend} (same : Same b after) (sound : Sound b) {message : Message}
    (silent : message.note = none) : Taken b after message := by
  refine ⟨same.sound sound, same.grown, ?_⟩
  intro current notes mirrored
  rw [silent] at mirrored
  have held : after.held = b.held := by
    unfold Backend.held
    rw [same.value]
  rw [held]
  exact mirrored

theorem Changes.taken {after : Backend} {address : String} {property : Property} {value : Bool}
    (changes : Changes b after address property value) (sound : Sound b) {message : Message}
    (noted : message.note = some (.changed (address, property) value)) : Taken b after message := by
  refine ⟨changes.sound sound, changes.grown, ?_⟩
  intro current notes mirrored
  rw [noted] at mirrored
  apply mirrored.take_change
  · exact (changes.value address property).trans (if_pos ⟨rfl, rfl⟩)
  · intro other apart
    exact (changes.value other.1 other.2).trans (if_neg fun both => apart (Prod.ext both.1 both.2))

namespace Backend

theorem bondStateChanged_cases (b : Backend) (saved : Bool) (status : Nat) (address : String) (state : Nat) :
    ∃ met, Same (b.advance address (.changed .paired address)) met ∧
      ∃ settled, Same (met.modify address fun entry => entry.insert .paired (state == 2)) settled ∧
        (b.bondStateChanged saved status address state = settled ∨
          b.bondStateChanged saved status address state = settled.operate saved address "connect") := by
  refine ⟨_, (b.advance address (.changed .paired address)).meet_same ⟨address, address⟩, ?_⟩
  unfold bondStateChanged settleBond
  dsimp only
  split_ifs
  · exact ⟨_, Same.refl _, .inl rfl⟩
  · exact ⟨_, (finish_same _ address "pair").trans (finish_same _ address "forget"), .inr rfl⟩
  · exact ⟨_, finish_same _ address "pair", .inr rfl⟩
  · exact ⟨_, (finish_same _ address "pair").trans (finish_same _ address "forget"), .inl rfl⟩
  · exact ⟨_, finish_same _ address "pair", .inl rfl⟩

theorem linkChanged_cases (b : Backend) (device : Remote) (connected : Bool) :
    ∃ met, Same (b.advance device.address (.changed .connected device.address)) met ∧
      Same (met.modify device.address fun entry => entry.insert .connected connected) (b.linkChanged device connected) := by
  refine ⟨_, (b.advance device.address (.changed .connected device.address)).meet_same device, ?_⟩
  unfold linkChanged
  dsimp only
  split
  · exact Same.refl _
  · apply modify_same
    exact fun _ => ⟨rfl, rfl⟩

theorem changes_of {address : String} {property : Property} {value : Bool} {met after : Backend}
    (same : Same (b.advance address (.changed property address)) met)
    (settled : Same (met.modify address fun entry => entry.insert property value) after) :
    Changes b after address property value where
  sound := fun sound => settled.sound (changed_sound sound same value)
  grown := (b.advance_grown address _).trans (same.grown.trans ((met.modify_grown address _).trans settled.grown))
  value := by
    intro other asked
    rw [settled.value]
    exact changed_value same value other asked

theorem bondStateChanged_changes (b : Backend) (saved : Bool) (status : Nat) (address : String) (state : Nat) :
    Changes b (b.bondStateChanged saved status address state) address .paired (state == 2) := by
  obtain ⟨met, same, settled, kept, ends⟩ := b.bondStateChanged_cases saved status address state
  have changes := changes_of same kept
  rcases ends with ends | ends <;> rw [ends]
  · exact changes
  · refine ⟨fun sound => operate_sound (changes.sound sound) saved address "connect",
      changes.grown.trans (settled.operate_grown saved address "connect"), ?_⟩
    rw [operate_value]
    exact changes.value

theorem linkChanged_changes (b : Backend) (device : Remote) (connected : Bool) :
    Changes b (b.linkChanged device connected) device.address .connected connected := by
  obtain ⟨met, same, kept⟩ := b.linkChanged_cases device connected
  exact changes_of same kept

theorem snapshot_taken (sound : Sound b) {address : String} {property : Property} {revision asked : Nat}
    (made : Asked b address revision asked) (value : Bool) {message : Message}
    (noted : message.note = some (.answered (address, property) value)) :
    Taken b (b.snapshot property address revision asked value) message := by
  refine ⟨snapshot_sound sound made value, b.snapshot_grown property address revision asked value, ?_⟩
  intro current notes mirrored
  rw [noted] at mirrored
  have stored : ∀ other read, (b.snapshot property address revision asked value).value other read = _ :=
    snapshot_value made value
  apply mirrored.take_answer
  · by_cases still : revision = b.deviceRevisions address
    · exact .inl ((stored address property).trans (if_pos ⟨⟨rfl, rfl⟩, still⟩))
    · exact .inr ((stored address property).trans (if_neg fun both => still both.2))
  · intro other apart
    exact (stored other.1 other.2).trans (if_neg fun both => apart (Prod.ext both.1.1 both.1.2))

theorem callback_taken (sound : Sound b) (saved : Bool) {message : Message} (made : message.Made b) :
    Taken b (b.callback saved message) message := by
  cases message with
  | notice notice => exact (b.noticed_same notice).taken sound rfl
  | bondStateChanged status address state => exact (b.bondStateChanged_changes saved status address state).taken sound rfl
  | deviceConnected device => exact (b.linkChanged_changes device true).taken sound rfl
  | deviceDisconnected device => exact (b.linkChanged_changes device false).taken sound rfl
  | registered => exact b.registerConnection_same.taken sound rfl
  | devices devices => exact (b.readDevices_same devices).taken sound rfl
  | bondState address revision asked state => exact snapshot_taken sound made (state == 2) rfl
  | remoteConnected address revision asked connected => exact snapshot_taken sound made connected rfl
  | operated address operation serial accepted => exact (b.operated_same address operation serial accepted).taken sound rfl

end Backend

theorem Message.Made.grown {after : Backend} {message : Message} (made : message.Made b) (grown : Grown b after) :
    message.Made after := by
  cases message with
  | bondState address revision asked state => exact Asked.grown made grown
  | remoteConnected address revision asked connected => exact Asked.grown made grown
  | _ => trivial

namespace World

variable {w : World}

def truth (w : World) (key : String × Property) : Bool := w.current key.1 key.2

/-- The backend is sound, the answers under way are to its reads, and its devices mirror the
daemon over the channel. -/
structure Faithful (w : World) : Prop where
  sound : Sound w.backend
  made : ∀ message ∈ w.channel, message.Made w.backend
  mirrored : Mirrored w.truth (w.channel.filterMap Message.note) w.backend.held

/-- The backend does something of its own. -/
theorem Faithful.acts (faithful : Faithful w) {after : Backend} (sound : Sound after) (grown : Grown w.backend after)
    (value : after.value = w.backend.value) : Faithful { w with backend := after } where
  sound := sound
  made := fun message member => (faithful.made message member).grown grown
  mirrored := by
    have held : after.held = w.backend.held := by
      unfold Backend.held
      rw [value]
    change Mirrored w.truth _ after.held
    rw [held]
    exact faithful.mirrored

theorem Faithful.quietly (faithful : Faithful w) {after : Backend} (same : Same w.backend after) :
    Faithful { w with backend := after } := faithful.acts (same.sound faithful.sound) same.grown same.value

/-- The daemon sends something. -/
theorem Faithful.sends (faithful : Faithful w) (next : World) (message : Message) (backend : next.backend = w.backend)
    (channel : next.channel = w.channel ++ [message]) (made : message.Made w.backend)
    (mirrored : Mirrored next.truth (w.channel.filterMap Message.note ++ message.note.toList) w.backend.held) :
    Faithful next where
  sound := backend ▸ faithful.sound
  made := by
    rw [backend, channel]
    intro other member
    rcases List.mem_append.mp member with old | new
    · exact faithful.made other old
    · cases List.mem_singleton.mp new
      exact made
  mirrored := by
    rw [backend, channel, List.filterMap_append]
    cases noted : message.note with
    | none =>
      rw [noted] at mirrored
      simpa [noted] using mirrored
    | some note =>
      rw [noted] at mirrored
      simpa [noted] using mirrored

theorem bond_truth (w : World) (status : Nat) (address : String) (state : Nat) :
    (w.step (.bond status address state)).truth = Function.update w.truth (address, .paired) (state == 2) := by
  funext key
  obtain ⟨other, property⟩ := key
  rw [Function.update_apply]
  cases property with
  | paired =>
    change (Function.update w.bond address state other == 2) = _
    rw [Function.update_apply]
    simp only [Prod.mk.injEq, and_true]
    split <;> rfl
  | connected => simp; rfl

theorem link_truth (w : World) (device : Remote) (connected : Bool) :
    (w.step (.link device connected)).truth = Function.update w.truth (device.address, .connected) connected := by
  funext key
  obtain ⟨other, property⟩ := key
  rw [Function.update_apply]
  cases property with
  | paired => simp; rfl
  | connected =>
    change Function.update w.link device.address connected other = _
    rw [Function.update_apply]
    simp only [Prod.mk.injEq, and_true]
    split <;> rfl

/-- A call that is answered is not answered again. -/
theorem answered_same (b : Backend) (index : Nat) : Same b { b with calls := b.calls.eraseIdx index } :=
  ⟨rfl, rfl, rfl, fun _ known => known, fun _ _ _ _ member => .inl (List.mem_of_mem_eraseIdx member)⟩

/-- What says nothing of a property leaves everything as it is. -/
theorem Faithful.says (faithful : Faithful w) {message : Message} (made : message.Made w.backend)
    (silent : message.note = none) : Faithful (w.send message) := by
  apply faithful.sends (w.send message) message rfl rfl made
  rw [silent, Option.toList_none, List.append_nil]
  exact faithful.mirrored

theorem Faithful.replies (faithful : Faithful w) {call : Call} (made : call ∈ w.backend.calls) (devices : List Remote)
    (accepted : Bool) : Faithful (w.send (w.reply devices accepted call)) := by
  cases call with
  | registerConnectionCallback => exact faithful.says trivial rfl
  | getBondedDevices => exact faithful.says trivial rfl
  | getConnectedDevices => exact faithful.says trivial rfl
  | operate method device operation serial => exact faithful.says trivial rfl
  | read property device revision asked =>
    have waiting := faithful.sound.calls property device revision asked made
    have answered := faithful.mirrored.answered (device.address, property)
    cases property with
    | paired =>
      exact faithful.sends (w.send (.bondState device.address revision asked (w.bond device.address))) _ rfl rfl
        waiting answered
    | connected =>
      exact faithful.sends (w.send (.remoteConnected device.address revision asked (w.link device.address))) _ rfl rfl
        waiting answered

theorem Faithful.step (faithful : Faithful w) (action : Action) : Faithful (w.step action) := by
  cases action with
  | bond status address state =>
    apply faithful.sends (w.step (.bond status address state)) (.bondStateChanged status address state) rfl rfl trivial
    rw [bond_truth]
    exact faithful.mirrored.changed (address, .paired) (state == 2)
  | link device connected =>
    apply faithful.sends (w.step (.link device connected))
      (if connected then .deviceConnected device else .deviceDisconnected device) rfl rfl
    · cases connected <;> trivial
    · rw [link_truth]
      have changed := faithful.mirrored.changed (device.address, .connected) connected
      cases connected <;> exact changed
  | notice notice => exact faithful.says trivial rfl
  | answer index devices accepted =>
    rw [World.step]
    split
    · exact faithful
    · next call here =>
      have made : call ∈ w.backend.calls := List.mem_of_getElem? here
      have replied := faithful.replies made devices accepted
      exact replied.quietly (answered_same w.backend index)
  | receive saved =>
    rw [World.step]
    split
    · exact faithful
    · next message rest arrived =>
      have mirrored := faithful.mirrored
      rw [arrived] at mirrored
      have taken := Backend.callback_taken faithful.sound saved (faithful.made message (arrived ▸ List.mem_cons_self))
      refine ⟨taken.sound, ?_, ?_⟩
      · intro other member
        exact (faithful.made other (arrived ▸ List.mem_cons_of_mem message member)).grown taken.grown
      · have mirrored : Mirrored w.truth (message.note.toList ++ rest.filterMap Message.note) w.backend.held := by
          cases noted : message.note with
          | none => simpa [List.filterMap_cons, noted] using mirrored
          | some note => simpa [List.filterMap_cons, noted] using mirrored
        exact taken.mirrored mirrored
  | operate saved address operation =>
    exact faithful.acts (Backend.operate_sound faithful.sound saved address operation)
      (w.backend.operate_grown saved address operation) (w.backend.operate_value saved address operation)
  | timeout address operation serial => exact faithful.quietly (w.backend.timeout_same address operation serial)
  | refresh address => exact faithful.quietly (w.backend.readDevice_same (w.backend.deviceArgument address))

theorem Faithful.grows (faithful : Faithful w) (action : Action) : Grown w.backend (w.step action).backend := by
  have still : Grown w.backend w.backend := (Same.refl w.backend).grown
  cases action with
  | bond status address state => exact still
  | link device connected => exact still
  | notice notice => exact still
  | answer index devices accepted =>
    rw [World.step]
    split
    · exact still
    · exact (answered_same w.backend index).grown
  | receive saved =>
    rw [World.step]
    split
    · exact still
    · next message rest arrived =>
      exact (Backend.callback_taken faithful.sound saved (faithful.made message (arrived ▸ List.mem_cons_self))).grown
  | operate saved address operation => exact w.backend.operate_grown saved address operation
  | timeout address operation serial => exact (w.backend.timeout_same address operation serial).grown
  | refresh address => exact (w.backend.readDevice_same (w.backend.deviceArgument address)).grown

theorem Faithful.run (faithful : Faithful w) (actions : List Action) : Faithful (w.run actions) := by
  unfold World.run
  induction actions generalizing w with
  | nil => exact faithful
  | cons action rest ih => exact ih (faithful.step action)

theorem start_faithful (bond : String → Nat) (link : String → Bool) : Faithful (start bond link) where
  sound := by
    refine ⟨fun _ => rfl, ?_, ?_⟩
    · intro address property
      simp [start, Backend.value, Told]
    · intro property device revision asked member
      simp [start] at member
  made := nofun
  mirrored := ⟨trivial, nofun⟩

end World

open World

theorem run_append (w : World) (early late : List Action) : w.run (early ++ late) = (w.run early).run late :=
  List.foldl_append

/-- In every run, once nothing is under way: a property of a device is stored, and is what the
daemon has, just when the backend was told of it by what it has heard. What it was not told
reads as false. A read is asked at the time of the action that makes it. -/
theorem quiet_agrees_iff (bond : String → Nat) (link : String → Bool) (actions : List Action) {w : World}
    (ran : (start bond link).run actions = w) (quiet : w.Quiet) (address : String) (property : Property) :
    (w.backend.value address property = some (w.current address property) ↔
      Told ((start bond link).heard actions) address property) ∧
    ((w.backend.value address property).getD false = w.current address property ↔
      Told ((start bond link).heard actions) address property ∨ w.current address property = false) ∧
    ∀ before action after, actions = before ++ action :: after → ∀ asker device revision asked,
      .read asker device revision asked ∈ (((start bond link).run before).step action).backend.calls →
        .read asker device revision asked ∈ ((start bond link).run before).backend.calls ∨
          ((start bond link).heard before).length ≤ asked ∧
            asked ≤ ((start bond link).heard (before ++ [action])).length := by
  have marks : ∀ actions, ((start bond link).run actions).backend.marks = (start bond link).heard actions :=
    run_marks (start bond link)
  have faithful : Faithful w := ran ▸ (start_faithful bond link).run actions
  have mirrored := faithful.mirrored
  rw [quiet.2] at mirrored
  have agrees : ∀ value, w.backend.value address property = some value → value = w.current address property := by
    intro value stored
    have current : value = w.truth (address, property) := mirrored.quiet stored
    exact current
  refine ⟨?_, ?_, ?_⟩
  · rw [← marks actions, ran, ← faithful.sound.told]
    cases stored : w.backend.value address property with
    | none => simp
    | some value => simp [agrees value stored]
  · rw [← marks actions, ran, ← faithful.sound.told]
    cases stored : w.backend.value address property with
    | none => simp
    | some value => simp [agrees value stored]
  · intro before action after _ asker device revision asked member
    have grown := ((start_faithful bond link).run before).grows action
    have later : (((start bond link).run before).step action).backend.marks = (start bond link).heard (before ++ [action]) := by
      rw [← marks, run_append]
      rfl
    rw [← marks before, ← later]
    exact grown.reads asker device revision asked member

/-- A device that is bonded, and its read. -/
def bondedRead : List Action :=
  [.answer 0 [] true, .receive true, .answer 0 [⟨"A1", "headset"⟩] true, .receive true, .answer 0 [] true, .receive true]

def answered : List Action := [.answer 0 [] true, .answer 0 [] true, .receive true, .receive true]

def bonded : String → Nat := fun address => if address = "A1" then 2 else 0

/-- With nothing in between, the bond is stored. -/
theorem undisturbed_read_agrees : ∃ w, (start bonded fun _ => false).run (bondedRead ++ answered) = w ∧ w.Quiet ∧
    w.backend.value "A1" .paired = some (w.current "A1" .paired) := by
  refine ⟨_, rfl, by decide +kernel, ?_⟩
  apply (quiet_agrees_iff bonded (fun _ => false) (bondedRead ++ answered) rfl (by decide +kernel) "A1" .paired).1.mpr
  exact .inr ⟨[], [.answered .connected "A1" 0], 0, by decide +kernel, nofun⟩

/-- The device connects while it is read. The answer about its bond is dropped for the
connection, and the bonded device is not paired. -/
theorem connected_device_not_paired : ∃ w,
    (start bonded fun _ => false).run (bondedRead ++ [.link ⟨"A1", "headset"⟩ true] ++ answered ++ [.receive true]) = w ∧
      w.Quiet ∧ w.backend.devices "A1" ≠ none ∧ w.backend.value "A1" .connected = some true ∧
      w.backend.value "A1" .paired = none ∧ w.current "A1" .paired = true :=
  ⟨_, rfl, by decide +kernel, by decide +kernel, by decide +kernel, by decide +kernel, by decide +kernel⟩

end FlossDesktop.Devices
