import FlossDesktop.Devices
import Mathlib.Data.List.Basic
import Mathlib.Tactic

/-! What a backend was told of its devices. A property is stored just when one of its
changes came in, or a read of it that nothing else about the device had passed. -/

namespace FlossDesktop.Devices

variable {b middle after : Backend} {address : String} {property : Property}

/-- The marks that drop the reads of a device. -/
def moves (address : String) : Mark → Bool
  | .changed _ other => other == address
  | .operated other => other == address
  | .answered _ _ _ => false

/-- A change of this property came in, or the answer to a read of it, with nothing else about
the device between the question and the answer. -/
def Told (marks : List Mark) (address : String) (property : Property) : Prop :=
  .changed property address ∈ marks ∨
    ∃ earlier later asked, marks = earlier ++ .answered property address asked :: later ∧
      ∀ mark ∈ earlier.drop asked, moves address mark = false

theorem told_append {marks : List Mark} {mark : Mark} :
    Told (marks ++ [mark]) address property ↔
      Told marks address property ∨ mark = .changed property address ∨
        ∃ asked, mark = .answered property address asked ∧ ∀ earlier ∈ marks.drop asked, moves address earlier = false := by
  constructor
  · rintro (member | ⟨earlier, later, asked, same, still⟩)
    · rcases List.mem_append.mp member with old | new
      · exact .inl (.inl old)
      · exact .inr (.inl (List.mem_singleton.mp new).symm)
    · rcases List.eq_nil_or_concat later with rfl | ⟨rest, last, rfl⟩
      · obtain ⟨rfl, here⟩ := List.append_inj' same rfl
        cases here
        exact .inr (.inr ⟨asked, rfl, still⟩)
      · rw [List.concat_eq_append, ← List.cons_append, ← List.append_assoc] at same
        exact .inl (.inr ⟨earlier, rest, asked, (List.append_inj' same rfl).1, still⟩)
  · rintro ((member | ⟨earlier, later, asked, rfl, still⟩) | rfl | ⟨asked, rfl, still⟩)
    · exact .inl (List.mem_append_left _ member)
    · refine .inr ⟨earlier, later ++ [mark], asked, ?_, still⟩
      rw [List.append_assoc, List.cons_append]
    · exact .inl (List.mem_append_right _ (List.mem_singleton_self _))
    · exact .inr ⟨marks, [], asked, rfl, still⟩

/-- A read that was made of a known device, at its revision. -/
structure Asked (b : Backend) (address : String) (revision asked : Nat) : Prop where
  known : b.devices address ≠ none
  inside : asked ≤ b.marks.length
  revision : revision = (b.marks.take asked).countP (moves address)

/-- The revisions count, what is stored was told, and every read knows when it was made. -/
structure Sound (b : Backend) : Prop where
  revisions : ∀ address, b.deviceRevisions address = b.marks.countP (moves address)
  told : ∀ address property, b.value address property ≠ none ↔ Told b.marks address property
  calls : ∀ property device revision asked, .read property device revision asked ∈ b.calls →
    Asked b device.address revision asked

/-- Devices stay known and marks stay, and new reads know when they are made. -/
structure Grown (b after : Backend) : Prop where
  known : ∀ address, b.devices address ≠ none → after.devices address ≠ none
  marks : b.marks <+: after.marks
  reads : ∀ property device revision asked, .read property device revision asked ∈ after.calls →
    .read property device revision asked ∈ b.calls ∨ b.marks.length ≤ asked ∧ asked ≤ after.marks.length

theorem Grown.trans (first : Grown b middle) (second : Grown middle after) : Grown b after where
  known address known := second.known address (first.known address known)
  marks := first.marks.trans second.marks
  reads := by
    intro property device revision asked member
    rcases second.reads property device revision asked member with old | ⟨late, early⟩
    · exact (first.reads property device revision asked old).imp id fun both =>
        ⟨both.1, both.2.trans second.marks.length_le⟩
    · exact .inr ⟨first.marks.length_le.trans late, early⟩

theorem Asked.grown {revision asked : Nat} (made : Asked b address revision asked) (grown : Grown b after) :
    Asked after address revision asked := by
  refine ⟨grown.known address made.known, made.inside.trans grown.marks.length_le, ?_⟩
  obtain ⟨rest, same⟩ := grown.marks
  rw [← same, List.take_append_of_le_length made.inside]
  exact made.revision

/-- The revision of a read is still the last one when nothing has passed it. -/
theorem Asked.unpassed {revision asked : Nat} (sound : Sound b) (made : Asked b address revision asked) :
    revision = b.deviceRevisions address ↔ ∀ mark ∈ b.marks.drop asked, moves address mark = false := by
  have split : b.marks.countP (moves address) =
      (b.marks.take asked).countP (moves address) + (b.marks.drop asked).countP (moves address) := by
    rw [← List.countP_append, List.take_append_drop]
  have none_passed : (b.marks.drop asked).countP (moves address) = 0 ↔
      ∀ mark ∈ b.marks.drop asked, moves address mark = false := by
    rw [List.countP_eq_zero]
    simp only [Bool.not_eq_true]
  rw [← none_passed, sound.revisions, made.revision, split]
  omega

/-- Nothing about the bond or the link of a device is new, and new reads are made now. -/
structure Same (b after : Backend) : Prop where
  marks : after.marks = b.marks
  revisions : after.deviceRevisions = b.deviceRevisions
  value : after.value = b.value
  known : ∀ address, b.devices address ≠ none → after.devices address ≠ none
  calls : ∀ property device revision asked, .read property device revision asked ∈ after.calls →
    .read property device revision asked ∈ b.calls ∨
      after.devices device.address ≠ none ∧ revision = after.deviceRevisions device.address ∧ asked = after.marks.length

theorem Same.refl (b : Backend) : Same b b := ⟨rfl, rfl, rfl, fun _ known => known, fun _ _ _ _ => .inl⟩

/-- What is kept for the operations says nothing about a device. -/
theorem Same.book (b : Backend) (ready : Bool) (operations : String → Option Nat) (serial : Nat) :
    Same b { b with ready, operations, serial } := ⟨rfl, rfl, rfl, fun _ known => known, fun _ _ _ _ => .inl⟩

theorem Same.trans (first : Same b middle) (second : Same middle after) : Same b after := by
  refine ⟨second.marks.trans first.marks, second.revisions.trans first.revisions, second.value.trans first.value,
    fun address known => second.known address (first.known address known), ?_⟩
  intro property device revision asked member
  rcases second.calls property device revision asked member with old | new
  · rcases first.calls property device revision asked old with older | ⟨known, revised, now⟩
    · exact .inl older
    · exact .inr ⟨second.known _ known, second.revisions ▸ revised, second.marks ▸ now⟩
  · exact .inr new

theorem Same.grown (same : Same b after) : Grown b after where
  known := same.known
  marks := same.marks ▸ List.prefix_rfl
  reads := by
    intro property device revision asked member
    rcases same.calls property device revision asked member with old | ⟨-, -, rfl⟩
    · exact .inl old
    · exact .inr ⟨same.marks ▸ le_rfl, le_rfl⟩

theorem Same.sound (same : Same b after) (sound : Sound b) : Sound after where
  revisions := by
    rw [same.revisions, same.marks]
    exact sound.revisions
  told := by
    rw [same.value, same.marks]
    exact sound.told
  calls := by
    intro property device revision asked member
    rcases same.calls property device revision asked member with old | ⟨known, revised, now⟩
    · exact (sound.calls property device revision asked old).grown same.grown
    · refine ⟨known, le_of_eq now, ?_⟩
      rw [revised, now, List.take_length, same.revisions, same.marks]
      exact sound.revisions device.address

namespace Backend

theorem modify_known (b : Backend) (address : String) (change : Entry → Entry) (other : String)
    (known : b.devices other ≠ none) : (b.modify address change).devices other ≠ none := by
  change Function.update b.devices address _ other ≠ none
  rw [Function.update_apply]
  split
  · exact Option.some_ne_none _
  · exact known

theorem modify_self (b : Backend) (address : String) (change : Entry → Entry) :
    (b.modify address change).devices address ≠ none := by
  change Function.update b.devices address _ address ≠ none
  rw [Function.update_self]
  exact Option.some_ne_none _

theorem modify_value (b : Backend) (address : String) (change : Entry → Entry) (other : String) (property : Property) :
    (b.modify address change).value other property =
      if other = address then (change ((b.devices address).getD {})).value property else b.value other property := by
  change (Function.update b.devices address _ other).bind _ = _
  rw [Function.update_apply]
  split <;> rfl

theorem value_entry (b : Backend) (address : String) (property : Property) :
    ((b.devices address).getD {}).value property = b.value address property := by
  unfold value
  cases b.devices address with
  | none => cases property <;> rfl
  | some entry => rfl

/-- A change of an entry that keeps its bond and its link. -/
theorem modify_same (b : Backend) (address : String) {change : Entry → Entry}
    (keeps : ∀ entry, (change entry).paired = entry.paired ∧ (change entry).connected = entry.connected) :
    Same b (b.modify address change) := by
  have kept : ∀ entry property, (change entry).value property = entry.value property := by
    intro entry property
    cases property with
    | paired => exact (keeps entry).1
    | connected => exact (keeps entry).2
  refine ⟨rfl, rfl, ?_, b.modify_known address change, fun _ _ _ _ => .inl⟩
  funext other property
  rw [modify_value, kept, value_entry]
  split
  · next same => rw [same]
  · rfl

theorem insert_entry (entry : Entry) (property asked : Property) (value : Bool) :
    (entry.insert property value).value asked = if asked = property then some value else entry.value asked := by
  cases property <;> cases asked <;> rfl

theorem insert_value (b : Backend) (address : String) (property : Property) (value : Bool) (other : String)
    (asked : Property) : (b.modify address fun entry => entry.insert property value).value other asked =
      if other = address ∧ asked = property then some value else b.value other asked := by
  rw [modify_value, insert_entry, value_entry]
  by_cases here : other = address
  · subst here
    rw [if_pos rfl]
    simp only [true_and]
  · rw [if_neg here, if_neg (fun both => here both.1)]

theorem readDevice_same (b : Backend) (device : Remote) : Same b (b.readDevice device) := by
  unfold readDevice
  split
  · exact Same.refl b
  · have stored : Same b (b.modify device.address (named device)) := by
      apply modify_same
      exact fun _ => ⟨rfl, rfl⟩
    refine ⟨stored.marks, stored.revisions, stored.value, stored.known, ?_⟩
    intro property other revision asked member
    rcases List.mem_append.mp member with old | new
    · exact .inl old
    · simp only [List.mem_cons, List.not_mem_nil, or_false] at new
      rcases new with new | new
      all_goals
        cases new
        exact .inr ⟨b.modify_self _ _, rfl, rfl⟩

theorem call_same (b : Backend) {calls : List Call}
    (others : ∀ property device revision asked, .read property device revision asked ∉ calls) : Same b (b.call calls) := by
  refine ⟨rfl, rfl, rfl, fun _ known => known, ?_⟩
  intro property device revision asked member
  rcases List.mem_append.mp member with old | new
  · exact .inl old
  · exact absurd new (others property device revision asked)

theorem registerConnection_same (b : Backend) : Same b b.registerConnection := by
  apply (Same.book b true b.operations b.serial).trans
  apply call_same
  simp

theorem meet_same (b : Backend) (device : Remote) : Same b (b.meet device) := by
  unfold meet
  split
  · exact b.readDevice_same device
  · exact Same.refl b

theorem readDevices_same (b : Backend) (devices : List Remote) : Same b (devices.foldl readDevice b) := by
  induction devices generalizing b with
  | nil => exact Same.refl b
  | cons device rest ih => exact (b.readDevice_same device).trans (ih _)

theorem finish_same (b : Backend) (address operation : String) : Same b (b.finish address operation) := by
  unfold finish
  split
  · exact Same.refl b
  · apply (Same.book b b.ready (Function.update b.operations address none) b.serial).trans
    apply modify_same
    exact fun _ => ⟨rfl, rfl⟩

theorem noticed_same (b : Backend) (notice : Notice) : Same b (b.noticed notice) := by
  cases notice with
  | deviceFound device => exact b.readDevice_same device
  | devicePropertiesChanged device => exact b.readDevice_same device
  | deviceConnectionFailed device =>
    have finished := b.finish_same device.address "connect"
    dsimp only [noticed]
    split
    · exact finished
    · apply finished.trans
      apply modify_same
      exact fun _ => ⟨rfl, rfl⟩
  | pairingRequest device => exact b.meet_same device

theorem operated_same (b : Backend) (address operation : String) (serial : Nat) (accepted : Bool) :
    Same b (b.operated address operation serial accepted) := by
  unfold operated
  split_ifs
  · exact Same.refl b
  · exact b.finish_same address operation
  · apply Same.trans ?_ (finish_same _ address operation)
    apply modify_same
    exact fun _ => ⟨rfl, rfl⟩
  · exact Same.refl b

theorem timeout_same (b : Backend) (address operation : String) (serial : Nat) :
    Same b (b.timeout address operation serial) := by
  unfold timeout
  split
  · exact b.finish_same address operation
  · exact Same.refl b

/-- An operation has no effect, or passes the reads of its device. -/
theorem operate_cases (b : Backend) (saved : Bool) (address operation : String) :
    b.operate saved address operation = b ∨
      Same (b.advance address (.operated address)) (b.operate saved address operation) := by
  unfold operate
  split
  · exact .inl rfl
  · split
    · exact .inl rfl
    · split
      · right
        apply Same.trans ?_ (call_same _ ?_)
        · apply (Same.book (b.advance address (.operated address)) b.ready
            (Function.update b.operations address (some (b.serial + 1))) (b.serial + 1)).trans
          apply modify_same
          exact fun _ => ⟨rfl, rfl⟩
        · simp
      · exact .inl rfl

theorem advance_grown (b : Backend) (address : String) (mark : Mark) : Grown b (b.advance address mark) :=
  ⟨fun _ known => known, List.prefix_append _ _, fun _ _ _ _ => .inl⟩

theorem modify_grown (b : Backend) (address : String) (change : Entry → Entry) : Grown b (b.modify address change) :=
  ⟨b.modify_known address change, List.prefix_rfl, fun _ _ _ _ => .inl⟩

/-- The revisions go on counting. -/
theorem advance_revisions (sound : Sound b) (address : String) {mark : Mark} (moved : moves address mark = true)
    (only : ∀ other, other ≠ address → moves other mark = false) (other : String) :
    (b.advance address mark).deviceRevisions other = (b.marks ++ [mark]).countP (moves other) := by
  change Function.update b.deviceRevisions address (b.deviceRevisions address + 1) other = _
  rw [List.countP_append, List.countP_singleton, ← sound.revisions, Function.update_apply]
  split
  · next same => rw [same, moved, if_pos rfl]
  · next apart => rw [only other apart, if_neg Bool.false_ne_true, Nat.add_zero]

theorem changed_revisions (sound : Sound b) (address : String) (property : Property) (other : String) :
    (b.advance address (.changed property address)).deviceRevisions other =
      (b.marks ++ [Mark.changed property address]).countP (moves other) := by
  apply advance_revisions sound
  · exact beq_self_eq_true address
  · intro other apart
    exact beq_eq_false_iff_ne.mpr (Ne.symm apart)

theorem advance_operated_sound (sound : Sound b) (address : String) : Sound (b.advance address (.operated address)) where
  revisions := advance_revisions sound address (beq_self_eq_true address) fun _ apart =>
    beq_eq_false_iff_ne.mpr (Ne.symm apart)
  told := by
    intro other property
    change b.value other property ≠ none ↔ Told (b.marks ++ [_]) other property
    rw [told_append, sound.told]
    simp
  calls := by
    intro property device revision asked member
    exact (sound.calls property device revision asked member).grown (b.advance_grown address _)

theorem operate_sound (sound : Sound b) (saved : Bool) (address operation : String) :
    Sound (b.operate saved address operation) := by
  rcases b.operate_cases saved address operation with same | same
  · rw [same]
    exact sound
  · exact same.sound (advance_operated_sound sound address)

theorem operate_grown (b : Backend) (saved : Bool) (address operation : String) :
    Grown b (b.operate saved address operation) := by
  rcases b.operate_cases saved address operation with same | same
  · rw [same]
    exact (Same.refl b).grown
  · exact (b.advance_grown address _).trans same.grown

theorem operate_value (b : Backend) (saved : Bool) (address operation : String) :
    (b.operate saved address operation).value = b.value := by
  rcases b.operate_cases saved address operation with same | same
  · rw [same]
  · exact same.value

/-- A change that came in is stored, whatever was read when its device was met. -/
theorem changed_value {met : Backend} (same : Same (b.advance address (.changed property address)) met) (value : Bool)
    (other : String) (asked : Property) :
    (met.modify address fun entry => entry.insert property value).value other asked =
      if other = address ∧ asked = property then some value else b.value other asked := by
  rw [insert_value, same.value]
  rfl

theorem changed_sound (sound : Sound b) {met : Backend} (same : Same (b.advance address (.changed property address)) met)
    (value : Bool) : Sound (met.modify address fun entry => entry.insert property value) where
  revisions := by
    intro other
    change met.deviceRevisions other = met.marks.countP (moves other)
    rw [same.revisions, same.marks]
    exact changed_revisions sound address property other
  told := by
    intro other asked
    have marks : (met.modify address fun entry => entry.insert property value).marks =
        b.marks ++ [.changed property address] := same.marks
    rw [changed_value same, marks, told_append, ← sound.told]
    split
    · next here =>
      obtain ⟨rfl, rfl⟩ := here
      simp
    · next apart =>
      have different : Mark.changed property address ≠ .changed asked other := by
        intro both
        cases both
        exact apart ⟨rfl, rfl⟩
      simp [different]
  calls := by
    intro property' device revision asked member
    have grown : Grown b (met.modify address fun entry => entry.insert property value) :=
      (b.advance_grown address _).trans (same.grown.trans (met.modify_grown address _))
    rcases same.calls property' device revision asked member with old | ⟨known, revised, now⟩
    · exact (sound.calls property' device revision asked old).grown grown
    · refine Asked.grown ⟨known, le_of_eq now, ?_⟩ (met.modify_grown address _)
      rw [revised, now, List.take_length, same.revisions, same.marks]
      exact changed_revisions sound address property device.address

/-- The answer to a read is stored just when nothing has passed the read. -/
theorem snapshot_value {revision asked : Nat} (made : Asked b address revision asked) (value : Bool) (other : String)
    (read : Property) : (b.snapshot property address revision asked value).value other read =
      if (other = address ∧ read = property) ∧ revision = b.deviceRevisions address then some value
      else b.value other read := by
  unfold snapshot
  dsimp only
  split
  · next passed =>
    have moved : revision ≠ b.deviceRevisions address := passed.resolve_left made.known
    rw [if_neg (fun both => moved both.2)]
    rfl
  · next still =>
    have kept : revision = b.deviceRevisions address := not_not.mp (not_or.mp still).2
    rw [insert_value]
    simp only [kept, and_true]
    rfl

theorem snapshot_frame (b : Backend) (property : Property) (address : String) (revision asked : Nat) (value : Bool) :
    (b.snapshot property address revision asked value).marks = b.marks ++ [.answered property address asked] ∧
    (b.snapshot property address revision asked value).deviceRevisions = b.deviceRevisions ∧
    (b.snapshot property address revision asked value).calls = b.calls ∧
    ∀ other, b.devices other ≠ none → (b.snapshot property address revision asked value).devices other ≠ none := by
  unfold snapshot
  dsimp only
  split
  · exact ⟨rfl, rfl, rfl, fun _ known => known⟩
  · exact ⟨rfl, rfl, rfl, (b.mark (.answered property address asked)).modify_known address _⟩

theorem snapshot_grown (b : Backend) (property : Property) (address : String) (revision asked : Nat) (value : Bool) :
    Grown b (b.snapshot property address revision asked value) := by
  obtain ⟨marks, _, calls, known⟩ := b.snapshot_frame property address revision asked value
  exact ⟨known, marks ▸ List.prefix_append _ _, fun _ _ _ _ member => .inl (calls ▸ member)⟩

theorem snapshot_sound (sound : Sound b) {revision asked : Nat} (made : Asked b address revision asked) (value : Bool) :
    Sound (b.snapshot property address revision asked value) := by
  obtain ⟨marks, revisions, calls, known⟩ := b.snapshot_frame property address revision asked value
  refine ⟨?_, ?_, ?_⟩
  · intro other
    rw [revisions, marks, List.countP_append, sound.revisions]
    rfl
  · intro other read
    have passed := made.unpassed sound
    rw [snapshot_value made, marks, told_append, ← sound.told]
    by_cases here : other = address ∧ read = property
    · obtain ⟨rfl, rfl⟩ := here
      have answered : (∃ made, Mark.answered read other asked = .answered read other made ∧
          ∀ earlier ∈ b.marks.drop made, moves other earlier = false) ↔ revision = b.deviceRevisions other := by
        constructor
        · rintro ⟨_, same, quiet⟩
          cases same
          exact passed.mpr quiet
        · intro still
          exact ⟨asked, rfl, passed.mp still⟩
      rw [answered]
      by_cases still : revision = b.deviceRevisions other <;> simp [still]
    · have different : ∀ made, Mark.answered property address asked ≠ .answered read other made := by
        intro made both
        cases both
        exact here ⟨rfl, rfl⟩
      simp [here, different]
  · intro other device revision' asked' member
    rw [calls] at member
    exact (sound.calls other device revision' asked' member).grown (b.snapshot_grown property address revision asked value)

end Backend
end FlossDesktop.Devices
