import FlossDesktop.Proofs.DeviceMarks

/-! The marks of a backend are those of the messages that came in and of the operations that
began, in their order. -/

namespace FlossDesktop.Devices

variable {b middle after : Backend} {address : String} {said : List Mark}

/-- What a message says of its device. -/
def Message.marks : Message → List Mark
  | .bondStateChanged _ address _ => [.changed .paired address]
  | .deviceConnected device => [.changed .connected device.address]
  | .deviceDisconnected device => [.changed .connected device.address]
  | .bondState address _ asked _ => [.answered .paired address asked]
  | .remoteConnected address _ asked _ => [.answered .connected address asked]
  | _ => []

/-- The device that an action may begin an operation of. -/
def World.busied (w : World) : Action → String
  | .operate _ address _ => address
  | .receive _ =>
    match w.channel with
    | .bondStateChanged _ address _ :: _ => address
    | _ => ""
  | _ => ""

/-- The messages that come in with an action, and the operation that begins with it. Each operation has a serial number. -/
def World.happened (w : World) (action : Action) : List Mark :=
  let said :=
    match action with
    | .receive _ => (w.channel.head?.map Message.marks).getD []
    | _ => []
  said ++ if (w.step action).backend.serial = w.backend.serial then [] else [.operated (w.busied action)]

def World.heard (w : World) : List Action → List Mark
  | [] => []
  | action :: rest => w.happened action ++ (w.step action).heard rest

/-- A handler tells what was said, and begins an operation at most. -/
def Begins (b after : Backend) (address : String) (said : List Mark) : Prop :=
  after.marks = b.marks ++ said ++ if after.serial = b.serial then [] else [.operated address]

/-- Nothing is said, and no operation begins. -/
structure Idle (b after : Backend) : Prop where
  marks : after.marks = b.marks
  serial : after.serial = b.serial

theorem Idle.trans (first : Idle b middle) (second : Idle middle after) : Idle b after :=
  ⟨second.marks.trans first.marks, second.serial.trans first.serial⟩

theorem Idle.begins (idle : Idle b after) (address : String) : Begins b after address [] := by
  unfold Begins
  rw [if_pos idle.serial, List.append_nil, List.append_nil]
  exact idle.marks

theorem Begins.later (idle : Idle b middle) (begins : Begins middle after address said) : Begins b after address said := by
  unfold Begins
  rw [← idle.marks, ← idle.serial]
  exact begins

namespace Backend

theorem modify_idle (b : Backend) (address : String) (change : Entry → Entry) : Idle b (b.modify address change) := ⟨rfl, rfl⟩

theorem readDevice_idle (b : Backend) (device : Remote) : Idle b (b.readDevice device) := by
  unfold readDevice
  split
  · exact ⟨rfl, rfl⟩
  · exact ⟨rfl, rfl⟩

theorem readDevices_idle (b : Backend) (devices : List Remote) : Idle b (devices.foldl readDevice b) := by
  induction devices generalizing b with
  | nil => exact ⟨rfl, rfl⟩
  | cons device rest ih => exact (b.readDevice_idle device).trans (ih _)

theorem meet_idle (b : Backend) (device : Remote) : Idle b (b.meet device) := by
  unfold meet
  split
  · exact b.readDevice_idle device
  · exact ⟨rfl, rfl⟩

theorem finish_idle (b : Backend) (address operation : String) : Idle b (b.finish address operation) := by
  unfold finish
  split
  · exact ⟨rfl, rfl⟩
  · exact ⟨rfl, rfl⟩

theorem noticed_idle (b : Backend) (notice : Notice) : Idle b (b.noticed notice) := by
  cases notice with
  | deviceFound device => exact b.readDevice_idle device
  | devicePropertiesChanged device => exact b.readDevice_idle device
  | deviceConnectionFailed device =>
    have finished := b.finish_idle device.address "connect"
    dsimp only [noticed]
    split
    · exact finished
    · exact finished.trans ⟨rfl, rfl⟩
  | pairingRequest device => exact b.meet_idle device

theorem operated_idle (b : Backend) (address operation : String) (serial : Nat) (accepted : Bool) :
    Idle b (b.operated address operation serial accepted) := by
  unfold operated
  split_ifs
  · exact ⟨rfl, rfl⟩
  · exact b.finish_idle address operation
  · exact (b.modify_idle address _).trans (finish_idle _ address operation)
  · exact ⟨rfl, rfl⟩

theorem timeout_idle (b : Backend) (address operation : String) (serial : Nat) :
    Idle b (b.timeout address operation serial) := by
  unfold timeout
  split
  · exact b.finish_idle address operation
  · exact ⟨rfl, rfl⟩

theorem operate_begins (b : Backend) (saved : Bool) (address operation : String) :
    Begins b (b.operate saved address operation) address [] := by
  have refused : Begins b b address [] := Idle.begins ⟨rfl, rfl⟩ address
  unfold operate
  split
  · exact refused
  · split
    · exact refused
    · split
      · change b.marks ++ [.operated address] = b.marks ++ [] ++ if b.serial + 1 = b.serial then [] else [.operated address]
        rw [List.append_nil, if_neg (Nat.succ_ne_self b.serial)]
      · exact refused

theorem settleBond_begins (b : Backend) (saved : Bool) (status : Nat) (address : String) (state : Nat) :
    Begins b (b.settleBond saved status address state) address [] := by
  have finished : Idle b (if state = 0 then (b.finish address "pair").finish address "forget" else b.finish address "pair") := by
    split
    · exact (b.finish_idle address "pair").trans (finish_idle _ address "forget")
    · exact b.finish_idle address "pair"
  unfold settleBond
  dsimp only
  split
  · exact (operate_begins _ saved address "connect").later finished
  · exact finished.begins address

theorem changed_idle (b : Backend) (device : Remote) (property : Property) (value : Bool) :
    Idle (b.mark (.changed property device.address))
      (((b.advance device.address (.changed property device.address)).meet device).modify device.address fun entry =>
        entry.insert property value) := by
  have met := (b.advance device.address (.changed property device.address)).meet_idle device
  exact ⟨met.marks, met.serial⟩

theorem Begins.says {mark : Mark} (begins : Begins (b.mark mark) after address []) : Begins b after address [mark] := by
  unfold Begins at begins ⊢
  rw [List.append_nil] at begins
  exact begins

theorem bondStateChanged_begins (b : Backend) (saved : Bool) (status : Nat) (address : String) (state : Nat) :
    Begins b (b.bondStateChanged saved status address state) address [.changed .paired address] := by
  have stored := b.changed_idle ⟨address, address⟩ .paired (state == 2)
  dsimp only at stored
  apply Begins.says
  unfold bondStateChanged
  dsimp only
  split
  · exact stored.begins address
  · exact (settleBond_begins _ saved status address state).later stored

theorem linkChanged_begins (b : Backend) (device : Remote) (connected : Bool) (address : String) :
    Begins b (b.linkChanged device connected) address [.changed .connected device.address] := by
  have stored := b.changed_idle device .connected connected
  apply Begins.says
  unfold linkChanged
  dsimp only
  split
  · exact stored.begins address
  · exact (stored.trans ⟨rfl, rfl⟩).begins address

theorem snapshot_begins (b : Backend) (property : Property) (address : String) (revision asked : Nat) (value : Bool)
    (other : String) : Begins b (b.snapshot property address revision asked value) other [.answered property address asked] := by
  have taken : Idle (b.mark (.answered property address asked)) (b.snapshot property address revision asked value) := by
    unfold snapshot
    dsimp only
    split
    · exact ⟨rfl, rfl⟩
    · exact ⟨rfl, rfl⟩
  exact Begins.says (taken.begins other)

end Backend

namespace World

variable {w : World}

theorem received_marks {message : Message} {rest : List Message} (arrived : w.channel = message :: rest) (saved : Bool) :
    Begins w.backend (w.backend.callback saved message) (w.busied (.receive saved)) message.marks := by
  unfold busied
  rw [arrived]
  cases message with
  | notice notice => exact (w.backend.noticed_idle notice).begins _
  | bondStateChanged status address state => exact w.backend.bondStateChanged_begins saved status address state
  | deviceConnected device => exact w.backend.linkChanged_begins device true _
  | deviceDisconnected device => exact w.backend.linkChanged_begins device false _
  | registered => exact Idle.begins ⟨rfl, rfl⟩ _
  | devices devices => exact (w.backend.readDevices_idle devices).begins _
  | bondState address revision asked state => exact w.backend.snapshot_begins .paired address revision asked (state == 2) _
  | remoteConnected address revision asked connected =>
    exact w.backend.snapshot_begins .connected address revision asked connected _
  | operated address operation serial accepted =>
    exact (w.backend.operated_idle address operation serial accepted).begins _

theorem step_marks (w : World) (action : Action) :
    (w.step action).backend.marks = w.backend.marks ++ w.happened action := by
  have quiet : ∀ {after}, Idle w.backend after → after.marks = w.backend.marks ++ [] ++
      if after.serial = w.backend.serial then [] else [.operated (w.busied action)] := fun idle => idle.begins _
  unfold happened
  rw [← List.append_assoc]
  cases action with
  | bond status address state => exact quiet ⟨rfl, rfl⟩
  | link device connected => exact quiet ⟨rfl, rfl⟩
  | notice notice => exact quiet ⟨rfl, rfl⟩
  | answer index devices accepted =>
    rw [step]
    split
    · exact quiet ⟨rfl, rfl⟩
    · exact quiet ⟨rfl, rfl⟩
  | receive saved =>
    rw [step]
    split
    next empty =>
      rw [empty]
      exact quiet ⟨rfl, rfl⟩
    next message rest arrived =>
      have received := received_marks arrived saved
      rw [arrived]
      exact received
  | operate saved address operation => exact w.backend.operate_begins saved address operation
  | timeout address operation serial => exact quiet (w.backend.timeout_idle address operation serial)
  | refresh address => exact quiet (w.backend.readDevice_idle (w.backend.deviceArgument address))

theorem run_marks (w : World) (actions : List Action) : (w.run actions).backend.marks = w.backend.marks ++ w.heard actions := by
  induction actions generalizing w with
  | nil => exact (List.append_nil _).symm
  | cons action rest ih =>
    change ((w.step action).run rest).backend.marks = _
    rw [ih, step_marks, List.append_assoc]
    rfl

end World
end FlossDesktop.Devices
