import FlossDesktop.Uinput

/-! The life of a virtual keyboard, as the kernel sees it. It is created when it is wholly
configured, each key is reported, and its descriptor is closed once and not used any more. -/

namespace FlossDesktop.Uinput

open Dialogue (Program Event Allowed)

/-- Names are only cut between two characters, and there is room for the suffix and a zero. -/
structure Constants.Sound (constants : Constants) : Prop where
  suffix : (utf8 constants.suffix.toList).length = constants.suffixSize
  fits : constants.suffixSize < constants.maxNameSize
  floor : ∀ name bound, ∃ head, head <+: name.toList ∧
    (utf8 head).length = constants.floorCharBoundary name bound ∧ (utf8 head).length ≤ bound

/-- What the kernel has of one device. -/
inductive Account where
  | absent
  | configuring (fd : Nat) (done : List Ioctl)
  | described (fd : Nat)
  | created (fd : Nat)
  | pressed (fd : Nat)
  | ended (fd : Nat)
deriving Repr, DecidableEq

/-- All that a device is told before it is created. -/
def configuration (constants : Constants) (phys : String) : List Ioctl :=
  [.setEvbit .key, .setEvbit .rel, .setEvbit .rep, .setEvbit .syn, .setPhys phys] ++ constants.keyMap.map .setKeybit

def configured (constants : Constants) (done : List Ioctl) : Bool :=
  match (done[4]? : Option Ioctl) with
  | some (.setPhys phys) => decide (done = configuration constants phys)
  | _ => false

/-- The kernel takes names of one size, with a zero at the end. -/
def terminated (constants : Constants) (name : Bytes) : Bool :=
  name.length == constants.maxNameSize && name.getLast? == some 0

def Ioctl.configures : Ioctl → Bool
  | .setEvbit _ | .setPhys _ | .setKeybit _ => true
  | _ => false

def Written.outcome (done retried refused : Account) : Written → Account
  | .whole => done
  | .short => refused
  | .failed error => if error.kind = .interrupted then retried else refused

/-- The protocol of one descriptor at a time. -/
def watch (constants : Constants) : Account → Event Request Answer → Option Account
  | .absent, ⟨.opens _, .ok fd⟩ => some (.configuring fd [])
  | .absent, ⟨.opens _, .error _⟩ => some .absent
  | .configuring fd done, ⟨.ioctl used operation, answer⟩ =>
    if used = fd ∧ operation.configures = true then
      match answer with
      | .ok _ => some (.configuring fd (done ++ [operation]))
      | .error _ => some (.ended fd)
    else none
  | .configuring fd done, ⟨.write used (.device name), answer⟩ =>
    if used = fd ∧ configured constants done = true ∧ terminated constants name = true then
      some (answer.outcome (.described fd) (.configuring fd done) (.ended fd))
    else none
  | .described fd, ⟨.ioctl used .devCreate, answer⟩ =>
    if used = fd then
      match answer with
      | .ok _ => some (.created fd)
      | .error _ => some (.ended fd)
    else none
  | .created fd, ⟨.write used (.event .key _ value), answer⟩ =>
    if used = fd ∧ value ≤ 1 then some (answer.outcome (.pressed fd) (.created fd) (.created fd)) else none
  | .pressed fd, ⟨.write used (.event .syn code value), answer⟩ =>
    if used = fd ∧ code = 0 ∧ value = 0 then some (answer.outcome (.created fd) (.pressed fd) (.created fd)) else none
  | .created fd, ⟨.ioctl used .devDestroy, _⟩ => if used = fd then some (.ended fd) else none
  | .created fd, ⟨.close used, _⟩ => if used = fd then some .absent else none
  | .ended fd, ⟨.close used, _⟩ => if used = fd then some .absent else none
  | _, _ => none

/-- What the kernel has of a device that is at rest. -/
def UInputDev.account (device : UInputDev) : Account := device.fd.elim .absent .created

variable {constants : Constants} {account : Account}

theorem utf8_append (first last : List Char) : utf8 (first ++ last) = utf8 first ++ utf8 last := List.flatMap_append

theorem Constants.Sound.deviceName_whole (sound : constants.Sound) (name : String) :
    ∃ head, head <+: name.toList ∧ (utf8 head).length + constants.suffixSize < constants.maxNameSize ∧
      deviceName constants name = (utf8 (head ++ constants.suffix.toList) ++
        List.replicate constants.maxNameSize 0).take constants.maxNameSize := by
  obtain ⟨head, ⟨rest, split⟩, length, short⟩ := sound.floor name (constants.maxNameSize - constants.suffixSize - 1)
  have fits := sound.fits
  refine ⟨head, ⟨rest, split⟩, by omega, ?_⟩
  have cut : (utf8 name.toList).take (utf8 head).length = utf8 head := by
    rw [← split, utf8_append, List.take_left]
  rw [deviceName, ← length, cut, ← utf8_append]

theorem Constants.Sound.deviceName_terminated (sound : constants.Sound) (name : String) :
    terminated constants (deviceName constants name) = true := by
  obtain ⟨head, -, short, whole⟩ := sound.deviceName_whole name
  have suffix := sound.suffix
  unfold terminated
  rw [whole, utf8_append]
  generalize utf8 head = head at short
  generalize utf8 constants.suffix.toList = tail at suffix
  have length : ((head ++ tail) ++ List.replicate constants.maxNameSize (0 : UInt8)).length =
      head.length + tail.length + constants.maxNameSize := by
    rw [List.length_append, List.length_append, List.length_replicate]
  rw [Bool.and_eq_true, beq_iff_eq, beq_iff_eq, List.length_take, length, List.getLast?_eq_getElem?, List.length_take, length]
  refine ⟨by omega, ?_⟩
  rw [List.getElem?_take, if_pos (by omega), List.getElem?_append_right (by rw [List.length_append]; omega),
    List.getElem?_replicate, if_pos (by rw [List.length_append]; omega)]

theorem configured_whole (constants : Constants) (phys : String) :
    configured constants (configuration constants phys) = true := by
  change decide (_ = _) = true
  exact decide_eq_true rfl

/-- Where a program ends, by whether it failed. -/
def Ends {ε α : Type} (done refused : Account) (result : Except ε α) (after : Account) : Prop :=
  after = match result with
    | .ok _ => done
    | .error _ => refused

/-- A record is taken at once, after some interruptions, or not at all. -/
theorem writePacket_allowed {fd : Nat} {packet : Packet} {done refused : Account}
    (taken : ∀ answer, watch constants account ⟨.write fd packet, answer⟩ = some (answer.outcome done account refused)) :
    Allowed (watch constants) (writePacket fd packet) (Ends done refused) account := by
  apply Allowed.repeatUntil (fun _ now => now = account) rfl
  rintro ⟨⟩ now rfl
  have written : Allowed (watch constants) (write fd packet) (fun answer after => after = answer.outcome done now refused) now :=
    fun answer => ⟨_, taken answer, rfl⟩
  apply written.bind
  rintro answer after rfl
  cases answer with
  | whole => exact rfl
  | short => exact rfl
  | failed error =>
    dsimp only [Written.outcome]
    split
    · exact rfl
    · exact rfl

theorem check_allowed {fd : Nat} {operation : Ioctl} {next : Account} (addr name : String)
    (taken : watch constants account ⟨.ioctl fd operation, .ok ()⟩ = some next)
    (refused : ∀ error, watch constants account ⟨.ioctl fd operation, .error error⟩ = some (.ended fd)) :
    Allowed (watch constants) (check addr fd operation name).run (Ends next (.ended fd)) account := by
  rintro (error | ⟨⟩)
  · exact ⟨_, refused error, rfl⟩
  · exact ⟨next, taken, rfl⟩

/-- A setting of a device that is not created yet. -/
theorem configure_allowed {fd : Nat} {done : List Ioctl} {operation : Ioctl} (addr name : String)
    (configures : operation.configures = true) :
    Allowed (watch constants) (check addr fd operation name).run (Ends (.configuring fd (done ++ [operation])) (.ended fd))
      (.configuring fd done) :=
  check_allowed addr name (if_pos ⟨rfl, configures⟩) fun _ => if_pos ⟨rfl, configures⟩

theorem configureAll_allowed {β : Type} {fd : Nat} (addr name : String) (operation : β → Ioctl)
    (configures : ∀ item, (operation item).configures = true) (items : List β) (done : List Ioctl) :
    Allowed (watch constants) (items.forM fun item => check addr fd (operation item) name).run
      (Ends (.configuring fd (done ++ items.map operation)) (.ended fd)) (.configuring fd done) := by
  apply Allowed.forEach items fun rest now => ∃ before, now = .configuring fd before ∧ before ++ rest.map operation =
    done ++ items.map operation
  · exact ⟨done, rfl, rfl⟩
  · rintro item rest now ⟨before, rfl, same⟩
    apply (configure_allowed addr name (configures item)).imp
    intro result after ends
    cases result with
    | ok => exact ⟨before ++ [operation item], ends, by rw [List.append_assoc]; exact same⟩
    | error reason => exact ends
  · rintro now ⟨before, rfl, same⟩
    rw [List.map_nil, List.append_nil] at same
    exact congrArg _ same

theorem setup_allowed {fd : Nat} {name : Bytes} (whole : terminated constants name = true) (addr : String) :
    Allowed (watch constants) (setup constants addr fd name).run (Ends (.created fd) (.ended fd)) (.configuring fd []) := by
  have failing : ∀ {α : Type} (done : Account) (reason : String) (now : Account),
      Ends done (.ended fd) (Except.error reason : Except String α) now →
        Ends (.created fd) (.ended fd) (Except.error reason : Except String PUnit) now := fun _ _ _ ends => ends
  apply Allowed.andThen (configureAll_allowed addr "UI_SET_EVBIT" .setEvbit (fun _ => rfl) _ _) _ (failing _)
  rintro _ _ rfl
  apply Allowed.andThen (configure_allowed addr "UI_SET_PHYS" rfl) _ (failing _)
  rintro _ _ rfl
  apply Allowed.andThen (configureAll_allowed addr "UI_SET_KEYBIT" .setKeybit (fun _ => rfl) _ _) _ (failing _)
  rintro _ _ rfl
  have described : Allowed (watch constants) (writePacket fd (.device name)) (Ends (.described fd) (.ended fd))
      (.configuring fd (configuration constants addr)) := by
    apply writePacket_allowed
    exact fun answer => if_pos ⟨rfl, configured_whole constants addr, whole⟩
  apply Allowed.bind described
  rintro (error | ⟨⟩) _ rfl
  · exact rfl
  · exact check_allowed addr "UI_DEV_CREATE" (if_pos rfl) fun _ => if_pos rfl

theorem openPaths_allowed (paths : List String) (error : Option OsError) :
    Allowed (watch constants) (openPaths paths error)
      (fun result after => after = match result with | .ok fd => .configuring fd [] | .error _ => .absent) .absent := by
  induction paths generalizing error with
  | nil => exact rfl
  | cons path rest ih =>
    rintro (reason | fd)
    · exact ⟨.absent, rfl, ih _⟩
    · exact ⟨.configuring fd [], rfl, rfl⟩

namespace UInputDev

variable (device : UInputDev)

theorem init_allowed (sound : constants.Sound) (name addr : String) :
    Allowed (watch constants) (device.init constants name addr) (fun result after => after = result.1.account) device.account := by
  unfold UInputDev.init
  split
  · exact rfl
  next fresh =>
    have absent : device.account = .absent := by
      unfold account
      rw [Option.not_isSome_iff_eq_none.mp fresh]
      rfl
    split
    · exact rfl
    · rw [absent]
      apply Allowed.bind (openPaths_allowed paths none)
      rintro (error | fd) _ rfl
      · exact absent.symm
      · apply Allowed.bind (setup_allowed (sound.deviceName_terminated name) addr)
        rintro (reason | ⟨⟩) _ rfl
        · exact fun _ => ⟨.absent, if_pos rfl, absent.symm⟩
        · exact rfl

theorem close_allowed :
    Allowed (watch constants) device.close (fun closed after => after = closed.account) device.account := by
  obtain ⟨fd, addr, name⟩ := device
  cases fd with
  | none => exact rfl
  | some fd => exact fun _ => ⟨.ended fd, if_pos rfl, fun _ => ⟨.absent, if_pos rfl, rfl⟩⟩

/-- A key is only sent to a device that is there, and with its report. -/
theorem sendKey_allowed (key value : UInt8) :
    Allowed (watch constants) (device.sendKey constants key value) (fun _ after => after = device.account) device.account := by
  obtain ⟨fd, addr, name⟩ := device
  unfold UInputDev.sendKey
  split
  · exact rfl
  next code known =>
    dsimp only
    split
    · exact rfl
    next valid =>
      cases fd with
      | none => exact rfl
      | some fd =>
        have pressed : Allowed (watch constants) (writePacket fd (.event .key code value)) (Ends (.pressed fd) (.created fd))
            (.created fd) := by
          apply writePacket_allowed
          exact fun answer => if_pos ⟨rfl, UInt8.not_lt.mp valid⟩
        have reported : Allowed (watch constants) (writePacket fd (.event .syn 0 0)) (Ends (.created fd) (.created fd))
            (.pressed fd) := by
          apply writePacket_allowed
          exact fun answer => if_pos ⟨rfl, rfl, rfl⟩
        apply Allowed.bind pressed
        rintro (error | ⟨⟩) _ rfl
        · exact rfl
        · apply Allowed.bind reported
          rintro (error | ⟨⟩) _ rfl
          · exact rfl
          · exact rfl

theorem apply_allowed (sound : constants.Sound) (method : Method) :
    Allowed (watch constants) (device.apply constants method) (fun after account => account = after.account) device.account := by
  cases method with
  | init name addr =>
    apply Allowed.bind (device.init_allowed sound name addr)
    rintro result _ rfl
    exact rfl
  | close => exact device.close_allowed
  | sendKey key value =>
    apply Allowed.bind (device.sendKey_allowed key value)
    rintro _ _ rfl
    exact rfl

theorem live_allowed (sound : constants.Sound) (methods : List Method) :
    Allowed (watch constants) (device.live constants methods) (fun _ account => account = .absent) device.account := by
  induction methods generalizing device with
  | nil =>
    obtain ⟨fd, addr, name⟩ := device
    cases fd with
    | none => exact rfl
    | some fd => exact fun _ => ⟨.absent, if_pos rfl, rfl⟩
  | cons method rest ih =>
    apply Allowed.bind (device.apply_allowed sound method)
    rintro after _ rfl
    exact ih after

/-- Whatever the kernel answers, and whatever is called in whatever order, a device follows the
protocol of its descriptors, and does not leave one open. -/
theorem lives_follow_the_protocol (sound : constants.Sound) (methods : List Method)
    (answer : List (Event Request Answer) → (request : Request) → Answer request) (fuel : Nat) :
    let run := Dialogue.execute answer fuel ((initial constants).live constants methods) []
    ∃ last, Monitor.run (watch constants) .absent run.1 = some last ∧ (run.2.isSome = true → last = .absent) := by
  obtain ⟨last, watched, done⟩ := ((initial constants).live_allowed sound methods).run answer fuel (Monitor.run_nil _)
  exact ⟨last, watched, fun finished => done (Option.get _ finished) (Option.get_mem finished)⟩

def floorBoundary : List Char → Nat → Nat
  | [], _ => 0
  | char :: rest, bound => if char.utf8Size ≤ bound then char.utf8Size + floorBoundary rest (bound - char.utf8Size) else 0

/-- Each key under its operation, and the sizes of the kernel. -/
def buttons : Constants where
  maxNameSize := 80
  suffix := " (AVRCP)"
  suffixSize := 8
  keyMap := [200, 166, 201, 163, 165, 168, 208]
  uinputKey key := [((0x44 : UInt8), (200 : UInt16)), (0x45, 166), (0x46, 201), (0x4b, 163), (0x4c, 165), (0x48, 168),
    (0x49, 208)].lookup key
  floorCharBoundary name := floorBoundary name.toList

theorem floorBoundary_whole (chars : List Char) (bound : Nat) :
    ∃ head, head <+: chars ∧ (utf8 head).length = floorBoundary chars bound ∧ (utf8 head).length ≤ bound := by
  induction chars generalizing bound with
  | nil => exact ⟨[], List.nil_prefix, rfl, Nat.zero_le bound⟩
  | cons char rest ih =>
    unfold floorBoundary
    split
    next fits =>
      obtain ⟨head, first, length, short⟩ := ih (bound - char.utf8Size)
      have size : (utf8 (char :: head)).length = char.utf8Size + (utf8 head).length := by
        rw [utf8, List.flatMap_cons, List.length_append, String.length_utf8EncodeChar]
        rfl
      exact ⟨char :: head, List.cons_prefix_cons.mpr ⟨rfl, first⟩, by omega, by omega⟩
    · exact ⟨[], List.nil_prefix, rfl, Nat.zero_le bound⟩

theorem buttons_sound : buttons.Sound where
  suffix := by decide +kernel
  fits := by decide
  floor name := floorBoundary_whole name.toList

/-- The first path is missing, and the first record is interrupted. -/
def granting (history : List (Event Request Answer)) : (request : Request) → Answer request
  | .opens path => if path = "/dev/uinput" then .error ⟨.notFound, "No such file or directory"⟩ else .ok 7
  | .ioctl _ _ => .ok ()
  | .write _ _ => if history.length = 14 then .failed ⟨.interrupted, "Interrupted system call"⟩ else .whole
  | .close _ => ()

/-- A button that is pressed and let go. -/
theorem lives_follow_the_protocol_pressed :
    let run := Dialogue.execute granting 40 ((initial buttons).live buttons
      [.init "WH-1000XM4" "80:99:E7:59:66:9E", .sendKey 0x44 1, .sendKey 0x44 0, .close]) []
    Monitor.run (watch buttons) .absent run.1 = some .absent ∧ run.2.isSome = true ∧
      run.1.filterMap (fun event => match event.1 with | .write fd (.event type code value) => some (fd, type, code, value) | _ => none) =
        [(7, .key, 200, 1), (7, .syn, 0, 0), (7, .key, 200, 0), (7, .syn, 0, 0)] ∧
      (run.1.map Sigma.fst).count (.write 7 (.device (deviceName buttons "WH-1000XM4"))) = 2 := by
  intro run
  obtain ⟨last, watched, absent⟩ := lives_follow_the_protocol buttons_sound
    [.init "WH-1000XM4" "80:99:E7:59:66:9E", .sendKey 0x44 1, .sendKey 0x44 0, .close] granting 40
  have finished : run.2.isSome = true := by decide +kernel
  rw [absent finished] at watched
  exact ⟨watched, finished, by decide +kernel, by decide +kernel⟩

end UInputDev
end FlossDesktop.Uinput
