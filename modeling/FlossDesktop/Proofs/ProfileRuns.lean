import FlossDesktop.Proofs.ProfileTransitions

/-! What holds of the bridge between the events of its main loop, from the start on. -/

namespace FlossDesktop.Profiles.Bridge

variable {b : Bridge}

/-- The bridge runs, no transition is under way, and the lease is kept. -/
structure Sound (b : Bridge) : Prop where
  known : b.address ≠ ""
  automatic : b.automatic = true
  main : b.main = true
  idle : b.transitioning = false
  logged : Logged b

theorem Sound.core_eq {after : Bridge} (sound : Sound b) (same : after.core = b.core) (logged : Logged after) :
    Sound after where
  known := by
    have address : after.address = b.address := field_eq Bridge.address same rfl rfl
    rw [address]
    exact sound.known
  automatic := (field_eq Bridge.automatic same rfl rfl).trans sound.automatic
  main := (field_eq Bridge.main same rfl rfl).trans sound.main
  idle := (field_eq Bridge.transitioning same rfl rfl).trans sound.idle
  logged := logged

theorem automaticTick_sound (sound : Sound b) (x : Tick) : Sound (b.automaticTick x) := by
  obtain ⟨deadline, codecs, address, a2dp, named, ticked⟩ := automaticTick_cases x sound.known sound.idle
  have seeing : Sound (b.seen x.now deadline codecs address a2dp) :=
    ⟨named, sound.automatic, sound.main, sound.idle, sound.logged⟩
  cases ticked with
  | lost leasing quits =>
    have lost := leasing sound.logged
    exact seeing.core_eq lost.core lost.logged
  | kept wanted profile same =>
    rw [same]
    exact seeing
  | switched looked due moved =>
    rw [moved]
    have switched := switch_switched ((b.observe b.captureRequested x.now).wantedHfp b.captureRequested x.now) x
      seeing.logged seeing.automatic
    obtain ⟨main, automatic, address, _⟩ := switched.identity
    exact ⟨address ▸ named, automatic.trans sound.automatic, main.trans sound.main, switched.transitioning,
      switched.logged⟩

/-- The desktop's choice sets nothing but the requested profile. -/
theorem profileSet_eq (b : Bridge) (profile : Option Int) :
    ∃ requestedProfile, b.profileSet profile = { b with requestedProfile } := by
  unfold profileSet
  split
  · split
    · exact ⟨_, rfl⟩
    · exact ⟨b.requestedProfile, rfl⟩
  · exact ⟨b.requestedProfile, rfl⟩

/-- What the graph says changes nothing but the bridge's picture of it. -/
theorem captureGlobal_eq (b : Bridge) (id : Nat) (type : Interface) (bound : Bool) :
    ∃ graphObjects, b.captureGlobal id type bound = { b with graphObjects } := by
  unfold captureGlobal
  split
  · exact ⟨b.graphObjects, rfl⟩
  · exact ⟨_, rfl⟩

/-- An event other than a tick or a failure. -/
def Event.quiet : Event → Bool
  | .failure _ => false
  | .tick _ => false
  | _ => true

/-- Such an event touches the graph, the id of the microphone's node and the requested
profile, and nothing else. -/
theorem step_quiet (b : Bridge) {event : Event} (quiet : event.quiet = true) :
    ∃ graphObjects capture requestedProfile, b.step event = { b with graphObjects, capture, requestedProfile } ∧
      capture.isSome = b.capture.isSome := by
  cases event with
  | global id type bound =>
    obtain ⟨graphObjects, same⟩ := captureGlobal_eq b id type bound
    exact ⟨graphObjects, b.capture, b.requestedProfile, same, rfl⟩
  | nodeInfo index running props => exact ⟨_, b.capture, b.requestedProfile, rfl, rfl⟩
  | linkInfo index output input active => exact ⟨_, b.capture, b.requestedProfile, rfl, rfl⟩
  | removed id => exact ⟨_, b.capture, b.requestedProfile, rfl, rfl⟩
  | captureBound id => exact ⟨b.graphObjects, _, b.requestedProfile, rfl, Option.isSome_map ..⟩
  | profileSet profile =>
    obtain ⟨requested, same⟩ := profileSet_eq b profile
    exact ⟨b.graphObjects, b.capture, requested, same, rfl⟩
  | failure reason => cases quiet
  | tick x => cases quiet

theorem step_tick (b : Bridge) (x : Tick) :
    b.step (.tick x) = if b.automatic && !b.failed then b.automaticTick x else b := rfl

theorem step_sound (sound : Sound b) (event : Event) : Sound (b.step event) := by
  cases quiet : event.quiet with
  | true =>
    obtain ⟨graphObjects, capture, requestedProfile, same, _⟩ := step_quiet b quiet
    rw [same]
    exact ⟨sound.known, sound.automatic, sound.main, sound.idle, sound.logged⟩
  | false =>
    cases event with
    | failure reason => exact sound.core_eq (fail_talk b reason).core (sound.logged.fail reason)
    | tick x =>
      rw [step_tick]
      split
      · exact automaticTick_sound sound x
      · exact sound
    | _ => cases quiet

theorem run_append (b : Bridge) (first second : List Event) : b.run (first ++ second) = (b.run first).run second :=
  List.foldl_append

theorem run_cons (b : Bridge) (event : Event) (rest : List Event) : b.run (event :: rest) = (b.step event).run rest := rfl

/-- Whatever every event keeps holds along the whole run. -/
theorem run_keeps {invariant : Bridge → Prop} (kept : ∀ b event, invariant b → invariant (step b event))
    (events : List Event) (holds : invariant b) : invariant (b.run events) := by
  induction events generalizing b with
  | nil => exact holds
  | cons event rest ih => exact ih (kept b event holds)

theorem run_sound (sound : Sound b) (events : List Event) : Sound (b.run events) :=
  @run_keeps b Sound (fun _ event holds => step_sound holds event) events sound

/-- The bridge as it enters its main loop. Its microphone follows the profile that was
requested by then, while Automatic is still the one that is selected. -/
structure Launched (b : Bridge) : Prop extends Sound b where
  unfailed : b.failed = false
  session : b.session ≠ 0
  watched : ∃ fd, b.audioFd = some fd ∧ b.audioSource = some fd
  queueLimit : b.queueLimit = b.rate * b.channels * (b.bits / 8) / 10
  captureRate : b.captureRate = if b.hfp then b.rate else 16000
  selected : b.selectedProfile = 0
  microphone : b.capture.isSome = b.profileHasMicrophone b.requestedProfile
  useful : b.hfpTransportUnavailable = false
  unseen : b.captureDemand = false ∧ b.captureIdleMs = 0

theorem discoverDevice_first (reply : Option (List Device)) (found : (discoverDevice {} reply).2 = true) :
    ∃ codecs address microphone a2dp, address ≠ "" ∧
      (discoverDevice {} reply).1 = ({ codecs, address, microphone, a2dpAvailable := a2dp } : Bridge) := by
  unfold discoverDevice at found ⊢
  split at found
  · cases found
  next device here =>
    dsimp only at found ⊢
    split at found
    · cases found
    next fresh =>
      rw [if_neg fresh]
      have eligible : usable {} device = true := by
        obtain ⟨devices, _, member⟩ := Option.bind_eq_some_iff.mp here
        exact List.find?_some member
      refine ⟨device.codecs, device.address.getD "", device.hfp, device.a2dp, ?_, rfl⟩
      unfold usable at eligible
      cases named : device.address with
      | none => simp [named] at eligible
      | some address =>
        simp only [named, Option.any_some, Bool.and_eq_true] at eligible
        exact validAddress_ne eligible.2.1

theorem choices_eq (b : Bridge) (choices : List (Option Int)) :
    ∃ requestedProfile, choices.foldl profileSet b = { b with requestedProfile } := by
  induction choices generalizing b with
  | nil => exact ⟨b.requestedProfile, rfl⟩
  | cons choice rest ih =>
    obtain ⟨first, one⟩ := profileSet_eq b choice
    obtain ⟨last, same⟩ := ih { b with requestedProfile := first }
    exact ⟨last, by rw [List.foldl_cons, one, same]⟩

/-- The bridge with its first transport, before the nodes follow. -/
structure Prepared (b : Bridge) : Prop extends Sound b where
  session : b.session ≠ 0
  watched : ∃ fd, b.audioFd = some fd ∧ b.audioSource = some fd
  queueLimit : b.queueLimit = b.rate * b.channels * (b.bits / 8) / 10
  captureRate : b.captureRate = if b.hfp then b.rate else 16000
  selected : b.selectedProfile = 0
  useful : b.hfpTransportUnavailable = false
  unseen : b.captureDemand = false ∧ b.captureIdleMs = 0

theorem publishFirst_launched (x : Startup) (prepared : Prepared b) (ok : (b.publishFirst x).2 = true) :
    Launched (b.publishFirst x).1 := by
  obtain ⟨capture, demand, ready, idle, synced, follows, wanted⟩ :=
    syncCaptureProfile_cases b b.requestedProfile x.connection prepared.automatic
  unfold publishFirst at ok ⊢
  dsimp only at ok ⊢
  generalize b.syncCaptureProfile b.requestedProfile x.connection = sync at synced wanted ok ⊢
  split at ok
  · cases ok
  next published =>
    rw [if_neg published, synced] at *
    dsimp only at ok ⊢
    have microphone := wanted (by simpa using (not_or.mp published).1)
    have logged : Logged { b with
        capture, captureDemand := demand, captureFormatReady := ready, captureIdleMs := idle, registry := true } :=
      prepared.logged
    obtain ⟨failed, quitting, log, same, leasing⟩ := reported_eq x.reported logged
    have unfailed := ok
    rw [Bool.not_eq_true'] at unfailed
    refine ⟨⟨?_, ?_, ?_, ?_, leasing.logged⟩, unfailed, ?_, ?_, ?_, ?_, ?_, ?_, ?_, ?_⟩ <;> rw [same]
    · exact prepared.known
    · exact prepared.automatic
    · exact prepared.main
    · exact prepared.idle
    · exact prepared.session
    · exact prepared.watched
    · exact prepared.queueLimit
    · exact prepared.captureRate
    · exact prepared.selected
    · exact microphone
    · exact prepared.useful
    · rcases follows with ⟨demanded, since⟩ | ⟨_, cleared⟩
      · exact ⟨demanded.trans prepared.unseen.1, since.trans prepared.unseen.2⟩
      · exact cleared

theorem publishFirst_logged (x : Startup) (logged : Logged b) (automatic : b.automatic = true) :
    Logged (b.publishFirst x).1 := by
  obtain ⟨capture, demand, ready, idle, synced, _⟩ :=
    syncCaptureProfile_cases b b.requestedProfile x.connection automatic
  have followed : Logged { b with
      capture, captureDemand := demand, captureFormatReady := ready, captureIdleMs := idle } := logged
  unfold publishFirst
  dsimp only
  rw [synced]
  split
  · exact followed
  · have registered : Logged { b with
        capture, captureDemand := demand, captureFormatReady := ready, captureIdleMs := idle, registry := true } := logged
    obtain ⟨_, _, _, _, leasing⟩ := reported_eq x.reported registered
    exact leasing.logged

theorem enterLoop_launched (x : Startup) (logged : Logged b) (running : Running b true) (known : b.address ≠ "")
    (automatic : b.automatic = true) (idle : b.transitioning = false) (selected : b.selectedProfile = 0)
    (useful : b.hfpTransportUnavailable = false) (unseen : b.captureDemand = false ∧ b.captureIdleMs = 0)
    (ok : (b.enterLoop x).2 = true) : Launched (b.enterLoop x).1 := by
  unfold enterLoop at ok ⊢
  dsimp only at ok ⊢
  split at ok
  · cases ok
  next ready =>
    rw [if_neg ready]
    obtain ⟨fd, descriptor⟩ := Option.isSome_iff_exists.mp (running.descriptor rfl)
    apply publishFirst_launched x _ ok
    obtain ⟨requested, choices⟩ := choices_eq { b.reformat with main := true, audioSource := b.reformat.audioFd } x.choices
    rw [choices]
    exact ⟨⟨known, automatic, rfl, idle, logged⟩, running.session rfl, ⟨fd, descriptor, descriptor⟩, rfl, rfl, selected,
      useful, unseen⟩

theorem startup_launched (x : Startup) (ok : (startup x).2 = true) : Launched (startup x).1 := by
  unfold startup at ok ⊢
  dsimp only at ok ⊢
  split at ok
  next lost =>
    rw [lost] at ok
    cases ok
  next there =>
    rw [if_neg there]
    obtain ⟨codecs, address, microphone, a2dp, named, found⟩ := discoverDevice_first x.devices (by simpa using there)
    rw [found] at ok ⊢
    have start := startTransport_start (b := { codecs, address, microphone, a2dpAvailable := a2dp, hfp := !a2dp })
      x.hfpStart x.audioStart ⟨rfl, rfl⟩ rfl
    dsimp only at start ok ⊢
    generalize Bridge.startTransport { codecs, address, microphone, a2dpAvailable := a2dp, hfp := !a2dp }
      x.hfpStart x.audioStart = started at start ok ⊢
    split at ok
    next running =>
      rw [if_pos running]
      apply enterLoop_launched x start.logged (running ▸ start.running)
      · rw [(field_eq Bridge.address start.core rfl rfl : started.1.address = address)]
        exact named
      · exact field_eq Bridge.automatic start.core rfl rfl
      · exact field_eq Bridge.transitioning start.core rfl rfl
      · exact field_eq Bridge.selectedProfile start.core rfl rfl
      · exact start.useful (.inr running)
      · exact ⟨field_eq Bridge.captureDemand start.core rfl rfl, field_eq Bridge.captureIdleMs start.core rfl rfl⟩
      · exact ok
    next stopped => exact absurd ok stopped

/-- The log is in line also when the start fails. -/
theorem startup_logged (x : Startup) : Logged (startup x).1 := by
  have entering : ∀ b : Bridge, Logged b → b.automatic = true → Logged (b.enterLoop x).1 := by
    intro b logged automatic
    unfold enterLoop
    dsimp only
    split
    · exact logged
    · obtain ⟨requested, choices⟩ := choices_eq { b.reformat with main := true, audioSource := b.reformat.audioFd } x.choices
      rw [choices]
      exact publishFirst_logged x logged automatic
  unfold startup
  dsimp only
  have discovering : Logged (discoverDevice {} x.devices).1 := discoverDevice_logged ⟨rfl, rfl⟩ x.devices
  split
  · exact discovering
  next there =>
    obtain ⟨codecs, address, microphone, a2dp, named, found⟩ := discoverDevice_first x.devices (by simpa using there)
    rw [found]
    have start := startTransport_start (b := { codecs, address, microphone, a2dpAvailable := a2dp, hfp := !a2dp })
      x.hfpStart x.audioStart ⟨rfl, rfl⟩ rfl
    split
    · exact entering _ start.logged (field_eq Bridge.automatic start.core rfl rfl)
    · exact start.logged

/-! A headset with a microphone, and somebody who records from it. -/

def sampleHeadset (a2dp : Bool) : Option (List Device) := some [⟨some "AA:BB:CC:DD:EE:FF", a2dp, true, [⟨1, 1, 1⟩]⟩]

def sampleMusic (token : Nat) : AudioStart := ⟨{ first := ⟨some token, .none⟩ }, .connected 5 .same ⟨48000, 2, 16, by simp⟩⟩

/-- A voice transport, whose reservation the daemon answers with `token`. -/
def sampleVoice (token : Option Nat) (arrives : Bool) : HfpStart :=
  ⟨{ first := ⟨token, .none⟩ }, [.connected 6 .same ⟨16000, 1, 16, by simp⟩ .none arrives]⟩

def sampleStart (choices : List (Option Int)) : Startup :=
  { devices := sampleHeadset true, hfpStart := sampleVoice none true, audioStart := sampleMusic 1, choices }

def sampleTick (now : Int) (a2dp : Bool) (hfpStart : HfpStart) : Tick :=
  { now, devices := sampleHeadset a2dp, hfpStart, audioStart := sampleMusic 2, later := now, fallbackStart := sampleMusic 3 }

/-- Node 8 records from the microphone, node 7. -/
def sampleRecording : List Event :=
  [.captureBound 7, .global 8 .node true, .global 9 .link true, .nodeInfo 0 (some true) none, .linkInfo 1 7 8 (some true)]

end FlossDesktop.Profiles.Bridge
