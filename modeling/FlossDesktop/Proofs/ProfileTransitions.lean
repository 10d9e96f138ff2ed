import FlossDesktop.Proofs.ProfileCases

/-! The steps of one timer tick: the device is looked up, a profile is chosen, a transport
is started or music is restored, and the nodes follow. -/

namespace FlossDesktop.Profiles.Bridge

variable {b after : Bridge}

theorem core_field {α : Type} (field : Bridge → α) (same : after.core = b.core) : field after.core = field b.core :=
  congrArg field same

/-- One field of two bridges that are equal. -/
theorem field_eq {α : Type} {first last : Bridge} (field : Bridge → α) (same : first = last) {left right : α}
    (before : field first = left) (now : field last = right) : left = right :=
  before.symm.trans ((congrArg field same).trans now)

/-- A failure quits the loop outside a transition. -/
theorem fail_quits (reason : String) (main : b.main = true) (idle : b.transitioning = false) :
    (b.fail reason).quitting = true := by
  unfold fail
  dsimp only
  split <;> simp [note, main, idle]

theorem fail_main (b : Bridge) (reason : String) :
    (b.fail reason).main = b.main ∧ (b.fail reason).transitioning = b.transitioning :=
  have same := (fail_talk b reason).core
  ⟨core_field main same, core_field transitioning same⟩

theorem fail_twice (first last : String) (main : b.main = true) (idle : b.transitioning = false) :
    ((b.fail first).fail last).quitting = true := by
  obtain ⟨still, quiet⟩ := fail_main b first
  exact fail_quits last (still.trans main) (quiet.trans idle)

/-- What a tick learns before it decides: the demand, and what the snapshot says about the
selected device. -/
def seen (b : Bridge) (now : Int) (deadline : Int) (codecs : List Codec) (address : String) (a2dp : Bool) : Bridge :=
  { b.observe b.captureRequested now with discoveryDeadline := deadline, codecs, address, a2dpAvailable := a2dp }

theorem validAddress_ne {address : String} (valid : validAddress address = true) : address ≠ "" := by
  intro empty
  rw [empty] at valid
  revert valid
  decide

/-- The snapshot is usable only with an address, and the microphone never changes. -/
theorem discoverDevice_cases (b : Bridge) (reply : Option (List Device)) (known : b.address ≠ "") :
    ((b.discoverDevice reply).2 = false ∧ ((b.discoverDevice reply).1 = b ∨ ∃ codecs,
        (b.discoverDevice reply).1 = { b with codecs }.fail "headset capabilities changed; refreshing nodes")) ∨
      ((b.discoverDevice reply).2 = true ∧ ∃ codecs address a2dp, address ≠ "" ∧
        (b.discoverDevice reply).1 = { b with codecs, address, a2dpAvailable := a2dp }) := by
  unfold discoverDevice
  split
  · exact .inl ⟨rfl, .inl rfl⟩
  next device found =>
    dsimp only
    split
    · exact .inl ⟨rfl, .inr ⟨device.codecs, rfl⟩⟩
    next same =>
      right
      have microphone : device.hfp = b.microphone := by
        by_contra different
        exact same ⟨known, different⟩
      have eligible : b.usable device = true := by
        obtain ⟨devices, _, member⟩ := Option.bind_eq_some_iff.mp found
        exact List.find?_some member
      refine ⟨rfl, device.codecs, device.address.getD "", device.a2dp, ?_, by rw [microphone]⟩
      unfold usable at eligible
      cases named : device.address with
      | none => simp [named] at eligible
      | some address =>
        simp only [named, Option.any_some, Bool.and_eq_true] at eligible
        exact validAddress_ne eligible.2.1

theorem discoverDevice_logged (logged : Logged b) (reply : Option (List Device)) : Logged (b.discoverDevice reply).1 := by
  unfold discoverDevice
  split
  · exact logged
  next device found =>
    dsimp only
    split
    · have read : Logged { b with codecs := device.codecs } := logged
      exact read.fail _
    · exact logged

/-- A tick either goes on with what it saw, or gives up and quits. -/
structure Looked (b seen : Bridge) (result : Bridge × Bool) : Prop where
  leasing : Logged b → Leasing seen result.1
  found : result.2 = true → result.1 = seen
  lost : result.2 = false → b.main = true → b.transitioning = false → result.1.failed = true ∧ result.1.quitting = true

theorem rediscover_looked (b : Bridge) (x : Tick) (known : b.address ≠ "") :
    ∃ deadline codecs address a2dp, address ≠ "" ∧
      Looked b { b with discoveryDeadline := deadline, codecs, address, a2dpAvailable := a2dp } (b.rediscover x) := by
  unfold rediscover
  split
  · exact ⟨b.discoveryDeadline, b.codecs, b.address, b.a2dpAvailable, known,
      fun logged => ⟨.refl _, logged⟩, fun _ => rfl, nofun⟩
  · dsimp only
    generalize due : { b with discoveryDeadline := x.now + 1000 } = current
    have here : current.address ≠ "" := by rw [← due]; exact known
    rcases discoverDevice_cases current x.devices here with ⟨missing, outcome⟩ | ⟨found, codecs, address, a2dp, named, same⟩
    · rw [if_pos missing]
      rcases outcome with same | ⟨codecs, same⟩
      · refine ⟨x.now + 1000, b.codecs, b.address, b.a2dpAvailable, known, ?_, nofun, ?_⟩
        · intro logged
          rw [same, ← due]
          have still : Logged { b with discoveryDeadline := x.now + 1000 } := logged
          exact still.still.fail _
        · intro _ main idle
          rw [same, ← due]
          exact ⟨rfl, fail_quits _ main idle⟩
      · refine ⟨x.now + 1000, codecs, b.address, b.a2dpAvailable, known, ?_, nofun, ?_⟩
        · intro logged
          rw [same, ← due]
          have still : Logged { b with discoveryDeadline := x.now + 1000, codecs } := logged
          exact (still.still.fail _).fail _
        · intro _ main idle
          rw [same, ← due]
          exact ⟨rfl, fail_twice _ _ main idle⟩
    · rw [if_neg (by rw [found]; exact nofun)]
      refine ⟨x.now + 1000, codecs, address, a2dp, named, ?_⟩
      have seen : current.discoverDevice x.devices =
          ({ b with discoveryDeadline := x.now + 1000, codecs, address, a2dpAvailable := a2dp }, true) := by
        rw [Prod.ext_iff]
        refine ⟨?_, found⟩
        rw [same, ← due]
      rw [seen]
      dsimp only
      split
      · exact ⟨fun logged => ⟨.refl _, logged⟩, fun _ => rfl, nofun⟩
      · refine ⟨?_, ?_, ?_⟩
        · intro logged
          have still : Logged { b with discoveryDeadline := x.now + 1000, codecs, address, a2dpAvailable := a2dp } := logged
          cases x.a2dpConfig with
          | same => exact still.still
          | changed => exact still.still.fail _
          | misread => exact (still.still.fail _).fail _
        · cases x.a2dpConfig with
          | same => exact fun _ => rfl
          | changed => exact nofun
          | misread => exact nofun
        · cases x.a2dpConfig with
          | same => exact nofun
          | changed => exact fun _ main idle => ⟨rfl, fail_quits _ main idle⟩
          | misread => exact fun _ main idle => ⟨rfl, fail_twice _ _ main idle⟩

/-- The three ways a tick goes. -/
inductive Ticked (b : Bridge) (x : Tick) (seen result : Bridge) : Prop where
  | lost (leasing : Logged b → Leasing seen result)
      (quits : b.main = true → result.failed = true ∧ result.quitting = true)
  | kept (wanted : (b.observe b.captureRequested x.now).wantedHfp b.captureRequested x.now = b.hfp)
      (profile : b.requestedProfile = b.selectedProfile) (same : result = seen)
  | switched (looked : ((b.observe b.captureRequested x.now).rediscover x).1 = seen)
      (due : ¬ ((b.observe b.captureRequested x.now).wantedHfp b.captureRequested x.now = b.hfp ∧
        b.requestedProfile = b.selectedProfile))
      (moved : result = seen.switch ((b.observe b.captureRequested x.now).wantedHfp b.captureRequested x.now) x)

theorem automaticTick_cases (x : Tick) (known : b.address ≠ "") (idle : b.transitioning = false) :
    ∃ deadline codecs address a2dp, address ≠ "" ∧
      Ticked b x (b.seen x.now deadline codecs address a2dp) (b.automaticTick x) := by
  obtain ⟨deadline, codecs, address, a2dp, named, looked⟩ :=
    rediscover_looked (b.observe b.captureRequested x.now) x known
  refine ⟨deadline, codecs, address, a2dp, named, ?_⟩
  unfold automaticTick
  dsimp only
  rw [if_neg (by rw [show (b.observe b.captureRequested x.now).transitioning = b.transitioning from rfl, idle]; exact nofun)]
  split
  next lost => exact .lost looked.leasing fun main => looked.lost lost main idle
  next found =>
    have there := looked.found (by simpa using found)
    rw [there]
    split
    next same => exact .kept same.1 same.2 rfl
    next due => exact .switched there due rfl

/-- The transport and the profile that a transition decides on, after the old transport has
been stopped. -/
structure Chosen (b : Bridge) (wanted : Bool) (x : Tick) (chosen : Bridge) : Prop where
  logged : Logged chosen
  free : chosen.session = 0
  starts : chosen.hfpStarts = b.hfpStarts
  fallbacks : chosen.fallbacks = b.fallbacks
  unavailable : chosen.hfpTransportUnavailable = b.hfpTransportUnavailable
  outcome : chosen.core = { b.core with hfp := wanted } ∨
    (b.requestedProfile ≠ b.selectedProfile ∧
      (b.requestCodec b.requestedProfile x.codec x.codecRetries).2 = false ∧
      chosen.core = { b.core with requestedProfile := b.selectedProfile })

theorem chooseProfile_chosen (wanted : Bool) (x : Tick) (logged : Logged b) (free : b.session = 0) :
    Chosen b wanted x (b.chooseProfile wanted x) := by
  unfold chooseProfile
  split
  · exact ⟨logged, free, rfl, rfl, rfl, .inl rfl⟩
  next request =>
    obtain ⟨asking, session⟩ := requestCodec_leasing b.requestedProfile x.codec x.codecRetries logged
    dsimp only
    split
    · refine ⟨asking.logged, session.trans free, asking.starts, asking.fallbacks, asking.unavailable, .inl ?_⟩
      exact congrArg (fun core : Bridge => { core with hfp := wanted }) asking.core
    next refused =>
      refine ⟨asking.logged, session.trans free, asking.starts, asking.fallbacks, asking.unavailable, .inr ?_⟩
      refine ⟨request, by simpa using refused, ?_⟩
      exact congrArg (fun core : Bridge => { core with requestedProfile := b.selectedProfile }) asking.core

/-- The bridge that falls back: music, in the Automatic profile. -/
def musical (b : Bridge) (later : Int) : Bridge :=
  { b.core with audioSource := none, hfp := false, hfpRetryDeadline := later + 10000, requestedProfile := 0 }

/-- What a transition has before the nodes follow. -/
structure Restarted (b : Bridge) (x : Tick) (result : Bridge × Bool) : Prop where
  starts : result.1.hfpStarts = b.hfpStarts + if b.hfp then 1 else 0
  unavailable : b.hfpTransportUnavailable = true → result.1.hfpTransportUnavailable = true
  logged : Logged result.1
  running : Running result.1 result.2
  outcome : (result.1.core = b.core ∧ result.1.fallbacks = b.fallbacks ∧
      result.1.hfpTransportUnavailable = b.hfpTransportUnavailable) ∨
    (result.1.core = b.musical x.later ∧ result.1.fallbacks = b.fallbacks + 1)

theorem note_fallback (b : Bridge) : (b.note .fallback).hfpStarts = b.hfpStarts ∧
    (b.note .fallback).fallbacks = b.fallbacks + 1 := by
  refine ⟨note_count b (by simp), ?_⟩
  unfold fallbacks note
  rw [List.count_append]
  rfl

theorem stopTransport_failed (b : Bridge) (failed : Bool) :
    stopTransport { b with failed } = { b.stopTransport with failed } := by
  unfold stopTransport
  dsimp only
  split <;> rfl

theorem fallBack_restarted (x : Tick) (logged : Logged b) :
    (b.fallBack x).1.core = b.musical x.later ∧ (b.fallBack x).1.hfpStarts = b.hfpStarts ∧
      (b.fallBack x).1.fallbacks = b.fallbacks + 1 ∧
      (b.fallBack x).1.hfpTransportUnavailable = b.hfpTransportUnavailable ∧ Logged (b.fallBack x).1 ∧
      Running (b.fallBack x).1 (b.fallBack x).2 := by
  obtain ⟨starts, fallbacks⟩ := note_fallback b
  obtain ⟨sameStarts, sameFallbacks⟩ := stopTransport_counts (b.note .fallback)
  have unavailable : (b.note .fallback).stopTransport.hfpTransportUnavailable = b.hfpTransportUnavailable :=
    stopTransport_unavailable (b.note .fallback)
  have core : (b.note .fallback).stopTransport.core = { b.core with audioSource := none } :=
    stopTransport_core (b.note .fallback)
  -- The fallback settles the failure, and the transport is stopped like any other.
  have settled : Logged { b.note .fallback with failed := false } := by
    refine ⟨logged.lease_note rfl, ?_⟩
    dsimp only [note]
    rw [failureOpen_append]
    rfl
  have stopped := stopTransport_logged settled
  rw [stopTransport_failed] at stopped
  unfold fallBack
  dsimp only
  generalize quiet : { (b.note .fallback).stopTransport with
    failed := false, hfp := false, hfpRetryDeadline := x.later + 10000, requestedProfile := 0 } = music
  have facts : music.core = b.musical x.later ∧ music.hfpStarts = b.hfpStarts ∧ music.fallbacks = b.fallbacks + 1 ∧
      music.hfpTransportUnavailable = b.hfpTransportUnavailable ∧ Logged music ∧ music.session = 0 := by
    rw [← quiet]
    refine ⟨?_, sameStarts.trans starts, sameFallbacks.trans fallbacks, unavailable, stopped, rfl⟩
    exact congrArg (fun core : Bridge => { core with
      hfp := false, hfpRetryDeadline := x.later + 10000, requestedProfile := 0 }) core
  obtain ⟨core, starts, fallbacks, unavailable, logged, free⟩ := facts
  split
  · have start := startAudio_start x.fallbackStart logged free
    exact ⟨start.core.trans core, start.starts.trans starts, start.fallbacks.trans fallbacks,
      (start.useful (.inl rfl)).trans unavailable, start.logged, start.running⟩
  · exact ⟨core, starts, fallbacks, unavailable, logged, .not _⟩

theorem restart_restarted (x : Tick) (logged : Logged b) (free : b.session = 0) : Restarted b x (b.restart x) := by
  have start := startTransport_start x.hfpStart x.audioStart logged free
  unfold restart
  dsimp only
  generalize b.startTransport x.hfpStart x.audioStart = started at start
  split
  next ok =>
    exact ⟨start.starts, start.unavailable, start.logged, start.running,
      .inl ⟨start.core, start.fallbacks, start.useful (.inr ok)⟩⟩
  · obtain ⟨core, starts, fallbacks, unavailable, logged, running⟩ := fallBack_restarted x start.logged
    refine ⟨starts.trans start.starts, fun set => unavailable.trans (start.unavailable set), logged, running, .inr ?_⟩
    have same : started.1.musical x.later = b.musical x.later :=
      congrArg (fun core : Bridge => { core with
        audioSource := none, hfp := false, hfpRetryDeadline := x.later + 10000, requestedProfile := 0 }) start.core
    exact ⟨core.trans same, fallbacks.trans (by rw [start.fallbacks])⟩

/-- The profile, the transport and the microphone's stream agree. -/
structure Consistent (b : Bridge) : Prop where
  profile : b.selectedProfile = b.requestedProfile
  session : b.session ≠ 0
  watched : ∃ fd, b.audioFd = some fd ∧ b.audioSource = some fd
  queueLimit : b.queueLimit = b.rate * b.channels * (b.bits / 8) / 10
  captureRate : b.captureRate = if b.hfp then b.rate else 16000
  microphone : b.capture.isSome = b.profileHasMicrophone b.selectedProfile

/-- What the end of a transition does not touch. What was seen of the microphone's
consumers is kept with its stream. -/
structure Kept (b after : Bridge) : Prop where
  logged : Logged after
  starts : after.hfpStarts = b.hfpStarts
  fallbacks : after.fallbacks = b.fallbacks
  unavailable : after.hfpTransportUnavailable = b.hfpTransportUnavailable
  hfp : after.hfp = b.hfp
  requested : after.requestedProfile = b.requestedProfile
  retry : after.hfpRetryDeadline = b.hfpRetryDeadline
  identity : after.main = b.main ∧ after.automatic = b.automatic ∧ after.address = b.address ∧ after.registry = b.registry
  demand : after.capture.isSome → after.captureDemand = b.captureDemand ∧ after.captureIdleMs = b.captureIdleMs

/-- How a transition ends: it quits, or everything agrees. -/
structure Ended (b after : Bridge) : Prop extends Kept b after where
  transitioning : after.transitioning = false
  quits : b.main = true → after.failed = true → after.quitting = true
  agrees : after.failed = false → Consistent after

/-- The microphone's stream follows the profile. What was seen of its consumers goes with
it, and only with it. -/
theorem syncCaptureProfile_cases (b : Bridge) (profile : Nat) (connection : Connection) (automatic : b.automatic = true) :
    ∃ capture demand ready idle, (b.syncCaptureProfile profile connection).1 =
        { b with capture, captureDemand := demand, captureFormatReady := ready, captureIdleMs := idle } ∧
      ((demand = b.captureDemand ∧ idle = b.captureIdleMs) ∨ (capture = none ∧ demand = false ∧ idle = 0)) ∧
      ((b.syncCaptureProfile profile connection).2 = true → capture.isSome = b.profileHasMicrophone profile) := by
  unfold syncCaptureProfile
  rw [if_pos automatic]
  cases wanted : b.profileHasMicrophone profile with
  | true =>
    dsimp only
    rw [if_pos rfl]
    split
    next there => exact ⟨b.capture, b.captureDemand, b.captureFormatReady, b.captureIdleMs, rfl, .inl ⟨rfl, rfl⟩,
        fun _ => there⟩
    · cases connection with
      | uncreated =>
        exact ⟨b.capture, b.captureDemand, b.captureFormatReady, b.captureIdleMs, rfl, .inl ⟨rfl, rfl⟩, nofun⟩
      | refused =>
        exact ⟨_, b.captureDemand, b.captureFormatReady, b.captureIdleMs, rfl, .inl ⟨rfl, rfl⟩, nofun⟩
      | connected =>
        exact ⟨_, b.captureDemand, b.captureFormatReady, b.captureIdleMs, rfl, .inl ⟨rfl, rfl⟩, fun _ => rfl⟩
  | false =>
    dsimp only
    rw [if_neg nofun]
    split
    · exact ⟨none, false, false, 0, rfl, .inr ⟨rfl, rfl, rfl⟩, fun _ => rfl⟩
    next absent =>
      exact ⟨b.capture, b.captureDemand, b.captureFormatReady, b.captureIdleMs, rfl, .inl ⟨rfl, rfl⟩,
        fun _ => by simpa using absent⟩

theorem fail_eq (b : Bridge) (reason : String) :
    ∃ quitting log, b.fail reason = { b with failed := true, quitting, log } := by
  unfold fail
  dsimp only
  split
  · exact ⟨_, b.log, rfl⟩
  · exact ⟨_, _, rfl⟩

/-- Reported failures change nothing else. -/
theorem reported_eq (reports : List String) (logged : Logged b) :
    ∃ failed quitting log, reports.foldl fail b = { b with failed, quitting, log } ∧
      Leasing b (reports.foldl fail b) := by
  induction reports generalizing b with
  | nil => exact ⟨b.failed, b.quitting, b.log, rfl, logged.still⟩
  | cons reason rest ih =>
    obtain ⟨quitting, log, once⟩ := fail_eq b reason
    obtain ⟨failed, quits, entries, same, leasing⟩ := ih (logged.fail reason)
    refine ⟨failed, quits, entries, ?_, (logged.still.fail reason).then leasing⟩
    rw [List.foldl_cons, same, once]

theorem Kept.talk {later : Bridge} (kept : Kept b after) (talk : Talk after later) (logged : Logged later) :
    Kept b later where
  logged := logged
  starts := talk.starts.trans kept.starts
  fallbacks := talk.fallbacks.trans kept.fallbacks
  unavailable := talk.unavailable.trans kept.unavailable
  hfp := (core_field Bridge.hfp talk.core).trans kept.hfp
  requested := (core_field requestedProfile talk.core).trans kept.requested
  retry := (core_field hfpRetryDeadline talk.core).trans kept.retry
  identity := ⟨(core_field main talk.core).trans kept.identity.1, (core_field automatic talk.core).trans kept.identity.2.1,
    (core_field Bridge.address talk.core).trans kept.identity.2.2.1,
    (core_field registry talk.core).trans kept.identity.2.2.2⟩
  demand there := by
    have before : after.capture.isSome := (congrArg Option.isSome (core_field capture talk.core)).symm.trans there
    obtain ⟨demand, idle⟩ := kept.demand before
    exact ⟨(core_field captureDemand talk.core).trans demand, (core_field captureIdleMs talk.core).trans idle⟩

/-- A transition that gives up quits, whatever it has done to the nodes. -/
theorem giveUp_ended (kept : Kept b after) (reason : String) : Ended b (after.giveUp reason) := by
  have idle : Kept b { after with transitioning := false } := { kept with }
  have talk := fail_talk { after with transitioning := false } reason
  unfold giveUp
  refine ⟨idle.talk talk (idle.logged.fail reason), core_field transitioning talk.core, ?_, nofun⟩
  intro main _
  exact fail_quits reason (kept.identity.1.trans main) rfl

theorem commit_ended (kept : Kept b after) (session : after.failed = false → after.session ≠ 0)
    (watched : ∃ fd, after.audioFd = some fd ∧ after.audioSource = some fd)
    (queueLimit : after.queueLimit = after.rate * after.channels * (after.bits / 8) / 10)
    (captureRate : after.captureRate = if after.hfp then after.rate else 16000)
    (microphone : after.capture.isSome = after.profileHasMicrophone after.requestedProfile) :
    Ended b after.commit := by
  have talk : Talk after (after.note (.profile after.requestedProfile)) := note_talk after (by simp)
  have noted := kept.talk talk (kept.logged.say rfl rfl)
  refine ⟨{ noted with }, rfl, ?_, ?_⟩
  · intro _ failed
    have failing : after.failed = true := failed
    have quitting : after.commit.quitting = (after.quitting || after.failed) := rfl
    rw [quitting, failing, Bool.or_true]
  · intro unfailed
    exact ⟨rfl, session unfailed, watched, queueLimit, captureRate, microphone⟩

theorem publish_ended (old : Bridge) (x : Tick) (logged : Logged b) (running : Running b true)
    (automatic : b.automatic = true) : Ended b (b.publish old x) := by
  obtain ⟨capture, demand, ready, idle, synced, follows, wanted⟩ :=
    syncCaptureProfile_cases b.reformat b.reformat.requestedProfile x.connection automatic
  unfold publish
  dsimp only
  generalize b.reformat.syncCaptureProfile b.reformat.requestedProfile x.connection = sync at synced wanted
  have followed : Kept b { b.reformat with
      capture, captureDemand := demand, captureFormatReady := ready, captureIdleMs := idle } := by
    refine ⟨logged, rfl, rfl, rfl, rfl, rfl, rfl, ⟨rfl, rfl, rfl, rfl⟩, fun there => ?_⟩
    rcases follows with seen | ⟨gone, _⟩
    · exact seen
    · exact absurd gone (Option.isSome_iff_ne_none.mp there)
  split
  · apply giveUp_ended
    rw [synced]
    exact followed
  next published =>
    have there := wanted (by simpa using published)
    rw [synced]
    dsimp only
    split
    · apply giveUp_ended
      exact { followed with }
    · split
      · apply giveUp_ended
        exact { followed with }
      · generalize watching : ({ b.reformat with
            capture, captureDemand := demand, captureIdleMs := idle, audioSource := b.reformat.audioFd
            playbackFormatReady := b.reformat.playbackFormatReady &&
              !(old.rate != b.reformat.rate || old.bits != b.reformat.bits)
            captureFormatReady := ready && !(old.captureRate != b.reformat.captureRate) } : Bridge) = watched
        have kept : Kept b watched := by
          rw [← watching]
          exact { followed with }
        obtain ⟨failed, quitting, log, same, leasing⟩ := reported_eq x.reported kept.logged
        obtain ⟨fd, descriptor⟩ := Option.isSome_iff_exists.mp (running.descriptor rfl)
        apply commit_ended (kept.talk leasing.toTalk leasing.logged)
        · intro _
          rw [same, ← watching]
          exact running.session rfl
        · refine ⟨fd, ?_, ?_⟩ <;> rw [same, ← watching] <;> exact descriptor
        · rw [same, ← watching]
          rfl
        · rw [same, ← watching]
          rfl
        · rw [same, ← watching]
          exact there

/-- What a whole transition does. -/
structure Switched (b : Bridge) (wanted : Bool) (x : Tick) (after : Bridge) : Prop where
  transitioning : after.transitioning = false
  logged : Logged after
  identity : after.main = b.main ∧ after.automatic = b.automatic ∧ after.address = b.address ∧ after.registry = b.registry
  quits : b.main = true → after.failed = true → after.quitting = true
  agrees : after.failed = false → Consistent after
  demand : after.capture.isSome → after.captureDemand = b.captureDemand ∧ after.captureIdleMs = b.captureIdleMs
  unavailable : b.hfpTransportUnavailable = true → after.hfpTransportUnavailable = true
  -- The transport that is started: the one that is wanted, or the one there was.
  target : ∃ hfp, after.hfpStarts = b.hfpStarts + (if hfp then 1 else 0) ∧
    (hfp = wanted ∨ (hfp = b.hfp ∧ b.requestedProfile ≠ b.selectedProfile ∧
      ({ b with transitioning := true }.stopTransport.requestCodec b.requestedProfile x.codec x.codecRetries).2 = false)) ∧
    ((after.hfp = hfp ∧ after.fallbacks = b.fallbacks ∧ after.hfpTransportUnavailable = b.hfpTransportUnavailable) ∨
      (after.hfp = false ∧ after.fallbacks = b.fallbacks + 1))

theorem switch_switched (wanted : Bool) (x : Tick) (logged : Logged b) (automatic : b.automatic = true) :
    Switched b wanted x (b.switch wanted x) := by
  have begun : Logged { b with transitioning := true } := logged
  have core : ({ b with transitioning := true }.stopTransport).core =
      { b.core with transitioning := true, audioSource := none } := stopTransport_core { b with transitioning := true }
  obtain ⟨starts, fallbacks⟩ := stopTransport_counts { b with transitioning := true }
  have unavailable : ({ b with transitioning := true }.stopTransport).hfpTransportUnavailable =
      b.hfpTransportUnavailable := stopTransport_unavailable { b with transitioning := true }
  have stopped := stopTransport_logged begun
  unfold switch
  dsimp only
  have chosen := chooseProfile_chosen wanted x stopped (stopTransport_free _)
  generalize choosing : ({ b with transitioning := true }.stopTransport).chooseProfile wanted x = choice at chosen
  have restarted := restart_restarted x chosen.logged chosen.free
  generalize choice.restart x = result at restarted
  -- Whatever was chosen and started, the rest of the bridge is as before.
  have rest : ∃ hfp requestedProfile hfpRetryDeadline, result.1.core =
      { b.core with transitioning := true, audioSource := none, hfp, requestedProfile, hfpRetryDeadline } := by
    have picked : ∃ hfp requestedProfile, choice.core =
        { b.core with transitioning := true, audioSource := none, hfp, requestedProfile } := by
      rcases chosen.outcome with same | ⟨_, _, same⟩
      · exact ⟨wanted, b.requestedProfile, by rw [same, core]; rfl⟩
      · exact ⟨b.hfp, ({ b with transitioning := true }.stopTransport).selectedProfile, by rw [same, core]; rfl⟩
    obtain ⟨hfp, requestedProfile, picked⟩ := picked
    rcases restarted.outcome with ⟨same, _⟩ | ⟨same, _⟩
    · exact ⟨hfp, requestedProfile, b.hfpRetryDeadline, by rw [same, picked]; rfl⟩
    · unfold musical at same
      exact ⟨false, 0, x.later + 10000, by rw [same, picked]⟩
  obtain ⟨hfp, requestedProfile, hfpRetryDeadline, rest⟩ := rest
  have automatic_ : result.1.automatic = true := (field_eq Bridge.automatic rest rfl rfl).trans automatic
  have ended : Ended result.1 (if result.2 then result.1.publish b x
      else result.1.giveUp "profile transition failed; waiting before retry") := by
    split
    next ok => exact publish_ended b x restarted.logged (ok ▸ restarted.running) automatic_
    · apply giveUp_ended
      exact ⟨restarted.logged, rfl, rfl, rfl, rfl, rfl, rfl, ⟨rfl, rfl, rfl, rfl⟩, fun _ => ⟨rfl, rfl⟩⟩
  have main_ : result.1.main = b.main := field_eq Bridge.main rest rfl rfl
  refine ⟨ended.transitioning, ended.logged, ?_, ?_, ended.agrees, ?_, ?_, choice.hfp, ?_, ?_, ?_⟩
  · obtain ⟨main, automatic, address, registry⟩ := ended.identity
    exact ⟨main.trans main_, automatic.trans (field_eq Bridge.automatic rest rfl rfl),
      address.trans (field_eq Bridge.address rest rfl rfl), registry.trans (field_eq Bridge.registry rest rfl rfl)⟩
  · exact fun main => ended.quits (main_.trans main)
  · intro there
    obtain ⟨demand, idle⟩ := ended.demand there
    exact ⟨demand.trans (field_eq Bridge.captureDemand rest rfl rfl), idle.trans (field_eq Bridge.captureIdleMs rest rfl rfl)⟩
  · intro set
    rw [ended.unavailable]
    exact restarted.unavailable (chosen.unavailable.trans (unavailable.trans set))
  · rw [ended.starts, restarted.starts, chosen.starts, starts]
    rfl
  · rcases chosen.outcome with same | ⟨request, refused, same⟩
    · exact .inl (field_eq Bridge.hfp same rfl rfl)
    · right
      have hfp : choice.hfp = b.hfp := (field_eq Bridge.hfp same rfl rfl).trans (field_eq Bridge.hfp core rfl rfl)
      have requested : ({ b with transitioning := true }.stopTransport).requestedProfile = b.requestedProfile :=
        field_eq Bridge.requestedProfile core rfl rfl
      have selected : ({ b with transitioning := true }.stopTransport).selectedProfile = b.selectedProfile :=
        field_eq Bridge.selectedProfile core rfl rfl
      rw [requested, selected] at request
      rw [requested] at refused
      exact ⟨hfp, request, refused⟩
  · have before : choice.fallbacks = b.fallbacks := chosen.fallbacks.trans fallbacks
    rcases restarted.outcome with ⟨same, count, useful⟩ | ⟨same, count⟩
    · left
      exact ⟨ended.hfp.trans (field_eq Bridge.hfp same rfl rfl), ended.fallbacks.trans (count.trans before),
        ended.unavailable.trans (useful.trans (chosen.unavailable.trans unavailable))⟩
    · right
      exact ⟨ended.hfp.trans (field_eq Bridge.hfp same rfl rfl), ended.fallbacks.trans (by rw [count, before])⟩

end FlossDesktop.Profiles.Bridge
