import FlossDesktop.Proofs.ProfileRuns

/-! When HFP is acquired. A tick starts the HFP transport for one of a few causes, and
none of them is left once the transport turned out to be of no use. -/

namespace FlossDesktop.Profiles.Bridge

variable {b : Bridge}

/-- Somebody records: an active link leads from the microphone's node to a running node
that is neither a monitor nor passive. -/
def Recorded (b : Bridge) : Prop :=
  ∃ source ∈ b.capture, source ≠ spaIdInvalid ∧ ∃ link ∈ b.graphObjects, ∃ node ∈ b.graphObjects,
    link.node = false ∧ link.running = true ∧ link.output = source ∧
    node.node = true ∧ node.id = link.input ∧ node.running = true ∧ node.monitor = false ∧ node.passive = false

theorem captureRequested_iff (b : Bridge) : b.captureRequested = true ↔ b.registry = true ∧ b.Recorded := by
  unfold captureRequested Recorded
  cases b.capture with
  | none => simp
  | some source =>
    simp only [Bool.and_eq_true, bne_iff_ne, List.any_eq_true, Bool.not_eq_true', beq_iff_eq, Option.mem_some_iff,
      exists_eq_left']
    constructor
    · rintro ⟨⟨registry, valid⟩, link, linked, ⟨⟨isLink, active⟩, output⟩, node, present, known⟩
      obtain ⟨⟨⟨⟨isNode, input⟩, running⟩, monitor⟩, passive⟩ := known
      exact ⟨registry, valid, link, linked, node, present, isLink, active, output, isNode, input, running, monitor, passive⟩
    · rintro ⟨registry, valid, link, linked, node, present, isLink, active, output, isNode, input, running, monitor, passive⟩
      exact ⟨⟨registry, valid⟩, link, linked, ⟨⟨isLink, active⟩, output⟩, node, present,
        ⟨⟨⟨isNode, input⟩, running⟩, monitor⟩, passive⟩

/-- The last tick that saw the demand end is less than two seconds ago. -/
def lingering (b : Bridge) (x : Tick) : Prop := x.now - (b.observe b.captureRequested x.now).captureIdleMs < 2000

/-- The daemon does not take the codec of the requested profile, after the old transport
has been stopped. -/
def codecRefused (b : Bridge) (x : Tick) : Prop :=
  ({ ((b.observe b.captureRequested x.now).rediscover x).1 with transitioning := true }.stopTransport.requestCodec
    b.requestedProfile x.codec x.codecRetries).2 = false

/-- Why a tick may start the HFP transport. -/
inductive Cause (b : Bridge) (x : Tick) : Prop where
  | voiceOnly (missing : b.a2dpAvailable = false)
  | handsfree (requested : b.requestedProfile = 3)
  | recording (automatic : b.requestedProfile = 0) (recorded : b.Recorded) (due : b.hfpRetryDeadline ≤ x.now)
  | lingers (voice : b.hfp = true) (automatic : b.requestedProfile = 0) (recently : b.lingering x)
  | restored (voice : b.hfp = true) (request : b.requestedProfile ≠ b.selectedProfile) (refused : b.codecRefused x)

/-- What a tick wants. -/
def wants (b : Bridge) (x : Tick) : Bool := (b.observe b.captureRequested x.now).wantedHfp b.captureRequested x.now

theorem wants_cause (x : Tick) (wanted : b.wants x = true) : Cause b x := by
  unfold wants wantedHfp at wanted
  dsimp only at wanted
  split at wanted
  · cases wanted
  · split at wanted
    · exact .handsfree (beq_iff_eq.mp wanted)
    next automatic =>
      have automatic : b.requestedProfile = 0 := not_not.mp automatic
      simp only [Bool.or_eq_true, Bool.not_eq_true', Bool.and_eq_true, decide_eq_true_eq] at wanted
      rcases wanted with (missing | ⟨demand, due⟩) | ⟨voice, recently⟩
      · exact .voiceOnly missing
      · exact .recording automatic ((captureRequested_iff b).mp demand).2 due
      · exact .lingers voice automatic recently

/-- A fixed music profile wants music. -/
theorem wants_music (x : Tick) (fixed : b.requestedProfile ≠ 0) (music : b.requestedProfile ≠ 3) : b.wants x = false := by
  unfold wants wantedHfp
  dsimp only
  split
  · rfl
  · rw [if_pos (show (b.observe b.captureRequested x.now).requestedProfile ≠ 0 from fixed)]
    exact beq_false_of_ne music

theorem wants_unavailable (x : Tick) (unavailable : b.hfpTransportUnavailable = true)
    (available : b.a2dpAvailable = true) : b.wants x = false := by
  unfold wants wantedHfp
  dsimp only
  rw [if_pos]
  have same : (b.observe b.captureRequested x.now).hfpTransportUnavailable = true ∧
      (b.observe b.captureRequested x.now).a2dpAvailable = true := ⟨unavailable, available⟩
  rw [same.1, same.2]
  rfl

/-- How a tick treats the HFP transport: it starts the one that is wanted, or the one
there was. -/
structure TickStarts (b : Bridge) (x : Tick) (after : Bridge) : Prop where
  started : b.hfpStarts < after.hfpStarts → b.wants x = true ∨
    (b.hfp = true ∧ b.requestedProfile ≠ b.selectedProfile ∧ b.codecRefused x)
  counted : b.hfpStarts ≤ after.hfpStarts
  music : b.hfp = false → b.wants x = false → after.hfp = false
  unavailable : b.hfpTransportUnavailable = true → after.hfpTransportUnavailable = true
  found : b.hfpTransportUnavailable = false → after.hfpTransportUnavailable = true → after.hfp = false

theorem automaticTick_starts (sound : Sound b) (x : Tick) : TickStarts b x (b.automaticTick x) := by
  obtain ⟨deadline, codecs, address, a2dp, named, ticked⟩ := automaticTick_cases x sound.known sound.idle
  cases ticked with
  | lost leasing quits =>
    have lost := leasing sound.logged
    have starts : (b.automaticTick x).hfpStarts = b.hfpStarts := lost.starts
    have hfp : (b.automaticTick x).hfp = b.hfp := field_eq Bridge.hfp lost.core rfl rfl
    have unavailable : (b.automaticTick x).hfpTransportUnavailable = b.hfpTransportUnavailable := lost.unavailable
    refine ⟨fun more => absurd more (by omega), starts.ge, fun music _ => hfp.trans music, unavailable.trans, ?_⟩
    intro useful found
    rw [unavailable, useful] at found
    cases found
  | kept wanted profile same =>
    rw [same]
    refine ⟨fun more => absurd more (lt_irrefl _), le_refl _, fun music _ => music, fun set => set, ?_⟩
    intro useful found
    exact absurd (useful.symm.trans found) nofun
  | switched looked due moved =>
    have logged : Logged (b.seen x.now deadline codecs address a2dp) := sound.logged
    have switched := switch_switched (b.wants x) x logged sound.automatic
    rw [moved]
    obtain ⟨hfp, starts, target, outcome⟩ := switched.target
    have count : ((b.seen x.now deadline codecs address a2dp).switch (b.wants x) x).hfpStarts =
        b.hfpStarts + if hfp then 1 else 0 := starts
    refine ⟨?_, ?_, ?_, switched.unavailable, ?_⟩
    · intro more
      have voice : hfp = true := by
        by_contra music
        rw [if_neg music] at count
        exact absurd (more.trans_eq count) (lt_irrefl _)
      rcases target with wanted | ⟨same, request, refused⟩
      · exact .inl (wanted.symm.trans voice)
      · refine .inr ⟨same.symm.trans voice, request, ?_⟩
        unfold codecRefused
        rw [looked]
        exact refused
    · exact le_of_le_of_eq (Nat.le_add_right _ _) count.symm
    · intro music wanted
      have stays : hfp = false := by
        rcases target with same | ⟨same, _⟩
        · exact same.trans wanted
        · exact same.trans music
      rcases outcome with ⟨same, _⟩ | ⟨same, _⟩
      · exact same.trans stays
      · exact same
    · intro useful found
      rcases outcome with ⟨_, _, unavailable⟩ | ⟨same, _⟩
      · have still : Bridge.hfpTransportUnavailable _ = false := unavailable.trans useful
        exact absurd (still.symm.trans found) nofun
      · exact same

theorem step_starts (sound : Sound b) (x : Tick) : TickStarts b x (b.step (.tick x)) := by
  rw [step_tick]
  split
  · exact automaticTick_starts sound x
  · refine ⟨fun more => absurd more (lt_irrefl _), le_refl _, fun music _ => music, fun set => set, ?_⟩
    intro useful found
    exact absurd (useful.symm.trans found) nofun

theorem step_cause (sound : Sound b) (x : Tick) (started : b.hfpStarts < (b.step (.tick x)).hfpStarts) : Cause b x := by
  rcases (step_starts sound x).started started with wanted | ⟨voice, request, refused⟩
  · exact wants_cause x wanted
  · exact .restored voice request refused

/-- On music, a tick that wants music starts no HFP. -/
theorem step_music (sound : Sound b) (x : Tick) (music : b.hfp = false) (wanted : b.wants x = false) :
    (b.step (.tick x)).hfpStarts = b.hfpStarts := by
  have starts := step_starts sound x
  apply Nat.le_antisymm _ starts.counted
  by_contra more
  rcases starts.started (not_le.mp more) with wants | ⟨voice, _⟩
  · exact absurd (wanted.symm.trans wants) nofun
  · exact absurd (music.symm.trans voice) nofun

/-- The HFP transport turned out to be of no use, and music plays. -/
structure Suppressed (b : Bridge) : Prop where
  unavailable : b.hfpTransportUnavailable = true
  music : b.hfp = false

/-- Only a tick that begins without A2DP ends the suppression. -/
theorem step_suppressed (sound : Sound b) (suppressed : Suppressed b) (event : Event)
    (available : ∀ x, event = .tick x → b.a2dpAvailable = true) :
    Suppressed (b.step event) ∧ (b.step event).hfpStarts = b.hfpStarts := by
  cases quiet : event.quiet with
  | true =>
    obtain ⟨graphObjects, capture, requestedProfile, same, _⟩ := step_quiet b quiet
    rw [same]
    exact ⟨⟨suppressed.unavailable, suppressed.music⟩, rfl⟩
  | false =>
    cases event with
    | failure reason =>
      have talk := fail_talk b reason
      exact ⟨⟨talk.unavailable.trans suppressed.unavailable, (core_field Bridge.hfp talk.core).trans suppressed.music⟩,
        talk.starts⟩
    | tick x =>
      have wanted := wants_unavailable x suppressed.unavailable (available x rfl)
      have starts := step_starts sound x
      exact ⟨⟨starts.unavailable suppressed.unavailable, starts.music suppressed.music wanted⟩,
        step_music sound x suppressed.music wanted⟩
    | _ => cases quiet

/-- Every tick of a run begins while the device has A2DP. -/
def AlwaysA2dp (b : Bridge) (events : List Event) : Prop :=
  ∀ before x, before ++ [.tick x] <+: events → (b.run before).a2dpAvailable = true

theorem run_suppressed (sound : Sound b) (suppressed : Suppressed b) (events : List Event)
    (available : b.AlwaysA2dp events) : (b.run events).hfpStarts = b.hfpStarts := by
  induction events generalizing b with
  | nil => rfl
  | cons event rest ih =>
    have kept := step_suppressed sound suppressed event (by
      intro x tick
      rw [tick] at available
      exact available [] x (List.prefix_append [Event.tick x] rest))
    have later : (b.step event).AlwaysA2dp rest := by
      intro before x inside
      exact available (event :: before) x ((List.prefix_cons_inj event).mpr inside)
    exact (ih (step_sound sound event) kept.1 later).trans kept.2

/-- A tick starts HFP only for a cause, never from music with a fixed music profile, and
after a start that brought no microphone PCM not as long as the device has A2DP. -/
theorem hfp_started_for_cause (start : Startup) (enters : (startup start).2 = true) (events : List Event) (x : Tick) :
    let b := (startup start).1.run events
    let after := b.step (.tick x)
    (b.hfpStarts < after.hfpStarts → Cause b x) ∧
      (b.hfp = false → b.requestedProfile ≠ 0 → b.requestedProfile ≠ 3 → after.hfpStarts = b.hfpStarts) ∧
      (b.hfpTransportUnavailable = false → after.hfpTransportUnavailable = true →
        ∀ later, after.AlwaysA2dp later → (after.run later).hfpStarts = after.hfpStarts) := by
  intro b after
  have sound : Sound b := run_sound (startup_launched start enters).toSound events
  refine ⟨step_cause sound x, ?_, ?_⟩
  · intro music fixed handsfree
    exact step_music sound x music (wants_music x fixed handsfree)
  · intro useful found later available
    have suppressed : Suppressed after := ⟨found, (step_starts sound x).found useful found⟩
    exact run_suppressed (step_sound sound _) suppressed later available

/-- Somebody records, HFP brings no PCM, and is not tried again while there is music. -/
theorem recorder_without_pcm :
    let b := (startup (sampleStart [])).1.run sampleRecording
    let x := sampleTick 1000 true (sampleVoice (some 4) false)
    Cause b x ∧ ∀ later, (b.step (.tick x)).AlwaysA2dp later → ((b.step (.tick x)).run later).hfpStarts = 1 := by
  intro b x
  have enters : (startup (sampleStart [])).2 = true := by decide +kernel
  obtain ⟨cause, _, suppressed⟩ := hfp_started_for_cause (sampleStart []) enters sampleRecording x
  have once : (b.step (.tick x)).hfpStarts = 1 := by decide +kernel
  refine ⟨cause (by decide +kernel), fun later available => ?_⟩
  exact (suppressed (by decide +kernel) (by decide +kernel) later available).trans once

/-- The device loses A2DP, and the bridge tries HFP once more. -/
theorem tried_again_without_a2dp :
    ¬ ∀ start : Startup, (startup start).2 = true → ∀ events x,
      let b := (startup start).1.run events
      let after := b.step (.tick x)
      b.hfpTransportUnavailable = false → after.hfpTransportUnavailable = true →
        ∀ later, (after.run later).hfpStarts = after.hfpStarts := by
  intro never
  have again := never (sampleStart []) (by decide +kernel) sampleRecording (sampleTick 1000 true (sampleVoice (some 4) false))
    (by decide +kernel) (by decide +kernel)
    [.tick (sampleTick 2000 false (sampleVoice none true)), .tick (sampleTick 2020 false (sampleVoice (some 5) true))]
  revert again
  decide +kernel

end FlossDesktop.Profiles.Bridge
