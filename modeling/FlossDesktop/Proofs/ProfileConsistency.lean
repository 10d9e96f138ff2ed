import FlossDesktop.Proofs.RecordingKeepsHfp

/-! What a profile transition leaves behind. Every tick returns with the transition over,
and either quits or leaves a profile, a transport and a format that agree. The microphone
agrees too once a transition has gone through. The lease is never lost over a whole run. -/

namespace FlossDesktop.Profiles.Bridge

variable {b : Bridge}

/-- A legal log around one of its acts. -/
theorem lease_split {before after : List Act} {act : Act} {last : Nat} (legal : lease (before ++ act :: after) = some last) :
    ∃ held next, lease before = some held ∧ leaseStep held act = some next ∧ after.foldlM leaseStep next = some last := by
  rw [lease_append] at legal
  obtain ⟨held, first, rest⟩ := Option.bind_eq_some_iff.mp legal
  rw [List.foldlM_cons] at rest
  obtain ⟨next, step, last⟩ := Option.bind_eq_some_iff.mp rest
  exact ⟨held, next, first, step, last⟩

/-- A token that is held no more has been stopped. -/
theorem stopped_of_free {token : Nat} (real : token ≠ 0) (acts : List Act)
    (freed : acts.foldlM leaseStep token = some 0) : .stop token ∈ acts := by
  induction acts with
  | nil => exact absurd (Option.some.inj freed) real
  | cons act rest ih =>
    rw [List.foldlM_cons] at freed
    obtain ⟨next, step, last⟩ := Option.bind_eq_some_iff.mp freed
    have stays : next = token → .stop token ∈ act :: rest := fun same => List.mem_cons_of_mem act (ih (same ▸ last))
    cases act with
    | reserve hfp => exact absurd ((if_neg real).symm.trans step) nofun
    | reserved other => exact absurd ((if_neg real).symm.trans step) nofun
    | stop other =>
      by_cases same : token = other ∧ other ≠ 0
      · rw [same.1]
        exact List.mem_cons_self
      · exact absurd ((if_neg same).symm.trans step) nofun
    | _ => exact stays (Option.some.inj step).symm

/-- A token is stored while none is held, and is given back before the next reservation,
and before a return with the bus connected. -/
def Released (log : List Act) (connected : Bool) : Prop :=
  ∀ before token after, log = before ++ .reserved token :: after →
    lease before = some 0 ∧ (token ≠ 0 →
      (∀ middle hfp rest, after = middle ++ .reserve hfp :: rest → .stop token ∈ middle) ∧
      (connected = true → .stop token ∈ after))

theorem released_of_lease {log : List Act} {last : Nat} {connected : Bool} (legal : lease log = some last)
    (free : connected = true → last = 0) : Released log connected := by
  intro before token after split
  rw [split] at legal
  obtain ⟨held, next, first, step, rest⟩ := lease_split legal
  have taken : held = 0 ∧ next = token := by
    by_cases none : held = 0
    · exact ⟨none, (Option.some.inj ((if_pos none).symm.trans step)).symm⟩
    · exact absurd ((if_neg none).symm.trans step) nofun
  obtain ⟨none, same⟩ := taken
  rw [none] at first
  rw [same] at rest
  refine ⟨first, fun real => ⟨?_, ?_⟩⟩
  · intro middle hfp others inside
    apply stopped_of_free real
    rw [inside, List.foldlM_append] at rest
    obtain ⟨free, upTo, later⟩ := Option.bind_eq_some_iff.mp rest
    rw [List.foldlM_cons] at later
    obtain ⟨_, reserving, _⟩ := Option.bind_eq_some_iff.mp later
    by_cases zero : free = 0
    · rw [upTo, zero]
    · exact absurd ((if_neg zero).symm.trans reserving) nofun
  · intro here
    apply stopped_of_free real
    rw [rest, free here]

/-- A return with the bus connected gives the lease back. -/
theorem finish_lease (logged : Logged b) (connected : Bool) :
    ∃ last, lease (b.finish connected).log = some last ∧ (connected = true → last = 0) := by
  unfold finish
  split
  next held =>
    have stopping : leaseStep b.session (.stop b.session) = some 0 := if_pos ⟨rfl, held.1⟩
    exact ⟨0, logged.lease_note stopping, fun _ => rfl⟩
  next free =>
    refine ⟨b.session, logged.1, fun here => ?_⟩
    by_contra held
    exact free ⟨held, here⟩

theorem runBridge_released (start : Startup) (events : List Event) (connected : Bool) :
    Released (runBridge start events connected).log connected := by
  have logged : Logged (if (startup start).2 then (startup start).1.run events else (startup start).1) := by
    split
    next enters => exact (run_sound (startup_launched start enters).toSound events).logged
    · exact startup_logged start
  obtain ⟨last, legal, free⟩ := finish_lease logged connected
  exact released_of_lease legal free

/-- What holds between the events: a failure quits, and without one the transport runs. -/
structure Steady (b : Bridge) : Prop where
  quits : b.failed = true → b.quitting = true
  session : b.failed = false → b.session ≠ 0
  watched : b.failed = false → ∃ fd, b.audioFd = some fd ∧ b.audioSource = some fd
  queueLimit : b.failed = false → b.queueLimit = b.rate * b.channels * (b.bits / 8) / 10
  captureRate : b.failed = false → b.captureRate = if b.hfp then b.rate else 16000

theorem Launched.steady (launched : Launched b) : Steady b where
  quits failed := absurd (launched.unfailed.symm.trans failed) nofun
  session _ := launched.session
  watched _ := launched.watched
  queueLimit _ := launched.queueLimit
  captureRate _ := launched.captureRate

theorem steady_of_consistent (quits : b.failed = true → b.quitting = true) (agrees : b.failed = false → Consistent b) :
    Steady b where
  quits := quits
  session unfailed := (agrees unfailed).session
  watched unfailed := (agrees unfailed).watched
  queueLimit unfailed := (agrees unfailed).queueLimit
  captureRate unfailed := (agrees unfailed).captureRate

/-- A failure that quits leaves nothing else to hold. -/
theorem steady_of_failed (failed : b.failed = true) (quits : b.quitting = true) : Steady b :=
  steady_of_consistent (fun _ => quits) (fun unfailed => absurd (unfailed.symm.trans failed) nofun)

/-- The microphone's stream exists if and only if the selected profile has a microphone. -/
def Matched (b : Bridge) : Prop := b.capture.isSome = b.profileHasMicrophone b.selectedProfile

/-- The tick finds the microphone as it should be, or does not leave it as it is. -/
def Settled (b : Bridge) (x : Tick) : Prop :=
  b.Matched ∨ b.requestedProfile ≠ b.selectedProfile ∨ b.wants x ≠ b.hfp

/-- How a tick ends. -/
structure TickEnds (b : Bridge) (x : Tick) (after : Bridge) : Prop where
  steady : Steady after
  agrees : after.failed = false → (Consistent after ↔ Settled b x)

theorem automaticTick_ends (sound : Sound b) (steady : Steady b) (x : Tick) : TickEnds b x (b.automaticTick x) := by
  obtain ⟨deadline, codecs, address, a2dp, named, ticked⟩ := automaticTick_cases x sound.known sound.idle
  cases ticked with
  | lost leasing quits =>
    obtain ⟨failed, quitting⟩ := quits sound.main
    exact ⟨steady_of_failed failed quitting, fun unfailed => absurd (unfailed.symm.trans failed) nofun⟩
  | kept wanted profile same =>
    rw [same]
    refine ⟨⟨steady.quits, steady.session, steady.watched, steady.queueLimit, steady.captureRate⟩, fun unfailed => ?_⟩
    constructor
    · intro consistent
      exact .inl consistent.microphone
    · intro settled
      have matched : Matched b := by
        rcases settled with matched | request | due
        · exact matched
        · exact absurd profile request
        · exact absurd wanted due
      exact ⟨profile.symm, steady.session unfailed, steady.watched unfailed, steady.queueLimit unfailed,
        steady.captureRate unfailed, matched⟩
  | switched looked due moved =>
    have logged : Logged (b.seen x.now deadline codecs address a2dp) := sound.logged
    have switched := switch_switched (b.wants x) x logged sound.automatic
    rw [moved]
    refine ⟨steady_of_consistent (switched.quits sound.main) switched.agrees, fun unfailed => ?_⟩
    constructor
    · intro _
      by_cases request : b.requestedProfile = b.selectedProfile
      · exact .inr (.inr fun wanted => due ⟨wanted, request⟩)
      · exact .inr (.inl request)
    · exact fun _ => switched.agrees unfailed

theorem step_steady (sound : Sound b) (steady : Steady b) (event : Event) : Steady (b.step event) := by
  cases quiet : event.quiet with
  | true =>
    obtain ⟨graphObjects, capture, requestedProfile, same, _⟩ := step_quiet b quiet
    rw [same]
    exact ⟨steady.quits, steady.session, steady.watched, steady.queueLimit, steady.captureRate⟩
  | false =>
    cases event with
    | failure reason => exact steady_of_failed rfl (fail_quits reason sound.main sound.idle)
    | tick x =>
      rw [step_tick]
      split
      · exact (automaticTick_ends sound steady x).steady
      · exact steady
    | _ => cases quiet

theorem run_steady (sound : Sound b) (steady : Steady b) (events : List Event) : Steady (b.run events) := by
  have both := @run_keeps b (fun b => Sound b ∧ Steady b)
    (fun _ event holds => ⟨step_sound holds.1 event, step_steady holds.1 holds.2 event⟩) events ⟨sound, steady⟩
  exact both.2

/-- The microphone that matches its profile once always does. -/
theorem step_matched (sound : Sound b) (steady : Steady b) (matched : b.failed = false → Matched b) (event : Event) :
    (b.step event).failed = false → Matched (b.step event) := by
  intro unfailed
  have here := matched (step_unfailed unfailed)
  cases quiet : event.quiet with
  | true =>
    obtain ⟨graphObjects, capture, requestedProfile, same, there⟩ := step_quiet b quiet
    rw [same]
    exact there.trans here
  | false =>
    cases event with
    | failure reason => cases unfailed
    | tick x =>
      have ticks := step_ticks sound x (step_unfailed unfailed)
      rw [ticks] at unfailed ⊢
      exact (((automaticTick_ends sound steady x).agrees unfailed).mpr (.inl here)).microphone
    | _ => cases quiet

theorem run_matched (sound : Sound b) (steady : Steady b) (matched : b.failed = false → Matched b) (events : List Event) :
    (b.run events).failed = false → Matched (b.run events) := by
  have all := @run_keeps b (fun b => Sound b ∧ Steady b ∧ (b.failed = false → Matched b))
    (fun _ event holds => ⟨step_sound holds.1 event, step_steady holds.1 holds.2.1 event,
      step_matched holds.1 holds.2.1 holds.2.2 event⟩) events ⟨sound, steady, matched⟩
  exact all.2.2

/-- Every tick returns with the transition over, and quits if a failure is open. Without one
everything agrees if and only if the tick was settled. Every tick is settled if the profile
requested by the end of the start has a microphone as the Automatic one has. No lease is
ever lost. -/
theorem transitions_end_consistent (start : Startup) (events : List Event) (x : Tick) :
    let first := (startup start).1
    let b := first.run events
    let after := b.step (.tick x)
    ((startup start).2 = true → b.failed = false →
      after.transitioning = false ∧ (after.failed = true → after.quitting = true) ∧
        failureOpen after.log = after.failed ∧ (after.failed = false → (Consistent after ↔ Settled b x)) ∧
        (first.profileHasMicrophone first.requestedProfile = first.profileHasMicrophone 0 → Settled b x)) ∧
      ∀ connected, Released (runBridge start events connected).log connected := by
  intro first b after
  refine ⟨?_, runBridge_released start events⟩
  intro enters unfailed
  have launched : Launched first := startup_launched start enters
  have sound : Sound b := run_sound launched.toSound events
  have steady : Steady b := run_steady launched.toSound launched.steady events
  have later : Sound after := step_sound sound (.tick x)
  refine ⟨later.idle, (step_steady sound steady (.tick x)).quits, later.logged.2, ?_, ?_⟩
  · have ticks : after = b.automaticTick x := step_ticks sound x unfailed
    rw [ticks]
    exact (automaticTick_ends sound steady x).agrees
  · intro same
    have matched : Matched first := by
      unfold Matched
      rw [launched.microphone, same, launched.selected]
    exact .inl (run_matched launched.toSound launched.steady (fun _ => matched) events unfailed)

/-- A recording moves the bridge to HFP, with everything in agreement. -/
theorem recording_ends_consistent :
    let b := (startup (sampleStart [])).1.run sampleRecording
    let after := b.step (.tick (sampleTick 1000 true (sampleVoice (some 4) true)))
    after.hfp = true ∧ Consistent after ∧
      Released (runBridge (sampleStart []) sampleRecording true).log true := by
  intro b after
  have situation : (startup (sampleStart [])).2 = true ∧ b.failed = false ∧ after.failed = false ∧ after.hfp = true ∧
      (startup (sampleStart [])).1.requestedProfile = 0 := by
    decide +kernel
  obtain ⟨enters, unfailed, still, voice, automatic⟩ := situation
  have applied := transitions_end_consistent (sampleStart []) sampleRecording (sampleTick 1000 true (sampleVoice (some 4) true))
  obtain ⟨_, _, _, agrees, settled⟩ := applied.1 enters unfailed
  exact ⟨voice, (agrees still).mpr (settled (by rw [automatic])), applied.2 true⟩

/-- A music profile that is requested only while the bridge starts. It leaves the Automatic
profile without its microphone, and no tick notices. -/
theorem microphone_missing :
    ¬ ∀ start : Startup, (startup start).2 = true → ∀ events x,
      let b := (startup start).1.run events
      let after := b.step (.tick x)
      b.failed = false → after.failed = false → Consistent after := by
  intro consistent
  have agrees := consistent (sampleStart [some 1]) (by decide +kernel) [.profileSet (some 0)]
    (sampleTick 100 true (sampleVoice (some 4) true)) (by decide +kernel) (by decide +kernel)
  have microphone := agrees.microphone
  revert microphone
  decide +kernel

end FlossDesktop.Profiles.Bridge
