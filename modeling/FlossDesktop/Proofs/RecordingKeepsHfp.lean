import FlossDesktop.Proofs.HfpAcquisition

/-! Whether an active recording keeps HFP. In the Automatic profile a tick stays on HFP as
long as the bridge remembers the recording. The retry deadline of an earlier failure hides
a recording that goes on, and a fixed music profile forgets one with the microphone. -/

namespace FlossDesktop.Profiles.Bridge

variable {b : Bridge} {since : Int}

/-- What holds HFP in the Automatic profile: a recording that may be tried now, one that
ended after the last tick, or one that ended less than two seconds ago. -/
def Holding (b : Bridge) (x : Tick) : Prop :=
  (b.captureRequested = true ∧ b.hfpRetryDeadline ≤ x.now) ∨ (b.captureDemand = true ∧ b.captureRequested = false) ∨
    x.now - b.captureIdleMs < 2000

theorem wants_iff_holding (x : Tick) (voice : b.hfp = true) (automatic : b.requestedProfile = 0)
    (available : b.a2dpAvailable = true) (useful : b.hfpTransportUnavailable = false) :
    b.wants x = true ↔ Holding b x := by
  have wanted : b.wants x = ((b.captureRequested && decide (b.hfpRetryDeadline ≤ x.now)) ||
      decide (x.now - (if b.captureDemand && !b.captureRequested then x.now else b.captureIdleMs) < 2000)) := by
    simp [wants, wantedHfp, observe, voice, automatic, available, useful]
  rw [wanted]
  unfold Holding
  cases demand : b.captureRequested with
  | true => simp
  | false => cases before : b.captureDemand <;> simp

theorem step_failed (event : Event) (failed : b.failed = true) : (b.step event).failed = true := by
  cases quiet : event.quiet with
  | true =>
    obtain ⟨graphObjects, capture, requestedProfile, same, _⟩ := step_quiet b quiet
    rw [same]
    exact failed
  | false =>
    cases event with
    | failure reason => rfl
    | tick x =>
      rw [step_tick, failed, Bool.not_true, Bool.and_false, if_neg nofun]
      exact failed
    | _ => cases quiet

theorem step_unfailed {event : Event} (unfailed : (b.step event).failed = false) : b.failed = false := by
  by_contra failing
  exact absurd (unfailed.symm.trans (step_failed event (by simpa using failing))) nofun

theorem run_unfailed (events : List Event) (unfailed : (b.run events).failed = false) : b.failed = false := by
  by_contra failing
  have failed := @run_keeps b (·.failed = true) (fun _ event => step_failed event) events (by simpa using failing)
  exact absurd (unfailed.symm.trans failed) nofun

/-- A tick of a bridge that has not failed. -/
theorem step_ticks (sound : Sound b) (x : Tick) (unfailed : b.failed = false) : b.step (.tick x) = b.automaticTick x := by
  rw [step_tick, sound.automatic, unfailed]
  rfl

/-- The tick begins on HFP in the Automatic profile, with A2DP at hand and an HFP transport
that is of use, and no failure is reported. -/
def Undisturbed (b : Bridge) (x : Tick) : Prop :=
  b.hfp = true ∧ b.requestedProfile = 0 ∧ b.a2dpAvailable = true ∧ b.hfpTransportUnavailable = false ∧
    (b.step (.tick x)).failed = false ∧ (b.step (.tick x)).fallbacks = b.fallbacks

instance (b : Bridge) (x : Tick) : Decidable (Undisturbed b x) := inferInstanceAs (Decidable (_ ∧ _))

/-- A tick that nothing disturbs ends on the transport that it wants. -/
theorem step_hfp (sound : Sound b) (x : Tick) (still : Undisturbed b x) : (b.step (.tick x)).hfp = b.wants x := by
  obtain ⟨_, automatic, _, _, unfailed, undisturbed⟩ := still
  have ticks := step_ticks sound x (step_unfailed unfailed)
  rw [ticks] at unfailed undisturbed ⊢
  obtain ⟨deadline, codecs, address, a2dp, named, ticked⟩ := automaticTick_cases x sound.known sound.idle
  cases ticked with
  | lost leasing quits => exact absurd (unfailed.symm.trans (quits sound.main).1) nofun
  | kept wanted profile same =>
    rw [same]
    exact wanted.symm
  | switched looked due moved =>
    have logged : Logged (b.seen x.now deadline codecs address a2dp) := sound.logged
    have switched := switch_switched (b.wants x) x logged sound.automatic
    rw [moved] at undisturbed ⊢
    obtain ⟨hfp, _, target, outcome⟩ := switched.target
    have wanted : hfp = b.wants x := by
      rcases target with same | ⟨_, _, refused⟩
      · exact same
      · -- The Automatic profile asks for no codec.
        rw [show (b.seen x.now deadline codecs address a2dp).requestedProfile = 0 from automatic] at refused
        cases refused
    rcases outcome with ⟨same, _⟩ | ⟨_, fallback⟩
    · exact same.trans wanted
    · have one : (b.seen x.now deadline codecs address a2dp).fallbacks = b.fallbacks := rfl
      exact absurd (undisturbed.symm.trans fallback) (by rw [one]; omega)

/-- The bridge remembers a recording of that time: it saw it at its last tick, or noted its
end later. -/
def Remembers (since : Int) (b : Bridge) : Prop := b.captureDemand = true ∨ since ≤ b.captureIdleMs

theorem observe_remembers (now : Int) (seen : b.captureRequested = true ∨ Remembers since b) (clock : since ≤ now) :
    Remembers since (b.observe b.captureRequested now) := by
  unfold observe Remembers
  dsimp only
  cases demand : b.captureRequested with
  | true => exact .inl rfl
  | false =>
    right
    cases before : b.captureDemand with
    | true => exact clock
    | false =>
      rcases seen with requested | demanded | idle
      · exact absurd (demand.symm.trans requested) nofun
      · exact absurd (before.symm.trans demanded) nofun
      · exact idle

/-- What a tick saw is kept with the microphone's stream. -/
theorem automaticTick_observed (sound : Sound b) (x : Tick) (kept : (b.automaticTick x).capture.isSome) :
    (b.automaticTick x).captureDemand = (b.observe b.captureRequested x.now).captureDemand ∧
      (b.automaticTick x).captureIdleMs = (b.observe b.captureRequested x.now).captureIdleMs := by
  obtain ⟨deadline, codecs, address, a2dp, named, ticked⟩ := automaticTick_cases x sound.known sound.idle
  cases ticked with
  | lost leasing quits =>
    have core := (leasing sound.logged).core
    exact ⟨field_eq captureDemand core rfl rfl, field_eq captureIdleMs core rfl rfl⟩
  | kept wanted profile same =>
    rw [same]
    exact ⟨rfl, rfl⟩
  | switched looked due moved =>
    have logged : Logged (b.seen x.now deadline codecs address a2dp) := sound.logged
    rw [moved] at kept ⊢
    exact (switch_switched _ x logged sound.automatic).demand kept

theorem automaticTick_remembers (sound : Sound b) (x : Tick) (seen : b.captureRequested = true ∨ Remembers since b)
    (clock : since ≤ x.now) (kept : (b.automaticTick x).capture.isSome) : Remembers since (b.automaticTick x) := by
  obtain ⟨demand, idle⟩ := automaticTick_observed sound x kept
  unfold Remembers
  rw [demand, idle]
  exact observe_remembers x.now seen clock

theorem step_remembers (sound : Sound b) (remembers : Remembers since b) (event : Event)
    (clock : ∀ x, event = .tick x → since ≤ x.now) (kept : (b.step event).capture.isSome) :
    Remembers since (b.step event) := by
  cases quiet : event.quiet with
  | true =>
    obtain ⟨graphObjects, capture, requestedProfile, same, _⟩ := step_quiet b quiet
    rw [same]
    exact remembers
  | false =>
    cases event with
    | failure reason =>
      have core := (fail_talk b reason).core
      unfold Remembers
      rw [show (b.step (.failure reason)).captureDemand = b.captureDemand from core_field captureDemand core,
        show (b.step (.failure reason)).captureIdleMs = b.captureIdleMs from core_field captureIdleMs core]
      exact remembers
    | tick x =>
      rw [step_tick] at kept ⊢
      split at kept
      next runs =>
        rw [if_pos runs]
        exact automaticTick_remembers sound x (.inr remembers) (clock x rfl) kept
      next stopped =>
        rw [if_neg stopped]
        exact remembers
    | _ => cases quiet

/-- The microphone's stream is there all along. -/
def KeepsCapture (b : Bridge) (events : List Event) : Prop := ∀ before, before <+: events → (b.run before).capture.isSome

theorem KeepsCapture.rest {event : Event} {rest : List Event} (kept : b.KeepsCapture (event :: rest)) :
    (b.step event).KeepsCapture rest :=
  fun before inside => kept (event :: before) ((List.prefix_cons_inj event).mpr inside)

theorem run_remembers (sound : Sound b) (remembers : Remembers since b) (events : List Event)
    (clock : ∀ x, .tick x ∈ events → since ≤ x.now) (kept : b.KeepsCapture events) : Remembers since (b.run events) := by
  induction events generalizing b with
  | nil => exact remembers
  | cons event rest ih =>
    have here := step_remembers sound remembers event
      (fun x same => clock x (same ▸ List.mem_cons_self)) (kept.rest [] List.nil_prefix)
    exact ih (step_sound sound event) here (fun x inside => clock x (List.mem_cons_of_mem event inside)) kept.rest

theorem holding_of_remembers (x : Tick) (remembers : Remembers since b) (recent : x.now - since < 2000)
    (due : b.captureRequested = true → b.hfpRetryDeadline ≤ x.now) : Holding b x := by
  cases demand : b.captureRequested with
  | true => exact .inl ⟨demand, due demand⟩
  | false =>
    rcases remembers with demanded | idle
    · exact .inr (.inl ⟨demanded, demand⟩)
    · refine .inr (.inr ?_)
      omega

/-- In the Automatic profile a tick that nothing disturbs stays on HFP if and only if HFP is
held. It is held by a recording less than two seconds ago, if the microphone's stream has
been there since, unless a recording goes on before the retry deadline. -/
theorem hfp_kept_iff_held (start : Startup) (enters : (startup start).2 = true) (events : List Event) (x : Tick) :
    let first := (startup start).1
    let b := first.run events
    Undisturbed b x →
      ((b.step (.tick x)).hfp = true ↔ Holding b x) ∧
        ((b.captureRequested = true → b.hfpRetryDeadline ≤ x.now) →
          (b.captureRequested = true ∨ ∃ before y later, events = before ++ .tick y :: later ∧
            (first.run before).captureRequested = true ∧ x.now - y.now < 2000 ∧
            (∀ z, .tick z ∈ later → y.now ≤ z.now) ∧ ((first.run before).step (.tick y)).KeepsCapture later) →
          (b.step (.tick x)).hfp = true) := by
  intro first b still
  have ⟨voice, automatic, available, useful, unfailed, _⟩ := still
  have launched : Sound first := (startup_launched start enters).toSound
  have sound : Sound b := run_sound launched events
  have held : (b.step (.tick x)).hfp = true ↔ Holding b x := by
    rw [step_hfp sound x still]
    exact wants_iff_holding x voice automatic available useful
  refine ⟨held, ?_⟩
  intro due recorded
  apply held.mpr
  rcases recorded with now | ⟨before, y, later, split, demand, recent, clock, kept⟩
  · exact .inl ⟨now, due now⟩
  · have same : b = ((first.run before).step (.tick y)).run later := by
      rw [show b = first.run events from rfl, split, run_append, run_cons]
    have running : ((first.run before).step (.tick y)).failed = false :=
      run_unfailed later (same ▸ step_unfailed unfailed)
    have earlier : Sound (first.run before) := run_sound launched before
    have ticks := step_ticks earlier y (step_unfailed running)
    have remembers : Remembers y.now ((first.run before).step (.tick y)) := by
      rw [ticks]
      apply automaticTick_remembers earlier y (.inl demand) (le_refl _)
      rw [← ticks]
      exact kept [] List.nil_prefix
    apply holding_of_remembers x _ recent due
    rw [same]
    exact run_remembers (step_sound earlier _) remembers later clock kept

/-- A recording starts HFP at one second and ends. HFP is still there at two and a half. -/
theorem recording_lingers :
    let y := sampleTick 1000 true (sampleVoice (some 4) true)
    let events : List Event := sampleRecording ++ .tick y :: [.removed 9]
    let b := (startup (sampleStart [])).1.run events
    let x := sampleTick 2500 true (sampleVoice none true)
    b.captureRequested = false ∧ (b.step (.tick x)).hfp = true ∧ Holding b x := by
  intro y events b x
  have situation : (startup (sampleStart [])).2 = true ∧ Undisturbed b x ∧ b.captureRequested = false ∧
      ((startup (sampleStart [])).1.run sampleRecording).captureRequested = true ∧
      (((startup (sampleStart [])).1.run sampleRecording).step (.tick y)).capture.isSome ∧ b.capture.isSome := by
    decide +kernel
  obtain ⟨enters, still, ended, requested, there, kept⟩ := situation
  have applied := hfp_kept_iff_held (sampleStart []) enters events x still
  have lingers : (b.step (.tick x)).hfp = true := by
    apply applied.2
    · intro again
      exact absurd (ended.symm.trans again) nofun
    · have recent : (2500 : Int) - 1000 < 2000 := by decide
      refine .inr ⟨sampleRecording, y, [.removed 9], rfl, requested, recent, ?_, ?_⟩
      · intro z inside
        cases List.mem_singleton.mp inside
      · intro before inside
        rcases List.prefix_cons_iff.mp inside with rfl | ⟨rest, rfl, none⟩
        · exact there
        · rw [List.prefix_nil.mp none]
          exact kept
  exact ⟨ended, lingers, applied.1.mp lingers⟩

/-- HFP is refused at one second, so the recording may try again at eleven. The desktop
chooses Handsfree, and then Automatic. The recording goes on, and HFP is given up. -/
theorem recording_loses_hfp :
    ¬ ∀ start : Startup, (startup start).2 = true → ∀ events x,
      let b := (startup start).1.run events
      Undisturbed b x → b.captureRequested = true → (b.step (.tick x)).hfp = true := by
  intro keeps
  have kept := keeps (sampleStart []) (by decide +kernel)
    (sampleRecording ++ [.tick (sampleTick 1000 true (sampleVoice none true)), .profileSet (some 3),
      .tick (sampleTick 1500 true (sampleVoice (some 4) true)), .profileSet (some 0)])
    (sampleTick 2500 true (sampleVoice (some 5) true))
  revert kept
  decide +kernel

/-- A recording is forgotten with the microphone of the Automatic profile, although it was
there at one and a half seconds. -/
example :
    let b := (startup (sampleStart [])).1.run (sampleRecording ++ [.tick (sampleTick 1000 true (sampleVoice (some 4) true)),
      .tick (sampleTick 1500 true (sampleVoice none true)), .profileSet (some 1),
      .tick (sampleTick 1520 true (sampleVoice none true)), .profileSet (some 3),
      .tick (sampleTick 1900 true (sampleVoice (some 5) true)), .profileSet (some 0)])
    b.hfp = true ∧ (b.step (.tick (sampleTick 2100 true (sampleVoice none true)))).hfp = false := by
  decide +kernel

end FlossDesktop.Profiles.Bridge
