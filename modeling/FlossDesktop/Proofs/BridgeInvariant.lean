import FlossDesktop.Proofs.BridgeCases

/-! One induction over the bridge's runs. A property that every operation on the
rings preserves holds in every state a run reaches; the operations are stated with
what the callbacks check before they use them. -/

namespace FlossDesktop.Bridge

structure Maintained (property : Bridge → Prop) : Prop where
  quiet : ∀ {b after}, property b → Quiet b after → property after
  flushAudio : ∀ {b} outcomes, property b → property (b.flushAudio outcomes)
  queueVoice : ∀ {b chunk}, Configured b → property b → b.hfp = true → chunk.size % 2 = 0 → property (b.queueVoice chunk)
  queueMusic : ∀ {b chunk} before after, Configured b → property b → b.hfp = false →
    property (b.queueMusic chunk before after)
  dropCapture : ∀ {b count}, property b → count % 2 = 0 → count ≤ b.captureQueue.queued → property (b.dropCapture count)
  credit : ∀ {b bytes} before after, Configured b → property b → b.hfp = true →
    bytes.length ≤ min (sizeSub b.queueLimit b.captureQueue.queued) (queueSize - b.captureQueue.writePos) →
    property ((b.received bytes).voicePlaybackCredit bytes.length before after)
  handOver : ∀ {b copied}, property b → copied % 2 = 0 → copied ≤ b.captureQueue.queued → property (b.handOver copied)
  stopPlayback : ∀ {b}, property b → property b.stopPlayback
  emptied : ∀ {b ready}, property b → Emptied b ready → property ready
  prime : ∀ {b} flush, Configured b → property b → b.account = {} → property (b.prime flush)

variable {property : Bridge → Prop} {b : Bridge}

/-- Whole samples of both channels are whole samples of one. -/
theorem even_of_stride (queued channels : Nat) : (queued - queued % (channels * 2)) % 2 = 0 := by
  have whole : queued - queued % (channels * 2) = channels * (queued / (channels * 2)) * 2 := by
    have division := Nat.div_add_mod queued (channels * 2)
    have reordered : channels * 2 * (queued / (channels * 2)) = channels * (queued / (channels * 2)) * 2 := by ring
    omega
  rw [whole, Nat.mul_mod_left]

theorem Maintained.discardIdleCapture (maintained : Maintained property) (holds : property b) :
    property b.discardIdleCapture :=
  maintained.dropCapture holds (even_of_stride _ _) (Nat.sub_le _ _)

theorem Maintained.discardIfIdle (maintained : Maintained property) (holds : property b) : property b.discardIfIdle := by
  rw [Bridge.discardIfIdle]
  split
  · exact holds
  · exact maintained.discardIdleCapture holds

/-- In the voice profile the overrun drop leaves 30 ms of a ring that holds 100 ms. -/
theorem overrun_bound (configured : Configured b) (voice : b.hfp = true) (full : b.captureQueue.queued = b.queueLimit) :
    sizeSub b.captureQueue.queued (targetBytes b.rate 1 * (b.channels * 2)) / (b.channels * 2) * (b.channels * 2) ≤
      b.captureQueue.queued := by
  obtain ⟨mono, _, speed, limit⟩ := configured.voice voice
  rw [full, limit, mono, targetBytes, sizeSub_eq (by rcases speed with speed | speed <;> simp [speed])]
  omega

theorem Maintained.dropOverrun (maintained : Maintained property) (configured : Configured b) (holds : property b)
    (voice : b.hfp = true) (full : b.captureQueue.queued = b.queueLimit) : property b.dropOverrun := by
  have even : ∀ count, count / (b.channels * 2) * (b.channels * 2) % 2 = 0 := by
    intro count
    rw [← Nat.mul_assoc, Nat.mul_mod_left]
  apply maintained.quiet (maintained.dropCapture holds (even _) (overrun_bound configured voice full))
  exact ⟨⟨rfl, rfl, rfl, rfl, rfl⟩, ⟨rfl, rfl, rfl, rfl⟩, ⟨rfl, rfl, rfl, rfl⟩, ⟨rfl, rfl, rfl, rfl, rfl, rfl⟩, id⟩

theorem Maintained.makeRoom (maintained : Maintained property) (configured : Configured b) (holds : property b)
    (voice : b.hfp = true) (peek : RecvOutcome) : property (b.makeRoom peek).1 := by
  rcases makeRoom_cases b peek with ⟨ready, same⟩ | ⟨reason, same⟩ | ⟨full, same⟩
  · rw [same]
    exact holds
  · rw [same]
    exact maintained.quiet holds (fail_quiet b reason)
  · rw [same]
    exact maintained.dropOverrun configured holds voice full

/-- The property together with the configuration it relies on. -/
def Held (property : Bridge → Prop) (b : Bridge) : Prop := Configured b ∧ property b

theorem Maintained.readCapture (maintained : Maintained property) (held : Held property b) (voice : b.hfp = true)
    (budget : Nat) (receptions : List Reception) : Held property (b.readCapture budget receptions) := by
  have kept : Held property (b.readCapture budget receptions) ∧ (b.readCapture budget receptions).hfp = true := by
    refine @readCapture_preserves (fun b => Held property b ∧ b.hfp = true) ?_ ?_ ?_ ?_ b ?_ budget receptions
    · intro b state
      have same := (discardIfIdle_only b).config
      exact ⟨⟨state.1.1.same same, maintained.discardIfIdle state.1.2⟩, same.hfp.trans state.2⟩
    · intro b peek state
      have same := (makeRoom_only b peek).config
      exact ⟨⟨state.1.1.same same, maintained.makeRoom state.1.1 state.1.2 state.2 peek⟩, same.hfp.trans state.2⟩
    · intro b next state quiet
      exact ⟨⟨state.1.1.same quiet.config, maintained.quiet state.1.2 quiet⟩, quiet.config.hfp.trans state.2⟩
    · intro b bytes before after state fits
      have same := (received_only b bytes).config.trans
        (voicePlaybackCredit_keeps (b.received bytes) bytes.length before after).config
      exact ⟨⟨state.1.1.same same, maintained.credit before after state.1.1 state.1.2 state.2 fits⟩,
        same.hfp.trans state.2⟩
    · exact ⟨held, voice⟩
  exact kept.1

/-- In the voice profile a chunk is the mono mix of whole stereo frames. -/
theorem inspect_even {offer : Offer} {chunk : Chunk} (configured : Configured b) (voice : b.hfp = true)
    (looked : b.inspect offer = .ok (some chunk)) : chunk.size % 2 = 0 := by
  obtain ⟨mono, width, _, _⟩ := configured.voice voice
  unfold inspect at looked
  rw [mono, width] at looked
  split at looked
  · cases looked
  · split at looked
    · split at looked <;> cases looked
    · dsimp only at looked
      split at looked
      · cases looked
      · split at looked
        · cases looked
        · rw [if_pos rfl] at looked
          split at looked
          · cases looked
          · cases looked
            dsimp only
            omega

theorem queueVoice_config (b : Bridge) (chunk : Chunk) : SameConfig b (b.queueVoice chunk) := by
  rw [queueVoice]
  split
  · exact .refl b
  · exact ⟨rfl, rfl, rfl, rfl, rfl⟩

theorem chunkQueued_only (b : Bridge) (chunk : Chunk) : OutputOnly b (b.chunkQueued chunk) :=
  ⟨⟨rfl, rfl, rfl, rfl, rfl⟩, ⟨rfl, rfl, rfl, rfl⟩, ⟨rfl, rfl, rfl, rfl, rfl, rfl⟩, id⟩

theorem queueMusic_only (b : Bridge) (chunk : Chunk) (before after : List SendOutcome) :
    OutputOnly b (b.queueMusic chunk before after) := by
  have flushed := flushAudio_only b before
  unfold queueMusic
  dsimp only
  split
  · exact flushed
  · split
    · exact flushed
    · apply flushed.trans
      exact (chunkQueued_only _ chunk).trans (flushAudio_only _ after)

theorem Maintained.process (maintained : Maintained property) (held : Held property b) (offer : Offer)
    (verdict : Verdict) (before after : List SendOutcome) : Held property (b.process offer verdict before after) := by
  rcases process_cases b offer verdict before after with quiet | ⟨chunk, next, looked, quiet, branch⟩
  · exact ⟨held.1.same quiet.config, maintained.quiet held.2 quiet⟩
  · have configured := held.1.same quiet.config
    have holds := maintained.quiet held.2 quiet
    rcases branch with ⟨voice, same⟩ | ⟨music, same⟩
    · rw [same]
      exact ⟨configured.same (queueVoice_config next chunk),
        maintained.queueVoice configured holds (quiet.config.hfp.trans voice) (inspect_even held.1 voice looked)⟩
    · rw [same]
      exact ⟨configured.same (queueMusic_only next chunk before after).config,
        maintained.queueMusic before after configured holds (quiet.config.hfp.trans music)⟩

theorem Maintained.captureProcess (maintained : Maintained property) (held : Held property b) (request : Request)
    (verdict : Verdict) : Held property (b.captureProcess request verdict).1 := by
  rcases captureProcess_cases b request verdict with same | ⟨next, copied, silence, quiet, even, present, same⟩
  · rw [same]
    exact held
  · rw [same]
    exact ⟨(held.1.same quiet.config).same ⟨rfl, rfl, rfl, rfl, rfl⟩,
      maintained.handOver (maintained.quiet held.2 quiet) even present⟩

theorem prime_config (b : Bridge) (flush : List SendOutcome) : SameConfig b (b.prime flush) :=
  (queueOutput_only b _).config.trans (flushAudio_only _ flush).config

/-- The rings are primed and a flag of the loop is set. -/
theorem Maintained.primed (maintained : Maintained property) {ready after : Bridge} (holds : property b)
    (emptied : Emptied b ready) (configured : Configured ready) (flush : List SendOutcome)
    (quiet : Quiet (ready.prime flush) after) : Held property after :=
  ⟨configured.same ((prime_config ready flush).trans quiet.config),
    maintained.quiet (maintained.prime flush configured (maintained.emptied holds emptied) emptied.account) quiet⟩

theorem Maintained.transition (maintained : Maintained property) (held : Held property b) (t : Transition) :
    Held property (b.transition t) := by
  obtain ⟨ready, emptied, configured, ends⟩ := transition_cases b t held.1.limit
  rcases ends with ⟨reason, same⟩ | same
  · rw [same]
    have quiet := fail_quiet ready reason
    exact ⟨configured.same quiet.config, maintained.quiet (maintained.emptied held.2 emptied) quiet⟩
  · rw [same]
    exact maintained.primed held.2 emptied configured t.flush (flags_quiet _ _ _ _)

/-- One callback. -/
theorem Maintained.step (maintained : Maintained property) (held : Held property b) (step : Step) :
    Held property (b.step step) := by
  cases step with
  | process offer verdict before after => exact maintained.process held offer verdict before after
  | readCapture receptions =>
    rw [Bridge.step]
    split
    · exact maintained.readCapture held (by assumption) queueSize receptions
    · exact held
  | flushAudio outcomes =>
    exact ⟨held.1.same (flushAudio_only b outcomes).config, maintained.flushAudio outcomes held.2⟩
  | captureProcess request verdict => exact maintained.captureProcess held request verdict
  | stateChanged state error =>
    rcases stateChanged_cases b state error with quiet | quiet
    · exact ⟨held.1.same quiet.config, maintained.quiet held.2 quiet⟩
    · have stopped : SameConfig b b.stopPlayback := ⟨rfl, rfl, rfl, rfl, rfl⟩
      exact ⟨held.1.same (stopped.trans quiet.config), maintained.quiet (maintained.stopPlayback held.2) quiet⟩
  | captureStateChanged state error =>
    rcases captureStateChanged_cases b state error with quiet | quiet
    · exact ⟨held.1.same quiet.config, maintained.quiet held.2 quiet⟩
    · exact ⟨(held.1.same (dropCapture_only b _).config).same quiet.config,
        maintained.quiet (maintained.discardIdleCapture held.2) quiet⟩
  | formatReady playback capture =>
    have quiet := flags_quiet b playback capture b.transitioning
    exact ⟨held.1.same quiet.config, maintained.quiet held.2 quiet⟩
  | disconnected =>
    have quiet := fail_quiet b "Floss PCM transport disconnected"
    exact ⟨held.1.same quiet.config, maintained.quiet held.2 quiet⟩
  | stopTransport =>
    exact ⟨held.1.same ⟨rfl, rfl, rfl, rfl, rfl⟩, maintained.emptied held.2 (stopTransport_emptied b)⟩
  | transition t => exact maintained.transition held t

/-- Every state of a run, from a bridge that was started with an accepted configuration. -/
theorem Maintained.run (maintained : Maintained property) (initial : ∀ hfp, property { hfp }) {hfp : Bool}
    (config : PcmConfig hfp) (flush : List SendOutcome) (steps : List Step) :
    Held property ((startup config flush).run steps) := by
  have started : Held property (startup config flush) := by
    obtain ⟨ready, emptied, configured, same⟩ := startup_cases config flush
    rw [same]
    apply maintained.primed (initial hfp) emptied configured flush
    exact ⟨⟨rfl, rfl, rfl, rfl, rfl⟩, ⟨rfl, rfl, rfl, rfl⟩, ⟨rfl, rfl, rfl, rfl⟩, ⟨rfl, rfl, rfl, rfl, rfl, rfl⟩, id⟩
  unfold Bridge.run
  generalize startup config flush = b at started ⊢
  induction steps generalizing b with
  | nil => exact started
  | cons step rest ih => exact ih _ (maintained.step started step)

end FlossDesktop.Bridge
