import FlossDesktop.Bridge

/-! The bridge's state in four parts: its settings, the output ring, the microphone
ring and the voice clock. Each operation is shown to leave the other parts alone. -/

namespace FlossDesktop.Bridge

structure SameConfig (b after : Bridge) : Prop where
  hfp : after.hfp = b.hfp
  rate : after.rate = b.rate
  channels : after.channels = b.channels
  bits : after.bits = b.bits
  queueLimit : after.queueLimit = b.queueLimit

structure SameOutput (b after : Bridge) : Prop where
  queue : after.queue = b.queue
  audioWritten : after.audioWritten = b.audioWritten
  sent : after.account.sent = b.account.sent
  accepted : after.account.accepted = b.account.accepted

structure SameMicrophone (b after : Bridge) : Prop where
  captureQueue : after.captureQueue = b.captureQueue
  incoming : after.account.incoming = b.account.incoming
  consumed : after.account.consumed = b.account.consumed
  delivered : after.account.delivered = b.account.delivered

structure SameVoice (b after : Bridge) : Prop where
  voiceQueue : after.voiceQueue = b.voiceQueue
  voiceCredit : after.voiceCredit = b.voiceCredit
  voicePrimed : after.voicePrimed = b.voicePrimed
  credited : after.account.credited = b.account.credited
  past : after.account.past = b.account.past
  epoch : after.account.epoch = b.account.epoch

theorem SameConfig.refl (b : Bridge) : SameConfig b b := ⟨rfl, rfl, rfl, rfl, rfl⟩
theorem SameOutput.refl (b : Bridge) : SameOutput b b := ⟨rfl, rfl, rfl, rfl⟩
theorem SameMicrophone.refl (b : Bridge) : SameMicrophone b b := ⟨rfl, rfl, rfl, rfl⟩
theorem SameVoice.refl (b : Bridge) : SameVoice b b := ⟨rfl, rfl, rfl, rfl, rfl, rfl⟩

variable {b middle after : Bridge}

theorem SameConfig.trans (first : SameConfig b middle) (last : SameConfig middle after) : SameConfig b after :=
  ⟨last.hfp.trans first.hfp, last.rate.trans first.rate, last.channels.trans first.channels,
    last.bits.trans first.bits, last.queueLimit.trans first.queueLimit⟩

theorem SameOutput.trans (first : SameOutput b middle) (last : SameOutput middle after) : SameOutput b after :=
  ⟨last.queue.trans first.queue, last.audioWritten.trans first.audioWritten, last.sent.trans first.sent,
    last.accepted.trans first.accepted⟩

theorem SameMicrophone.trans (first : SameMicrophone b middle) (last : SameMicrophone middle after) :
    SameMicrophone b after :=
  ⟨last.captureQueue.trans first.captureQueue, last.incoming.trans first.incoming,
    last.consumed.trans first.consumed, last.delivered.trans first.delivered⟩

theorem SameVoice.trans (first : SameVoice b middle) (last : SameVoice middle after) : SameVoice b after :=
  ⟨last.voiceQueue.trans first.voiceQueue, last.voiceCredit.trans first.voiceCredit,
    last.voicePrimed.trans first.voicePrimed, last.credited.trans first.credited, last.past.trans first.past,
    last.epoch.trans first.epoch⟩

/-- A step that changes nothing but flags of the loop. A failure is never taken back. -/
structure Quiet (b after : Bridge) : Prop where
  config : SameConfig b after
  output : SameOutput b after
  microphone : SameMicrophone b after
  voice : SameVoice b after
  failed : b.failed = true → after.failed = true

theorem Quiet.refl (b : Bridge) : Quiet b b := ⟨.refl b, .refl b, .refl b, .refl b, id⟩

theorem Quiet.trans (first : Quiet b middle) (last : Quiet middle after) : Quiet b after :=
  ⟨first.config.trans last.config, first.output.trans last.output, first.microphone.trans last.microphone,
    first.voice.trans last.voice, fun failed => last.failed (first.failed failed)⟩

theorem fail_quiet (b : Bridge) (reason : String) : Quiet b (b.fail reason) :=
  ⟨⟨rfl, rfl, rfl, rfl, rfl⟩, ⟨rfl, rfl, rfl, rfl⟩, ⟨rfl, rfl, rfl, rfl⟩, ⟨rfl, rfl, rfl, rfl, rfl, rfl⟩, fun _ => rfl⟩

theorem playbackLevel_quiet (b : Bridge) (verdict : Verdict) : Quiet b (b.playbackLevel verdict) := by
  unfold playbackLevel
  split
  · exact fail_quiet b _
  · exact .refl b

theorem adaptRate_quiet (b : Bridge) (verdict : Verdict) : Quiet b (b.adaptRate verdict) := by
  unfold adaptRate
  split
  · exact fail_quiet b _
  · exact .refl b

theorem reportLatency_quiet (b : Bridge) (verdict : Verdict) : Quiet b (b.reportLatency verdict) := by
  unfold reportLatency
  split
  · exact fail_quiet b _
  · exact .refl b

/-- Only the output ring changes. -/
structure OutputOnly (b after : Bridge) : Prop where
  config : SameConfig b after
  microphone : SameMicrophone b after
  voice : SameVoice b after
  failed : b.failed = true → after.failed = true

theorem OutputOnly.refl (b : Bridge) : OutputOnly b b := ⟨.refl b, .refl b, .refl b, id⟩

theorem OutputOnly.trans (first : OutputOnly b middle) (last : OutputOnly middle after) : OutputOnly b after :=
  ⟨first.config.trans last.config, first.microphone.trans last.microphone, first.voice.trans last.voice,
    fun failed => last.failed (first.failed failed)⟩

theorem Quiet.outputOnly (quiet : Quiet b after) : OutputOnly b after :=
  ⟨quiet.config, quiet.microphone, quiet.voice, quiet.failed⟩

theorem transmitted_only (b : Bridge) (count n : Nat) : OutputOnly b (b.transmitted count n) :=
  ⟨⟨rfl, rfl, rfl, rfl, rfl⟩, ⟨rfl, rfl, rfl, rfl⟩, ⟨rfl, rfl, rfl, rfl, rfl, rfl⟩, id⟩

theorem flushAudio_only (b : Bridge) (outcomes : List SendOutcome) : OutputOnly b (b.flushAudio outcomes) := by
  induction outcomes generalizing b with
  | nil => exact .refl b
  | cons outcome rest ih =>
    rw [flushAudio]
    split
    · exact .refl b
    · cases outcome with
      | again => exact .refl b
      | failed => exact (fail_quiet b _).outputOnly
      | sent n =>
        dsimp only
        split
        · exact (fail_quiet b _).outputOnly
        · exact (transmitted_only b _ _).trans (ih _)

theorem outputQueued_only (b : Bridge) (data : Bytes) : OutputOnly b (b.outputQueued data) :=
  ⟨⟨rfl, rfl, rfl, rfl, rfl⟩, ⟨rfl, rfl, rfl, rfl⟩, ⟨rfl, rfl, rfl, rfl, rfl, rfl⟩, id⟩

theorem queueOutput_only (b : Bridge) (data : Bytes) : OutputOnly b (b.queueOutput data).1 := by
  unfold queueOutput
  split
  · exact (fail_quiet b _).outputOnly
  · exact outputQueued_only b data

/-- The microphone is not touched. -/
structure KeepsMicrophone (b after : Bridge) : Prop where
  config : SameConfig b after
  microphone : SameMicrophone b after
  failed : b.failed = true → after.failed = true

theorem KeepsMicrophone.refl (b : Bridge) : KeepsMicrophone b b := ⟨.refl b, .refl b, id⟩

theorem KeepsMicrophone.trans (first : KeepsMicrophone b middle) (last : KeepsMicrophone middle after) :
    KeepsMicrophone b after :=
  ⟨first.config.trans last.config, first.microphone.trans last.microphone,
    fun failed => last.failed (first.failed failed)⟩

theorem OutputOnly.keepsMicrophone (only : OutputOnly b after) : KeepsMicrophone b after :=
  ⟨only.config, only.microphone, only.failed⟩

theorem Quiet.keepsMicrophone (quiet : Quiet b after) : KeepsMicrophone b after :=
  ⟨quiet.config, quiet.microphone, quiet.failed⟩

theorem pieceQueued_keeps (b : Bridge) (piece : Piece) : KeepsMicrophone b (b.pieceQueued piece) :=
  ⟨⟨rfl, rfl, rfl, rfl, rfl⟩, ⟨rfl, rfl, rfl, rfl⟩, id⟩

/-- A piece is refused with a failure, or queued and counted. -/
theorem queuePiece_cases (b : Bridge) (piece : Piece) :
    (∃ reason, b.queuePiece piece = (b.fail reason, false)) ∨
    b.queuePiece piece = ((b.outputQueued piece.bytes).pieceQueued piece, true) := by
  unfold queuePiece queueOutput
  by_cases large : piece.bytes.length > sizeSub b.queueLimit b.queue.queued
  · simp only [if_pos large]
    exact .inl ⟨_, rfl⟩
  · simp only [if_neg large]
    exact .inr trivial

theorem queuePiece_keeps (b : Bridge) (piece : Piece) : KeepsMicrophone b (b.queuePiece piece).1 := by
  rcases queuePiece_cases b piece with ⟨reason, same⟩ | same
  · rw [same]
    exact (fail_quiet b reason).keepsMicrophone
  · rw [same]
    exact (outputQueued_only b piece.bytes).keepsMicrophone.trans (pieceQueued_keeps _ piece)

theorem voiceUsed_keeps (b : Bridge) (bytes : Bytes) : KeepsMicrophone b (b.voiceUsed bytes) :=
  ⟨⟨rfl, rfl, rfl, rfl, rfl⟩, ⟨rfl, rfl, rfl, rfl⟩, id⟩

/-- One turn of the loop over the playback ring. -/
theorem playVoice_succ (b : Bridge) (wanted fuel : Nat) :
    ((wanted = 0 ∨ b.voicePrimed = false ∨ b.voiceQueue.queued = 0 ∨ b.failed = true) ∧
      b.playVoice wanted (fuel + 1) = (b, some wanted)) ∨
    (wanted ≠ 0 ∧ b.voicePrimed = true ∧ b.voiceQueue.queued ≠ 0 ∧ b.failed = false ∧
      ∃ count, count = min wanted (min b.voiceQueue.queued (queueSize - b.voiceQueue.readPos)) ∧
      ∃ next accepted, b.queuePiece (.playback (b.voiceQueue.load b.voiceQueue.readPos count)) = (next, accepted) ∧
        b.playVoice wanted (fuel + 1) =
          if accepted then (next.voiceUsed (b.voiceQueue.load b.voiceQueue.readPos count)).playVoice (wanted - count) fuel
          else (next, none)) := by
  rw [playVoice]
  by_cases stops : wanted = 0 ∨ b.voicePrimed = false ∨ b.voiceQueue.queued = 0 ∨ b.failed = true
  · exact .inl ⟨stops, by rw [if_pos stops]⟩
  · rw [if_neg stops]
    simp only [not_or, Bool.not_eq_false, Bool.not_eq_true] at stops
    refine .inr ⟨stops.1, stops.2.1, stops.2.2.1, stops.2.2.2, _, rfl, ?_⟩
    dsimp only
    generalize min wanted (min b.voiceQueue.queued (queueSize - b.voiceQueue.readPos)) = count
    rcases queued : b.queuePiece (.playback (b.voiceQueue.load b.voiceQueue.readPos count)) with ⟨next, accepted⟩
    refine ⟨next, accepted, rfl, ?_⟩
    cases accepted <;> simp

theorem playVoice_keeps (b : Bridge) (wanted fuel : Nat) : KeepsMicrophone b (b.playVoice wanted fuel).1 := by
  induction fuel generalizing b wanted with
  | zero => exact .refl b
  | succ fuel ih =>
    rcases playVoice_succ b wanted fuel with ⟨_, same⟩ | ⟨_, _, _, _, count, _, next, accepted, queued, same⟩
    · rw [same]
      exact .refl b
    · have keeps := queuePiece_keeps b (.playback (b.voiceQueue.load b.voiceQueue.readPos count))
      rw [queued] at keeps
      rw [same]
      cases accepted with
      | false => exact keeps
      | true => exact keeps.trans ((voiceUsed_keeps next _).trans (ih _ _))

theorem primeVoice_keeps (b : Bridge) : KeepsMicrophone b b.primeVoice := by
  unfold primeVoice
  split
  · exact ⟨⟨rfl, rfl, rfl, rfl, rfl⟩, ⟨rfl, rfl, rfl, rfl⟩, id⟩
  · exact .refl b

theorem queueSilence_keeps (b : Bridge) (wanted : Nat) : KeepsMicrophone b (b.queueSilence wanted) := by
  unfold queueSilence
  split
  · exact queuePiece_keeps b _
  · exact .refl b

theorem takeCredit_keeps (b : Bridge) (incoming : Nat) : KeepsMicrophone b (b.takeCredit incoming) :=
  ⟨⟨rfl, rfl, rfl, rfl, rfl⟩, ⟨rfl, rfl, rfl, rfl⟩, id⟩

/-- The clock as its stages: the credit is taken, the output flushed, the playback
ring used, and silence queued for the rest. -/
theorem voicePlaybackCredit_cases (b : Bridge) (incoming : Nat) (before after : List SendOutcome) :
    ∃ last left, ((b.takeCredit incoming).flushAudio before).primeVoice.playVoice (b.voiceWanted incoming)
        (b.voiceWanted incoming) = (last, left) ∧
      ((left = none ∧ b.voicePlaybackCredit incoming before after = last) ∨
        ∃ wanted, left = some wanted ∧
          b.voicePlaybackCredit incoming before after = (last.queueSilence wanted).flushAudio after) := by
  rcases played : ((b.takeCredit incoming).flushAudio before).primeVoice.playVoice (b.voiceWanted incoming)
    (b.voiceWanted incoming) with ⟨last, left⟩
  refine ⟨last, left, rfl, ?_⟩
  rw [voicePlaybackCredit, played]
  cases left with
  | none => exact .inl ⟨rfl, rfl⟩
  | some wanted => exact .inr ⟨wanted, rfl, rfl⟩

theorem voicePlaybackCredit_keeps (b : Bridge) (incoming : Nat) (before after : List SendOutcome) :
    KeepsMicrophone b (b.voicePlaybackCredit incoming before after) := by
  obtain ⟨last, left, loop, ends⟩ := voicePlaybackCredit_cases b incoming before after
  have flushed := (takeCredit_keeps b incoming).trans (flushAudio_only _ before).keepsMicrophone
  have played := (flushed.trans (primeVoice_keeps _)).trans (playVoice_keeps _ (b.voiceWanted incoming)
    (b.voiceWanted incoming))
  rw [loop] at played
  rcases ends with ⟨_, same⟩ | ⟨wanted, _, same⟩
  · rw [same]
    exact played
  · rw [same]
    exact (played.trans (queueSilence_keeps last wanted)).trans (flushAudio_only _ after).keepsMicrophone

/-- Only the microphone ring changes. -/
structure MicrophoneOnly (b after : Bridge) : Prop where
  config : SameConfig b after
  output : SameOutput b after
  voice : SameVoice b after
  failed : b.failed = true → after.failed = true

theorem MicrophoneOnly.refl (b : Bridge) : MicrophoneOnly b b := ⟨.refl b, .refl b, .refl b, id⟩

theorem MicrophoneOnly.trans (first : MicrophoneOnly b middle) (last : MicrophoneOnly middle after) :
    MicrophoneOnly b after :=
  ⟨first.config.trans last.config, first.output.trans last.output, first.voice.trans last.voice,
    fun failed => last.failed (first.failed failed)⟩

theorem Quiet.microphoneOnly (quiet : Quiet b after) : MicrophoneOnly b after :=
  ⟨quiet.config, quiet.output, quiet.voice, quiet.failed⟩

theorem dropCapture_only (b : Bridge) (count : Nat) : MicrophoneOnly b (b.dropCapture count) :=
  ⟨⟨rfl, rfl, rfl, rfl, rfl⟩, ⟨rfl, rfl, rfl, rfl⟩, ⟨rfl, rfl, rfl, rfl, rfl, rfl⟩, id⟩

theorem dropOverrun_only (b : Bridge) : MicrophoneOnly b b.dropOverrun :=
  ⟨⟨rfl, rfl, rfl, rfl, rfl⟩, ⟨rfl, rfl, rfl, rfl⟩, ⟨rfl, rfl, rfl, rfl, rfl, rfl⟩, id⟩

theorem discardIfIdle_only (b : Bridge) : MicrophoneOnly b b.discardIfIdle := by
  rw [discardIfIdle]
  split
  · exact .refl b
  · exact dropCapture_only b _

/-- What a full ring does before the next read. -/
theorem makeRoom_cases (b : Bridge) (peek : RecvOutcome) :
    (∃ ready, b.makeRoom peek = (b, ready)) ∨
    (∃ reason, b.makeRoom peek = (b.fail reason, false)) ∨
    (b.captureQueue.queued = b.queueLimit ∧ b.makeRoom peek = (b.dropOverrun, true)) := by
  unfold makeRoom
  by_cases full : b.captureQueue.queued = b.queueLimit
  · simp only [if_pos full]
    cases peek with
    | again => exact .inl ⟨false, rfl⟩
    | failed => exact .inr (.inl ⟨_, rfl⟩)
    | data bytes =>
      cases bytes with
      | nil => exact .inr (.inl ⟨_, rfl⟩)
      | cons byte rest => exact .inr (.inr ⟨full, rfl⟩)
  · simp only [if_neg full]
    exact .inl ⟨true, rfl⟩

theorem makeRoom_only (b : Bridge) (peek : RecvOutcome) : MicrophoneOnly b (b.makeRoom peek).1 := by
  rcases makeRoom_cases b peek with ⟨ready, same⟩ | ⟨reason, same⟩ | ⟨_, same⟩
  · rw [same]
    exact .refl b
  · rw [same]
    exact (fail_quiet b reason).microphoneOnly
  · rw [same]
    exact dropOverrun_only b

/-- One read: nothing, a failure, or bytes behind the ring's last. -/
theorem receiveBytes_cases (b : Bridge) (budget : Nat) (outcome : RecvOutcome) :
    (∃ next, Quiet b next ∧ b.receiveBytes budget outcome = (next, none)) ∨
    ∃ bytes : Bytes,
      bytes.length ≤ min (sizeSub b.queueLimit b.captureQueue.queued) (queueSize - b.captureQueue.writePos) ∧
      b.receiveBytes budget outcome = (b.received bytes, some bytes.length) := by
  unfold receiveBytes
  cases outcome with
  | again => exact .inl ⟨b, .refl b, rfl⟩
  | failed => exact .inl ⟨_, fail_quiet b _, rfl⟩
  | data bytes =>
    dsimp only
    split
    · exact .inl ⟨_, fail_quiet b _, rfl⟩
    · refine .inr ⟨_, ?_, rfl⟩
      rw [List.length_take, readLength]
      omega

theorem received_only (b : Bridge) (bytes : Bytes) : MicrophoneOnly b (b.received bytes) :=
  ⟨⟨rfl, rfl, rfl, rfl, rfl⟩, ⟨rfl, rfl, rfl, rfl⟩, ⟨rfl, rfl, rfl, rfl, rfl, rfl⟩, id⟩

/-- What every stage of the receive loop preserves, the loop preserves. -/
theorem readCapture_preserves {property : Bridge → Prop}
    (idle : ∀ b, property b → property b.discardIfIdle)
    (room : ∀ b peek, property b → property (b.makeRoom peek).1)
    (refused : ∀ b next, property b → Quiet b next → property next)
    (credit : ∀ b bytes before after, property b →
      bytes.length ≤ min (sizeSub b.queueLimit b.captureQueue.queued) (queueSize - b.captureQueue.writePos) →
      property ((b.received bytes).voicePlaybackCredit bytes.length before after))
    {b : Bridge} (initial : property b) (budget : Nat) (receptions : List Reception) :
    property (b.readCapture budget receptions) := by
  induction receptions generalizing b budget with
  | nil => exact idle b initial
  | cons reception rest ih =>
    rw [readCapture]
    split
    · exact idle b initial
    · have ready := room _ reception.peek (idle b initial)
      rcases made : b.discardIfIdle.makeRoom reception.peek with ⟨next, open_⟩
      rw [made] at ready
      cases open_ with
      | false => exact ready
      | true =>
        dsimp only
        rcases receiveBytes_cases next budget reception.outcome with ⟨last, quiet, same⟩ | ⟨bytes, fits, same⟩
        · rw [same]
          exact refused next last ready quiet
        · rw [same]
          exact ih (credit next bytes _ _ ready fits) _

/-- A buffer of the graph leads to a failure or is dropped, or its chunk is
offered to the ring of the profile. -/
theorem process_cases (b : Bridge) (offer : Offer) (verdict : Verdict) (before after : List SendOutcome) :
    Quiet b (b.process offer verdict before after) ∨
    ∃ chunk next, b.inspect offer = .ok (some chunk) ∧ Quiet b next ∧
      ((b.hfp = true ∧ b.process offer verdict before after = next.queueVoice chunk) ∨
        (b.hfp = false ∧ b.process offer verdict before after = next.queueMusic chunk before after)) := by
  rw [process]
  split
  · exact .inl (.refl b)
  · cases looked : b.inspect offer with
    | error reason => exact .inl (fail_quiet b reason)
    | ok result =>
      cases result with
      | none => exact .inl (.refl b)
      | some chunk =>
        dsimp only
        have adapted := (playbackLevel_quiet b verdict).trans (adaptRate_quiet _ verdict)
        generalize (b.playbackLevel verdict).adaptRate verdict = next at adapted ⊢
        split
        · exact .inl adapted
        · split
          · exact .inl adapted
          · have reported := adapted.trans (reportLatency_quiet next verdict)
            rw [reported.config.hfp]
            refine .inr ⟨chunk, next.reportLatency verdict, rfl, reported, ?_⟩
            cases b.hfp with
            | true => exact .inl ⟨rfl, rfl⟩
            | false => exact .inr ⟨rfl, rfl⟩

theorem failures_quiet (b : Bridge) (first second : Prop) [Decidable first] [Decidable second] (reason other : String) :
    Quiet b (if first then b.fail reason else if second then b.fail other else b) := by
  split
  · exact fail_quiet b reason
  · split
    · exact fail_quiet b other
    · exact .refl b

theorem stateChanged_cases (b : Bridge) (state : StreamState) (error : Option String) :
    Quiet b (b.stateChanged state error) ∨ Quiet b.stopPlayback (b.stateChanged state error) := by
  have flagged : ∀ running, Quiet b { b with playbackRunning := running } := fun _ =>
    ⟨⟨rfl, rfl, rfl, rfl, rfl⟩, ⟨rfl, rfl, rfl, rfl⟩, ⟨rfl, rfl, rfl, rfl⟩, ⟨rfl, rfl, rfl, rfl, rfl, rfl⟩, id⟩
  have stopped : ∀ running, Quiet b.stopPlayback { b with playbackRunning := running }.stopPlayback := fun _ =>
    ⟨⟨rfl, rfl, rfl, rfl, rfl⟩, ⟨rfl, rfl, rfl, rfl⟩, ⟨rfl, rfl, rfl, rfl⟩, ⟨rfl, rfl, rfl, rfl, rfl, rfl⟩, id⟩
  rw [stateChanged]
  by_cases streaming : state = .streaming
  · simp only [streaming, ne_eq, not_true_eq_false, if_false]
    exact .inl ((flagged _).trans (failures_quiet _ _ _ _ _))
  · simp only [ne_eq, streaming, not_false_eq_true, if_true]
    exact .inr ((stopped _).trans (failures_quiet _ _ _ _ _))

theorem captureStateChanged_cases (b : Bridge) (state : StreamState) (error : Option String) :
    Quiet b (b.captureStateChanged state error) ∨ Quiet b.discardIdleCapture (b.captureStateChanged state error) := by
  have flagged : ∀ running, Quiet b { b with captureRunning := running } := fun _ =>
    ⟨⟨rfl, rfl, rfl, rfl, rfl⟩, ⟨rfl, rfl, rfl, rfl⟩, ⟨rfl, rfl, rfl, rfl⟩, ⟨rfl, rfl, rfl, rfl, rfl, rfl⟩, id⟩
  have discarded : ∀ running, Quiet b.discardIdleCapture
      { { b with captureRunning := running }.discardIdleCapture with capturePrimed := false } := fun _ =>
    ⟨⟨rfl, rfl, rfl, rfl, rfl⟩, ⟨rfl, rfl, rfl, rfl⟩, ⟨rfl, rfl, rfl, rfl⟩, ⟨rfl, rfl, rfl, rfl, rfl, rfl⟩, id⟩
  rw [captureStateChanged]
  by_cases streaming : state = .streaming
  · simp only [streaming, ne_eq, not_true_eq_false, if_false]
    exact .inl ((flagged _).trans (failures_quiet _ _ _ _ _))
  · simp only [ne_eq, streaming, not_false_eq_true, if_true]
    exact .inr ((discarded _).trans (failures_quiet _ _ _ _ _))

/-- A microphone buffer is left alone, or gets an even number of queued bytes and
then silence. -/
theorem captureProcess_cases (b : Bridge) (request : Request) (verdict : Verdict) :
    b.captureProcess request verdict = (b, []) ∨
    ∃ next copied silence, Quiet b next ∧ copied % 2 = 0 ∧ copied ≤ next.captureQueue.queued ∧
      b.captureProcess request verdict =
        (next.handOver copied, next.captureBytes copied ++ List.replicate silence 0) := by
  unfold captureProcess
  split
  · exact .inl rfl
  · dsimp only
    generalize (if request.requested ≠ 0 then min (request.maxsize / 2) request.requested else request.maxsize / 2) = frames
    have primed : Quiet b (if b.hfp = true ∧ b.capturePrimed = false ∧ b.captureQueue.queued ≥ targetBytes b.rate 2 then
        { b with capturePrimed := true } else b) := by
      split
      · exact ⟨⟨rfl, rfl, rfl, rfl, rfl⟩, ⟨rfl, rfl, rfl, rfl⟩, ⟨rfl, rfl, rfl, rfl⟩, ⟨rfl, rfl, rfl, rfl, rfl, rfl⟩, id⟩
      · exact .refl b
    generalize (if b.hfp = true ∧ b.capturePrimed = false ∧ b.captureQueue.queued ≥ targetBytes b.rate 2 then
        { b with capturePrimed := true } else b) = middle at primed ⊢
    have adapted : Quiet b (if middle.hfp = true ∧ middle.transitioning = false then
        (middle.adaptRate verdict).reportLatency verdict else middle) := by
      split
      · exact primed.trans ((adaptRate_quiet middle verdict).trans (reportLatency_quiet _ verdict))
      · exact primed
    generalize (if middle.hfp = true ∧ middle.transitioning = false then
        (middle.adaptRate verdict).reportLatency verdict else middle) = next at adapted ⊢
    refine .inr ⟨next, _, _, adapted, ?_, ?_, rfl⟩
    · split
      · omega
      · rfl
    · split
      · omega
      · exact Nat.zero_le _

theorem queueSize_eq : queueSize = 76800 := by simp [queueSize]

theorem sizeSub_eq {left right : Nat} (le : right ≤ left) : sizeSub left right = left - right := by
  simp [sizeSub, le]

/-- The ring limit fits the arrays, and the voice profile has the format that its
clock is written for. -/
structure Configured (b : Bridge) : Prop where
  limit : b.queueLimit ≤ queueSize
  voice : b.hfp = true → b.channels = 1 ∧ b.bits = 16 ∧ (b.rate = 8000 ∨ b.rate = 16000) ∧ b.queueLimit = b.rate * 2 / 10

theorem Configured.same (configured : Configured b) (same : SameConfig b after) : Configured after := by
  refine ⟨same.queueLimit ▸ configured.limit, ?_⟩
  rw [same.hfp, same.channels, same.bits, same.rate, same.queueLimit]
  exact configured.voice

/-- Nothing is queued, and nothing has crossed the boundary. -/
structure Emptied (b after : Bridge) : Prop where
  queue : after.queue = b.queue.reset
  captureQueue : after.captureQueue = b.captureQueue.reset
  voiceQueue : after.voiceQueue = b.voiceQueue.reset
  voiceCredit : after.voiceCredit = 0
  voicePrimed : after.voicePrimed = false
  audioWritten : after.audioWritten = 0
  account : after.account = {}

/-- The rings, the clock and the account are kept; the configuration need not be. -/
structure SameRings (b after : Bridge) : Prop where
  output : SameOutput b after
  microphone : SameMicrophone b after
  voice : SameVoice b after

theorem SameRings.refl (b : Bridge) : SameRings b b := ⟨.refl b, .refl b, .refl b⟩

theorem SameRings.trans (first : SameRings b middle) (last : SameRings middle after) : SameRings b after :=
  ⟨first.output.trans last.output, first.microphone.trans last.microphone, first.voice.trans last.voice⟩

theorem Quiet.sameRings (quiet : Quiet b after) : SameRings b after := ⟨quiet.output, quiet.microphone, quiet.voice⟩

theorem SameRings.account (same : SameRings b after) : after.account = b.account :=
  Account.ext same.output.sent same.output.accepted same.microphone.incoming same.microphone.consumed
    same.microphone.delivered same.voice.credited same.voice.past same.voice.epoch

theorem Emptied.same (emptied : Emptied b middle) (same : SameRings middle after) : Emptied b after where
  queue := same.output.queue.trans emptied.queue
  captureQueue := same.microphone.captureQueue.trans emptied.captureQueue
  voiceQueue := same.voice.voiceQueue.trans emptied.voiceQueue
  voiceCredit := same.voice.voiceCredit.trans emptied.voiceCredit
  voicePrimed := same.voice.voicePrimed.trans emptied.voicePrimed
  audioWritten := same.output.audioWritten.trans emptied.audioWritten
  account := same.account.trans emptied.account

theorem stopTransport_emptied (b : Bridge) : Emptied b b.stopTransport := ⟨rfl, rfl, rfl, rfl, rfl, rfl, rfl⟩

/-- Stopping twice is stopping once. -/
theorem Emptied.giveUp (emptied : Emptied b middle) : Emptied b middle.giveUp :=
  ⟨RingBuffer.reset_again emptied.queue, RingBuffer.reset_again emptied.captureQueue,
    RingBuffer.reset_again emptied.voiceQueue, rfl, rfl, rfl, rfl⟩

theorem Emptied.unpublishCapture (emptied : Emptied b middle) : Emptied b middle.unpublishCapture :=
  ⟨emptied.queue, RingBuffer.reset_again emptied.captureQueue, emptied.voiceQueue, emptied.voiceCredit,
    emptied.voicePrimed, emptied.audioWritten, emptied.account⟩

/-- The bridge has the parameters of a configuration that was accepted. -/
structure Adopted {hfp : Bool} (config : PcmConfig hfp) (b : Bridge) : Prop where
  hfp : b.hfp = hfp
  rate : b.rate = config.rate
  channels : b.channels = config.channels
  bits : b.bits = config.bits

theorem Adopted.configured {hfp : Bool} {config : PcmConfig hfp} (adopted : Adopted config b) :
    Configured b.setLimits := by
  obtain ⟨profile, rate, channels, bits⟩ := adopted
  have accepted := config.accepted
  rw [← rate, ← channels, ← bits, ← profile] at accepted
  refine ⟨?_, ?_⟩
  · change b.rate * b.channels * (b.bits / 8) / 10 ≤ queueSize
    rw [queueSize_eq]
    split at accepted
    · obtain ⟨width, mono, speed⟩ := accepted
      rcases speed with speed | speed <;> simp [width, mono, speed]
    · obtain ⟨width, layout, speed⟩ := accepted
      rcases width with width | width | width <;> rcases layout with layout | layout <;>
        rcases speed with speed | speed | speed | speed <;> simp [width, layout, speed]
  · intro voice
    change b.hfp = true at voice
    rw [if_pos voice] at accepted
    obtain ⟨width, mono, speed⟩ := accepted
    refine ⟨mono, width, speed, ?_⟩
    change b.rate * b.channels * (b.bits / 8) / 10 = b.rate * 2 / 10
    rw [mono, width, Nat.mul_one]

theorem failIf_quiet (b : Bridge) (reason : Option String) : Quiet b (b.failIf reason) := by
  cases reason with
  | none => exact .refl b
  | some reason => exact fail_quiet b reason

theorem configure_rings {hfp : Bool} (b : Bridge) (config : PcmConfig hfp) : SameRings b (b.configure config) :=
  ⟨⟨rfl, rfl, rfl, rfl⟩, ⟨rfl, rfl, rfl, rfl⟩, ⟨rfl, rfl, rfl, rfl, rfl, rfl⟩⟩

theorem setLimits_rings (b : Bridge) : SameRings b b.setLimits :=
  ⟨⟨rfl, rfl, rfl, rfl⟩, ⟨rfl, rfl, rfl, rfl⟩, ⟨rfl, rfl, rfl, rfl, rfl, rfl⟩⟩

theorem start_cases {hfp : Bool} (b : Bridge) (started : Started hfp) :
    ∃ next accepted, b.start started = (next, accepted) ∧ SameRings b next ∧ next.hfp = b.hfp ∧
      next.queueLimit = b.queueLimit ∧ (accepted = true → b.hfp = hfp → ∃ config : PcmConfig hfp, Adopted config next) := by
  cases started with
  | refused reason =>
    have quiet := failIf_quiet b reason
    exact ⟨_, false, rfl, quiet.sameRings, quiet.config.hfp, quiet.config.queueLimit, fun impossible => by cases impossible⟩
  | abandoned config reason =>
    have quiet := failIf_quiet (b.configure config) reason
    exact ⟨_, false, rfl, (configure_rings b config).trans quiet.sameRings, quiet.config.hfp, quiet.config.queueLimit,
      fun impossible => by cases impossible⟩
  | ready config =>
    exact ⟨b.configure config, true, rfl, configure_rings b config, rfl, rfl, fun _ profile => ⟨config, profile, rfl, rfl, rfl⟩⟩

/-- Empty rings under given settings, whatever the flags of the loop are. -/
def Prepared (b settings ready : Bridge) : Prop := Emptied b ready ∧ SameConfig settings ready

theorem Prepared.quiet {settings ready : Bridge} (prepared : Prepared b settings ready) (quiet : Quiet ready after) :
    Prepared b settings after :=
  ⟨prepared.1.same quiet.sameRings, prepared.2.trans quiet.config⟩

theorem flags_quiet (b : Bridge) (playback capture transitioning : Bool) :
    Quiet b { b with playbackFormatReady := playback, captureFormatReady := capture, transitioning } :=
  ⟨⟨rfl, rfl, rfl, rfl, rfl⟩, ⟨rfl, rfl, rfl, rfl⟩, ⟨rfl, rfl, rfl, rfl⟩, ⟨rfl, rfl, rfl, rfl, rfl, rfl⟩, id⟩

/-- An activation fails with empty rings, or ends by priming them. -/
theorem activate_cases (next : Bridge) (oldRate oldBits oldCaptureRate : Nat) (t : Transition) (emptied : Emptied b next) :
    ∃ ready, Prepared b next.setLimits ready ∧
      ((∃ reason, next.activate oldRate oldBits oldCaptureRate t = ready.fail reason) ∨
        next.activate oldRate oldBits oldCaptureRate t = { ready.prime t.flush with transitioning := false }) := by
  have limited : Emptied b next.setLimits := emptied.same (setLimits_rings next)
  have published : Prepared b next.setLimits (if t.unpublish then next.setLimits.unpublishCapture else next.setLimits) := by
    split
    · exact ⟨limited.unpublishCapture, rfl, rfl, rfl, rfl, rfl⟩
    · exact ⟨limited, .refl _⟩
  unfold activate
  dsimp only
  generalize (if t.unpublish = true then next.setLimits.unpublishCapture else next.setLimits) = ready at published ⊢
  split
  · exact ⟨_, published.quiet (flags_quiet ready _ _ _), .inl ⟨_, rfl⟩⟩
  · have renegotiated : ∀ playback capture : Prop, ∀ [Decidable playback] [Decidable capture], Prepared b next.setLimits
        (if capture then { if playback then { ready with playbackFormatReady := false } else ready with
            captureFormatReady := false } else if playback then { ready with playbackFormatReady := false } else ready) := by
      intro playback capture _ _
      split
      · split
        · exact published.quiet (flags_quiet ready _ _ _)
        · exact published.quiet (flags_quiet ready _ _ _)
      · split
        · exact published.quiet (flags_quiet ready _ _ _)
        · exact published
    split
    · exact ⟨_, (renegotiated _ _).quiet (flags_quiet _ _ _ _), .inl ⟨_, rfl⟩⟩
    · split
      · exact ⟨_, (renegotiated _ _).quiet (flags_quiet _ _ _ _), .inl ⟨_, rfl⟩⟩
      · exact ⟨_, renegotiated _ _, .inr rfl⟩

theorem leave_emptied (b : Bridge) (hfp : Bool) : Emptied b (b.leave hfp) := ⟨rfl, rfl, rfl, rfl, rfl, rfl, rfl⟩

/-- A transition empties the rings and then fails, or primes them under a
configuration that was accepted. -/
theorem transition_cases (b : Bridge) (t : Transition) (limit : b.queueLimit ≤ queueSize) :
    ∃ ready, Emptied b ready ∧ Configured ready ∧
      ((∃ reason, b.transition t = ready.fail reason) ∨
        b.transition t = { ready.prime t.flush with transitioning := false }) := by
  have activated : ∀ next, Emptied b next → (∃ hfp, ∃ config : PcmConfig hfp, Adopted config next) →
      ∃ ready, Emptied b ready ∧ Configured ready ∧
        ((∃ reason, next.activate b.rate b.bits b.captureRate t = ready.fail reason) ∨
          next.activate b.rate b.bits b.captureRate t = { ready.prime t.flush with transitioning := false }) := by
    intro next emptied adopted
    obtain ⟨hfp, config, adopted⟩ := adopted
    obtain ⟨ready, prepared, ends⟩ := activate_cases next b.rate b.bits b.captureRate t emptied
    exact ⟨ready, prepared.1, adopted.configured.same prepared.2, ends⟩
  have refused : ∀ next, Emptied b next → next.hfp = false → next.queueLimit = b.queueLimit →
      ∃ ready, Emptied b ready ∧ Configured ready ∧
        ((∃ reason, next.refuse = ready.fail reason) ∨ next.refuse = { ready.prime t.flush with transitioning := false }) := by
    intro next emptied music same
    have quiet := flags_quiet next next.playbackFormatReady next.captureFormatReady false
    have configured : Configured next := ⟨same ▸ limit, fun voice => by rw [music] at voice; cases voice⟩
    exact ⟨_, emptied.same quiet.sameRings, configured.same quiet.config, .inl ⟨_, rfl⟩⟩
  obtain ⟨next, accepted, started, rings, profile, limits, adopts⟩ := start_cases (b.leave t.hfp) t.first
  have emptied := (leave_emptied b t.hfp).same rings
  unfold transition
  rw [started]
  cases accepted with
  | true => exact activated next emptied ⟨t.hfp, adopts rfl rfl⟩
  | false =>
    cases t.fallback with
    | none => exact refused next.giveUp emptied.giveUp rfl limits
    | some second =>
      obtain ⟨last, again, restarted, kept, mode, bound, adopted⟩ := start_cases next.giveUp second
      have cleared := emptied.giveUp.same kept
      dsimp only
      rw [restarted]
      cases again with
      | true => exact activated last cleared ⟨false, adopted rfl rfl⟩
      | false => exact refused last cleared mode (bound.trans limits)

/-- The loop starts with primed rings. -/
theorem startup_cases {hfp : Bool} (config : PcmConfig hfp) (flush : List SendOutcome) :
    ∃ ready, Emptied { hfp } ready ∧ Configured ready ∧
      startup config flush = { ready.prime flush with starting := false } := by
  have emptied : Emptied { hfp } (configure { hfp } config).setLimits := ⟨rfl, rfl, rfl, rfl, rfl, rfl, rfl⟩
  have adopted : Adopted config (configure { hfp } config) := ⟨rfl, rfl, rfl, rfl⟩
  exact ⟨_, emptied, adopted.configured, rfl⟩

end FlossDesktop.Bridge
