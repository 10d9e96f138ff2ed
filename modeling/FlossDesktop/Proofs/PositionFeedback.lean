import FlossDesktop.Feedback
import FlossDesktop.Proofs.BridgeInvariant
import Mathlib.Data.Rat.Cast.Order

/-! Position feedback over whole runs. A lease accepts positions in order and never beyond
what was written to it, so the level is between what is queued here and what the consumer
was not seen to take. The next lease starts without any of it. -/

namespace FlossDesktop

open Bridge (Transition PcmConfig SendOutcome)

namespace Bridge

/-- Samples of some size at some rate. -/
structure Paced (b : Bridge) : Prop where
  rate : 0 < b.rate
  channels : 0 < b.channels
  bits : 8 ≤ b.bits

/-- The settings stay and no written byte is taken back. -/
structure Onward (b after : Bridge) : Prop where
  config : SameConfig b after
  written : b.audioWritten ≤ after.audioWritten

variable {b middle after : Bridge}

theorem Paced.same (paced : Paced b) (same : SameConfig b after) : Paced after :=
  ⟨same.rate ▸ paced.rate, same.channels ▸ paced.channels, same.bits ▸ paced.bits⟩

theorem configure_paced {hfp : Bool} (b : Bridge) (config : PcmConfig hfp) : Paced (b.configure config) := by
  have accepted := config.accepted
  have positive : 0 < config.rate ∧ 0 < config.channels ∧ 8 ≤ config.bits := by
    split at accepted <;> omega
  exact ⟨positive.1, positive.2.1, positive.2.2⟩

theorem start_paced {hfp : Bool} (paced : Paced b) (started : Started hfp) : Paced (b.start started).1 := by
  cases started with
  | refused reason => exact paced.same (failIf_quiet b reason).config
  | abandoned config reason => exact (configure_paced b config).same (failIf_quiet _ reason).config
  | ready config => exact configure_paced b config

/-- Every configuration that a transition can leave behind was accepted once. -/
theorem transition_paced (paced : Paced b) (t : Transition) : Paced (b.transition t) := by
  have activated : ∀ next, Emptied b next → Paced next → Paced (next.activate b.rate b.bits b.captureRate t) := by
    intro next emptied accepted
    obtain ⟨ready, prepared, ends⟩ := activate_cases next b.rate b.bits b.captureRate t emptied
    have limited : Paced next.setLimits := ⟨accepted.rate, accepted.channels, accepted.bits⟩
    have kept := limited.same prepared.2
    rcases ends with ⟨reason, same⟩ | same
    · rw [same]
      exact kept.same (fail_quiet ready reason).config
    · rw [same]
      have primed := kept.same (prime_config ready t.flush)
      exact ⟨primed.rate, primed.channels, primed.bits⟩
  have left : Paced (b.leave t.hfp) := ⟨paced.rate, paced.channels, paced.bits⟩
  have first := start_paced left t.first
  obtain ⟨next, accepted, started, rings, _⟩ := start_cases (b.leave t.hfp) t.first
  have emptied := (leave_emptied b t.hfp).same rings
  unfold transition
  rw [started] at first ⊢
  cases accepted with
  | true => exact activated next emptied first
  | false =>
    have stopped : Paced next.giveUp := ⟨first.rate, first.channels, first.bits⟩
    cases t.fallback with
    | none => exact ⟨stopped.rate, stopped.channels, stopped.bits⟩
    | some again =>
      have second := start_paced stopped again
      obtain ⟨last, accepted, restarted, kept, _⟩ := start_cases next.giveUp again
      dsimp only
      rw [restarted] at second ⊢
      cases accepted with
      | true => exact activated last (emptied.giveUp.same kept) second
      | false => exact ⟨second.rate, second.channels, second.bits⟩

theorem Onward.refl (b : Bridge) : Onward b b := ⟨.refl b, le_rfl⟩

theorem Onward.trans (first : Onward b middle) (last : Onward middle after) : Onward b after :=
  ⟨first.config.trans last.config, first.written.trans last.written⟩

theorem Quiet.onward (quiet : Quiet b after) : Onward b after := ⟨quiet.config, ge_of_eq quiet.output.audioWritten⟩

theorem flushAudio_onward (b : Bridge) (outcomes : List SendOutcome) : Onward b (b.flushAudio outcomes) := by
  induction outcomes generalizing b with
  | nil => exact .refl b
  | cons outcome rest ih =>
    rw [flushAudio]
    split
    · exact .refl b
    · cases outcome with
      | again => exact .refl b
      | failed => exact (fail_quiet b _).onward
      | sent n =>
        dsimp only
        split
        · exact (fail_quiet b _).onward
        · have sent : Onward b (b.transmitted (min b.queue.queued (queueSize - b.queue.readPos))
              (min n (min b.queue.queued (queueSize - b.queue.readPos)))) :=
            ⟨⟨rfl, rfl, rfl, rfl, rfl⟩, Nat.le_add_right _ _⟩
          exact sent.trans (ih _)

theorem prime_onward (b : Bridge) (flush : List SendOutcome) : Onward b (b.prime flush) := by
  have queued : Onward b (b.queueOutput (List.replicate b.primingBytes 0)).1 := by
    rw [queueOutput]
    split
    · exact (fail_quiet b _).onward
    · exact ⟨⟨rfl, rfl, rfl, rfl, rfl⟩, le_rfl⟩
  exact queued.trans (flushAudio_onward _ flush)

theorem queueMusic_onward (b : Bridge) (chunk : Chunk) (before after : List SendOutcome) :
    Onward b (b.queueMusic chunk before after) := by
  have flushed := flushAudio_onward b before
  unfold queueMusic
  dsimp only
  split
  · exact flushed
  · split
    · exact flushed
    · have queued : Onward (b.flushAudio before) ((b.flushAudio before).chunkQueued chunk) :=
        ⟨⟨rfl, rfl, rfl, rfl, rfl⟩, le_rfl⟩
      exact (flushed.trans queued).trans (flushAudio_onward _ after)

theorem process_onward (b : Bridge) (offer : Offer) (verdict : Verdict) (before after : List SendOutcome) :
    Onward b (b.process offer verdict before after) := by
  rcases process_cases b offer verdict before after with quiet | ⟨chunk, next, _, quiet, ⟨_, same⟩ | ⟨_, same⟩⟩
  · exact quiet.onward
  · rw [same]
    have queued : Onward next (next.queueVoice chunk) := by
      rw [queueVoice]
      split
      · exact .refl next
      · exact ⟨⟨rfl, rfl, rfl, rfl, rfl⟩, le_rfl⟩
    exact quiet.onward.trans queued
  · rw [same]
    exact quiet.onward.trans (queueMusic_onward next chunk before after)

theorem captureProcess_onward (b : Bridge) (request : Request) (verdict : Verdict) :
    Onward b (b.captureProcess request verdict).1 := by
  rcases captureProcess_cases b request verdict with same | ⟨next, copied, _, quiet, _, _, same⟩
  · rw [same]
    exact .refl b
  · rw [same]
    have handed : Onward next (next.handOver copied) := ⟨⟨rfl, rfl, rfl, rfl, rfl⟩, le_rfl⟩
    exact quiet.onward.trans handed

theorem stateChanged_onward (b : Bridge) (state : StreamState) (error : Option String) :
    Onward b (b.stateChanged state error) := by
  rcases stateChanged_cases b state error with quiet | quiet
  · exact quiet.onward
  · have stopped : Onward b b.stopPlayback := ⟨⟨rfl, rfl, rfl, rfl, rfl⟩, le_rfl⟩
    exact stopped.trans quiet.onward

theorem captureStateChanged_onward (b : Bridge) (state : StreamState) (error : Option String) :
    Onward b (b.captureStateChanged state error) := by
  rcases captureStateChanged_cases b state error with quiet | quiet
  · exact quiet.onward
  · have discarded : Onward b b.discardIdleCapture := ⟨(dropCapture_only b _).config, le_rfl⟩
    exact discarded.trans quiet.onward

/-- The microphone is read in the voice profile only. -/
theorem readCapture_config (b : Bridge) (receptions : List Reception) : SameConfig b (b.step (.readCapture receptions)) := by
  rw [step]
  split
  · refine @readCapture_preserves (SameConfig b) ?_ ?_ ?_ ?_ b (.refl b) queueSize receptions
    · intro next same
      exact same.trans (discardIfIdle_only next).config
    · intro next peek same
      exact same.trans (makeRoom_only next peek).config
    · intro next last same quiet
      exact same.trans quiet.config
    · intro next bytes before after same _
      exact same.trans ((received_only next bytes).config.trans
        (voicePlaybackCredit_keeps (next.received bytes) bytes.length before after).config)
  · exact .refl b

end Bridge

namespace Feedback

open Bridge

/-- Two accepted positions, the earlier one first. -/
def Before (earlier later : UInt64 × UInt64) : Prop := earlier.1 ≤ later.1 ∧ earlier.2 ≤ later.2

structure Sound (s : Feedback) : Prop where
  paced : Paced s.bridge
  music : s.positionCall = true ∨ s.positionValid = true → s.bridge.hfp = false
  known : s.positionValid = true → s.positionBytes.toNat ≤ s.bridge.audioWritten
  ordered : s.accepted.IsChain Before
  latest : s.accepted.getLast? = if s.positionValid then some (s.positionBytes, s.positionNs) else none

variable {s : Feedback}

/-- The feedback is left alone. -/
theorem Sound.kept {after : Bridge} (sound : Sound s) (config : SameConfig s.bridge after)
    (written : s.bridge.hfp = false → s.bridge.audioWritten ≤ after.audioWritten) : Sound { s with bridge := after } where
  paced := sound.paced.same config
  music := fun asked => config.hfp.trans (sound.music asked)
  known := fun valid => (sound.known valid).trans (written (sound.music (.inr valid)))
  ordered := sound.ordered
  latest := sound.latest

theorem Sound.onward {after : Bridge} (sound : Sound s) (onward : Onward s.bridge after) : Sound { s with bridge := after } :=
  sound.kept onward.config fun _ => onward.written

theorem Sound.fail (sound : Sound s) (reason : String) : Sound (s.fail reason) :=
  sound.onward (fail_quiet s.bridge reason).onward

/-- Neither the request's time nor the end of the request matters. -/
theorem Sound.called (sound : Sound s) {call : Bool} (positionRequestNs : UInt64) (ticks : Nat)
    (music : call = true → s.bridge.hfp = false) :
    Sound { s with positionCall := call, positionRequestNs, positionTicks := ticks } where
  paced := sound.paced
  music := fun asked => asked.elim music fun valid => sound.music (.inr valid)
  known := sound.known
  ordered := sound.ordered
  latest := sound.latest

/-- What an acceptable position is. -/
structure Acceptable (s : Feedback) (position : Position) : Prop where
  sec : 0 ≤ position.sec
  nsec : 0 ≤ position.nsec ∧ position.nsec < 1000000000
  fits : position.sec.toUInt64 ≤ (uint64Max - position.nsec.toUInt64) / 1000000000
  written : position.bytes.toNat ≤ s.bridge.audioWritten
  onward : s.positionValid = true → s.positionBytes ≤ position.bytes

theorem acceptable_cases {position : Position} {seen : Nat} (acceptable : s.acceptable position seen = true) :
    Acceptable s position := by
  unfold Feedback.acceptable at acceptable
  simp only [Bool.and_eq_true, Bool.not_eq_true', decide_eq_false_iff_not, Bool.and_eq_false_iff] at acceptable
  obtain ⟨⟨⟨⟨⟨⟨⟨_, _⟩, sec⟩, nsec⟩, below⟩, fits⟩, written⟩, onward⟩ := acceptable
  refine ⟨Int64.not_lt.mp sec, ⟨Int64.not_lt.mp nsec, Int64.not_le.mp below⟩, UInt64.not_lt.mp fits, not_lt.mp written, ?_⟩
  intro valid
  rcases onward with invalid | below
  · rw [valid] at invalid
    cases invalid
  · exact UInt64.not_lt.mp below

/-- The time of an acceptable position fits 64 bits: the division rounds down. -/
theorem Acceptable.stamp {position : Position} (acceptable : Acceptable s position) :
    (position.stamp.toNat : Int) = position.sec.toInt * 1000000000 + position.nsec.toInt := by
  have sec := Int64.le_iff_toInt_le.mp acceptable.sec
  have nsec := Int64.le_iff_toInt_le.mp acceptable.nsec.1
  have below := Int64.lt_iff_toInt_lt.mp acceptable.nsec.2
  have seconds : position.sec.toUInt64.toNat = position.sec.toInt.toNat := Int64.toNat_toUInt64_of_le acceptable.sec
  have rest : position.nsec.toUInt64.toNat = position.nsec.toInt.toNat := Int64.toNat_toUInt64_of_le acceptable.nsec.1
  have zero : (0 : Int64).toInt = 0 := rfl
  have billion : (1000000000 : Int64).toInt = 1000000000 := rfl
  rw [zero] at sec nsec
  rw [billion] at below
  have top : uint64Max.toNat = 18446744073709551615 := rfl
  have small : position.nsec.toUInt64 ≤ uint64Max := UInt64.le_iff_toNat_le.mpr (by omega)
  have fits := UInt64.le_iff_toNat_le.mp acceptable.fits
  have unit : (1000000000 : UInt64).toNat = 1000000000 := rfl
  rw [UInt64.toNat_div, UInt64.toNat_sub_of_le _ _ small, unit, top] at fits
  have product : position.sec.toUInt64.toNat * 1000000000 + position.nsec.toUInt64.toNat < 2 ^ 64 := by omega
  unfold Position.stamp
  rw [UInt64.toNat_add, UInt64.toNat_mul, unit]
  omega

/-- A position comes with no less consumed than the last, at no earlier time. -/
theorem Sound.accepted (sound : Sound s) {position : Position} {now : UInt64} (music : s.bridge.hfp = false)
    (acceptable : Acceptable s position)
    (timely : ¬ (position.stamp > now ∨ s.positionValid = true ∧ position.stamp < s.positionNs)) :
    Sound (s.positionAccepted position now) := by
  refine ⟨sound.paced, fun _ => music, fun _ => acceptable.written, ?_, List.getLast?_concat⟩
  apply sound.ordered.append (List.isChain_singleton _)
  intro earlier last later first
  have latest := sound.latest
  cases valid : s.positionValid with
  | false =>
    rw [valid, if_neg Bool.false_ne_true] at latest
    rw [latest] at last
    cases last
  | true =>
    rw [valid, if_pos rfl] at latest
    rw [latest] at last
    cases last
    cases first
    have noEarlier : ¬ position.stamp < s.positionNs := fun early => timely (.inr ⟨valid, early⟩)
    exact ⟨acceptable.onward valid, UInt64.not_lt.mp noEarlier⟩

theorem Sound.positionReceived (sound : Sound s) (music : s.bridge.hfp = false) (reply : Option Entries) (now : UInt64) :
    Sound (s.positionReceived reply now) := by
  have done : Sound { s with positionCall := false } := sound.called s.positionRequestNs s.positionTicks nofun
  unfold Feedback.positionReceived positionRead
  generalize reply.bind (readEntries ({}, 0)) = entries
  cases entries with
  | none => exact done.fail _
  | some read =>
    obtain ⟨position, seen⟩ := read
    dsimp only
    split_ifs with refused timely
    · exact done.fail _
    · exact done.fail _
    · exact done.accepted music (acceptable_cases (Bool.not_eq_false _ ▸ refused)) timely

theorem Sound.pollPosition (sound : Sound s) (music : s.bridge.hfp = false) (now : UInt64) (outcome : PollOutcome) :
    Sound (s.pollPosition now outcome) := by
  have asked : Sound { s with positionRequestNs := now } := sound.called now s.positionTicks fun _ => music
  unfold Feedback.pollPosition
  split_ifs
  · exact sound.fail _
  · exact sound
  · exact sound
  · cases outcome with
    | sent => exact sound.called now s.positionTicks fun _ => music
    | unallocated => exact asked.fail _
    | unsent => exact asked.fail _
    | unwatched => exact asked.fail _

theorem Sound.busTick (sound : Sound s) (now : UInt64) (outcome : PollOutcome) : Sound (s.busTick now outcome) := by
  have ticked : ∀ ticks, Sound { s with positionTicks := ticks } := fun ticks =>
    sound.called s.positionRequestNs ticks fun called => sound.music (.inl called)
  unfold Feedback.busTick
  split_ifs with idle
  · exact sound
  · have music : s.bridge.hfp = false := Bool.eq_false_iff.mpr fun voice => idle (.inl voice)
    exact (ticked 0).pollPosition music now outcome
  · exact ticked _

/-- Stopped feedback is sound for any transport. -/
theorem sound_stopped {after : Bridge} (paced : Paced after) (session : UInt64) :
    Sound { s.stopPosition with bridge := after, session } where
  paced := paced
  music := fun asked => by rcases asked with asked | asked <;> cases asked
  known := nofun
  ordered := List.isChain_nil
  latest := rfl

theorem Sound.step (sound : Sound s) (event : Event) : Sound (s.step event) := by
  cases event with
  | enter flush now outcome =>
    have primed : Sound { s with bridge := s.bridge.prime flush } := sound.onward (prime_onward s.bridge flush)
    have polled : Sound (if (s.bridge.prime flush).hfp then { s with bridge := s.bridge.prime flush }
        else { s with bridge := s.bridge.prime flush }.pollPosition now outcome) := by
      split
      · exact primed
      · next music => exact primed.pollPosition (Bool.eq_false_iff.mpr music) now outcome
    exact polled.onward ⟨⟨rfl, rfl, rfl, rfl, rfl⟩, le_rfl⟩
  | busTick now outcome => exact sound.busTick now outcome
  | positionReceived reply now =>
    rw [Feedback.step]
    split
    · next called => exact sound.positionReceived (sound.music (.inl called)) reply now
    · exact sound
  | process offer verdict before after now => exact sound.onward (process_onward ..)
  | readCapture receptions =>
    apply sound.kept (readCapture_config s.bridge receptions)
    intro music
    rw [Bridge.step, if_neg (by simp [music])]
  | flushAudio outcomes => exact sound.onward (flushAudio_onward ..)
  | captureProcess request verdict => exact sound.onward (captureProcess_onward ..)
  | stateChanged state error now =>
    have timed : Sound { s with positionProgressNs := if state ≠ .streaming then now else s.positionProgressNs } :=
      ⟨sound.paced, sound.music, sound.known, sound.ordered, sound.latest⟩
    exact timed.onward (stateChanged_onward ..)
  | captureStateChanged state error => exact sound.onward (captureStateChanged_onward ..)
  | formatReady playback capture => exact sound.onward (flags_quiet s.bridge playback capture s.bridge.transitioning).onward
  | disconnected => exact sound.fail _
  | stopTransport =>
    have paced : Paced s.bridge.stopTransport := ⟨sound.paced.rate, sound.paced.channels, sound.paced.bits⟩
    exact sound_stopped paced 0
  | transition t session => exact sound_stopped (transition_paced sound.paced t) session

theorem Sound.run (sound : Sound s) (events : List Event) : Sound (s.run events) := by
  unfold Feedback.run
  induction events generalizing s with
  | nil => exact sound
  | cons event rest ih => exact ih (sound.step event)

theorem sound_initial {hfp : Bool} (config : PcmConfig hfp) (session : UInt64) : Sound (initial config session) where
  paced := by
    have paced := configure_paced { hfp } config
    exact ⟨paced.rate, paced.channels, paced.bits⟩
  music := fun asked => by rcases asked with asked | asked <;> cases asked
  known := nofun
  ordered := List.isChain_nil
  latest := rfl

theorem bytesPerSecond_pos {b : Bridge} (paced : Paced b) : 0 < bytesPerSecond b := by
  have sample : 0 < b.bits / 8 := Nat.div_pos paced.bits (by decide)
  have rate : (0 : Rat) < b.rate := Nat.cast_pos.mpr paced.rate
  have channels : (0 : Rat) < b.channels := Nat.cast_pos.mpr paced.channels
  have width : (0 : Rat) < ((b.bits / 8 : Nat) : Rat) := Nat.cast_pos.mpr sample
  exact mul_pos (mul_pos rate channels) width

/-- What counts as consumed is between the reported and the written bytes, however far the
report is extrapolated. -/
theorem Sound.consumed (sound : Sound s) (valid : s.positionValid = true) (now : UInt64) :
    (s.positionBytes.toNat : Rat) ≤ s.consumed now ∧ s.consumed now ≤ s.bridge.audioWritten := by
  have known : (s.positionBytes.toNat : Rat) ≤ s.bridge.audioWritten := Nat.cast_le.mpr (sound.known valid)
  have positive := bytesPerSecond_pos sound.paced
  have extrapolated : (s.positionBytes.toNat : Rat) ≤
      if s.positionNs ≠ 0 ∧ now ≥ s.positionNs then
        s.positionBytes.toNat + (min (now - s.positionNs) extrapolationLimit).toNat / 1000000000 * bytesPerSecond s.bridge
      else s.positionBytes.toNat := by
    split
    · have more : (0 : Rat) ≤
          (min (now - s.positionNs) extrapolationLimit).toNat / 1000000000 * bytesPerSecond s.bridge := by positivity
      linarith
    · exact le_rfl
  unfold Feedback.consumed
  dsimp only
  generalize (if s.positionNs ≠ 0 ∧ now ≥ s.positionNs then
    s.positionBytes.toNat + (min (now - s.positionNs) extrapolationLimit).toNat / 1000000000 * bytesPerSecond s.bridge
    else (s.positionBytes.toNat : Rat)) = reached at extrapolated ⊢
  split
  · exact ⟨known, le_rfl⟩
  · next inside => exact ⟨extrapolated, not_lt.mp inside⟩

/-- A known level that is not stale. -/
structure Bounded (s : Feedback) (level : Rat) : Prop where
  below : s.bridge.queue.queued / bytesPerSecond s.bridge ≤ level
  above : level ≤ (s.bridge.queue.queued + s.bridge.audioWritten - s.positionBytes.toNat) / bytesPerSecond s.bridge
  nonneg : 0 ≤ level

theorem Sound.level (sound : Sound s) (valid : s.positionValid = true) (now : UInt64) :
    (∃ failure, s.levelFailure now = some failure ∧ s.playbackLevel now = (s.fail failure.reason, -1)) ∨
      s.levelFailure now = none ∧ (s.playbackLevel now).1 = s ∧ Bounded s (s.playbackLevel now).2 := by
  have music := sound.music (.inr valid)
  unfold playbackLevel
  rw [music, valid, if_neg Bool.false_ne_true, if_neg Bool.true_eq_false.mp]
  cases s.levelFailure now with
  | some failure => exact .inl ⟨failure, rfl, rfl⟩
  | none =>
    obtain ⟨reported, written⟩ := sound.consumed valid now
    have positive := bytesPerSecond_pos sound.paced
    have queued : (s.bridge.queue.queued : Rat) / bytesPerSecond s.bridge ≤
        (s.bridge.queue.queued + s.bridge.audioWritten - s.consumed now) / bytesPerSecond s.bridge := by
      apply div_le_div_of_nonneg_right _ positive.le
      linarith
    refine .inr ⟨rfl, rfl, queued, ?_, le_trans (by positivity) queued⟩
    apply div_le_div_of_nonneg_right _ positive.le
    linarith

/-- The level that decides about a buffer is the one computed here. -/
theorem playbackLevel_bridge (now : UInt64) (verdict : Verdict) :
    (s.playbackLevel now).1.bridge = s.bridge.playbackLevel { verdict with levelFailure := s.levelFailure now } := by
  unfold playbackLevel Bridge.playbackLevel
  cases voice : s.bridge.hfp with
  | true => rfl
  | false =>
    rw [if_neg Bool.false_ne_true]
    cases valid : s.positionValid with
    | false =>
      have unknown : s.levelFailure now = none := by simp [levelFailure, valid]
      rw [unknown]
      rfl
    | true =>
      rw [if_neg Bool.true_eq_false.mp]
      cases s.levelFailure now with
      | none => rfl
      | some failure => rfl

/-- The readings of the clock that outlive a lease. -/
structure Times where
  positionNs : UInt64
  positionReceivedNs : UInt64
  remoteDelayNs : UInt64
  positionProgressNs : UInt64
  positionRequestNs : UInt64

def withTimes (s : Feedback) (times : Times) : Feedback :=
  { s with
    positionNs := times.positionNs, positionReceivedNs := times.positionReceivedNs
    remoteDelayNs := times.remoteDelayNs, positionProgressNs := times.positionProgressNs
    positionRequestNs := times.positionRequestNs }

/-- The state without the times that nothing reads: those of a position when none is valid,
and that of a request when none is under way. -/
def forget (s : Feedback) : Feedback :=
  { s with
    positionNs := if s.positionValid then s.positionNs else 0
    positionReceivedNs := if s.positionValid then s.positionReceivedNs else 0
    remoteDelayNs := if s.positionValid then s.remoteDelayNs else 0
    positionProgressNs := if s.positionValid then s.positionProgressNs else 0
    positionRequestNs := if s.positionCall then s.positionRequestNs else 0 }

theorem forget_levelFailure (s : Feedback) (now : UInt64) : s.forget.levelFailure now = s.levelFailure now := by
  unfold levelFailure forget
  cases s.positionValid <;> simp

theorem forget_level (s : Feedback) (now : UInt64) : (s.forget.playbackLevel now).2 = (s.playbackLevel now).2 := by
  have stale := forget_levelFailure s now
  unfold playbackLevel
  rw [stale]
  cases valid : s.positionValid with
  | false =>
    change (if s.bridge.hfp then (s.forget, _) else if s.positionValid = false then _ else _ : Feedback × Rat).2 = _
    rw [valid, if_pos rfl, if_pos rfl]
    split <;> rfl
  | true =>
    have known : s.forget.consumed now = s.consumed now := by simp [Feedback.consumed, forget, valid]
    rw [known]
    change (if s.bridge.hfp then (s.forget, _) else if s.positionValid = false then _ else _ : Feedback × Rat).2 = _
    rw [valid, if_neg Bool.true_eq_false.mp, if_neg Bool.true_eq_false.mp]
    split
    · rfl
    · cases s.levelFailure now <;> rfl

theorem forget_forget (s : Feedback) : s.forget.forget = s.forget := by
  obtain ⟨_, _, call, _, _, _, _, valid, _, _, _, _⟩ := s
  cases valid <;> cases call <;> rfl

/-- What happens to the bridge alone is forgotten the same way. -/
theorem forget_kept (s : Feedback) (after : Bridge) :
    { s.forget with bridge := after }.forget = { s with bridge := after }.forget := by
  obtain ⟨_, _, call, _, _, _, _, valid, _, _, _, _⟩ := s
  cases valid <;> cases call <;> rfl

/-- The position that a reply is accepted for. -/
def judged (s : Feedback) (reply : Option Entries) (now : UInt64) : Option Position :=
  (reply.bind (readEntries ({}, 0))).bind fun (position, seen) =>
    if s.acceptable position seen = false ∨ position.stamp > now ∨ s.positionValid = true ∧ position.stamp < s.positionNs
    then none else some position

theorem positionReceived_judged (s : Feedback) (reply : Option Entries) (now : UInt64) :
    s.positionReceived reply now =
      match s.judged reply now with
      | none => { s with positionCall := false }.fail unavailable
      | some position => { s with positionCall := false }.positionAccepted position now := by
  unfold Feedback.positionReceived positionRead judged
  cases reply.bind (readEntries ({}, 0)) with
  | none => rfl
  | some read =>
    obtain ⟨position, seen⟩ := read
    change (if s.acceptable position seen = false then _ else _) = _
    rw [Option.bind_some]
    dsimp only
    by_cases refused : s.acceptable position seen = false
    · rw [if_pos refused, if_pos (.inl refused)]
    · rw [if_neg refused]
      by_cases late : position.stamp > now ∨ s.positionValid = true ∧ position.stamp < s.positionNs
      · rw [if_pos late, if_pos (.inr late)]
      · rw [if_neg late, if_neg (not_or.mpr ⟨refused, late⟩)]

theorem forget_judged (s : Feedback) (reply : Option Entries) (now : UInt64) : s.forget.judged reply now = s.judged reply now := by
  have timed : ∀ position : Position, s.forget.positionValid = true ∧ position.stamp < s.forget.positionNs ↔
      s.positionValid = true ∧ position.stamp < s.positionNs := by
    intro position
    apply and_congr_right
    intro valid
    change s.positionValid = true at valid
    rw [forget, if_pos valid]
  unfold judged
  simp only [timed]
  rfl

theorem forget_positionReceived (s : Feedback) (reply : Option Entries) (now : UInt64) :
    (s.forget.positionReceived reply now).forget = (s.positionReceived reply now).forget := by
  rw [positionReceived_judged, positionReceived_judged, forget_judged]
  generalize s.judged reply now = decision
  obtain ⟨_, _, call, _, _, _, _, valid, _, _, _, _⟩ := s
  cases decision with
  | none => cases valid <;> rfl
  | some position => cases valid <;> rfl

theorem forget_pollPosition (s : Feedback) (now : UInt64) (outcome : PollOutcome) :
    (s.forget.pollPosition now outcome).forget = (s.pollPosition now outcome).forget := by
  unfold Feedback.pollPosition
  cases called : s.positionCall with
  | true =>
    have asked : s.forget.positionCall = true := called
    have same : s.forget.positionRequestNs = s.positionRequestNs := if_pos called
    rw [if_pos asked, if_pos rfl, same]
    split
    · exact forget_kept s _
    · exact forget_forget s
  | false =>
    have idle : ¬ s.forget.positionCall = true := Bool.eq_false_iff.mp called
    rw [if_neg idle, if_neg Bool.false_ne_true]
    change (if s.session = 0 then _ else _ : Feedback).forget = _
    split
    · exact forget_forget s
    · obtain ⟨_, _, call, _, _, _, _, valid, _, _, _, _⟩ := s
      cases called
      cases outcome <;> cases valid <;> rfl

/-- One callback does not read them. -/
theorem forget_step (s : Feedback) (event : Event) : (s.forget.step event).forget = (s.step event).forget := by
  cases event with
  | enter flush now outcome =>
    have entered : ∀ left right : Feedback, left.forget = right.forget →
        { left with bridge := { left.bridge with starting := false } }.forget =
          { right with bridge := { right.bridge with starting := false } }.forget := by
      intro left right same
      change { left.forget with bridge := { left.forget.bridge with starting := false } } = _
      rw [same]
      rfl
    apply entered
    change (if (s.bridge.prime flush).hfp then { s.forget with bridge := s.bridge.prime flush }
        else { s.forget with bridge := s.bridge.prime flush }.pollPosition now outcome).forget =
        (if (s.bridge.prime flush).hfp then { s with bridge := s.bridge.prime flush }
          else { s with bridge := s.bridge.prime flush }.pollPosition now outcome).forget
    split
    · exact forget_kept s _
    · exact forget_pollPosition { s with bridge := s.bridge.prime flush } now outcome
  | busTick now outcome =>
    have ticked : ∀ ticks, { s.forget with positionTicks := ticks } = { s with positionTicks := ticks }.forget := fun _ => rfl
    rw [Feedback.step, Feedback.step, Feedback.busTick, Feedback.busTick, ticked, ticked]
    change (if s.bridge.hfp ∨ s.bridge.failed then _ else if s.positionTicks + 1 ≥ 5 then _ else _ : Feedback).forget = _
    split_ifs
    · exact forget_forget s
    · exact forget_pollPosition _ now outcome
    · exact forget_forget _
  | positionReceived reply now =>
    rw [Feedback.step, Feedback.step]
    change (if s.positionCall then _ else _ : Feedback).forget = _
    split
    · exact forget_positionReceived s reply now
    · exact forget_forget s
  | process offer verdict before after now =>
    have stale := forget_levelFailure s now
    change { s.forget with
      bridge := s.bridge.process offer { verdict with levelFailure := s.forget.levelFailure now } before after }.forget = _
    rw [stale]
    exact forget_kept s _
  | stateChanged state error now =>
    obtain ⟨_, _, call, _, _, _, _, valid, _, _, _, _⟩ := s
    cases valid <;> cases call <;> rfl
  | readCapture receptions => exact forget_kept s _
  | flushAudio outcomes => exact forget_kept s _
  | captureProcess request verdict => exact forget_kept s _
  | captureStateChanged state error => exact forget_kept s _
  | formatReady playback capture => exact forget_kept s _
  | disconnected => exact forget_kept s _
  | stopTransport => rfl
  | transition t session => rfl

/-- Runs that start alike stay alike. -/
theorem forget_run {s t : Feedback} (same : s.forget = t.forget) (events : List Event) :
    (s.run events).forget = (t.run events).forget := by
  unfold Feedback.run
  induction events generalizing s t with
  | nil => exact same
  | cons event rest ih =>
    apply ih
    rw [← forget_step s event, ← forget_step t event, same]

/-- Two bridges that nothing tells apart: they differ in times that are not read. -/
structure Alike (s t : Feedback) : Prop where
  bridge : s.bridge = t.bridge
  session : s.session = t.session
  call : s.positionCall = t.positionCall
  valid : s.positionValid = t.positionValid
  bytes : s.positionBytes = t.positionBytes
  accepted : s.accepted = t.accepted
  failure : ∀ now, s.levelFailure now = t.levelFailure now
  level : ∀ now, (s.playbackLevel now).2 = (t.playbackLevel now).2

theorem alike_of_forget {s t : Feedback} (same : s.forget = t.forget) : Alike s t where
  bridge := by
    change s.forget.bridge = t.forget.bridge
    rw [same]
  session := by
    change s.forget.session = t.forget.session
    rw [same]
  call := by
    change s.forget.positionCall = t.forget.positionCall
    rw [same]
  valid := by
    change s.forget.positionValid = t.forget.positionValid
    rw [same]
  bytes := by
    change s.forget.positionBytes = t.forget.positionBytes
    rw [same]
  accepted := by
    change s.forget.accepted = t.forget.accepted
    rw [same]
  failure := fun now => by rw [← forget_levelFailure s, ← forget_levelFailure t, same]
  level := fun now => by rw [← forget_level s, ← forget_level t, same]

/-- No position of this lease is left, and nothing is written in the next one yet. -/
structure Fresh (s : Feedback) : Prop where
  call : s.positionCall = false
  session : s.session = 0
  valid : s.positionValid = false
  bytes : s.positionBytes = 0
  ticks : s.positionTicks = 0
  accepted : s.accepted = []
  written : s.bridge.audioWritten = 0
  queued : s.bridge.queue.queued = 0

instance : Trans Before Before Before where
  trans first last := ⟨UInt64.le_trans first.1 last.1, UInt64.le_trans first.2 last.2⟩

/-- In every state of a run the time of an acceptable position is computed exactly, so it
fits 64 bits; the accepted positions of a lease are in order, the last of them is the
current one and is never beyond what was written; and the level is within its bounds unless
the feedback is found stale, which fails the bridge. A stopped transport leaves only
readings of the clock behind, and no run that follows depends on them. -/
theorem position_consistent {hfp : Bool} (config : PcmConfig hfp) (session : UInt64) (events : List Event) :
    let s := (initial config session).run events
    (∀ position seen, s.acceptable position seen = true →
      (position.stamp.toNat : Int) = position.sec.toInt * 1000000000 + position.nsec.toInt ∧
        position.sec.toInt * 1000000000 + position.nsec.toInt ≤ 18446744073709551615) ∧
    s.accepted.Pairwise Before ∧
    s.accepted.getLast? = (if s.positionValid then some (s.positionBytes, s.positionNs) else none) ∧
    (s.bridge.failed = false → s.positionValid = true →
      s.positionBytes.toNat ≤ s.bridge.audioWritten ∧
      ∀ now, (s.levelFailure now ≠ none ∧ (s.playbackLevel now).1.bridge.failed = true ∧ (s.playbackLevel now).2 = -1) ∨
        (s.levelFailure now = none ∧ (s.playbackLevel now).1 = s ∧ Bounded s (s.playbackLevel now).2)) ∧
    Fresh s.stopTransport ∧
    ∀ times later, Alike (s.stopTransport.run later) ((s.withTimes times).stopTransport.run later) ∧
      ∀ t session, Alike ((s.transition t session).run later) (((s.withTimes times).transition t session).run later) := by
  intro s
  have sound : Sound s := (sound_initial config session).run events
  refine ⟨?_, List.isChain_iff_pairwise.mp sound.ordered, sound.latest, ?_, ⟨rfl, rfl, rfl, rfl, rfl, rfl, rfl, rfl⟩, ?_⟩
  · intro position seen acceptable
    have exact_ := (acceptable_cases acceptable).stamp
    have small := position.stamp.toNat_lt
    exact ⟨exact_, by omega⟩
  · intro _ valid
    refine ⟨sound.known valid, fun now => ?_⟩
    rcases sound.level valid now with ⟨failure, stale, result⟩ | ⟨fresh, same, bounded⟩
    · left
      rw [stale, result]
      exact ⟨nofun, rfl, rfl⟩
    · exact .inr ⟨fresh, same, bounded⟩
  · intro times later
    have stopped : s.stopTransport.forget = (s.withTimes times).stopTransport.forget := rfl
    refine ⟨alike_of_forget (forget_run stopped later), fun t session => ?_⟩
    have changed : (s.transition t session).forget = ((s.withTimes times).transition t session).forget := rfl
    exact alike_of_forget (forget_run changed later)

/-- A stereo music transport. -/
def music : PcmConfig false := ⟨44100, 2, 16, by decide⟩

/-- A hundred bytes are written, and a position for ninety of them comes after a second. -/
def firstPosition : List Event :=
  [.enter [.sent 100] 0 .sent,
    .positionReceived (some [("valid", .boolean true), ("total_bytes_read", .uint64 90), ("data_position_sec", .int64 0),
      ("data_position_nsec", .int64 900000000), ("remote_delay_report_ns", .uint64 0)]) 1000000000]

def afterFirst : Feedback := (initial music 1).run firstPosition

theorem first_position_bounded :
    afterFirst.positionBytes.toNat ≤ afterFirst.bridge.audioWritten ∧
      Bounded afterFirst (afterFirst.playbackLevel 1000000000).2 := by
  have working : afterFirst.bridge.failed = false := by decide +kernel
  have valid : afterFirst.positionValid = true := by decide +kernel
  have fresh : afterFirst.levelFailure 1000000000 = none := by decide +kernel
  obtain ⟨_, _, _, consistent, _⟩ := position_consistent music 1 firstPosition
  rw [← afterFirst] at consistent
  obtain ⟨known, levels⟩ := consistent working valid
  rcases levels 1000000000 with ⟨stale, _⟩ | ⟨_, _, bounded⟩
  · exact absurd fresh stale
  · exact ⟨known, bounded⟩

/-- Three seconds later the feedback is stale and there is no level, although the bridge had
not failed and the position was valid. -/
theorem stalled_feedback_has_no_level :
    ¬ ∀ (config : PcmConfig false) (session : UInt64) (events : List Event) (now : UInt64),
      ((initial config session).run events).bridge.failed = false →
      ((initial config session).run events).positionValid = true →
      Bounded ((initial config session).run events) (((initial config session).run events).playbackLevel now).2 := by
  intro bounded
  have level := (bounded music 1 firstPosition 4000000000 (by decide +kernel) (by decide +kernel)).nonneg
  have unknown : (((initial music 1).run firstPosition).playbackLevel 4000000000).2 = -1 := by decide +kernel
  rw [unknown] at level
  exact absurd level (by decide)

end Feedback
end FlossDesktop
