import FlossDesktop.Proofs.BridgeInvariant
import FlossDesktop.Proofs.ChunkCopy

/-! The duplex clock of the voice profile. Every whole incoming sample is answered
by one outgoing sample: the next one of the playback ring once that was primed, else
silence. -/

namespace FlossDesktop.Bridge

open RingBuffer

/-- The samples of the graph among the pieces. -/
def playbackBytes (pieces : List Piece) : Bytes :=
  pieces.flatMap fun
    | .playback bytes => bytes
    | .silence _ => []

def creditBytes (pieces : List Piece) : Bytes := pieces.flatMap Piece.bytes

theorem playbackBytes_append (pieces : List Piece) (piece : Piece) :
    playbackBytes (pieces ++ [piece]) = playbackBytes pieces ++ playbackBytes [piece] :=
  List.flatMap_append

theorem creditBytes_append (pieces : List Piece) (piece : Piece) :
    creditBytes (pieces ++ [piece]) = creditBytes pieces ++ piece.bytes := by
  rw [creditBytes, List.flatMap_append, List.flatMap_singleton]
  rfl

/-- The playback ring as a stretch between two resets. -/
structure Stretch (ring : PcmRing) (limit target : Nat) (primed : Bool) (epoch : Epoch) : Prop where
  valid : ring.Valid
  bounded : ring.queued ≤ limit
  queue : epoch.played ++ ring.contents = epoch.offered
  level : ring.queued ≤ epoch.peak
  reached : primed = true → target ≤ epoch.peak
  used : epoch.played ≠ [] → primed = true

variable {ring : PcmRing} {limit target : Nat} {primed : Bool} {epoch : Epoch}

theorem Stretch.offer (stretch : Stretch ring limit target primed epoch) {after : PcmRing} {bytes : Bytes}
    (appended : Appended ring after bytes) (room : ring.queued + bytes.length ≤ limit) :
    Stretch after limit target primed
      { epoch with offered := epoch.offered ++ bytes, peak := max epoch.peak after.queued } where
  valid := appended.valid
  bounded := appended.queued ▸ room
  queue := by rw [appended.contents, ← List.append_assoc, stretch.queue]
  level := le_max_right _ _
  reached ready := le_trans (stretch.reached ready) (le_max_left _ _)
  used := stretch.used

/-- Using the front of a primed ring. -/
theorem Stretch.play (stretch : Stretch ring limit target true epoch) {count : Nat} (present : count ≤ ring.queued)
    (fits : count ≤ queueSize - ring.readPos) :
    Stretch ((ring.loaded ring.readPos count).advance count) limit target true
      { epoch with played := epoch.played ++ ring.load ring.readPos count } where
  valid := by
    have start := stretch.valid.readPos
    have loaded : (ring.loaded ring.readPos count).Valid := stretch.valid.loaded (by omega)
    exact loaded.advance present
  bounded := le_trans (Nat.sub_le _ _) stretch.bounded
  queue := by
    have rest := contents_advance (ring.loaded ring.readPos count) present
    rw [contents_loaded] at rest
    rw [load_front stretch.valid present fits, rest, List.append_assoc, List.take_append_drop]
    exact stretch.queue
  level := le_trans (Nat.sub_le _ _) stretch.level
  reached := stretch.reached
  used _ := rfl

theorem Stretch.reset (valid : ring.Valid) (limit target : Nat) : Stretch ring.reset limit target false {} :=
  ⟨valid.reset, Nat.zero_le _, rfl, Nat.zero_le _, fun ready => Bool.noConfusion ready, fun played => (played rfl).elim⟩

/-- A stretch that has ended: what was played is where it began, and nothing was
played before the ring had reached its target. -/
structure Ended (target : Nat) (epoch : Epoch) : Prop where
  order : epoch.played <+: epoch.offered
  reached : epoch.played ≠ [] → target ≤ epoch.peak

theorem Stretch.ended (stretch : Stretch ring limit target primed epoch) : Ended target epoch :=
  ⟨⟨_, stretch.queue⟩, fun played => stretch.reached (stretch.used played)⟩

/-- The voice side between two operations. -/
structure VoiceStream (b : Bridge) : Prop where
  stretch : Stretch b.voiceQueue b.queueLimit (targetBytes b.rate (b.channels * (b.bits / 8))) b.voicePrimed b.account.epoch
  past : ∀ epoch ∈ b.account.past, Ended (targetBytes b.rate (b.channels * (b.bits / 8))) epoch
  playback : playbackBytes b.account.credited = b.account.past.flatMap Epoch.played ++ b.account.epoch.played
  even : b.hfp = true → b.voiceQueue.queued % 2 = 0 ∧ b.voiceQueue.readPos % 2 = 0 ∧
    ∀ piece ∈ b.account.credited, piece.bytes.length % 2 = 0

variable {b after : Bridge}

theorem VoiceStream.same (stream : VoiceStream b) (config : SameConfig b after) (voice : SameVoice b after) :
    VoiceStream after := by
  obtain ⟨stretch, past, playback, even⟩ := stream
  rw [← voice.voiceQueue, ← config.queueLimit, ← config.rate, ← config.channels, ← config.bits, ← voice.voicePrimed,
    ← voice.epoch] at stretch
  rw [← voice.past, ← config.rate, ← config.channels, ← config.bits] at past
  rw [← voice.credited, ← voice.past, ← voice.epoch] at playback
  rw [← config.hfp, ← voice.voiceQueue, ← voice.credited] at even
  exact ⟨stretch, past, playback, even⟩

/-- The output of the voice profile is its priming and what the clock queued. -/
def VoiceOutput (b : Bridge) : Prop :=
  b.hfp = true → ∃ lead, b.account.accepted = List.replicate lead 0 ++ creditBytes b.account.credited

/-- The clock with `wanted` bytes still to be queued. -/
def Clock (b : Bridge) (heard wanted : Nat) : Prop :=
  b.hfp = true → b.failed = false →
    b.voiceCredit = heard % 2 ∧ (creditBytes b.account.credited).length + wanted = heard / 2 * 2

structure Playing (b : Bridge) (heard wanted : Nat) : Prop where
  stream : VoiceStream b
  output : VoiceOutput b
  clock : Clock b heard wanted

theorem stays_working (sticky : b.failed = true → after.failed = true) (working : after.failed = false) :
    b.failed = false := by
  cases failed : b.failed with
  | false => rfl
  | true =>
    rw [sticky failed] at working
    cases working

theorem Playing.same {heard wanted : Nat} (playing : Playing b heard wanted) (config : SameConfig b after)
    (voice : SameVoice b after) (accepted : after.account.accepted = b.account.accepted)
    (sticky : b.failed = true → after.failed = true) : Playing after heard wanted := by
  refine ⟨playing.stream.same config voice, ?_, ?_⟩
  · intro profile
    rw [accepted, voice.credited]
    exact playing.output (config.hfp ▸ profile)
  · intro profile working
    rw [voice.voiceCredit, voice.credited]
    exact playing.clock (config.hfp ▸ profile) (stays_working sticky working)

theorem Playing.quiet {heard wanted : Nat} (playing : Playing b heard wanted) (quiet : Quiet b after) :
    Playing after heard wanted :=
  playing.same quiet.config quiet.voice quiet.output.accepted quiet.failed

/-- A failed bridge owes nothing more. -/
theorem Playing.failed {heard wanted : Nat} (playing : Playing b heard wanted) (failed : b.failed = true) (left : Nat) :
    Playing b heard left := by
  refine ⟨playing.stream, playing.output, ?_⟩
  intro _ working
  rw [failed] at working
  cases working

theorem flushAudio_accepted (b : Bridge) (outcomes : List SendOutcome) :
    (b.flushAudio outcomes).account.accepted = b.account.accepted := by
  induction outcomes generalizing b with
  | nil => rfl
  | cons outcome rest ih =>
    rw [flushAudio]
    split
    · rfl
    · cases outcome with
      | again => rfl
      | failed => rfl
      | sent n =>
        dsimp only
        split
        · rfl
        · exact ih _

theorem Playing.flushAudio {heard wanted : Nat} (playing : Playing b heard wanted) (outcomes : List SendOutcome) :
    Playing (b.flushAudio outcomes) heard wanted := by
  have only := flushAudio_only b outcomes
  exact playing.same only.config only.voice (flushAudio_accepted b outcomes) only.failed

theorem voiceWanted_even (b : Bridge) (incoming : Nat) : b.voiceWanted incoming % 2 = 0 := even_of_stride _ _

theorem Playing.takeCredit {heard : Nat} (configured : Configured b) (playing : Playing b heard 0) (incoming : Nat) :
    Playing (b.takeCredit incoming) (heard + incoming) (b.voiceWanted incoming) := by
  have stream := playing.stream
  refine ⟨⟨stream.stretch, stream.past, stream.playback, stream.even⟩, playing.output, ?_⟩
  intro profile working
  obtain ⟨mono, _, _, _⟩ := configured.voice profile
  obtain ⟨credit, counted⟩ := playing.clock profile working
  have wanted : b.voiceWanted incoming = b.voiceCredit + incoming - (b.voiceCredit + incoming) % 2 := by
    rw [voiceWanted, mono]
  change b.voiceCredit + incoming - b.voiceWanted incoming = _ ∧
    (creditBytes b.account.credited).length + b.voiceWanted incoming = _
  rw [wanted]
  omega

theorem Playing.primeVoice {heard wanted : Nat} (playing : Playing b heard wanted) : Playing b.primeVoice heard wanted := by
  rw [Bridge.primeVoice]
  split
  next ready =>
    obtain ⟨⟨stretch, past, playback, even⟩, output, clock⟩ := playing
    have primed : Stretch b.voiceQueue b.queueLimit (targetBytes b.rate (b.channels * (b.bits / 8))) true b.account.epoch :=
      ⟨stretch.valid, stretch.bounded, stretch.queue, stretch.level, fun _ => le_trans ready.2 stretch.level, fun _ => rfl⟩
    exact ⟨⟨primed, past, playback, even⟩, output, clock⟩
  next => exact playing

theorem queued_config (b : Bridge) (piece : Piece) : SameConfig b ((b.outputQueued piece.bytes).pieceQueued piece) :=
  (outputQueued_only b piece.bytes).config.trans (pieceQueued_keeps _ piece).config

theorem pieceQueued_credited (b : Bridge) (piece : Piece) :
    (b.pieceQueued piece).account.credited = b.account.credited ++ [piece] := rfl

theorem queued_credited (b : Bridge) (piece : Piece) :
    ((b.outputQueued piece.bytes).pieceQueued piece).account.credited = b.account.credited ++ [piece] := by
  rw [pieceQueued_credited]
  rfl

/-- A piece that was accepted is counted and stands at the end of the output. -/
theorem counted_piece {heard wanted : Nat} (playing : Playing b heard wanted) (piece : Piece)
    (part : piece.bytes.length ≤ wanted) :
    VoiceOutput ((b.outputQueued piece.bytes).pieceQueued piece) ∧
      Clock ((b.outputQueued piece.bytes).pieceQueued piece) heard (wanted - piece.bytes.length) := by
  refine ⟨?_, ?_⟩
  · intro profile
    obtain ⟨lead, accepted⟩ := playing.output profile
    refine ⟨lead, ?_⟩
    change b.account.accepted ++ piece.bytes = List.replicate lead 0 ++ creditBytes (b.account.credited ++ [piece])
    rw [creditBytes_append, accepted, List.append_assoc]
  · intro profile working
    obtain ⟨credit, counted⟩ := playing.clock profile working
    refine ⟨credit, ?_⟩
    change (creditBytes (b.account.credited ++ [piece])).length + _ = _
    rw [creditBytes_append, List.length_append]
    omega

theorem wrap_even {position : Nat} (even : position % 2 = 0) : position % queueSize % 2 = 0 := by
  rw [queueSize_eq]
  omega

/-- The piece has been counted and now leaves the playback ring. -/
theorem voiceUsed_stream {next : Bridge} {count : Nat} (config : SameConfig b next) (stream : VoiceStream b)
    (primed : b.voicePrimed = true) (queue : next.voiceQueue = b.voiceQueue) (ready : next.voicePrimed = b.voicePrimed)
    (past : next.account.past = b.account.past) (epoch : next.account.epoch = b.account.epoch)
    (credited : next.account.credited = b.account.credited ++ [.playback (b.voiceQueue.load b.voiceQueue.readPos count)])
    (even : count % 2 = 0) (present : count ≤ b.voiceQueue.queued) (fits : count ≤ queueSize - b.voiceQueue.readPos) :
    VoiceStream (next.voiceUsed (b.voiceQueue.load b.voiceQueue.readPos count)) := by
  have length : (b.voiceQueue.load b.voiceQueue.readPos count).length = count := by
    rw [load, List.length_map, List.length_range]
  obtain ⟨stretch, ended, playback, whole⟩ := stream
  have played := (primed ▸ stretch).play present fits
  generalize b.voiceQueue.load b.voiceQueue.readPos count = bytes at credited length played ⊢
  refine ⟨?_, ?_, ?_, ?_⟩
  · change Stretch ((next.voiceQueue.loaded next.voiceQueue.readPos bytes.length).advance bytes.length) next.queueLimit
      (targetBytes next.rate (next.channels * (next.bits / 8))) next.voicePrimed
      { next.account.epoch with played := next.account.epoch.played ++ bytes }
    rw [config.rate, config.channels, config.bits, config.queueLimit, queue, ready, primed, epoch, length]
    exact played
  · change ∀ epoch ∈ next.account.past, Ended (targetBytes next.rate (next.channels * (next.bits / 8))) epoch
    rw [config.rate, config.channels, config.bits, past]
    exact ended
  · change playbackBytes next.account.credited = next.account.past.flatMap Epoch.played ++ (next.account.epoch.played ++ bytes)
    rw [credited, past, epoch, playbackBytes_append, playback, List.append_assoc]
    congr 2
    exact List.append_nil bytes
  · intro profile
    obtain ⟨queued, position, pieces⟩ := whole (config.hfp ▸ profile)
    refine ⟨?_, ?_, ?_⟩
    · change (next.voiceQueue.queued - bytes.length) % 2 = 0
      rw [queue]
      omega
    · change (next.voiceQueue.readPos + bytes.length) % queueSize % 2 = 0
      rw [queue]
      exact wrap_even (by omega)
    · intro piece member
      change piece ∈ next.account.credited at member
      rw [credited] at member
      rcases List.mem_append.mp member with old | new
      · exact pieces piece old
      · rw [List.mem_singleton.mp new]
        change bytes.length % 2 = 0
        omega

/-- One copy from the playback ring to the output. -/
theorem Playing.play {heard wanted count : Nat} (playing : Playing b heard wanted) (primed : b.voicePrimed = true)
    (even : count % 2 = 0) (part : count ≤ wanted) (present : count ≤ b.voiceQueue.queued)
    (fits : count ≤ queueSize - b.voiceQueue.readPos) :
    Playing (((b.outputQueued (Piece.playback (b.voiceQueue.load b.voiceQueue.readPos count)).bytes).pieceQueued
      (.playback (b.voiceQueue.load b.voiceQueue.readPos count))).voiceUsed
        (b.voiceQueue.load b.voiceQueue.readPos count)) heard (wanted - count) := by
  have length : (b.voiceQueue.load b.voiceQueue.readPos count).length = count := by
    rw [load, List.length_map, List.length_range]
  have counted := counted_piece playing (.playback (b.voiceQueue.load b.voiceQueue.readPos count)) (length.symm ▸ part)
  rw [show (Piece.playback (b.voiceQueue.load b.voiceQueue.readPos count)).bytes.length = count from length] at counted
  refine ⟨?_, counted.1, counted.2⟩
  exact voiceUsed_stream (queued_config b _) playing.stream primed rfl rfl rfl rfl (queued_credited b _) even present fits

/-- The loop leaves an even number of bytes to the silence; a refused piece has
failed the bridge. -/
theorem Playing.playVoice {heard wanted : Nat} (playing : Playing b heard wanted) (profile : b.hfp = true)
    (even : wanted % 2 = 0) (fuel : Nat) :
    Playing (b.playVoice wanted fuel).1 heard ((b.playVoice wanted fuel).2.getD 0) ∧
      (b.playVoice wanted fuel).2.getD 0 % 2 = 0 := by
  induction fuel generalizing b wanted with
  | zero => exact ⟨playing, even⟩
  | succ fuel ih =>
    rcases playVoice_succ b wanted fuel with ⟨_, same⟩ | ⟨_, primed, _, _, count, counted, next, accepted, queued, same⟩
    · rw [same]
      exact ⟨playing, even⟩
    · obtain ⟨level, position, _⟩ := playing.stream.even profile
      have size := queueSize_eq
      have whole : count % 2 = 0 := by omega
      rcases queuePiece_cases b (.playback (b.voiceQueue.load b.voiceQueue.readPos count)) with ⟨reason, refused⟩ | taken
      · rw [refused] at queued
        obtain ⟨rfl, rfl⟩ := Prod.mk.inj queued
        rw [same]
        exact ⟨(playing.quiet (fail_quiet b reason)).failed rfl 0, rfl⟩
      · rw [taken] at queued
        obtain ⟨rfl, rfl⟩ := Prod.mk.inj queued
        rw [same, if_pos rfl]
        apply ih
        · exact playing.play primed whole (by omega) (by omega) (by omega)
        · exact ((queued_config b _).trans (voiceUsed_keeps _ _).config).hfp.trans profile
        · omega

theorem Playing.queueSilence {heard wanted : Nat} (playing : Playing b heard wanted) (even : wanted % 2 = 0) :
    Playing (b.queueSilence wanted) heard 0 := by
  rw [Bridge.queueSilence]
  split
  next =>
    rcases queuePiece_cases b (.silence wanted) with ⟨reason, same⟩ | same
    · rw [same]
      exact (playing.quiet (fail_quiet b reason)).failed rfl 0
    · have length : (Piece.silence wanted).bytes.length = wanted := List.length_replicate
      have counted := counted_piece playing (.silence wanted) (le_of_eq length)
      obtain ⟨stretch, past, playback, whole⟩ := playing.stream
      rw [same]
      refine ⟨⟨stretch, past, ?_, ?_⟩, counted.1, ?_⟩
      · rw [queued_credited, playbackBytes_append, playback]
        exact List.append_nil _
      · intro profile
        obtain ⟨queued, position, pieces⟩ := whole profile
        refine ⟨queued, position, ?_⟩
        intro piece member
        rcases List.mem_append.mp member with old | new
        · exact pieces piece old
        · rw [List.mem_singleton.mp new, length]
          exact even
      · have clock := counted.2
        rw [length, Nat.sub_self] at clock
        exact clock
  next idle =>
    cases failed : b.failed with
    | true => exact playing.failed failed 0
    | false =>
      have done : wanted = 0 := by
        by_contra left
        exact idle ⟨left, failed⟩
      exact done ▸ playing

/-- A credit call brings the output up to the bytes heard so far. -/
theorem Playing.voicePlaybackCredit {heard : Nat} (configured : Configured b) (playing : Playing b heard 0)
    (profile : b.hfp = true) (incoming : Nat) (before after : List SendOutcome) :
    Playing (b.voicePlaybackCredit incoming before after) (heard + incoming) 0 := by
  obtain ⟨last, left, loop, ends⟩ := voicePlaybackCredit_cases b incoming before after
  have ready := ((playing.takeCredit configured incoming).flushAudio before).primeVoice
  have config := ((takeCredit_keeps b incoming).config.trans (flushAudio_only _ before).config).trans
    (primeVoice_keeps _).config
  have played := ready.playVoice (config.hfp.trans profile) (voiceWanted_even b incoming) (b.voiceWanted incoming)
  rw [loop] at played
  rcases ends with ⟨none, same⟩ | ⟨wanted, some, same⟩
  · rw [same]
    subst none
    exact played.1
  · rw [same]
    subst some
    exact (played.1.queueSilence played.2).flushAudio after

/-- Between two operations all bytes heard are answered. -/
def VoiceKept (b : Bridge) : Prop := Playing b b.account.incoming.length 0

theorem VoiceKept.same (kept : VoiceKept b) (config : SameConfig b after) (voice : SameVoice b after)
    (accepted : after.account.accepted = b.account.accepted)
    (incoming : after.account.incoming = b.account.incoming) (sticky : b.failed = true → after.failed = true) :
    VoiceKept after := by
  unfold VoiceKept
  rw [incoming]
  exact Playing.same kept config voice accepted sticky

theorem VoiceKept.queueVoice (configured : Configured b) (kept : VoiceKept b) {chunk : Chunk} (even : chunk.size % 2 = 0) :
    VoiceKept (b.queueVoice chunk) := by
  obtain ⟨⟨stretch, past, playback, whole⟩, output, clock⟩ := kept
  rw [Bridge.queueVoice, sizeSub_eq stretch.bounded]
  split
  · exact ⟨⟨stretch, past, playback, whole⟩, output, clock⟩
  · have bounded := stretch.bounded
    have limit := configured.limit
    have length : chunk.bytes.length = chunk.size := spanBytes_length _ _ _ _ _
    have appended := copyInto_appended stretch.valid chunk (by omega)
    refine ⟨⟨stretch.offer appended (by omega), past, playback, ?_⟩, output, clock⟩
    intro profile
    obtain ⟨queued, position, pieces⟩ := whole profile
    refine ⟨?_, ?_, pieces⟩
    · change (copyInto b.voiceQueue chunk).queued % 2 = 0
      rw [appended.queued, length]
      omega
    · change (copyInto b.voiceQueue chunk).readPos % 2 = 0
      rw [appended.readPos]
      exact position

/-- The music profile has no clock. -/
theorem VoiceKept.queueMusic (kept : VoiceKept b) (music : b.hfp = false) (chunk : Chunk)
    (before after : List SendOutcome) : VoiceKept (b.queueMusic chunk before after) := by
  have only := queueMusic_only b chunk before after
  have silent : (b.queueMusic chunk before after).hfp = true → False := by
    intro profile
    rw [only.config.hfp, music] at profile
    cases profile
  exact ⟨kept.stream.same only.config only.voice, fun profile => (silent profile).elim, fun profile => (silent profile).elim⟩

theorem VoiceKept.stopPlayback (kept : VoiceKept b) : VoiceKept b.stopPlayback := by
  obtain ⟨⟨stretch, past, playback, whole⟩, output, clock⟩ := kept
  refine ⟨⟨Stretch.reset stretch.valid _ _, ?_, ?_, ?_⟩, output, clock⟩
  · intro epoch member
    rcases List.mem_append.mp member with old | new
    · exact past epoch old
    · rw [List.mem_singleton.mp new]
      exact stretch.ended
  · change playbackBytes b.account.credited = (b.account.past ++ [b.account.epoch]).flatMap Epoch.played ++ []
    rw [playback, List.flatMap_append, List.flatMap_singleton, List.append_nil]
  · intro profile
    exact ⟨rfl, rfl, (whole profile).2.2⟩

theorem VoiceKept.emptied {ready : Bridge} (kept : VoiceKept b) (emptied : Emptied b ready) : VoiceKept ready := by
  have account := emptied.account
  have stretch := Stretch.reset kept.stream.stretch.valid ready.queueLimit
    (targetBytes ready.rate (ready.channels * (ready.bits / 8)))
  rw [← emptied.voiceQueue, ← emptied.voicePrimed] at stretch
  refine ⟨⟨?_, ?_, ?_, ?_⟩, ?_, ?_⟩
  · rw [account]
    exact stretch
  · rw [account]
    intro epoch member
    cases member
  · rw [account]
    rfl
  · intro _
    rw [account, emptied.voiceQueue]
    refine ⟨rfl, rfl, ?_⟩
    intro piece member
    cases member
  · intro _
    rw [account]
    exact ⟨0, rfl⟩
  · intro _ _
    rw [account, emptied.voiceCredit]
    exact ⟨rfl, rfl⟩

/-- Priming puts silence before everything the clock queues. -/
theorem VoiceKept.prime (kept : VoiceKept b) (fresh : b.account = {}) (flush : List SendOutcome) : VoiceKept (b.prime flush) := by
  have queued : VoiceKept (b.queueOutput (List.replicate b.primingBytes 0)).1 := by
    unfold Bridge.queueOutput
    split
    · exact kept.quiet (fail_quiet b _)
    · refine ⟨kept.stream.same (outputQueued_only b _).config (outputQueued_only b _).voice, ?_, kept.clock⟩
      intro _
      change ∃ lead, b.account.accepted ++ List.replicate b.primingBytes 0 =
        List.replicate lead 0 ++ creditBytes b.account.credited
      rw [fresh]
      exact ⟨b.primingBytes, (List.append_nil _).symm⟩
  have only := flushAudio_only (b.queueOutput (List.replicate b.primingBytes 0)).1 flush
  exact queued.same only.config only.voice (flushAudio_accepted _ flush) only.microphone.incoming only.failed

theorem voiceKept_maintained : Maintained VoiceKept where
  quiet kept quiet := kept.same quiet.config quiet.voice quiet.output.accepted quiet.microphone.incoming quiet.failed
  flushAudio {b} outcomes kept := by
    have only := flushAudio_only b outcomes
    exact kept.same only.config only.voice (flushAudio_accepted b outcomes) only.microphone.incoming only.failed
  queueVoice configured kept _ even := kept.queueVoice configured even
  queueMusic before after _ kept music := kept.queueMusic music _ before after
  dropCapture {b count} kept _ _ := by
    have only := dropCapture_only b count
    exact kept.same only.config only.voice only.output.accepted rfl only.failed
  credit {b bytes} before after configured kept profile _ := by
    have only := received_only b bytes
    have received : Playing (b.received bytes) b.account.incoming.length 0 :=
      Playing.same kept only.config only.voice only.output.accepted only.failed
    have credited := received.voicePlaybackCredit (configured.same only.config) (only.config.hfp.trans profile)
      bytes.length before after
    have keeps := voicePlaybackCredit_keeps (b.received bytes) bytes.length before after
    unfold VoiceKept
    rw [keeps.microphone.incoming]
    change Playing _ (b.account.incoming ++ bytes).length 0
    rw [List.length_append]
    exact credited
  handOver kept _ _ := kept.same ⟨rfl, rfl, rfl, rfl, rfl⟩ ⟨rfl, rfl, rfl, rfl, rfl, rfl⟩ rfl rfl id
  stopPlayback kept := kept.stopPlayback
  emptied kept emptied := kept.emptied emptied
  prime flush _ kept fresh := kept.prime fresh flush

theorem voiceKept_initial (hfp : Bool) : VoiceKept { hfp } := by
  have stretch : Stretch { memory := fun _ => 0 } 0 (targetBytes 0 (2 * (0 / 8))) false {} :=
    ⟨⟨queueSize_pos, Nat.zero_le _, rfl⟩, le_rfl, rfl, le_rfl, fun ready => Bool.noConfusion ready,
      fun played => (played rfl).elim⟩
  refine ⟨⟨stretch, ?_, rfl, ?_⟩, fun _ => ⟨0, rfl⟩, fun _ _ => ⟨rfl, show 0 + 0 = 0 / 2 * 2 from rfl⟩⟩
  · intro epoch member
    cases member
  · intro _
    refine ⟨rfl, rfl, ?_⟩
    intro piece member
    cases member

/-- The loop over the playback ring ends by its own condition, never for want of turns. -/
theorem playVoice_exhausts {heard wanted fuel : Nat} (playing : Playing b heard wanted) (profile : b.hfp = true)
    (even : wanted % 2 = 0) (enough : wanted ≤ fuel) {last : Bridge} {left : Nat}
    (ended : b.playVoice wanted fuel = (last, some left)) :
    left = 0 ∨ last.voicePrimed = false ∨ last.voiceQueue.queued = 0 ∨ last.failed = true := by
  induction fuel generalizing b wanted with
  | zero =>
    obtain ⟨_, same⟩ := Prod.mk.inj ended
    injection same with same
    left
    omega
  | succ fuel ih =>
    rcases playVoice_succ b wanted fuel with ⟨stop, same⟩ | ⟨some_, primed, level, _, count, counted, next, accepted, queued, same⟩
    · rw [same] at ended
      obtain ⟨rfl, remains⟩ := Prod.mk.inj ended
      injection remains with remains
      exact remains ▸ stop
    · obtain ⟨levels, position, _⟩ := playing.stream.even profile
      have start := playing.stream.stretch.valid.readPos
      have size := queueSize_eq
      have whole : count % 2 = 0 := by omega
      rcases queuePiece_cases b (.playback (b.voiceQueue.load b.voiceQueue.readPos count)) with ⟨reason, refused⟩ | taken
      · rw [refused] at queued
        obtain ⟨rfl, rfl⟩ := Prod.mk.inj queued
        rw [same] at ended
        cases (Prod.mk.inj ended).2
      · rw [taken] at queued
        obtain ⟨rfl, rfl⟩ := Prod.mk.inj queued
        rw [same, if_pos rfl] at ended
        refine ih ?_ ?_ ?_ ?_ ended
        · exact playing.play primed whole (by omega) (by omega) (by omega)
        · exact ((queued_config b _).trans (voiceUsed_keeps _ _).config).hfp.trans profile
        · omega
        · omega

/-- In every state of a run in which the voice transport has not failed, the clock
has answered every whole incoming sample and holds the rest as credit. Its output,
behind the priming, is silence in whole samples and the graph's bytes in order: of
each stretch between two playback resets a beginning, of the current one all that is
not still queued. Nothing of a stretch is played before its ring reached the target. -/
theorem voice_clock_exact {hfp : Bool} (config : PcmConfig hfp) (flush : List SendOutcome) (steps : List Step) :
    let b := (startup config flush).run steps
    b.hfp = true → b.failed = false →
      (creditBytes b.account.credited).length = b.account.incoming.length / 2 * 2 ∧
      b.voiceCredit = b.account.incoming.length % 2 ∧
      b.voiceQueue.queued % 2 = 0 ∧ b.voiceQueue.readPos % 2 = 0 ∧
      (∃ lead, b.account.accepted = List.replicate lead 0 ++ creditBytes b.account.credited) ∧
      (∀ piece ∈ b.account.credited, piece.bytes.length % 2 = 0) ∧
      playbackBytes b.account.credited = (b.account.past ++ [b.account.epoch]).flatMap Epoch.played ∧
      (∀ epoch ∈ b.account.past, epoch.played <+: epoch.offered) ∧
      b.account.epoch.played ++ b.voiceQueue.contents = b.account.epoch.offered ∧
      ∀ epoch ∈ b.account.past ++ [b.account.epoch], epoch.played ≠ [] → targetBytes b.rate 2 ≤ epoch.peak := by
  intro b profile working
  obtain ⟨configured, kept⟩ := voiceKept_maintained.run voiceKept_initial config flush steps
  obtain ⟨stretch, past, playback, whole⟩ := kept.stream
  obtain ⟨queued, position, pieces⟩ := whole profile
  obtain ⟨credit, counted⟩ := kept.clock profile working
  obtain ⟨mono, width, _, _⟩ := configured.voice profile
  have target : targetBytes b.rate (b.channels * (b.bits / 8)) = targetBytes b.rate 2 := by
    change targetBytes b.rate (b.channels * (b.bits / 8)) = targetBytes b.rate (1 * (16 / 8))
    rw [← mono, ← width]
  refine ⟨counted, credit, queued, position, kept.output profile, pieces, ?_, fun epoch member => (past epoch member).order,
    stretch.queue, ?_⟩
  · rw [List.flatMap_append, List.flatMap_singleton]
    exact playback
  · intro epoch member played
    rcases List.mem_append.mp member with old | current
    · exact target ▸ (past epoch old).reached played
    · rw [List.mem_singleton.mp current] at played ⊢
      exact target ▸ stretch.ended.reached played

/-- A narrow-band voice transport. -/
def narrowBand : PcmConfig true := ⟨8000, 1, 16, by decide⟩

/-- Three bytes from the socket and no playback. -/
theorem voice_clock_of_odd_read :
    let b := (startup narrowBand []).run [.readCapture [{ outcome := .data [1, 2, 3] }]]
    b.hfp = true ∧ b.failed = false ∧ b.voiceCredit = b.account.incoming.length % 2 := by
  have profile : ((startup narrowBand []).run [.readCapture [{ outcome := .data [1, 2, 3] }]]).hfp = true := by
    decide +kernel
  have working : ((startup narrowBand []).run [.readCapture [{ outcome := .data [1, 2, 3] }]]).failed = false := by
    decide +kernel
  exact ⟨profile, working, (voice_clock_exact narrowBand [] _ profile working).2.1⟩

end FlossDesktop.Bridge
