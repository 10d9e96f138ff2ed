import FlossDesktop.Proofs.BridgeInvariant
import FlossDesktop.Proofs.ChunkCopy

/-! The output ring. What the socket took, followed by what is queued, is what the
writers were allowed to write. -/

namespace FlossDesktop.Bridge

open RingBuffer

structure OutputKept (b : Bridge) : Prop where
  valid : b.queue.Valid
  bounded : b.queue.queued ≤ b.queueLimit
  stream : b.account.sent ++ b.queue.contents = b.account.accepted
  written : b.audioWritten = b.account.sent.length

variable {b after : Bridge}

theorem OutputKept.same (kept : OutputKept b) (config : SameConfig b after) (output : SameOutput b after) :
    OutputKept after := by
  refine ⟨output.queue ▸ kept.valid, ?_, ?_, ?_⟩
  · rw [output.queue, config.queueLimit]
    exact kept.bounded
  · rw [output.sent, output.queue, output.accepted]
    exact kept.stream
  · rw [output.audioWritten, output.sent]
    exact kept.written

/-- A send that stops at any byte takes the front of the ring. -/
theorem OutputKept.transmitted (kept : OutputKept b) {count n : Nat} (offered : n ≤ count)
    (present : count ≤ b.queue.queued) (fits : count ≤ queueSize - b.queue.readPos) : OutputKept (b.transmitted count n) := by
  have start := kept.valid.readPos
  have loaded : (b.queue.loaded b.queue.readPos count).Valid := kept.valid.loaded (by omega)
  have front := load_front kept.valid (le_trans offered present) (le_trans offered fits)
  have rest := contents_advance (b.queue.loaded b.queue.readPos count) (le_trans offered present)
  rw [contents_loaded] at rest
  refine ⟨loaded.advance (le_trans offered present), le_trans (Nat.sub_le _ _) kept.bounded, ?_, ?_⟩
  · change (b.account.sent ++ b.queue.load b.queue.readPos n) ++ _ = b.account.accepted
    rw [Bridge.transmitted, front, rest, List.append_assoc, List.take_append_drop]
    exact kept.stream
  · change b.audioWritten + n = (b.account.sent ++ b.queue.load b.queue.readPos n).length
    rw [kept.written, List.length_append, load, List.length_map, List.length_range]

theorem OutputKept.flushAudio (kept : OutputKept b) (outcomes : List SendOutcome) : OutputKept (b.flushAudio outcomes) := by
  have failed : ∀ b reason, OutputKept b → OutputKept (b.fail reason) := fun b reason kept =>
    kept.same (fail_quiet b reason).config (fail_quiet b reason).output
  induction outcomes generalizing b with
  | nil => exact kept
  | cons outcome rest ih =>
    rw [Bridge.flushAudio]
    split
    · exact kept
    · cases outcome with
      | again => exact kept
      | failed => exact failed b _ kept
      | sent n =>
        dsimp only
        split
        · exact failed b _ kept
        · apply ih
          apply kept.transmitted
          · exact Nat.min_le_right _ _
          · exact Nat.min_le_left _ _
          · exact Nat.min_le_right _ _

/-- An append within the limit keeps the ring. -/
theorem OutputKept.appended (kept : OutputKept b) {ring : PcmRing} {data : Bytes}
    (appended : Appended b.queue ring data) (room : b.queue.queued + data.length ≤ b.queueLimit) :
    OutputKept { b with queue := ring, account.accepted := b.account.accepted ++ data } := by
  refine ⟨appended.valid, ?_, ?_, kept.written⟩
  · change ring.queued ≤ b.queueLimit
    rw [appended.queued]
    exact room
  · change b.account.sent ++ ring.contents = b.account.accepted ++ data
    rw [appended.contents, ← List.append_assoc, kept.stream]

theorem OutputKept.queueOutput (configured : Configured b) (kept : OutputKept b) (data : Bytes) :
    OutputKept (b.queueOutput data).1 := by
  unfold Bridge.queueOutput
  rw [sizeSub_eq kept.bounded]
  split
  · exact kept.same (fail_quiet b _).config (fail_quiet b _).output
  · have bounded := kept.bounded
    have limit := configured.limit
    exact kept.appended (write_appended kept.valid (by omega)) (by omega)

theorem OutputKept.queuePiece (configured : Configured b) (kept : OutputKept b) (piece : Piece) :
    OutputKept (b.queuePiece piece).1 := by
  have output := kept.queueOutput configured piece.bytes
  unfold Bridge.queuePiece
  rcases queued : b.queueOutput piece.bytes with ⟨next, accepted⟩
  rw [queued] at output
  cases accepted with
  | false => exact output
  | true => exact output.same ⟨rfl, rfl, rfl, rfl, rfl⟩ ⟨rfl, rfl, rfl, rfl⟩

theorem OutputKept.playVoice (configured : Configured b) (kept : OutputKept b) (wanted fuel : Nat) :
    OutputKept (b.playVoice wanted fuel).1 := by
  induction fuel generalizing b wanted with
  | zero => exact kept
  | succ fuel ih =>
    rcases playVoice_succ b wanted fuel with ⟨_, same⟩ | ⟨_, _, _, _, count, _, next, accepted, queued, same⟩
    · rw [same]
      exact kept
    · have output := kept.queuePiece configured (.playback (b.voiceQueue.load b.voiceQueue.readPos count))
      have config := (queuePiece_keeps b (.playback (b.voiceQueue.load b.voiceQueue.readPos count))).config
      rw [queued] at output config
      rw [same]
      cases accepted with
      | false => exact output
      | true =>
        have used := (voiceUsed_keeps next (b.voiceQueue.load b.voiceQueue.readPos count)).config
        exact ih ((configured.same config).same used) (output.same used ⟨rfl, rfl, rfl, rfl⟩) _

theorem OutputKept.primeVoice (kept : OutputKept b) : OutputKept b.primeVoice := by
  apply kept.same (primeVoice_keeps b).config
  rw [Bridge.primeVoice]
  split
  · exact ⟨rfl, rfl, rfl, rfl⟩
  · exact .refl b

theorem OutputKept.queueSilence (configured : Configured b) (kept : OutputKept b) (wanted : Nat) :
    OutputKept (b.queueSilence wanted) := by
  rw [Bridge.queueSilence]
  split
  · exact kept.queuePiece configured _
  · exact kept

theorem OutputKept.voicePlaybackCredit (configured : Configured b) (kept : OutputKept b) (incoming : Nat)
    (before after : List SendOutcome) : OutputKept (b.voicePlaybackCredit incoming before after) := by
  obtain ⟨last, left, loop, ends⟩ := voicePlaybackCredit_cases b incoming before after
  have taken : OutputKept (b.takeCredit incoming) := kept.same (takeCredit_keeps b incoming).config ⟨rfl, rfl, rfl, rfl⟩
  have config := ((takeCredit_keeps b incoming).config.trans (flushAudio_only _ before).config).trans
    (primeVoice_keeps _).config
  have played := ((taken.flushAudio before).primeVoice).playVoice (configured.same config) (b.voiceWanted incoming)
    (b.voiceWanted incoming)
  have looped := config.trans (playVoice_keeps _ (b.voiceWanted incoming) (b.voiceWanted incoming)).config
  rw [loop] at played looped
  rcases ends with ⟨_, same⟩ | ⟨wanted, _, same⟩
  · rw [same]
    exact played
  · rw [same]
    exact (played.queueSilence (configured.same looped) wanted).flushAudio after

theorem OutputKept.queueMusic (configured : Configured b) (kept : OutputKept b) (chunk : Chunk)
    (before after : List SendOutcome) : OutputKept (b.queueMusic chunk before after) := by
  have flushed := kept.flushAudio before
  have limit := (configured.same (flushAudio_only b before).config).limit
  unfold Bridge.queueMusic
  dsimp only
  generalize b.flushAudio before = next at flushed limit ⊢
  split
  · exact flushed
  · rw [sizeSub_eq flushed.bounded]
    split
    · exact flushed
    · have bounded := flushed.bounded
      have length : chunk.bytes.length = chunk.size := spanBytes_length _ _ _ _ _
      apply OutputKept.flushAudio
      exact flushed.appended (copyInto_appended flushed.valid chunk (by omega)) (by omega)

theorem OutputKept.emptied {ready : Bridge} (kept : OutputKept b) (emptied : Emptied b ready) : OutputKept ready := by
  refine ⟨emptied.queue ▸ kept.valid.reset, ?_, ?_, ?_⟩
  · rw [emptied.queue]
    exact Nat.zero_le _
  · rw [emptied.account, emptied.queue]
    rfl
  · rw [emptied.audioWritten, emptied.account]
    rfl

theorem outputKept_maintained : Maintained OutputKept where
  quiet kept quiet := kept.same quiet.config quiet.output
  flushAudio outcomes kept := kept.flushAudio outcomes
  queueVoice {b chunk} _ kept _ _ := by
    apply kept.same (queueVoice_config b chunk)
    rw [Bridge.queueVoice]
    split
    · exact .refl b
    · exact ⟨rfl, rfl, rfl, rfl⟩
  queueMusic before after configured kept _ := kept.queueMusic configured _ before after
  dropCapture {b count} kept _ _ := kept.same (dropCapture_only b count).config (dropCapture_only b count).output
  credit {b bytes} before after configured kept _ _ := by
    have received := received_only b bytes
    exact (kept.same received.config received.output).voicePlaybackCredit (configured.same received.config) _ before after
  handOver kept _ _ := kept.same ⟨rfl, rfl, rfl, rfl, rfl⟩ ⟨rfl, rfl, rfl, rfl⟩
  stopPlayback kept := kept.same ⟨rfl, rfl, rfl, rfl, rfl⟩ ⟨rfl, rfl, rfl, rfl⟩
  emptied kept emptied := kept.emptied emptied
  prime flush configured kept _ := (kept.queueOutput configured _).flushAudio flush

theorem outputKept_initial (hfp : Bool) : OutputKept { hfp } :=
  ⟨⟨queueSize_pos, Nat.zero_le _, rfl⟩, le_rfl, rfl, rfl⟩

end FlossDesktop.Bridge
