import FlossDesktop.Proofs.OutputRing
import FlossDesktop.Proofs.Microphone
import FlossDesktop.Proofs.VoiceClock

/-! The three rings in every run: bounded, never copied over or out of, and whole
chunks only. -/

namespace FlossDesktop.Bridge

open RingBuffer

/-- A ring whose positions are in range and whose copies all stayed clear of the
array's end and of unread bytes. -/
structure BoundedRing (limit : Nat) (ring : PcmRing) : Prop where
  readPos : ring.readPos < queueSize
  queued : ring.queued ≤ limit
  intact : ring.intact = true

/-- What was sent, followed by what is queued. -/
def outputStream (b : Bridge) : Bytes := b.account.sent ++ b.queue.contents

theorem flushAudio_stream {b : Bridge} (kept : OutputKept b) (outcomes : List SendOutcome) :
    (b.flushAudio outcomes).outputStream = b.outputStream := by
  have stream := (kept.flushAudio outcomes).stream
  rw [flushAudio_accepted, ← kept.stream] at stream
  exact stream

/-- An offered chunk ends up in its ring whole, or not at all. -/
def WholeOrDropped (b after : Bridge) (offer : Offer) : Prop :=
  (after.outputStream = b.outputStream ∧ after.voiceQueue.contents = b.voiceQueue.contents) ∨
  ∃ chunk, b.inspect offer = .ok (some chunk) ∧
    (b.hfp = true ∧ after.outputStream = b.outputStream ∧
        after.voiceQueue.contents = b.voiceQueue.contents ++ chunk.bytes ∨
      b.hfp = false ∧ after.outputStream = b.outputStream ++ chunk.bytes ∧
        after.voiceQueue.contents = b.voiceQueue.contents)

variable {b next : Bridge}

theorem queueVoice_whole (configured : Configured b) (voice : VoiceKept b) (chunk : Chunk) :
    (b.queueVoice chunk).outputStream = b.outputStream ∧
      ((b.queueVoice chunk).voiceQueue.contents = b.voiceQueue.contents ∨
        (b.queueVoice chunk).voiceQueue.contents = b.voiceQueue.contents ++ chunk.bytes) := by
  have stretch := voice.stream.stretch
  have bounded := stretch.bounded
  have limit := configured.limit
  rw [queueVoice, sizeSub_eq bounded]
  split
  · exact ⟨rfl, .inl rfl⟩
  · exact ⟨rfl, .inr (copyInto_appended stretch.valid chunk (by omega)).contents⟩

theorem queueMusic_whole (configured : Configured b) (kept : OutputKept b) (chunk : Chunk)
    (before after : List SendOutcome) :
    (b.queueMusic chunk before after).outputStream = b.outputStream ∨
      (b.queueMusic chunk before after).outputStream = b.outputStream ++ chunk.bytes := by
  have same := flushAudio_stream kept before
  have flushed := kept.flushAudio before
  have limit := (configured.same (flushAudio_only b before).config).limit
  unfold queueMusic
  dsimp only
  generalize b.flushAudio before = next at same flushed limit ⊢
  split
  · exact .inl same
  · rw [sizeSub_eq flushed.bounded]
    split
    · exact .inl same
    · have bounded := flushed.bounded
      have length : chunk.bytes.length = chunk.size := spanBytes_length _ _ _ _ _
      have appended := copyInto_appended flushed.valid chunk (by omega)
      have queued : OutputKept (next.chunkQueued chunk) := flushed.appended appended (by omega)
      right
      rw [flushAudio_stream queued, ← same]
      change next.account.sent ++ (copyInto next.queue chunk).contents = _
      rw [appended.contents, ← List.append_assoc]
      rfl

theorem process_whole (configured : Configured b) (output : OutputKept b) (voice : VoiceKept b) (offer : Offer)
    (verdict : Verdict) (before after : List SendOutcome) :
    WholeOrDropped b (b.process offer verdict before after) offer := by
  have quietly : ∀ {next}, Quiet b next → next.outputStream = b.outputStream ∧
      next.voiceQueue.contents = b.voiceQueue.contents := by
    intro next quiet
    rw [outputStream, quiet.output.sent, quiet.output.queue, quiet.voice.voiceQueue]
    exact ⟨rfl, rfl⟩
  rcases process_cases b offer verdict before after with quiet | ⟨chunk, next, looked, quiet, branch⟩
  · exact .inl (quietly quiet)
  · have settings := configured.same quiet.config
    obtain ⟨stream, ring⟩ := quietly quiet
    rcases branch with ⟨profile, same⟩ | ⟨profile, same⟩
    · have kept : VoiceKept next := voiceKept_maintained.quiet voice quiet
      obtain ⟨sent, queued⟩ := queueVoice_whole settings kept chunk
      rw [same]
      rw [stream] at sent
      rw [ring] at queued
      rcases queued with dropped | whole
      · exact .inl ⟨sent, dropped⟩
      · exact .inr ⟨chunk, looked, .inl ⟨profile, sent, whole⟩⟩
    · have kept : OutputKept next := outputKept_maintained.quiet output quiet
      have untouched := (queueMusic_only next chunk before after).voice.voiceQueue
      have queued := queueMusic_whole settings kept chunk before after
      rw [same]
      rw [stream] at queued
      have voiced : (next.queueMusic chunk before after).voiceQueue.contents = b.voiceQueue.contents := by
        rw [untouched, ring]
      rcases queued with dropped | whole
      · exact .inl ⟨dropped, voiced⟩
      · exact .inr ⟨chunk, looked, .inr ⟨profile, whole, voiced⟩⟩

/-- In every state of a run the three rings are bounded by the limit of the
configuration, which fits the arrays, and no copy has left its array or run over
unread bytes. The socket has been given the accepted output in order, and a buffer of
the graph is queued whole or dropped whole. -/
theorem pcm_rings_bounded {hfp : Bool} (config : PcmConfig hfp) (flush : List SendOutcome) (steps : List Step) :
    let b := (startup config flush).run steps
    b.queueLimit ≤ queueSize ∧
    BoundedRing b.queueLimit b.queue ∧ BoundedRing b.queueLimit b.voiceQueue ∧
    BoundedRing b.queueLimit b.captureQueue ∧
    b.account.sent ++ b.queue.contents = b.account.accepted ∧
    b.audioWritten = b.account.sent.length ∧
    ∀ offer verdict before after, WholeOrDropped b (b.process offer verdict before after) offer := by
  intro b
  obtain ⟨configured, output⟩ := outputKept_maintained.run outputKept_initial config flush steps
  have microphone := (microphoneKept_maintained.run microphoneKept_initial config flush steps).2
  have voice := (voiceKept_maintained.run voiceKept_initial config flush steps).2
  have stretch := voice.stream.stretch
  refine ⟨configured.limit, ⟨output.valid.readPos, output.bounded, output.valid.intact⟩,
    ⟨stretch.valid.readPos, stretch.bounded, stretch.valid.intact⟩,
    ⟨microphone.valid.readPos, microphone.bounded, microphone.valid.intact⟩, output.stream, output.written, ?_⟩
  intro offer verdict before after
  exact process_whole configured output voice offer verdict before after

end FlossDesktop.Bridge
