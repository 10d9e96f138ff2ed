import FlossDesktop.Proofs.BridgeInvariant

/-! The microphone ring. The account counts the bytes that left the ring's front,
delivered or dropped; the ring holds the rest of the incoming stream, and its front
never stands inside a sample. -/

namespace FlossDesktop.Bridge

open RingBuffer

/-- A byte stream as two-byte samples. A last half is not a sample. -/
def samples : Bytes → List (UInt8 × UInt8)
  | low :: high :: rest => (low, high) :: samples rest
  | _ => []

theorem samples_append {left : Bytes} (even : left.length % 2 = 0) (right : Bytes) :
    samples (left ++ right) = samples left ++ samples right := by
  induction left using samples.induct with
  | case1 low high rest ih =>
    have shorter : rest.length % 2 = 0 := by
      simp only [List.length_cons] at even
      omega
    simp only [List.cons_append, samples, ih shorter]
  | case2 left short =>
    cases left with
    | nil => rfl
    | cons byte rest =>
      cases rest with
      | nil => simp at even
      | cons next rest => exact (short byte next rest rfl).elim

/-- A ring on a stream of which `consumed` bytes are gone, and `delivered` what of
them the graph got. -/
structure MicrophoneStream (ring : PcmRing) (limit : Nat) (incoming : Bytes) (consumed : Nat) (delivered : Bytes) :
    Prop where
  valid : ring.Valid
  bounded : ring.queued ≤ limit
  known : consumed ≤ incoming.length
  contents : ring.contents = incoming.drop consumed
  position : ring.readPos = consumed % queueSize
  aligned : consumed % 2 = 0
  whole : delivered.length % 2 = 0
  delivered : (samples delivered).Sublist (samples (incoming.take consumed))

variable {ring : PcmRing} {limit consumed count : Nat} {incoming delivered bytes : Bytes}

theorem MicrophoneStream.queued (stream : MicrophoneStream ring limit incoming consumed delivered) :
    ring.queued = incoming.length - consumed := by
  rw [← contents_length, stream.contents, List.length_drop]

/-- The samples between two even places. -/
theorem samples_take (even : consumed % 2 = 0) (known : consumed ≤ incoming.length) :
    samples (incoming.take (consumed + count)) =
      samples (incoming.take consumed) ++ samples ((incoming.drop consumed).take count) := by
  rw [List.take_add]
  apply samples_append
  rw [List.length_take, min_eq_left known]
  exact even

theorem MicrophoneStream.drop (stream : MicrophoneStream ring limit incoming consumed delivered)
    (even : count % 2 = 0) (present : count ≤ ring.queued) :
    MicrophoneStream (ring.advance count) limit incoming (consumed + count) delivered where
  valid := stream.valid.advance present
  bounded := le_trans (Nat.sub_le _ _) stream.bounded
  known := by
    have queued := stream.queued
    have known := stream.known
    omega
  contents := by rw [contents_advance ring present, stream.contents, List.drop_drop]
  position := by
    change (ring.readPos + count) % queueSize = _
    rw [stream.position, Nat.mod_add_mod]
  aligned := by
    have aligned := stream.aligned
    omega
  whole := stream.whole
  delivered := by
    rw [samples_take stream.aligned stream.known]
    exact stream.delivered.trans (List.sublist_append_left _ _)

/-- Delivering is dropping what is handed over. -/
theorem MicrophoneStream.deliver (stream : MicrophoneStream ring limit incoming consumed delivered)
    (even : count % 2 = 0) (present : count ≤ ring.queued) :
    MicrophoneStream (ring.advance count) limit incoming (consumed + count) (delivered ++ ring.contents.take count) := by
  have dropped := stream.drop even present
  have length : (ring.contents.take count).length = count := by
    rw [List.length_take, contents_length, min_eq_left present]
  refine ⟨dropped.valid, dropped.bounded, dropped.known, dropped.contents, dropped.position, dropped.aligned, ?_, ?_⟩
  · have whole := stream.whole
    rw [List.length_append, length]
    omega
  · rw [samples_append stream.whole, samples_take stream.aligned stream.known, stream.contents]
    exact stream.delivered.append (List.Sublist.refl _)

theorem MicrophoneStream.receive (stream : MicrophoneStream ring limit incoming consumed delivered)
    (room : ring.queued + bytes.length ≤ limit) (limited : limit ≤ queueSize)
    (fits : bytes.length ≤ queueSize - ring.writePos) :
    MicrophoneStream ((ring.store ring.writePos bytes).grow bytes.length) limit (incoming ++ bytes) consumed delivered := by
  have written : Written ring (ring.store ring.writePos bytes) ring.queued bytes :=
    written_store stream.valid le_rfl (by omega) fits
  have appended := written.appended stream.valid (by omega)
  refine ⟨appended.valid, ?_, ?_, ?_, stream.position, stream.aligned, stream.whole, ?_⟩
  · rw [appended.queued]
    exact room
  · rw [List.length_append]
    exact le_trans stream.known (Nat.le_add_right _ _)
  · rw [appended.contents, stream.contents, List.drop_append_of_le_length stream.known]
  · rw [List.take_append_of_le_length stream.known]
    exact stream.delivered

theorem MicrophoneStream.reset (stream : MicrophoneStream ring limit incoming consumed delivered) (other : Nat) :
    MicrophoneStream ring.reset other [] 0 [] :=
  ⟨stream.valid.reset, Nat.zero_le _, le_rfl, rfl, rfl, rfl, rfl, List.Sublist.refl _⟩

def MicrophoneKept (b : Bridge) : Prop :=
  MicrophoneStream b.captureQueue b.queueLimit b.account.incoming b.account.consumed b.account.delivered

variable {b after : Bridge}

theorem MicrophoneKept.same (kept : MicrophoneKept b) (config : SameConfig b after) (microphone : SameMicrophone b after) :
    MicrophoneKept after := by
  unfold MicrophoneKept
  rw [config.queueLimit, microphone.captureQueue, microphone.incoming, microphone.consumed, microphone.delivered]
  exact kept

/-- Two copies hand over the front of the ring. -/
theorem captureBytes_eq (kept : MicrophoneKept b) {copied : Nat} (present : copied ≤ b.captureQueue.queued) :
    b.captureBytes copied = b.captureQueue.contents.take copied :=
  load_pair kept.valid present

theorem MicrophoneKept.handOver (kept : MicrophoneKept b) {copied : Nat} (even : copied % 2 = 0)
    (present : copied ≤ b.captureQueue.queued) : MicrophoneKept (b.handOver copied) := by
  have start := kept.valid.readPos
  have bounded := kept.valid.queued
  have first : (b.captureQueue.loaded b.captureQueue.readPos (min copied (queueSize - b.captureQueue.readPos))).Valid :=
    kept.valid.loaded (by omega)
  have second := first.loaded (show 0 + (copied - min copied (queueSize - b.captureQueue.readPos)) ≤ queueSize by omega)
  have loaded : MicrophoneStream _ b.queueLimit b.account.incoming b.account.consumed b.account.delivered :=
    ⟨second, kept.bounded, kept.known, kept.contents, kept.position, kept.aligned, kept.whole, kept.delivered⟩
  have delivered := loaded.deliver even present
  change MicrophoneStream _ _ _ _ (b.account.delivered ++ b.captureBytes copied)
  rw [captureBytes_eq kept present]
  exact delivered

theorem microphoneKept_maintained : Maintained MicrophoneKept where
  quiet kept quiet := kept.same quiet.config quiet.microphone
  flushAudio {b} outcomes kept := kept.same (flushAudio_only b outcomes).config (flushAudio_only b outcomes).microphone
  queueVoice {b chunk} _ kept _ _ := by
    apply kept.same (queueVoice_config b chunk)
    rw [Bridge.queueVoice]
    split
    · exact .refl b
    · exact ⟨rfl, rfl, rfl, rfl⟩
  queueMusic {b chunk} before after _ kept _ :=
    kept.same (queueMusic_only b chunk before after).config (queueMusic_only b chunk before after).microphone
  dropCapture kept even present := kept.drop even present
  credit {b bytes} before after configured kept _ fits := by
    have keeps := voicePlaybackCredit_keeps (b.received bytes) bytes.length before after
    have bounded := kept.bounded
    rw [sizeSub_eq bounded] at fits
    have received : MicrophoneKept (b.received bytes) := kept.receive (by omega) configured.limit (by omega)
    exact received.same keeps.config keeps.microphone
  handOver kept even present := kept.handOver even present
  stopPlayback kept := kept.same ⟨rfl, rfl, rfl, rfl, rfl⟩ ⟨rfl, rfl, rfl, rfl⟩
  emptied {b ready} kept emptied := by
    unfold MicrophoneKept
    rw [emptied.captureQueue, emptied.account]
    exact kept.reset ready.queueLimit
  prime {b} flush _ kept _ := by
    have queued := queueOutput_only b (List.replicate b.primingBytes 0)
    have flushed := flushAudio_only (b.queueOutput (List.replicate b.primingBytes 0)).1 flush
    exact kept.same (prime_config b flush) (queued.microphone.trans flushed.microphone)

theorem microphoneKept_initial (hfp : Bool) : MicrophoneKept { hfp } :=
  ⟨⟨queueSize_pos, Nat.zero_le _, rfl⟩, le_rfl, le_rfl, rfl, (Nat.zero_mod _).symm, rfl, rfl, List.Sublist.refl _⟩

/-- In every state of a run the front of the ring stands at an even place of the
transport's incoming stream, and the samples handed to the graph are samples of that
stream, in order. Each buffer holds bytes of that account and then only silence. -/
theorem microphone_samples_aligned {hfp : Bool} (config : PcmConfig hfp) (flush : List SendOutcome) (steps : List Step) :
    let b := (startup config flush).run steps
    b.account.consumed % 2 = 0 ∧
    b.captureQueue.readPos = b.account.consumed % queueSize ∧
    b.captureQueue.contents = b.account.incoming.drop b.account.consumed ∧
    b.account.delivered.length % 2 = 0 ∧
    (samples b.account.delivered).Sublist (samples (b.account.incoming.take b.account.consumed)) ∧
    (samples b.account.delivered).Sublist (samples b.account.incoming) ∧
    ∀ request verdict, ∃ copied silence,
      (b.captureProcess request verdict).2 = b.captureQueue.contents.take copied ++ List.replicate silence 0 ∧
      (b.captureProcess request verdict).1.account.delivered =
        b.account.delivered ++ b.captureQueue.contents.take copied := by
  intro b
  have kept : MicrophoneKept b := (microphoneKept_maintained.run microphoneKept_initial config flush steps).2
  have prefixes : (samples (b.account.incoming.take b.account.consumed)).Sublist (samples b.account.incoming) := by
    have even : (b.account.incoming.take b.account.consumed).length % 2 = 0 := by
      rw [List.length_take, min_eq_left kept.known]
      exact kept.aligned
    have parts := samples_append even (b.account.incoming.drop b.account.consumed)
    rw [List.take_append_drop] at parts
    rw [parts]
    exact List.sublist_append_left _ _
  refine ⟨kept.aligned, kept.position, kept.contents, kept.whole, kept.delivered, kept.delivered.trans prefixes, ?_⟩
  intro request verdict
  rcases captureProcess_cases b request verdict with same | ⟨next, copied, silence, quiet, even, present, same⟩
  · rw [same]
    exact ⟨0, 0, rfl, (List.append_nil _).symm⟩
  · have moved := kept.same quiet.config quiet.microphone
    have bytes := captureBytes_eq moved present
    rw [quiet.microphone.captureQueue] at bytes
    rw [same]
    refine ⟨copied, silence, ?_, ?_⟩
    · rw [bytes]
    · change next.account.delivered ++ next.captureBytes copied = _
      rw [bytes, quiet.microphone.delivered]

end FlossDesktop.Bridge
