import FlossDesktop.Proofs.LdacPackets

/-! A session that says it is ready. The configuration is published only when the service and
the source agree on the size of a frame, and then no frame is ever refused for its size. -/

namespace FlossDesktop.Ldac
open CodecService

variable {σ : Type} {ldac : LdacLibrary σ} {room : Nat}

/-- A reference encoder that takes every block of PCM, within its documented limits. -/
def Accepting (ldac : LdacLibrary σ) : Prop :=
  ∀ handle pcm, ∃ last written frames, ldac.encode handle pcm = (last, some (pcm.length, written, frames)) ∧
    written.length ≤ ldacbtMaxNbytes ∧ 0 ≤ frames ∧ frames ≤ 255

/-- The client has an encoder for the frames that the source reads. -/
def Live (cb : EncoderCb (A2dpLdacEncoder σ)) : Prop :=
  ∃ handle, cb.codecClient = some { handle := some handle, inputFrameSize := readSize cb }

theorem transcode_succeeds (accepting : Accepting ldac) (handle : σ) (pcm : Bytes) {oLen : Nat} (large : ldacbtMaxNbytes + 1 ≤ oLen) :
    ∃ last frames written, A2dpLdacEncoder.transcode ldac { handle := some handle, inputFrameSize := pcm.length } pcm oLen =
      ({ handle := some last, inputFrameSize := pcm.length }, .ok (frames :: written)) := by
  obtain ⟨last, written, frames, encoded, short, low, high⟩ := accepting handle pcm
  refine ⟨last, UInt8.ofNat frames.toNat, written, ?_⟩
  unfold A2dpLdacEncoder.transcode
  simp only [bne_self_eq_false, Bool.false_eq_true, if_false, if_neg (Nat.not_lt.mpr large), encoded, Bool.false_or,
    Bool.or_eq_true, decide_eq_true_eq]
  rw [if_neg (by omega)]

theorem readFeeding_frame {κ : Type} {cb after : EncoderCb κ} {world rest : World} {pcm : Bytes}
    (read : readFeeding cb world = (after, rest, some pcm)) :
    pcm.length = readSize cb ∧ after.codecClient = cb.codecClient ∧ readSize after = readSize cb := by
  dsimp only [readFeeding] at read
  split at read
  · cases read
  · cases read
    refine ⟨?_, rfl, rfl⟩
    rw [List.length_append, List.length_replicate, List.length_take]
    omega

theorem readFeeding_underflow {κ : Type} {cb after : EncoderCb κ} {world rest : World}
    (read : readFeeding cb world = (after, rest, none)) : after.codecClient = cb.codecClient ∧ readSize after = readSize cb := by
  dsimp only [readFeeding] at read
  split at read <;> cases read
  exact ⟨rfl, rfl⟩

theorem Live.of_same {cb after : EncoderCb (A2dpLdacEncoder σ)} (live : Live cb) (client : after.codecClient = cb.codecClient)
    (size : readSize after = readSize cb) : Live after := by
  obtain ⟨handle, held⟩ := live
  exact ⟨handle, by rw [client, held, size]⟩

theorem Live.timed {cb : EncoderCb (A2dpLdacEncoder σ)} (live : Live cb) (timestamp : Nat) : Live { cb with timestamp } :=
  live.of_same rfl rfl

theorem Live.counted {cb : EncoderCb (A2dpLdacEncoder σ)} (live : Live cb) (stats : Aptx.EncoderStats) : Live { cb with stats } :=
  live.of_same rfl rfl

theorem fill_never_drops (accepting : Accepting ldac) (large : ldacbtMaxNbytes + 1 ≤ room) {cb : EncoderCb (A2dpLdacEncoder σ)}
    (live : Live cb) (world : World) (packet : Packet) (none : packet.payload = []) (bytesRead nbFrame : Nat) :
    Mark.dropped ∉ (fill (A2dpLdacEncoder.transcode ldac) room cb world packet 0 bytesRead nbFrame).marks ∧
      (fill (A2dpLdacEncoder.transcode ldac) room cb world packet 0 bytesRead nbFrame).filled ≠ .gaveUp ∧
      Live (fill (A2dpLdacEncoder.transcode ldac) room cb world packet 0 bytesRead nbFrame).cb := by
  induction nbFrame generalizing cb world packet bytesRead with
  | zero => exact ⟨List.not_mem_nil, Filled.noConfusion, live⟩
  | succ nbFrame ih =>
    unfold fill
    rcases read : readFeeding cb world with ⟨after, rest, _ | pcm⟩
    · obtain ⟨client, size⟩ := readFeeding_underflow read
      exact ⟨by simp, Filled.noConfusion, live.of_same client size⟩
    · obtain ⟨length, client, size⟩ := readFeeding_frame read
      obtain ⟨handle, held⟩ := live.of_same client size
      have enough : ¬ packet.payload.length ≥ room := by
        rw [none]
        exact Nat.not_le.mpr (Nat.lt_of_lt_of_le (Nat.succ_pos _) large)
      have large : ldacbtMaxNbytes + 1 ≤ room - packet.payload.length := by
        rw [none]
        exact large
      rw [size, ← length] at held
      obtain ⟨last, frames, written, ran⟩ := transcode_succeeds accepting handle pcm large
      have lives : Live { after with codecClient := some { handle := some last, inputFrameSize := pcm.length } } :=
        ⟨last, by rw [length, ← size]; rfl⟩
      simp only [held, if_neg enough, ran]
      split
      next more =>
        have empty : written = [] := List.isEmpty_iff.mp (Bool.and_eq_true_iff.mp more).1
        subst empty
        obtain ⟨never, goes, reached⟩ := ih lives rest { packet with
          payload := (packet.payload ++ List.replicate 0 0 ++ []).take (packet.payload.length + 0)
          layerSpecific := (packet.layerSpecific + frames.toNat) % 2 ^ 16 } (by simp [none]) (bytesRead + pcm.length)
        exact ⟨by simpa using never, goes, reached⟩
      · exact ⟨by simp, Filled.noConfusion, lives⟩

theorem encodeLoop_never_drops (accepting : Accepting ldac) (large : ldacbtMaxNbytes + 1 ≤ room) (nbFrame : Nat)
    {cb : EncoderCb (A2dpLdacEncoder σ)} (live : Live cb) (world : World) (bytesRead remaining : Nat) :
    Mark.dropped ∉ (encodeLoop (A2dpLdacEncoder.transcode ldac) room cb world bytesRead remaining nbFrame).2 ∧
      Live (encodeLoop (A2dpLdacEncoder.transcode ldac) room cb world bytesRead remaining nbFrame).1 := by
  induction nbFrame using Nat.strongRecOn generalizing cb world bytesRead remaining with
  | ind nbFrame ih =>
    cases nbFrame with
    | zero =>
      unfold encodeLoop
      exact ⟨List.not_mem_nil, live⟩
    | succ nbFrame =>
      unfold encodeLoop
      dsimp only
      obtain ⟨never, goes, reached⟩ := fill_never_drops accepting large
        (live.counted { cb.stats with expectedPackets := cb.stats.expectedPackets + 1 }) world {} rfl bytesRead (nbFrame + 1)
      split
      next ran => exact absurd ran goes
      next packet left ran =>
        have fewer := Nat.lt_succ_of_le (fill_left _ _ ran)
        split
        · obtain ⟨later, last⟩ := ih left fewer reached _ _ remaining
          exact ⟨by simpa using ⟨never, later⟩, last⟩
        · split
          · obtain ⟨later, last⟩ := ih left fewer (reached.timed _) _ _ left
            exact ⟨by simpa using ⟨never, later⟩, last⟩
          · exact ⟨by simpa using never, reached.timed _⟩

theorem init_ok {param : LdacEncoderParam} {memory : Bool} {client : A2dpLdacEncoder σ} {block : Nat}
    (started : A2dpLdacEncoder.init ldac (some param) memory = (client, .ok block)) :
    ∃ handle, client = { handle := some handle, inputFrameSize := block } := by
  dsimp only [A2dpLdacEncoder.init] at started
  split at started
  · cases started
  · split at started
    · cases started
    · split at started
      · cases started
      next handle _ =>
        cases started
        exact ⟨handle, rfl⟩

theorem readSize_eq (cb : EncoderCb (A2dpLdacEncoder σ)) (whole : 8 ∣ cb.feedingParams.bitsPerSample) :
    readSize cb = kLdacEncodeSamples * cb.feedingParams.channelCount * (cb.feedingParams.bitsPerSample >>> 3) := by
  rw [readSize, Nat.shiftRight_eq_div_pow, Nat.mul_div_assoc _ whole]

/-- What both ends take for the size of a frame agrees. -/
theorem encoderInit_live (memory : Bool) (state : State (A2dpLdacEncoder σ)) (config : Option CodecConfig) (default : Int)
    (peerMtu : Nat) (bits : ∀ known ∈ config, 8 ∣ known.feedingParams.bitsPerSample)
    (ready : (encoderInit room (fun param => A2dpLdacEncoder.init ldac (some param) memory) state config default
      peerMtu).pcmConfig.ready = true) :
    Live (encoderInit room (fun param => A2dpLdacEncoder.init ldac (some param) memory) state config default peerMtu).cb := by
  unfold encoderInit at ready ⊢
  cases config with
  | none => cases ready
  | some config =>
    dsimp only at ready ⊢
    split at ready
    next client block started =>
      split at ready
      next same =>
        obtain ⟨handle, rfl⟩ := init_ok started
        rw [if_pos same]
        refine ⟨handle, ?_⟩
        rw [readSize_eq _ (bits config rfl), ← beq_iff_eq.mp same]
      · cases ready
    · cases ready

/-- A run after an initialization that published a configuration hands over, runs out of audio
or waits for more, but never gives a packet up. -/
theorem session_never_drops (accepting : Accepting ldac) (large : ldacbtMaxNbytes + 1 ≤ room) (memory : Bool)
    (state : State (A2dpLdacEncoder σ)) (config : Option CodecConfig) (default : Int) (peerMtu : Nat)
    (bits : ∀ known ∈ config, 8 ∣ known.feedingParams.bitsPerSample)
    (ready : (encoderInit room (fun param => A2dpLdacEncoder.init ldac (some param) memory) state config default
      peerMtu).pcmConfig.ready = true) (calls : List Call) :
    ∀ done ∈ Machine.outputs (step (A2dpLdacEncoder.transcode ldac) room)
      (encoderInit room (fun param => A2dpLdacEncoder.init ldac (some param) memory) state config default peerMtu).cb calls,
      Mark.dropped ∉ done.2 := by
  have live := encoderInit_live memory state config default peerMtu bits ready
  generalize (encoderInit room (fun param => A2dpLdacEncoder.init ldac (some param) memory) state config default peerMtu).cb
    = cb at live
  induction calls generalizing cb with
  | nil => exact fun done member => absurd member List.not_mem_nil
  | cons call rest ih =>
    obtain ⟨never, reached⟩ := encodeLoop_never_drops accepting large call.nbFrame.toNat live call.world 0 call.nbFrame.toNat
    intro done member
    rw [Machine.outputs_cons] at member
    rcases List.mem_append.mp member with now | later
    · rw [List.mem_singleton.mp now]
      exact never
    · exact ih _ reached done later

/-- A reference encoder that collects a frame and writes with the next one. -/
def collecting : LdacLibrary Bool where
  initHandleEncode := fun _ _ _ _ _ => some false
  encode := fun collected pcm =>
    (!collected, some (pcm.length, if collected then List.replicate 660 7 else [], if collected then 2 else 0))

theorem collecting_accepting : Accepting collecting := by
  intro collected pcm
  cases collected
  · exact ⟨true, [], 0, rfl, by decide, by decide, by decide⟩
  · exact ⟨false, List.replicate 660 7, 2, rfl, by rw [List.length_replicate]; decide, by decide, by decide⟩

/-- High resolution stereo, and a call that finds audio for five of the six frames it is due. -/
def collectingDone : List (Call × List Mark) :=
  Machine.outputs (step (A2dpLdacEncoder.transcode collecting) 4000)
    (encoderInit 4000 (fun param => A2dpLdacEncoder.init collecting (some param) true) {}
      (some { feedingParams := { sampleRate := 96000, bitsPerSample := 24, channelCount := 2 }, channelMode := 1,
              codecSpecific1 := 1001 }) 3 990).cb
    [{ world := { reads := List.replicate 5 (List.replicate 768 1) }, nbFrame := 6 }]

theorem session_never_drops_collecting : collectingDone.all (fun done => decide (Mark.dropped ∉ done.2)) = true ∧
    (sentBytes (marksOf collectingDone)).length = 1320 ∧ Mark.underflow 1 ∈ marksOf collectingDone := by
  refine ⟨?_, by decide +kernel, by decide +kernel⟩
  apply List.all_eq_true.mpr
  intro done member
  apply decide_eq_true
  exact session_never_drops collecting_accepting (by decide) true {} _ 3 990 (by rintro _ ⟨⟩; decide) (by decide) _ done member

end FlossDesktop.Ldac
