import FlossDesktop.Proofs.AptxPace

/-! The books of a source. Its statistics add up what became of the ticks, its packets have the
size that the framing says, and each carries the time of the audio that was sent before it. -/

namespace FlossDesktop.Aptx
open CodecService Feed Machine

variable {κ ε : Type} {source : Source}

/-- The frames that are sent with a mark. -/
def Mark.sentFrames (source : Source) (channelCount : Nat) : Mark → Nat
  | .enqueued expected _ _ => expected / channelCount / source.bytesPerFrame
  | _ => 0

/-- The statistics that some ticks amount to. -/
def tally (marks : List Mark) : EncoderStats where
  expectedPackets := marks.length
  expectedReadsCount := marks.length
  expectedReadBytes := askedBytes marks
  droppedPackets := marks.countP fun mark => !mark.isEnqueued
  actualReadsCount := marks.countP fun mark => !mark.isUnderflow
  actualReadBytes := (marks.map fun mark => mark.pcm.length).sum

def EncoderStats.add (first second : EncoderStats) : EncoderStats where
  expectedPackets := first.expectedPackets + second.expectedPackets
  expectedReadsCount := first.expectedReadsCount + second.expectedReadsCount
  expectedReadBytes := first.expectedReadBytes + second.expectedReadBytes
  droppedPackets := first.droppedPackets + second.droppedPackets
  actualReadsCount := first.actualReadsCount + second.actualReadsCount
  actualReadBytes := first.actualReadBytes + second.actualReadBytes

theorem EncoderStats.add_assoc (first second third : EncoderStats) :
    (first.add second).add third = first.add (second.add third) := by
  simp [EncoderStats.add, Nat.add_assoc]

theorem tally_append (first second : List Mark) : tally (first ++ second) = (tally first).add (tally second) := by
  simp [tally, EncoderStats.add]

@[simp] theorem EncoderStats.add_empty (stats : EncoderStats) : stats.add (tally []) = stats := rfl

/-- The frames sent with some ticks. -/
def sentFrames (source : Source) (channelCount : Nat) (marks : List Mark) : Nat :=
  (marks.map (Mark.sentFrames source channelCount)).sum

/-- What a client lets through has a quarter of the size, so the length of a packet is that of
its payload. -/
theorem encodeReads_length {transcode : κ → Bytes → Nat → κ × Except ε Bytes} {params : FramingParams}
    (framing : Framed source params) {client after : Option κ} {pcm payload : Bytes}
    (ran : encodeReads transcode params client pcm = (after, .ok payload)) : payload.length = expected params / 4 := by
  unfold encodeReads at ran
  split at ran
  · cases ran
  next client =>
    have each : ∀ state input after outputs, encodeRead transcode params.pcmBytesPerRead state input = (after, .ok outputs) →
        outputs.length = params.pcmBytesPerRead / 4 := by
      intro state input after outputs ran
      unfold encodeRead at ran
      split at ran
      · split at ran
        next right =>
          cases ran
          simpa using right
        · cases ran
      · cases ran
    rcases fed : feed (encodeRead transcode params.pcmBytesPerRead) client
      (Chunks.chunks params.pcmBytesPerRead params.pcmReads pcm) with ⟨last, result⟩
    rw [fed] at ran
    cases ran
    rw [feed_length each fed, Chunks.length_chunks, expected, Nat.mul_div_assoc _ framing.quarters, Nat.mul_comm]

/-- What is right about a packet on its own. -/
structure Packet.Sound (packet : Packet) (expected : Nat) (pcm : Bytes) : Prop where
  full : pcm.length = expected
  fits : expected ≤ 4096
  len : packet.len = packet.payload.length
  ratio : 4 * packet.len = expected
  bytesRead : packet.bytesRead = expected
  framesCount : packet.framesCount = 1

/-- The books of some ticks. -/
structure Booked (source : Source) (cb after : EncoderCb κ) (marks : List Mark) : Prop where
  stats : after.stats = cb.stats.add (tally marks)
  timestamp : after.timestamp = (cb.timestamp + sentFrames source cb.feedingParams.channelCount marks) % 2 ^ 32
  feedingParams : after.feedingParams = cb.feedingParams
  packets : ∀ early expected pcm packet late, marks = early ++ .enqueued expected pcm packet :: late →
    packet.timestamp = (cb.timestamp + sentFrames source cb.feedingParams.channelCount early) % 2 ^ 32 ∧
      packet.Sound expected pcm

theorem Booked.quiet {cb after : EncoderCb κ} (within : cb.timestamp < 2 ^ 32) (stats : after.stats = cb.stats)
    (timestamp : after.timestamp = cb.timestamp) (feedingParams : after.feedingParams = cb.feedingParams) :
    Booked source cb after [] where
  stats := stats
  timestamp := timestamp.trans (Nat.mod_eq_of_lt within).symm
  feedingParams := feedingParams
  packets := fun early _ _ _ _ split => absurd split.symm (by simp)

theorem Booked.append {cb middle after : EncoderCb κ} {first second : List Mark} (before : Booked source cb middle first)
    (later : Booked source middle after second) : Booked source cb after (first ++ second) where
  stats := by rw [later.stats, before.stats, EncoderStats.add_assoc, tally_append]
  timestamp := by
    rw [later.timestamp, before.timestamp, before.feedingParams, Nat.mod_add_mod, Nat.add_assoc]
    simp [sentFrames]
  feedingParams := later.feedingParams.trans before.feedingParams
  packets := by
    intro early expected pcm packet late split
    rcases List.append_eq_append_iff.mp split with ⟨gap, longer, tail⟩ | ⟨gap, longer, tail⟩
    · obtain ⟨stamped, sound⟩ := later.packets gap expected pcm packet late tail
      refine ⟨?_, sound⟩
      rw [stamped, before.timestamp, before.feedingParams, Nat.mod_add_mod, Nat.add_assoc, longer]
      simp [sentFrames]
    · cases gap with
      | nil =>
        obtain ⟨stamped, sound⟩ := later.packets [] expected pcm packet late (by simpa using tail.symm)
        refine ⟨?_, sound⟩
        rw [stamped, before.timestamp, before.feedingParams, Nat.mod_add_mod, Nat.add_assoc]
        simp [sentFrames, longer]
      | cons mark rest =>
        rw [List.cons_append, List.cons.injEq] at tail
        exact before.packets early expected pcm packet rest (by rw [longer, tail.1])

theorem step_booked (transcode : κ → Bytes → Nat → κ × Except ε Bytes) (known : source = aptx ∨ source = aptxHd)
    {cb : EncoderCb κ} (within : cb.timestamp < 2 ^ 32) (input : Input) :
    Booked source cb (step source transcode cb input).1 (step source transcode cb input).2 := by
  cases input with
  | reset => exact .quiet within rfl rfl rfl
  | flush => exact .quiet within rfl rfl rfl
  | tick available =>
    have sent := sendFrames_sent transcode known cb available
    have framing := framed known cb
    dsimp only [step]
    generalize sendFrames source transcode cb available = result at sent
    cases sent with
    | underflow read short =>
      refine ⟨rfl, (Nat.mod_eq_of_lt within).symm, rfl, fun early _ _ _ _ split => ?_⟩
      cases early <;> simp at split
    | failed read full refused =>
      refine ⟨rfl, (Nat.mod_eq_of_lt within).symm, rfl, fun early _ _ _ _ split => ?_⟩
      cases early <;> simp at split
    | @enqueued pcm payload client read full encoded =>
      refine ⟨rfl, rfl, rfl, fun early expected pcm packet late split => ?_⟩
      have alone : early = [] := by
        cases early with
        | nil => rfl
        | cons mark rest => simp at split
      subst alone
      cases split
      have length := encodeReads_length framing encoded
      have ratio : Aptx.expected (next source cb) = 4 * (next source cb).aptxBytes := framing.ratio
      exact ⟨(Nat.mod_eq_of_lt within).symm, full, framing.fits, length.symm, by dsimp only; omega, full, rfl⟩

theorem run_booked (transcode : κ → Bytes → Nat → κ × Except ε Bytes) (known : source = aptx ∨ source = aptxHd)
    {cb : EncoderCb κ} (within : cb.timestamp < 2 ^ 32) (inputs : List Input) :
    Booked source cb (state (step source transcode) cb inputs) (outputs (step source transcode) cb inputs) := by
  induction inputs generalizing cb with
  | nil => exact .quiet within rfl rfl rfl
  | cons input rest ih =>
    have now := step_booked transcode known within input
    rw [outputs_cons, state_cons]
    apply now.append
    apply ih
    rw [now.timestamp]
    exact Nat.mod_lt _ (by decide)

/-- From any state on, every tick has exactly one outcome, the statistics are the sum of what
became of the ticks, and every packet is whole and carries the frames of the packets before it,
on a clock of 32 bits. -/
theorem books_balance (transcode : κ → Bytes → Nat → κ × Except ε Bytes) (known : source = aptx ∨ source = aptxHd)
    {cb : EncoderCb κ} (within : cb.timestamp < 2 ^ 32) (inputs : List Input) :
    Booked source cb (state (step source transcode) cb inputs) (outputs (step source transcode) cb inputs) ∧
      (outputs (step source transcode) cb inputs).length = inputs.countP Input.isTick ∧
      ∀ available, ∃ mark, outputs (step source transcode) cb (inputs ++ [.tick available]) =
          outputs (step source transcode) cb inputs ++ [mark] ∧
        Outcome source transcode (state (step source transcode) cb inputs) available mark :=
  ⟨run_booked transcode known within inputs, outputs_length transcode cb inputs, tick_outcome transcode known cb inputs⟩

/-- An encoder that keeps the first bytes of what it is given. -/
def keepingTranscode (client : Unit) (input : Bytes) (size : Nat) : Unit × Except Unit Bytes := (client, .ok (input.take size))

def keepingCb : EncoderCb Unit := { startedCb with codecClient := some () }

/-- A packet, a tick without audio, a restart and another packet. -/
def sendingInputs : List Input :=
  [.tick (List.replicate 2640 1), .tick [], .flush, .tick (List.replicate 3000 2)]

theorem books_balance_sending :
    Booked aptx keepingCb (state (step aptx keepingTranscode) keepingCb sendingInputs)
      (outputs (step aptx keepingTranscode) keepingCb sendingInputs) ∧
    (outputs (step aptx keepingTranscode) keepingCb sendingInputs).map Mark.isEnqueued = [true, false, true] ∧
    (state (step aptx keepingTranscode) keepingCb sendingInputs).timestamp = 1320 := by
  obtain ⟨booked, -, -⟩ := books_balance keepingTranscode (.inl rfl) (by decide : keepingCb.timestamp < 2 ^ 32) sendingInputs
  exact ⟨booked, by decide +kernel, by decide +kernel⟩

end FlossDesktop.Aptx
