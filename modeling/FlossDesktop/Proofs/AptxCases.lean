import FlossDesktop.Aptx
import FlossDesktop.Proofs.CodecBlocks

/-! What a tick can do, whatever the service behind the client does. -/

namespace FlossDesktop.Aptx
open CodecService Machine

variable {κ ε : Type} {source : Source}

namespace Mark

def expected : Mark → Nat
  | .underflow expected _ => expected
  | .failed expected _ => expected
  | .enqueued expected _ _ => expected

def pcm : Mark → Bytes
  | .underflow _ pcm => pcm
  | .failed _ pcm => pcm
  | .enqueued _ pcm _ => pcm

def isUnderflow : Mark → Bool
  | .underflow _ _ => true
  | _ => false

def isFailed : Mark → Bool
  | .failed _ _ => true
  | _ => false

def isEnqueued : Mark → Bool
  | .enqueued _ _ _ => true
  | _ => false

end Mark

/-- Packets are made of reads of whole blocks, and fit the buffer that is read into. -/
structure Framed (source : Source) (params : FramingParams) : Prop where
  whole : source.blockBytes ∣ params.pcmBytesPerRead
  quarters : 4 ∣ params.pcmBytesPerRead
  some : 0 < params.pcmReads * params.pcmBytesPerRead
  fits : params.pcmReads * params.pcmBytesPerRead ≤ 4096
  ratio : params.pcmReads * params.pcmBytesPerRead = 4 * params.aptxBytes

theorem aptxUpdateFramingParams_framed (useScmsT : Bool) (sampleRate : Nat) (params : FramingParams) :
    Framed aptx (aptxUpdateFramingParams useScmsT sampleRate params) := by
  unfold aptxUpdateFramingParams
  split <;> split <;> try split
  all_goals constructor <;> dsimp only [aptx] <;> decide

theorem aptxHdUpdateFramingParams_framed (useScmsT : Bool) (sampleRate : Nat) (params : FramingParams) :
    Framed aptxHd (aptxHdUpdateFramingParams useScmsT sampleRate params) := by
  unfold aptxHdUpdateFramingParams
  split
  · constructor <;> dsimp only [aptxHd] <;> decide
  · dsimp only
    split <;> try split
    all_goals constructor <;> dsimp only [aptxHd] <;> decide

/-- The framing of the next packet. -/
def next (source : Source) (cb : EncoderCb κ) : FramingParams :=
  source.updateFramingParams cb.useScmsT cb.feedingParams.sampleRate cb.framingParams

def expected (params : FramingParams) : Nat := params.pcmReads * params.pcmBytesPerRead

theorem framed (known : source = aptx ∨ source = aptxHd) (cb : EncoderCb κ) : Framed source (next source cb) := by
  rcases known with rfl | rfl
  · exact aptxUpdateFramingParams_framed ..
  · exact aptxHdUpdateFramingParams_framed cb.useScmsT ..

def EncoderStats.read (stats : EncoderStats) (expected actual : Nat) : EncoderStats :=
  { stats.expecting expected with actualReadBytes := stats.actualReadBytes + actual }

def EncoderStats.full (stats : EncoderStats) : EncoderStats := { stats with actualReadsCount := stats.actualReadsCount + 1 }

/-- Frames are counted for every channel. -/
def frames (source : Source) (cb : EncoderCb κ) (pcmBytes : Nat) : Nat :=
  pcmBytes / cb.feedingParams.channelCount / source.bytesPerFrame

/-- The three ends of a tick that finds some audio. -/
inductive Sent (source : Source) (transcode : κ → Bytes → Nat → κ × Except ε Bytes) (cb : EncoderCb κ) (available : Bytes) :
    EncoderCb κ × Mark → Prop where
  | underflow {pcm : Bytes} (read : pcm = available.take (expected (next source cb))) (short : pcm.length < expected (next source cb)) :
      Sent source transcode cb available ({ cb with
        framingParams := next source cb
        stats := (cb.stats.read (expected (next source cb)) pcm.length).dropped },
        .underflow (expected (next source cb)) pcm)
  | failed {pcm : Bytes} {client : Option κ} (read : pcm = available.take (expected (next source cb)))
      (full : pcm.length = expected (next source cb))
      (refused : encodeReads transcode (next source cb) cb.codecClient pcm = (client, .error ())) :
      Sent source transcode cb available ({ cb with
        framingParams := next source cb
        stats := ((cb.stats.read (expected (next source cb)) pcm.length).full).dropped
        codecClient := client }, .failed (expected (next source cb)) pcm)
  | enqueued {pcm payload : Bytes} {client : Option κ} (read : pcm = available.take (expected (next source cb)))
      (full : pcm.length = expected (next source cb))
      (encoded : encodeReads transcode (next source cb) cb.codecClient pcm = (client, .ok payload)) :
      Sent source transcode cb available ({ cb with
        framingParams := next source cb
        stats := (cb.stats.read (expected (next source cb)) pcm.length).full
        codecClient := client
        timestamp := (cb.timestamp + frames source cb (expected (next source cb))) % 2 ^ 32 },
        .enqueued (expected (next source cb)) pcm
          { timestamp := cb.timestamp, len := expected (next source cb) / 4, payload, framesCount := 1, bytesRead := pcm.length })

theorem sendFrames_sent (transcode : κ → Bytes → Nat → κ × Except ε Bytes)
    (known : source = aptx ∨ source = aptxHd) (cb : EncoderCb κ) (available : Bytes) :
    Sent source transcode cb available (sendFrames source transcode cb available) := by
  have bound : (available.take (expected (next source cb))).length ≤ expected (next source cb) := by
    rw [List.length_take]
    exact Nat.min_le_left ..
  have framing := framed known cb
  dsimp only [sendFrames]
  split
  next short => exact .underflow rfl short
  next enough =>
    have full := Nat.le_antisymm bound (Nat.not_lt.mp enough)
    split
    next client refused ran => exact .failed rfl full ran
    next client payload ran =>
      have some : expected (next source cb) / COMPRESSION_RATIO > 0 := by
        have ratio : expected (next source cb) = 4 * (next source cb).aptxBytes := framing.ratio
        have positive : 0 < expected (next source cb) := framing.some
        dsimp only [ COMPRESSION_RATIO]
        omega
      split
      · exact .enqueued rfl full ran
      next none => exact absurd some none

/-- What becomes of a tick that finds some audio: it is short of what it asks for, or sends
what it got, or drops it because the encoder refused. -/
structure Outcome (source : Source) (transcode : κ → Bytes → Nat → κ × Except ε Bytes) (cb : EncoderCb κ)
    (available : Bytes) (mark : Mark) : Prop where
  asked : mark.expected = expected (next source cb)
  read : mark.pcm = available.take mark.expected
  short : mark.isUnderflow = true ↔ available.length < mark.expected
  sent : mark.isEnqueued = true ↔ mark.expected ≤ available.length ∧
    ∃ client payload, encodeReads transcode (next source cb) cb.codecClient mark.pcm = (client, .ok payload)
  dropped : mark.isFailed = true ↔ mark.expected ≤ available.length ∧
    ∃ client, encodeReads transcode (next source cb) cb.codecClient mark.pcm = (client, .error ())

theorem Sent.outcome {transcode : κ → Bytes → Nat → κ × Except ε Bytes} {cb after : EncoderCb κ} {available : Bytes}
    {mark : Mark} (sent : Sent source transcode cb available (after, mark)) : Outcome source transcode cb available mark := by
  cases sent with
  | @underflow pcm read short =>
    have less : available.length < expected (next source cb) := by
      rw [read, List.length_take] at short
      omega
    refine ⟨rfl, read, iff_of_true rfl less, iff_of_false Bool.false_ne_true ?_, iff_of_false Bool.false_ne_true ?_⟩
    · exact fun enough => absurd enough.1 (Nat.not_le.mpr less)
    · exact fun enough => absurd enough.1 (Nat.not_le.mpr less)
  | @failed pcm client read full refused =>
    have enough : expected (next source cb) ≤ available.length := by
      rw [read, List.length_take] at full
      omega
    refine ⟨rfl, read, iff_of_false Bool.false_ne_true (Nat.not_lt.mpr enough), iff_of_false Bool.false_ne_true ?_,
      iff_of_true rfl ⟨enough, client, refused⟩⟩
    rintro ⟨-, other, payload, encoded⟩
    cases refused.symm.trans encoded
  | @enqueued pcm payload client read full encoded =>
    have enough : expected (next source cb) ≤ available.length := by
      rw [read, List.length_take] at full
      omega
    refine ⟨rfl, read, iff_of_false Bool.false_ne_true (Nat.not_lt.mpr enough),
      iff_of_true rfl ⟨enough, client, payload, encoded⟩, iff_of_false Bool.false_ne_true ?_⟩
    rintro ⟨-, other, refused⟩
    cases encoded.symm.trans refused

def Input.isTick : Input → Bool
  | .tick _ => true
  | _ => false

/-- Ticks leave a mark each, and restarts none. -/
theorem outputs_length (transcode : κ → Bytes → Nat → κ × Except ε Bytes) (cb : EncoderCb κ) (inputs : List Input) :
    (outputs (step source transcode) cb inputs).length = inputs.countP Input.isTick := by
  induction inputs generalizing cb with
  | nil => rfl
  | cons input rest ih =>
    rw [outputs_cons, List.length_append, ih, List.countP_cons, Nat.add_comm]
    cases input <;> rfl

/-- Every tick has one outcome. -/
theorem tick_outcome (transcode : κ → Bytes → Nat → κ × Except ε Bytes) (known : source = aptx ∨ source = aptxHd)
    (cb : EncoderCb κ) (inputs : List Input) (available : Bytes) :
    ∃ mark, outputs (step source transcode) cb (inputs ++ [.tick available]) =
        outputs (step source transcode) cb inputs ++ [mark] ∧
      Outcome source transcode (state (step source transcode) cb inputs) available mark :=
  ⟨_, outputs_concat _ _, (sendFrames_sent transcode known _ available).outcome⟩

end FlossDesktop.Aptx
