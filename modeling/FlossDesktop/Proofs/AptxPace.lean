import FlossDesktop.Library.Cadence
import FlossDesktop.Proofs.AptxCases

/-! The packets of 44.1 kHz do not all have the same size. What a source asks for never gets
ahead of the clock, stays within a few frames of it, and meets it after every full cycle. -/

namespace FlossDesktop.Aptx
open CodecService Machine

variable {κ ε : Type} {source : Source}

/-- The PCM that the read callback was asked for, in bytes. -/
def askedBytes (marks : List Mark) : Nat := (marks.map Mark.expected).sum

@[simp] theorem askedBytes_append (first second : List Mark) :
    askedBytes (first ++ second) = askedBytes first + askedBytes second := by
  simp [askedBytes]

@[simp] theorem askedBytes_singleton (mark : Mark) : askedBytes [mark] = mark.expected := by
  simp [askedBytes]

def Input.isRestart (input : Input) : Bool := !input.isTick

/-- A stereo frame. -/
def frameBytes (source : Source) : Nat := 2 * source.bytesPerFrame

/-- The ticks after which the sizes repeat. -/
def cycle (source : Source) (useScmsT : Bool) : Nat := if source.hd then 80 else if useScmsT then 20 else 8

/-- How far a source is behind within a cycle, in thousandths of a byte. -/
def lag (source : Source) (useScmsT : Bool) (sampleRate counter : Nat) : Nat :=
  if sampleRate = 48000 then 0
  else if source.hd then 5400 * counter - 72000 * (counter / 20)
  else if useScmsT then 5600 * counter else 6000 * counter

/-- The pace, in thousandths of a byte for a tick. -/
def pace (source : Source) (useScmsT : Bool) (sampleRate : Nat) : Nat :=
  frameBytes source * sampleRate * ((source.initFramingParams useScmsT sampleRate).sleepTimeNs / (1000 * 1000))

/-- A source is in step with the clock if a tick gains what it falls behind in it. -/
structure InStep (source : Source) (useScmsT : Bool) (sampleRate : Nat) (before after : FramingParams) : Prop where
  counted : after.frameSizeCounter < cycle source useScmsT
  turned : sampleRate ≠ 48000 →
    after.frameSizeCounter = if before.frameSizeCounter + 1 = cycle source useScmsT then 0 else before.frameSizeCounter + 1
  gained : 1000 * expected after + lag source useScmsT sampleRate after.frameSizeCounter =
    pace source useScmsT sampleRate + lag source useScmsT sampleRate before.frameSizeCounter

theorem aptxUpdateFramingParams_inStep {sampleRate : Nat} (rated : sampleRate = 44100 ∨ sampleRate = 48000)
    (useScmsT : Bool) {params : FramingParams} (within : params.frameSizeCounter < cycle aptx useScmsT) :
    InStep aptx useScmsT sampleRate params (aptxUpdateFramingParams useScmsT sampleRate params) := by
  rcases rated with rfl | rfl
  · cases useScmsT
    · by_cases more : params.frameSizeCounter + 1 < 8 <;> constructor <;>
        simp [aptxUpdateFramingParams, more, cycle, aptx, expected, lag, pace, frameBytes, aptxInitFramingParams] at within ⊢
      all_goals omega
    · by_cases more : params.frameSizeCounter + 1 < 20 <;> constructor <;>
        simp [aptxUpdateFramingParams, more, cycle, aptx, expected, lag, pace, frameBytes, aptxInitFramingParams] at within ⊢
      all_goals omega
  · cases useScmsT <;> constructor <;>
      simp [aptxUpdateFramingParams, cycle, aptx, expected, lag, pace, frameBytes, aptxInitFramingParams] at within ⊢
    all_goals exact within

/-- The counter of aptX HD stands at 80 only between being raised and being put back. -/
theorem aptxHdUpdateFramingParams_inStep {sampleRate : Nat} (rated : sampleRate = 44100 ∨ sampleRate = 48000)
    (useScmsT : Bool) {params : FramingParams} (within : params.frameSizeCounter < cycle aptxHd useScmsT) :
    InStep aptxHd useScmsT sampleRate params (aptxHdUpdateFramingParams useScmsT sampleRate params) := by
  rcases rated with rfl | rfl
  · by_cases last : params.frameSizeCounter = 79
    · constructor <;>
        simp [aptxHdUpdateFramingParams, last, cycle, aptxHd, expected, lag, pace, frameBytes, aptxHdInitFramingParams]
    · by_cases fourth : (params.frameSizeCounter + 1) % 20 = 0 <;> constructor <;>
        simp [aptxHdUpdateFramingParams, last, fourth, cycle, aptxHd, expected, lag, pace, frameBytes,
          aptxHdInitFramingParams] at within ⊢
      all_goals omega
  · constructor <;>
      simp [aptxHdUpdateFramingParams, cycle, aptxHd, expected, lag, pace, frameBytes, aptxHdInitFramingParams] at within ⊢
    exact within

theorem lag_bound (known : source = aptx ∨ source = aptxHd) {useScmsT : Bool} (sampleRate : Nat) {counter : Nat}
    (within : counter < cycle source useScmsT) :
    lag source useScmsT sampleRate counter ≤ frameBytes source * 35100 := by
  unfold lag
  split
  · exact Nat.zero_le _
  · rcases known with rfl | rfl
    · cases useScmsT <;> simp [cycle, aptx, frameBytes] at within ⊢ <;> omega
    · simp [cycle, aptxHd, frameBytes] at within ⊢
      omega

theorem inStep (known : source = aptx ∨ source = aptxHd) {cb : EncoderCb κ}
    (rated : cb.feedingParams.sampleRate = 44100 ∨ cb.feedingParams.sampleRate = 48000)
    (within : cb.framingParams.frameSizeCounter < cycle source cb.useScmsT) :
    InStep source cb.useScmsT cb.feedingParams.sampleRate cb.framingParams (next source cb) := by
  rcases known with rfl | rfl
  · exact aptxUpdateFramingParams_inStep rated cb.useScmsT within
  · exact aptxHdUpdateFramingParams_inStep rated cb.useScmsT within

/-- What does not change while a source runs, and where its counter is. -/
structure Running (source : Source) (useScmsT : Bool) (sampleRate : Nat) (cb : EncoderCb κ) : Prop where
  scms : cb.useScmsT = useScmsT
  rate : cb.feedingParams.sampleRate = sampleRate
  counted : cb.framingParams.frameSizeCounter < cycle source useScmsT

/-- The phase of a source. -/
def behind (source : Source) (useScmsT : Bool) (sampleRate : Nat) (cb : EncoderCb κ) : Int :=
  -(lag source useScmsT sampleRate cb.framingParams.frameSizeCounter : Int)

theorem init_counter (known : source = aptx ∨ source = aptxHd) (useScmsT : Bool) (sampleRate : Nat) :
    (source.initFramingParams useScmsT sampleRate).frameSizeCounter = 0 := by
  rcases known with rfl | rfl <;> rfl

theorem cycle_pos (source : Source) (useScmsT : Bool) : 0 < cycle source useScmsT := by
  unfold cycle
  split
  · decide
  · split <;> decide

@[simp] theorem lag_zero (source : Source) (useScmsT : Bool) (sampleRate : Nat) : lag source useScmsT sampleRate 0 = 0 := by
  unfold lag
  simp

variable (transcode : κ → Bytes → Nat → κ × Except ε Bytes)

theorem tick_asks (known : source = aptx ∨ source = aptxHd) (cb : EncoderCb κ) (available : Bytes) :
    (sendFrames source transcode cb available).2.expected = expected (next source cb) ∧
      (sendFrames source transcode cb available).1.framingParams = next source cb ∧
      (sendFrames source transcode cb available).1.feedingParams = cb.feedingParams ∧
      (sendFrames source transcode cb available).1.useScmsT = cb.useScmsT := by
  have sent := sendFrames_sent transcode known cb available
  generalize sendFrames source transcode cb available = result at sent
  cases sent <;> exact ⟨rfl, rfl, rfl, rfl⟩

theorem paced (known : source = aptx ∨ source = aptxHd) (useScmsT : Bool) {sampleRate : Nat}
    (rated : sampleRate = 44100 ∨ sampleRate = 48000) :
    Cadence.Paced (step source transcode) (Running source useScmsT sampleRate) Input.isTick Input.isRestart
      (fun marks => (1000 * askedBytes marks : Nat)) (behind source useScmsT sampleRate) (pace source useScmsT sampleRate)
      (frameBytes source * 35100 : Nat) where
  none_asked := rfl
  additive := fun first second => by simp [mul_add]
  kept := by
    rintro cb input ⟨rfl, rfl, counted⟩
    have ahead := inStep known rated counted
    cases input with
    | tick available =>
      obtain ⟨-, framing, feeding, scms⟩ := tick_asks transcode known cb available
      exact ⟨scms, congrArg _ feeding, by rw [step, framing]; exact ahead.counted⟩
    | reset => exact ⟨rfl, rfl, by rw [step, feedingReset, init_counter known]; exact cycle_pos ..⟩
    | flush => exact ⟨rfl, rfl, by rw [step, feedingFlush, init_counter known]; exact cycle_pos ..⟩
  within := by
    rintro cb ⟨rfl, rfl, counted⟩
    have bound := lag_bound known cb.feedingParams.sampleRate counted
    dsimp only [behind]
    omega
  ticked := by
    rintro cb input ⟨rfl, rfl, counted⟩ ticking
    cases input with
    | tick available =>
      obtain ⟨asks, framing, -, -⟩ := tick_asks transcode known cb available
      have gained := (inStep known rated counted).gained
      refine ⟨?_, rfl⟩
      dsimp only [step, behind]
      rw [askedBytes_singleton, asks, framing]
      omega
    | reset => cases ticking
    | flush => cases ticking
  quiet := by
    rintro cb input ⟨rfl, rfl, -⟩ quiet
    cases input with
    | tick available => cases quiet
    | reset =>
      refine ⟨rfl, ?_⟩
      dsimp only [step, feedingReset, behind]
      rw [init_counter known, lag_zero]
      rfl
    | flush =>
      refine ⟨rfl, ?_⟩
      dsimp only [step, feedingFlush, behind]
      rw [init_counter known, lag_zero]
      rfl

/-- Without restarts the counter goes round. -/
theorem counter_turns (known : source = aptx ∨ source = aptxHd) {cb : EncoderCb κ} {useScmsT : Bool} {sampleRate : Nat}
    (rated : sampleRate = 44100 ∨ sampleRate = 48000) (running : Running source useScmsT sampleRate cb)
    (slow : sampleRate ≠ 48000) (inputs : List Input) (steady : ∀ input ∈ inputs, input.isRestart = false) :
    (state (step source transcode) cb inputs).framingParams.frameSizeCounter =
      (cb.framingParams.frameSizeCounter + inputs.countP Input.isTick) % cycle source useScmsT := by
  induction inputs generalizing cb with
  | nil => exact (Nat.mod_eq_of_lt running.counted).symm
  | cons input rest ih =>
    have plain := steady input List.mem_cons_self
    cases input with
    | reset => cases plain
    | flush => cases plain
    | tick available =>
      have later := ih ((paced transcode known useScmsT rated).kept cb (.tick available) running)
        fun other member => steady other (List.mem_cons_of_mem _ member)
      obtain ⟨rfl, rfl, counted⟩ := running
      obtain ⟨-, framing, -, -⟩ := tick_asks transcode known cb available
      have turned := (inStep known rated counted).turned slow
      rw [state_cons, later, step, framing, turned, List.countP_cons]
      split
      next full =>
        rw [Input.isTick, if_pos rfl, ← Nat.add_assoc, Nat.add_right_comm, full, Nat.zero_add, Nat.add_mod_left]
      next more => rw [Input.isTick, if_pos rfl, Nat.add_right_comm, Nat.add_assoc]

theorem cycle_dvd (source : Source) (useScmsT : Bool) : cycle source useScmsT ∣ 80 := by
  unfold cycle
  split
  · decide
  · split <;> decide

/-- A source never asks for more than the sample rate, is at most 35.1 frames behind it, once
more for every restart, and exactly on it after every 80 ticks without one. -/
theorem keeps_the_sample_rate (known : source = aptx ∨ source = aptxHd) {cb : EncoderCb κ}
    (rated : cb.feedingParams.sampleRate = 44100 ∨ cb.feedingParams.sampleRate = 48000)
    (fresh : cb.framingParams = source.initFramingParams cb.useScmsT cb.feedingParams.sampleRate) (inputs : List Input) :
    let clock := frameBytes source * cb.feedingParams.sampleRate * getEncoderIntervalMs cb * inputs.countP Input.isTick
    let asked := 1000 * askedBytes (outputs (step source transcode) cb inputs)
    asked ≤ clock ∧ clock ≤ asked + frameBytes source * 35100 * (inputs.countP Input.isRestart + 1) ∧
      (inputs.countP Input.isRestart = 0 → 80 ∣ inputs.countP Input.isTick → asked = clock) := by
  have still : cb.framingParams.frameSizeCounter = 0 := by rw [fresh, init_counter known]
  have running : Running source cb.useScmsT cb.feedingParams.sampleRate cb :=
    ⟨rfl, rfl, by rw [still]; exact cycle_pos ..⟩
  have started : behind source cb.useScmsT cb.feedingParams.sampleRate cb = 0 := by
    rw [behind, still, lag_zero]
    rfl
  have rhythm := paced transcode known cb.useScmsT rated
  have interval : pace source cb.useScmsT cb.feedingParams.sampleRate =
      frameBytes source * cb.feedingParams.sampleRate * getEncoderIntervalMs cb := by
    rw [pace, getEncoderIntervalMs, fresh]
  have kept := rhythm.keeps_pace running started inputs
  dsimp only at kept ⊢
  rw [interval] at kept
  refine ⟨by exact_mod_cast kept.2, ?_, fun none whole => ?_⟩
  · have low := kept.1
    push_cast at low
    zify
    linarith
  · have steady : ∀ input ∈ inputs, input.isRestart = false := fun input member => by
      simpa using List.countP_eq_zero.mp none input member
    have complete : behind source cb.useScmsT cb.feedingParams.sampleRate (state (step source transcode) cb inputs) = 0 := by
      by_cases slow : cb.feedingParams.sampleRate = 48000
      · rw [behind, lag, if_pos slow]
        rfl
      · rw [behind, counter_turns transcode known rated running slow inputs steady, still, Nat.zero_add,
          Nat.mod_eq_zero_of_dvd ((cycle_dvd ..).trans whole), lag_zero]
        rfl
    have exact := rhythm.exact running started steady complete
    rw [interval] at exact
    exact_mod_cast exact

def startedCb : EncoderCb Unit where
  feedingParams := { sampleRate := 44100, bitsPerSample := 16, channelCount := 2 }
  framingParams := aptxInitFramingParams false 44100

/-- Ten cycles of eight ticks that find no audio. -/
theorem keeps_the_sample_rate_exactly :
    1000 * askedBytes (outputs (step aptx fun (_ : Unit) _ _ => ((), Except.error ())) startedCb
      (List.replicate 80 (.tick []))) = 4 * 44100 * 15 * 80 := by
  have kept := keeps_the_sample_rate (fun _ _ _ => ((), Except.error ())) (.inl rfl)
    (show startedCb.feedingParams.sampleRate = 44100 ∨ _ from .inl rfl) rfl (List.replicate 80 (.tick []))
  exact (kept.2.2 (by decide) (by decide)).trans (by decide)

end FlossDesktop.Aptx
