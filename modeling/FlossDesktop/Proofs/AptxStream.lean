import FlossDesktop.Proofs.AptxCases

/-! The cadence of the packets is invisible in what is encoded. Reads become blocks before they
reach the reference encoder, so the packets together carry what one call would have made of
all the PCM that was sent. -/

namespace FlossDesktop.Aptx
open CodecService Feed Machine

variable {σ : Type} {library : AptxLibrary σ} {source : Source}

/-- The PCM of the packets that were enqueued. -/
def sentPcm (marks : List Mark) : Bytes := marks.flatMap fun
  | .enqueued _ pcm _ => pcm
  | _ => []

def payloads (marks : List Mark) : Bytes := marks.flatMap fun
  | .enqueued _ _ packet => packet.payload
  | _ => []

@[simp] theorem sentPcm_append (first second : List Mark) : sentPcm (first ++ second) = sentPcm first ++ sentPcm second :=
  List.flatMap_append

@[simp] theorem payloads_append (first second : List Mark) :
    payloads (first ++ second) = payloads first ++ payloads second := List.flatMap_append

/-- The reference encoder turns these whole blocks of PCM into this payload. -/
def Encodes (library : AptxLibrary σ) (encoder : A2dpAptxEncoder σ) (state : σ) (pcm : Bytes) (last : σ) (payload : Bytes) :
    Prop :=
  ∃ count, pcm.length = encoder.pcmBytes * count ∧
    feed (encoder.encodeBlock library) state (Chunks.chunks encoder.pcmBytes count pcm) = (last, .ok payload)

theorem Encodes.nil (encoder : A2dpAptxEncoder σ) (state : σ) : Encodes library encoder state [] state [] :=
  ⟨0, rfl, rfl⟩

theorem Encodes.append {encoder : A2dpAptxEncoder σ} {state middle last : σ} {first second early late : Bytes}
    (before : Encodes library encoder state first middle early) (after : Encodes library encoder middle second last late) :
    Encodes library encoder state (first ++ second) last (early ++ late) := by
  obtain ⟨count, whole, fed⟩ := before
  obtain ⟨more, rest, again⟩ := after
  refine ⟨count + more, by rw [List.length_append, whole, rest, Nat.mul_add], ?_⟩
  rw [Chunks.chunks_append whole]
  exact feed_append_ok.mpr ⟨middle, early, late, fed, again, rfl⟩

theorem Encodes.transcode {encoder : A2dpAptxEncoder σ} {state last : σ} {pcm payload : Bytes} {oLen : Nat}
    (encodes : Encodes library encoder state pcm last payload) (held : encoder.state = some state) (some : pcm ≠ [])
    (room : pcm.length / 4 ≤ oLen) :
    encoder.transcode library pcm oLen = ({ encoder with state := Option.some last }, .ok payload) := by
  obtain ⟨count, whole, fed⟩ := encodes
  apply A2dpAptxEncoder.transcode_ok.mpr
  refine ⟨state, last, held, some, ⟨count, whole⟩, room, ?_, rfl⟩
  rw [whole, Nat.mul_div_cancel_left count encoder.pcmBytes_pos]
  exact fed

theorem encodeRead_ok {perRead : Nat} {encoder after : A2dpAptxEncoder σ} {state : σ} {input output : Bytes}
    (held : encoder.state = some state)
    (ran : encodeRead (A2dpAptxEncoder.transcode library) perRead encoder input = (after, .ok output)) :
    ∃ last, after = { encoder with state := some last } ∧ Encodes library encoder state input last output := by
  unfold encodeRead at ran
  split at ran
  next client out transcoded =>
    obtain ⟨_, last, same, -, ⟨count, whole⟩, -, fed, rfl⟩ := A2dpAptxEncoder.transcode_ok.mp transcoded
    cases held.symm.trans same
    rw [whole, Nat.mul_div_cancel_left count encoder.pcmBytes_pos] at fed
    split at ran
    · cases ran
      exact ⟨last, rfl, count, whole, fed⟩
    · cases ran
  · cases ran

theorem feed_encodeRead_ok {perRead : Nat} {pieces : List Bytes} {encoder after : A2dpAptxEncoder σ} {state : σ}
    {payload : Bytes} (held : encoder.state = some state)
    (fed : feed (encodeRead (A2dpAptxEncoder.transcode library) perRead) encoder pieces = (after, .ok payload)) :
    ∃ last, after = { encoder with state := some last } ∧ Encodes library encoder state pieces.flatten last payload := by
  induction pieces generalizing encoder state payload with
  | nil =>
    cases fed
    exact ⟨state, by rw [← held], Encodes.nil _ state⟩
  | cons piece rest ih =>
    obtain ⟨middle, first, later, ran, more, rfl⟩ := feed_cons_ok.mp fed
    obtain ⟨between, rfl, early⟩ := encodeRead_ok held ran
    obtain ⟨last, rfl, late⟩ := ih rfl more
    exact ⟨last, rfl, early.append late⟩

theorem encodeReads_ok {params : FramingParams} {encoder : A2dpAptxEncoder σ} {client : Option (A2dpAptxEncoder σ)}
    {state : σ} {pcm payload : Bytes} (held : encoder.state = some state) (full : pcm.length = expected params)
    (ran : encodeReads (A2dpAptxEncoder.transcode library) params (some encoder) pcm = (client, .ok payload)) :
    ∃ last, client = some { encoder with state := some last } ∧ Encodes library encoder state pcm last payload := by
  dsimp only [encodeReads] at ran
  rcases fed : feed (encodeRead (A2dpAptxEncoder.transcode library) params.pcmBytesPerRead) encoder
    (Chunks.chunks params.pcmBytesPerRead params.pcmReads pcm) with ⟨after, result⟩
  rw [fed] at ran
  cases ran
  obtain ⟨last, rfl, encodes⟩ := feed_encodeRead_ok held fed
  rw [Chunks.chunks_flatten (by rw [full, expected, Nat.mul_comm])] at encodes
  exact ⟨last, rfl, encodes⟩

/-- A tick that does not fail encodes just what it sends. -/
theorem step_encodes (known : source = aptx ∨ source = aptxHd) {cb : EncoderCb (A2dpAptxEncoder σ)}
    {encoder : A2dpAptxEncoder σ} {state : σ} (live : cb.codecClient = some encoder) (held : encoder.state = some state)
    (input : Input)
    (sound : ∀ mark ∈ (step source (A2dpAptxEncoder.transcode library) cb input).2, mark.isFailed = false) :
    ∃ last, (step source (A2dpAptxEncoder.transcode library) cb input).1.codecClient = some { encoder with state := some last } ∧
      Encodes library encoder state (sentPcm (step source (A2dpAptxEncoder.transcode library) cb input).2) last
        (payloads (step source (A2dpAptxEncoder.transcode library) cb input).2) := by
  have same : some encoder = some { encoder with state := some state } := by rw [← held]
  cases input with
  | reset => exact ⟨state, live.trans same, Encodes.nil encoder state⟩
  | flush => exact ⟨state, live.trans same, Encodes.nil encoder state⟩
  | tick available =>
    have sent := sendFrames_sent (A2dpAptxEncoder.transcode library) known cb available
    dsimp only [step] at sound ⊢
    generalize sendFrames source (A2dpAptxEncoder.transcode library) cb available = result at sent sound
    cases sent with
    | underflow read short => exact ⟨state, live.trans same, Encodes.nil encoder state⟩
    | failed read full refused => exact absurd (sound _ (List.mem_singleton_self _)) nofun
    | enqueued read full encoded =>
      rw [live] at encoded
      obtain ⟨last, rfl, encodes⟩ := encodeReads_ok held full encoded
      refine ⟨last, rfl, ?_⟩
      simpa only [sentPcm, payloads, List.flatMap_cons, List.flatMap_nil, List.append_nil] using encodes

theorem run_encodes (known : source = aptx ∨ source = aptxHd) {cb : EncoderCb (A2dpAptxEncoder σ)}
    {encoder : A2dpAptxEncoder σ} {start : σ} (live : cb.codecClient = some encoder) (held : encoder.state = some start)
    (inputs : List Input)
    (sound : ∀ mark ∈ outputs (step source (A2dpAptxEncoder.transcode library)) cb inputs, mark.isFailed = false) :
    ∃ last, (state (step source (A2dpAptxEncoder.transcode library)) cb inputs).codecClient =
        some { encoder with state := some last } ∧
      Encodes library encoder start (sentPcm (outputs (step source (A2dpAptxEncoder.transcode library)) cb inputs)) last
        (payloads (outputs (step source (A2dpAptxEncoder.transcode library)) cb inputs)) := by
  induction inputs generalizing cb encoder start with
  | nil =>
    refine ⟨start, ?_, Encodes.nil encoder start⟩
    rw [← held]
    exact live
  | cons input rest ih =>
    rw [outputs_cons] at sound
    obtain ⟨middle, stepped, early⟩ := step_encodes known live held input
      fun mark member => sound mark (List.mem_append_left _ member)
    obtain ⟨last, reached, late⟩ := ih stepped rfl
      fun mark member => sound mark (List.mem_append_right _ member)
    refine ⟨last, reached, ?_⟩
    rw [outputs_cons, sentPcm_append, payloads_append]
    exact early.append late

/-- Whatever the cadence, the underflows and the restarts of the feeding, the packets of a run
without encoder failures carry what one call of the service makes of all their PCM. -/
theorem payloads_are_one_transcode (known : source = aptx ∨ source = aptxHd) {cb : EncoderCb (A2dpAptxEncoder σ)}
    {encoder : A2dpAptxEncoder σ} {start : σ} (live : cb.codecClient = some encoder) (held : encoder.state = some start)
    (inputs : List Input)
    (sound : ∀ mark ∈ outputs (step source (A2dpAptxEncoder.transcode library)) cb inputs, mark.isFailed = false)
    (some : sentPcm (outputs (step source (A2dpAptxEncoder.transcode library)) cb inputs) ≠ []) {oLen : Nat}
    (room : (sentPcm (outputs (step source (A2dpAptxEncoder.transcode library)) cb inputs)).length / 4 ≤ oLen) :
    ∃ after, (state (step source (A2dpAptxEncoder.transcode library)) cb inputs).codecClient = Option.some after ∧
      encoder.transcode library (sentPcm (outputs (step source (A2dpAptxEncoder.transcode library)) cb inputs)) oLen =
        (after, .ok (payloads (outputs (step source (A2dpAptxEncoder.transcode library)) cb inputs))) := by
  obtain ⟨last, reached, encodes⟩ := run_encodes known live held inputs sound
  exact ⟨_, reached, encodes.transcode held some room⟩

theorem encodeReads_succeeds (accepting : A2dpAptxEncoder.Accepting library) {params : FramingParams}
    (framing : Framed source params) {encoder : A2dpAptxEncoder σ} (blocks : encoder.pcmBytes = source.blockBytes)
    {state : σ} {pcm : Bytes} (held : encoder.state = some state) (full : pcm.length = expected params) :
    ∃ last payload, encodeReads (A2dpAptxEncoder.transcode library) params (some encoder) pcm =
      (some { encoder with state := some last }, .ok payload) := by
  have whole : pcm.length = params.pcmBytesPerRead * params.pcmReads := by rw [full, expected, Nat.mul_comm]
  have positive : 0 < params.pcmBytesPerRead := Nat.pos_of_mul_pos_left framing.some
  have taken : ∃ after payload, feed (encodeRead (A2dpAptxEncoder.transcode library) params.pcmBytesPerRead) encoder
      (Chunks.chunks params.pcmBytesPerRead params.pcmReads pcm) = (after, .ok payload) ∧
        ∃ last, after = { encoder with state := some last } := by
    apply feed_succeeds fun current : A2dpAptxEncoder σ => ∃ last : σ, current = { encoder with state := some last }
    · rintro _ piece member ⟨last, rfl⟩
      have size := Chunks.length_of_mem whole member
      have filled : piece ≠ [] := List.ne_nil_of_length_pos (size ▸ positive)
      have holding : ({ encoder with state := some last } : A2dpAptxEncoder σ).state = some last := rfl
      obtain ⟨next, output, ran, length⟩ := A2dpAptxEncoder.transcode_succeeds accepting holding filled
        (by rw [size]; exact blocks ▸ framing.whole) (Nat.le_refl _)
      refine ⟨_, output, ?_, next, rfl⟩
      rw [size] at ran length
      rw [encodeRead, ran]
      simp [length]
    · exact ⟨state, by rw [← held]⟩
  obtain ⟨_, payload, fed, last, rfl⟩ := taken
  refine ⟨last, payload, ?_⟩
  dsimp only [encodeReads]
  rw [fed]

theorem never_fails (known : source = aptx ∨ source = aptxHd) (accepting : A2dpAptxEncoder.Accepting library)
    {cb : EncoderCb (A2dpAptxEncoder σ)} {encoder : A2dpAptxEncoder σ} {start : σ} (live : cb.codecClient = some encoder)
    (blocks : encoder.pcmBytes = source.blockBytes) (held : encoder.state = some start) (inputs : List Input) :
    ∀ mark ∈ outputs (step source (A2dpAptxEncoder.transcode library)) cb inputs, mark.isFailed = false := by
  induction inputs generalizing cb encoder start with
  | nil => exact fun mark member => absurd member List.not_mem_nil
  | cons input rest ih =>
    have sound : ∀ mark ∈ (step source (A2dpAptxEncoder.transcode library) cb input).2, mark.isFailed = false := by
      intro mark member
      cases input with
      | reset => cases member
      | flush => cases member
      | tick available =>
        have sent := sendFrames_sent (A2dpAptxEncoder.transcode library) known cb available
        rw [List.mem_singleton.mp member]
        generalize sendFrames source (A2dpAptxEncoder.transcode library) cb available = result at sent
        cases sent with
        | underflow read short => rfl
        | enqueued read full encoded => rfl
        | failed read full refused =>
          obtain ⟨last, payload, encoded⟩ := encodeReads_succeeds accepting (framed known cb) blocks held full
          rw [live, encoded] at refused
          cases refused
    obtain ⟨last, stepped, -⟩ := step_encodes known live held input sound
    intro mark member
    rw [outputs_cons] at member
    rcases List.mem_append.mp member with now | later
    · exact sound mark now
    · exact ih stepped blocks rfl mark later

/-- A source that is started against the service, which may be short of memory. -/
def startSession (library : AptxLibrary σ) (source : Source) (before : A2dpAptxEncoder σ) (memory : Bool)
    (current : State (A2dpAptxEncoder σ)) (config : Option FeedingParams) : State (A2dpAptxEncoder σ) :=
  let (client, answer) := before.init library (some (if source.hd then 1 else 0)) memory
  encoderInit source current config client answer

theorem init_ok {before client : A2dpAptxEncoder σ} {hd memory : Bool} {block : Nat}
    (started : before.init library (some (if hd then 1 else 0)) memory = (client, .ok block)) :
    ∃ start, client = { hd, state := some start } := by
  cases hd <;> dsimp only [A2dpAptxEncoder.init] at started <;> cases memory <;> simp at started
  · split at started <;> cases started
    exact ⟨_, rfl⟩
  · split at started <;> cases started
    exact ⟨_, rfl⟩

/-- A published configuration means an encoder of the right variant. -/
theorem startSession_live {before : A2dpAptxEncoder σ} {memory : Bool} {current : State (A2dpAptxEncoder σ)}
    {config : Option FeedingParams} (ready : (startSession library source before memory current config).pcmConfig.ready = true) :
    ∃ start, (startSession library source before memory current config).cb.codecClient =
      some { hd := source.hd, state := some start } := by
  unfold startSession at ready ⊢
  rcases started : before.init library (some (if source.hd then 1 else 0)) memory with ⟨client, reason | block⟩
  · rw [started] at ready
    cases ready
  · rw [started] at ready
    obtain ⟨start, rfl⟩ := init_ok started
    refine ⟨start, ?_⟩
    dsimp only [encoderInit] at ready ⊢
    split at ready
    next same => rw [if_pos same]
    · cases ready

/-- The sizes of both ends fit together. After an initialization that published a configuration,
with a reference encoder that takes every block, every tick asks for some audio, and is short of
it or sends a packet with all that it asked for. -/
theorem session_sends_full_reads (known : source = aptx ∨ source = aptxHd) (accepting : A2dpAptxEncoder.Accepting library)
    {before : A2dpAptxEncoder σ} {memory : Bool} {current : State (A2dpAptxEncoder σ)} {config : Option FeedingParams}
    (ready : (startSession library source before memory current config).pcmConfig.ready = true) (inputs : List Input) :
    let cb := (startSession library source before memory current config).cb
    let marks := outputs (step source (A2dpAptxEncoder.transcode library)) cb
    (∀ mark ∈ marks inputs, mark.isFailed = false) ∧ (marks inputs).length = inputs.countP Input.isTick ∧
      ∀ available, ∃ mark, marks (inputs ++ [.tick available]) = marks inputs ++ [mark] ∧ 0 < mark.expected ∧
        mark.pcm = available.take mark.expected ∧
        (if available.length < mark.expected then mark.isUnderflow else mark.isEnqueued) = true := by
  intro cb marks
  obtain ⟨start, live⟩ := startSession_live ready
  have blocks : ({ hd := source.hd, state := some start } : A2dpAptxEncoder σ).pcmBytes = source.blockBytes := by
    rcases known with rfl | rfl <;> rfl
  have sound := never_fails known accepting live blocks rfl
  refine ⟨sound inputs, outputs_length _ cb inputs, fun available => ?_⟩
  obtain ⟨mark, left, outcome⟩ := tick_outcome (A2dpAptxEncoder.transcode library) known cb inputs available
  have succeeded : mark.isFailed = false := by
    apply sound (inputs ++ [.tick available])
    rw [left]
    exact List.mem_append_right _ (List.mem_singleton_self mark)
  have asks : 0 < mark.expected := outcome.asked ▸ (framed known _).some
  refine ⟨mark, left, asks, outcome.read, ?_⟩
  split
  next short => exact outcome.short.mpr short
  next enough =>
    cases mark with
    | underflow asked pcm => exact absurd (outcome.short.mp rfl) enough
    | failed asked pcm => cases succeeded
    | enqueued asked pcm packet => rfl

/-- The reference encoder on silence. -/
def silence : AptxLibrary Nat where
  init := some 0
  hdInit := some 0
  encodestereo := fun state _ _ => (state + 1, some (0x4bbf, 0x4bbf))
  hdEncodestereo := fun state _ _ => (state + 1, some (0x73beff, 0x73beff))

def silentCb : EncoderCb (A2dpAptxEncoder Nat) where
  feedingParams := { sampleRate := 44100, bitsPerSample := 16, channelCount := 2 }
  codecClient := some { hd := false, state := some 0 }

theorem payloads_are_one_transcode_silence :
    ∃ after, (state (step aptx (A2dpAptxEncoder.transcode silence)) silentCb [.tick (List.replicate 2640 0)]).codecClient =
        some after ∧
      (A2dpAptxEncoder.mk false (some 0)).transcode silence
        (sentPcm (outputs (step aptx (A2dpAptxEncoder.transcode silence)) silentCb [.tick (List.replicate 2640 0)])) 660 =
        (after, .ok (payloads
          (outputs (step aptx (A2dpAptxEncoder.transcode silence)) silentCb [.tick (List.replicate 2640 0)]))) :=
  payloads_are_one_transcode (.inl rfl) rfl rfl _ (by decide +kernel) (by decide +kernel) (by decide +kernel)

def silentSession : EncoderCb (A2dpAptxEncoder Nat) :=
  (startSession silence aptx {} true {} (some { sampleRate := 44100, bitsPerSample := 16, channelCount := 2 })).cb

/-- The tick that finds enough audio takes all it asks for and sends it. -/
theorem session_sends_full_reads_silence :
    ∃ mark, outputs (step aptx (A2dpAptxEncoder.transcode silence)) silentSession
        ([.tick [], .flush] ++ [.tick (List.replicate 2640 0)]) =
      outputs (step aptx (A2dpAptxEncoder.transcode silence)) silentSession [.tick [], .flush] ++ [mark] ∧
      mark.expected = 2640 ∧ mark.isEnqueued = true := by
  have ready : (startSession silence aptx {} true {}
    (some { sampleRate := 44100, bitsPerSample := 16, channelCount := 2 })).pcmConfig.ready = true := by decide
  have known : aptx = aptx ∨ aptx = aptxHd := .inl rfl
  obtain ⟨mark, left, -, -, ends⟩ :=
    (session_sends_full_reads known ⟨fun _ _ _ => rfl, fun _ _ _ => rfl⟩ ready [.tick [], .flush]).2.2
      (List.replicate 2640 0)
  have sent : outputs (step aptx (A2dpAptxEncoder.transcode silence)) silentSession
      ([.tick [], .flush] ++ [.tick (List.replicate 2640 0)]) =
    outputs (step aptx (A2dpAptxEncoder.transcode silence)) silentSession [.tick [], .flush] ++ [mark] := left
  have whole : mark.expected = 2640 := by
    have asked : ((outputs (step aptx (A2dpAptxEncoder.transcode silence)) silentSession
      ([.tick [], .flush] ++ [.tick (List.replicate 2640 0)])).map Mark.expected).getLast? = some 2640 := by decide +kernel
    rw [sent, List.map_append, List.map_singleton, List.getLast?_concat] at asked
    exact Option.some.inj asked
  refine ⟨mark, sent, whole, ?_⟩
  rw [List.length_replicate, whole, if_neg (Nat.lt_irrefl 2640)] at ends
  exact ends

end FlossDesktop.Aptx
