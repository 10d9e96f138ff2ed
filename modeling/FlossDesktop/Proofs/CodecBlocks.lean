import FlossDesktop.CodecService

/-! An aptX encoder sees blocks only. However PCM is cut into calls, as long as every call is
whole blocks, the bytes that come out are those of one call with all of it. -/

namespace FlossDesktop.CodecService
open Feed

variable {σ : Type} {library : AptxLibrary σ}

namespace A2dpAptxEncoder

theorem pcmBytes_pos (encoder : A2dpAptxEncoder σ) : 0 < encoder.pcmBytes := by
  unfold pcmBytes
  split <;> decide

theorem encodeBlock_length (encoder : A2dpAptxEncoder σ) (state : σ) (block : Bytes) (after : σ) (output : Bytes)
    (ran : encoder.encodeBlock library state block = (after, .ok output)) : output.length = encoder.pcmBytes / 4 := by
  unfold encodeBlock at ran
  unfold pcmBytes
  split at ran
  next hd =>
    rw [if_pos hd]
    dsimp only [aptxHdBlock] at ran
    split at ran <;> cases ran
    simp [kAptxHdPcmBytes]
  next classic =>
    rw [if_neg classic]
    dsimp only [aptxBlock] at ran
    split at ran <;> cases ran
    simp [kAptxPcmBytes]

/-- A call succeeds if there is something, it is whole blocks and there is room for it, and
the reference encoder takes each block. -/
theorem transcode_ok {encoder after : A2dpAptxEncoder σ} {iBuf output : Bytes} {oLen : Nat} :
    encoder.transcode library iBuf oLen = (after, .ok output) ↔
      ∃ state last, encoder.state = some state ∧ iBuf ≠ [] ∧ encoder.pcmBytes ∣ iBuf.length ∧ iBuf.length / 4 ≤ oLen ∧
        feed (encoder.encodeBlock library) state (Chunks.chunks encoder.pcmBytes (iBuf.length / encoder.pcmBytes) iBuf) =
          (last, .ok output) ∧
        after = { encoder with state := some last } := by
  unfold transcode
  cases held : encoder.state with
  | none => simp
  | some state =>
    simp only
    split
    next refused =>
      constructor
      · intro none
        cases none
      · rintro ⟨_, _, _, some, whole, room, -⟩
        simp only [Bool.or_eq_true, beq_iff_eq, List.length_eq_zero_iff, bne_iff_ne, decide_eq_true_eq] at refused
        rcases refused with (nothing | ragged) | short
        · exact absurd nothing some
        · exact absurd (Nat.mod_eq_zero_of_dvd whole) ragged
        · exact absurd short (Nat.not_lt.mpr room)
    next accepted =>
      simp only [Bool.or_eq_true, beq_iff_eq, List.length_eq_zero_iff, bne_iff_ne, decide_eq_true_eq, not_or,
        not_not, Nat.not_lt] at accepted
      obtain ⟨⟨some, whole⟩, room⟩ := accepted
      rcases fed : feed (encoder.encodeBlock library) state
        (Chunks.chunks encoder.pcmBytes (iBuf.length / encoder.pcmBytes) iBuf) with ⟨last, result⟩
      constructor
      · intro ran
        cases ran
        exact ⟨state, last, rfl, some, Nat.dvd_of_mod_eq_zero whole, room, fed, rfl⟩
      · rintro ⟨_, _, ⟨rfl⟩, -, -, -, again, rfl⟩
        rw [fed] at again
        cases again
        rfl

/-- A reference encoder that takes every block, as it does for stereo. -/
structure Accepting (library : AptxLibrary σ) : Prop where
  classic : ∀ state left right, (library.encodestereo state left right).2.isSome
  hd : ∀ state left right, (library.hdEncodestereo state left right).2.isSome

theorem encodeBlock_succeeds (accepting : Accepting library) (encoder : A2dpAptxEncoder σ) (state : σ) (block : Bytes) :
    ∃ after output, encoder.encodeBlock library state block = (after, .ok output) := by
  unfold encodeBlock
  split
  · have taken := accepting.hd state ((List.range 4).map fun i => readS24Le block (i * 6))
      ((List.range 4).map fun i => readS24Le block (i * 6 + 3))
    dsimp only [aptxHdBlock]
    split
    · exact ⟨_, _, rfl⟩
    next refused =>
      rw [refused] at taken
      cases taken
  · have taken := accepting.classic state ((List.range 4).map fun i => readU16 block (i * 4))
      ((List.range 4).map fun i => readU16 block (i * 4 + 2))
    dsimp only [aptxBlock]
    split
    · exact ⟨_, _, rfl⟩
    next refused =>
      rw [refused] at taken
      cases taken

/-- With such a reference encoder, whole blocks come out as a quarter of their size. -/
theorem transcode_succeeds (accepting : Accepting library) {encoder : A2dpAptxEncoder σ} {state : σ} {iBuf : Bytes} {oLen : Nat}
    (held : encoder.state = some state) (some : iBuf ≠ []) (whole : encoder.pcmBytes ∣ iBuf.length)
    (room : iBuf.length / 4 ≤ oLen) :
    ∃ last output, encoder.transcode library iBuf oLen = ({ encoder with state := Option.some last }, .ok output) ∧
      output.length = iBuf.length / 4 := by
  obtain ⟨count, blocks⟩ := whole
  have quarters : 4 ∣ encoder.pcmBytes := by
    unfold pcmBytes
    split <;> decide
  have taken : ∃ last output, feed (encoder.encodeBlock library) state (Chunks.chunks encoder.pcmBytes count iBuf) =
      (last, .ok output) ∧ True := by
    apply feed_succeeds fun _ => True
    · intro current block _ _
      obtain ⟨after, output, ran⟩ := encodeBlock_succeeds accepting encoder current block
      exact ⟨after, output, ran, trivial⟩
    · trivial
  obtain ⟨last, output, fed, -⟩ := taken
  refine ⟨last, output, transcode_ok.mpr ⟨state, last, held, some, ⟨count, blocks⟩, room, ?_, rfl⟩, ?_⟩
  · rw [blocks, Nat.mul_div_cancel_left count encoder.pcmBytes_pos]
    exact fed
  · rw [feed_length (encodeBlock_length encoder) fed, Chunks.length_chunks, blocks, Nat.mul_comm, Nat.mul_comm encoder.pcmBytes,
      Nat.mul_div_assoc count quarters]

end A2dpAptxEncoder

end FlossDesktop.CodecService
