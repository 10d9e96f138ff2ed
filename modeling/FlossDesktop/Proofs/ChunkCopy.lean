import FlossDesktop.Proofs.BridgeCases

/-! Copying a chunk between two rings that wrap at different places. However the
copy is cut, the ring ends with the chunk's bytes behind what it held. -/

namespace FlossDesktop.Bridge

open RingBuffer

/-- The bytes a copy takes from a wrapping source. -/
def spanBytes (source : Nat → UInt8) (maxsize offset size : Nat) (silent : Bool) : Bytes :=
  (List.range size).map fun i => if silent then 0 else source ((offset + i) % maxsize)

theorem spanBytes_length (source : Nat → UInt8) (maxsize offset size : Nat) (silent : Bool) :
    (spanBytes source maxsize offset size silent).length = size := by
  simp [spanBytes]

theorem spanBytes_split (source : Nat → UInt8) {maxsize offset count size : Nat} (silent : Bool) (le : count ≤ size) :
    spanBytes source maxsize offset size silent =
      spanBytes source maxsize offset count silent ++
        spanBytes source maxsize (if silent then offset else (offset + count) % maxsize) (size - count) silent := by
  obtain ⟨rest, rfl⟩ := Nat.exists_eq_add_of_le le
  rw [Nat.add_sub_cancel_left]
  unfold spanBytes
  rw [List.range_add, List.map_append, List.map_map]
  congr 1
  apply List.map_congr_left
  intro i _
  cases silent with
  | true => rfl
  | false =>
    change source ((offset + (count + i)) % maxsize) = source (((offset + count) % maxsize + i) % maxsize)
    rw [Nat.mod_add_mod, Nat.add_assoc]

/-- One piece reads straight out of the source. -/
theorem piece_eq (source : Nat → UInt8) {maxsize offset count : Nat} (silent : Bool)
    (fits : silent = false → offset + count ≤ maxsize) :
    (List.range count).map (fun i => if silent then 0 else source (offset + i)) =
      spanBytes source maxsize offset count silent := by
  apply List.map_congr_left
  intro i inside
  rw [List.mem_range] at inside
  cases silent with
  | true => rfl
  | false =>
    have bound := fits rfl
    change source (offset + i) = source ((offset + i) % maxsize)
    rw [Nat.mod_eq_of_lt (by omega)]

theorem copyChunk_written {ring : PcmRing} (valid : ring.Valid) {k maxsize offset size fuel : Nat}
    (source : Nat → UInt8) (silent : Bool) (behind : ring.queued ≤ k) (room : k + size ≤ queueSize)
    (inside : offset < maxsize) (enough : size ≤ fuel) :
    Written ring (copyChunk ring (ring.cell k) source maxsize offset size silent fuel) k
      (spanBytes source maxsize offset size silent) := by
  induction fuel generalizing ring k offset size with
  | zero =>
    obtain rfl : size = 0 := by omega
    exact Written.nil valid k
  | succ fuel ih =>
    rw [copyChunk]
    by_cases done : size = 0
    · subst done
      rw [if_pos rfl]
      exact Written.nil valid k
    · rw [if_neg done]
      dsimp only
      have place : ring.cell k < queueSize := Nat.mod_lt _ queueSize_pos
      generalize counted : (if silent = true then min size (queueSize - ring.cell k)
        else min (min size (queueSize - ring.cell k)) (maxsize - offset)) = count
      have positive : 0 < count := by split at counted <;> omega
      have part : count ≤ size := by split at counted <;> omega
      have fits : count ≤ queueSize - ring.cell k := by split at counted <;> omega
      have straight : silent = false → offset + count ≤ maxsize := by
        intro loud
        simp only [loud, Bool.false_eq_true, if_false] at counted
        omega
      rw [piece_eq source silent straight, spanBytes_split source silent part]
      have length := spanBytes_length source maxsize offset count silent
      have first : Written ring (ring.store (ring.cell k) (spanBytes source maxsize offset count silent)) k
          (spanBytes source maxsize offset count silent) :=
        written_store valid behind (by omega) (by omega)
      have next : (ring.cell k + count) % queueSize =
          (ring.store (ring.cell k) (spanBytes source maxsize offset count silent)).cell (k + count) := by
        rw [first.cell, cell, cell, Nat.mod_add_mod, Nat.add_assoc]
      have wrapped : (if silent = true then offset else (offset + count) % maxsize) < maxsize := by
        split
        · exact inside
        · exact Nat.mod_lt _ (by omega)
      rw [next]
      apply first.append
      rw [length]
      apply ih (first.valid valid)
      · rw [first.queued]
        omega
      · omega
      · exact wrapped
      · omega

/-- The chunk stands in the ring behind what was queued. -/
theorem copyInto_appended {ring : PcmRing} (valid : ring.Valid) (chunk : Chunk)
    (room : ring.queued + chunk.size ≤ queueSize) : Appended ring (copyInto ring chunk) chunk.bytes := by
  have length : chunk.bytes.length = chunk.size := spanBytes_length _ _ _ _ _
  have written : Written ring _ ring.queued chunk.bytes :=
    copyChunk_written valid chunk.source chunk.silent le_rfl room chunk.inside le_rfl
  have appended := written.appended valid (by omega)
  rw [length] at appended
  exact appended

end FlossDesktop.Bridge
