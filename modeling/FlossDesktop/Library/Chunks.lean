import Mathlib.Data.List.Basic

/-! Cutting data into pieces of one size, the way a loop with an offset does. Cutting
coarsely and then each piece finely is cutting finely. -/

namespace Chunks

variable {α : Type*} (size : Nat)

/-- The first `count` pieces. What is missing at the end of the data is missing in them. -/
def chunks : Nat → List α → List (List α)
  | 0, _ => []
  | count + 1, data => data.take size :: chunks count (data.drop size)

@[simp] theorem chunks_zero (data : List α) : chunks size 0 data = [] := rfl

@[simp] theorem length_chunks (count : Nat) (data : List α) : (chunks size count data).length = count := by
  induction count generalizing data with
  | zero => rfl
  | succ count ih => rw [chunks, List.length_cons, ih]

variable {size} {count : Nat} {data : List α}

theorem take_whole (whole : data.length = size * (count + 1)) : (data.take size).length = size := by
  rw [List.length_take, whole, Nat.mul_succ]
  omega

theorem drop_whole (whole : data.length = size * (count + 1)) : (data.drop size).length = size * count := by
  rw [List.length_drop, whole, Nat.mul_succ]
  omega

theorem chunks_append {first : List α} (whole : first.length = size * count) (more : Nat) (second : List α) :
    chunks size (count + more) (first ++ second) = chunks size count first ++ chunks size more second := by
  induction count generalizing first with
  | zero =>
    have none : first = [] := List.eq_nil_of_length_eq_zero (by simpa using whole)
    simp [none]
  | succ count ih =>
    have enough : size ≤ first.length := by
      rw [whole]
      exact Nat.le_mul_of_pos_right size count.succ_pos
    rw [show count + 1 + more = count + more + 1 by omega, chunks, chunks, List.take_append_of_le_length enough,
      List.drop_append_of_le_length enough, ih (drop_whole whole), List.cons_append]

theorem chunks_flatten (whole : data.length = size * count) : (chunks size count data).flatten = data := by
  induction count generalizing data with
  | zero => simpa using (List.eq_nil_of_length_eq_zero (by simpa using whole)).symm
  | succ count ih => rw [chunks, List.flatten_cons, ih (drop_whole whole), List.take_append_drop]

theorem length_of_mem {piece : List α} (whole : data.length = size * count) (member : piece ∈ chunks size count data) :
    piece.length = size := by
  induction count generalizing data with
  | zero => cases member
  | succ count ih =>
    rcases List.mem_cons.mp member with rfl | later
    · exact take_whole whole
    · exact ih (drop_whole whole) later

end Chunks
