import Mathlib.Data.List.GetD
import Mathlib.Tactic

/-! A bounded queue in a circular array. The array is written by plain copies that
do not wrap, so a caller splits what crosses the end. A copy that leaves the array or
runs over a queued cell is recorded, as is taking more than is queued, and the
rules here say when none of these happens. -/

structure RingBuffer (α : Type) (capacity : Nat) where
  memory : Nat → α
  readPos : Nat := 0
  queued : Nat := 0
  intact : Bool := true

namespace RingBuffer

variable {α : Type} {capacity : Nat}

/-- The array index of the queue's element `i`. -/
def cell (ring : RingBuffer α capacity) (i : Nat) : Nat := (ring.readPos + i) % capacity

def writePos (ring : RingBuffer α capacity) : Nat := ring.cell ring.queued

def view (ring : RingBuffer α capacity) (i : Nat) : α := ring.memory (ring.cell i)

def contents (ring : RingBuffer α capacity) : List α := (List.range ring.queued).map ring.view

/-- Copy values into the array. -/
def store (ring : RingBuffer α capacity) (position : Nat) (values : List α) : RingBuffer α capacity :=
  { ring with
    memory := fun i => if position ≤ i then values.getD (i - position) (ring.memory i) else ring.memory i
    intact := ring.intact && decide (position + values.length ≤ capacity) &&
      decide (∀ i < ring.queued, ¬ (position ≤ ring.cell i ∧ ring.cell i < position + values.length)) }

/-- Copy values out of the array. -/
def load (ring : RingBuffer α capacity) (position count : Nat) : List α :=
  (List.range count).map fun i => ring.memory (position + i)

/-- The same copy, recorded. -/
def loaded (ring : RingBuffer α capacity) (position count : Nat) : RingBuffer α capacity :=
  { ring with intact := ring.intact && decide (position + count ≤ capacity) }

def grow (ring : RingBuffer α capacity) (count : Nat) : RingBuffer α capacity :=
  { ring with queued := ring.queued + count }

def advance (ring : RingBuffer α capacity) (count : Nat) : RingBuffer α capacity :=
  { ring with
    readPos := (ring.readPos + count) % capacity
    queued := ring.queued - count
    intact := ring.intact && decide (count ≤ ring.queued) }

def reset (ring : RingBuffer α capacity) : RingBuffer α capacity := { ring with readPos := 0, queued := 0 }

/-- The positions are in range and no copy went wrong. -/
structure Valid (ring : RingBuffer α capacity) : Prop where
  readPos : ring.readPos < capacity
  queued : ring.queued ≤ capacity
  intact : ring.intact = true

variable {ring : RingBuffer α capacity}

@[simp] theorem contents_length (ring : RingBuffer α capacity) : ring.contents.length = ring.queued := by
  simp [contents]

/-- Resetting twice is resetting once. -/
theorem reset_again {other : RingBuffer α capacity} (same : other = ring.reset) : other.reset = ring.reset := by
  rw [same]
  rfl

@[simp] theorem contents_reset (ring : RingBuffer α capacity) : ring.reset.contents = [] := rfl

theorem Valid.reset (valid : ring.Valid) : ring.reset.Valid :=
  ⟨lt_of_le_of_lt (Nat.zero_le _) valid.readPos, Nat.zero_le _, valid.intact⟩

theorem contents_getElem? (ring : RingBuffer α capacity) (i : Nat) :
    ring.contents[i]? = if i < ring.queued then some (ring.view i) else none := by
  simp only [contents, List.getElem?_map]
  by_cases inside : i < ring.queued
  · simp [inside]
  · simp [inside]

/-- Within one turn of the ring the index wraps at most once. -/
theorem cell_eq (start : ring.readPos < capacity) {i : Nat} (turn : i ≤ capacity) :
    ring.cell i = if ring.readPos + i < capacity then ring.readPos + i else ring.readPos + i - capacity := by
  unfold cell
  split_ifs with inside
  · exact Nat.mod_eq_of_lt inside
  · rw [Nat.mod_eq_sub_mod (not_lt.mp inside)]
    exact Nat.mod_eq_of_lt (by omega)

/-- A copy to the place of element `k` covers exactly the elements from `k` on. -/
theorem covered_iff (start : ring.readPos < capacity) {k length j : Nat} (room : k + length ≤ capacity)
    (fits : length ≤ capacity - ring.cell k) (inside : j < capacity) :
    (ring.cell k ≤ ring.cell j ∧ ring.cell j < ring.cell k + length) ↔ k ≤ j ∧ j < k + length := by
  have first := cell_eq start (show k ≤ capacity by omega)
  have other := cell_eq start (show j ≤ capacity by omega)
  split_ifs at first other <;> omega

theorem offset_eq (start : ring.readPos < capacity) {k length j : Nat} (room : k + length ≤ capacity)
    (fits : length ≤ capacity - ring.cell k) (after : k ≤ j) (inside : j < k + length) :
    ring.cell j - ring.cell k = j - k := by
  have first := cell_eq start (show k ≤ capacity by omega)
  have other := cell_eq start (show j ≤ capacity by omega)
  split_ifs at first other <;> omega

theorem view_store (start : ring.readPos < capacity) {k : Nat} {values : List α} (room : k + values.length ≤ capacity)
    (fits : values.length ≤ capacity - ring.cell k) {j : Nat} (inside : j < capacity) :
    (ring.store (ring.cell k) values).view j =
      if k ≤ j then values.getD (j - k) (ring.view j) else ring.view j := by
  have covered := covered_iff start room fits inside
  change (if ring.cell k ≤ ring.cell j then values.getD (ring.cell j - ring.cell k) (ring.memory (ring.cell j))
    else ring.memory (ring.cell j)) = _
  by_cases written : k ≤ j ∧ j < k + values.length
  · rw [if_pos (covered.mpr written).1, if_pos written.1, offset_eq start room fits written.1 written.2]
    rfl
  · have outside : values.length ≤ ring.cell j - ring.cell k ∨ ring.cell j < ring.cell k := by
      by_contra near
      exact written (covered.mp (by omega))
    have beyond : values.length ≤ j - k ∨ j < k := by omega
    have same : ∀ x y : Nat, values.length ≤ x - y ∨ x < y →
        (if y ≤ x then values.getD (x - y) (ring.view j) else ring.view j) = ring.view j := by
      intro x y far
      rcases far with far | before
      · rw [List.getD_eq_default _ _ far, ite_self]
      · rw [if_neg (not_le.mpr before)]
    exact (same _ _ outside).trans (same _ _ beyond).symm

/-- A copy behind the queue stays clear of it. -/
theorem store_intact (valid : ring.Valid) {k : Nat} {values : List α} (behind : ring.queued ≤ k)
    (room : k + values.length ≤ capacity) (fits : values.length ≤ capacity - ring.cell k) :
    (ring.store (ring.cell k) values).intact = true := by
  have bound : ring.cell k < capacity := Nat.mod_lt _ (lt_of_le_of_lt (Nat.zero_le _) valid.readPos)
  simp only [store, valid.intact, Bool.true_and, Bool.and_eq_true, decide_eq_true_eq]
  refine ⟨by omega, ?_⟩
  intro i queued touched
  have covered := (covered_iff valid.readPos room fits (lt_of_lt_of_le queued valid.queued)).mp touched
  omega

/-- The values stand in the array from element `k` on, and nothing else changed. -/
structure Written (ring after : RingBuffer α capacity) (k : Nat) (values : List α) : Prop where
  readPos : after.readPos = ring.readPos
  queued : after.queued = ring.queued
  intact : after.intact = true
  view : ∀ j < capacity, after.view j = if k ≤ j then values.getD (j - k) (ring.view j) else ring.view j

theorem Written.nil (valid : ring.Valid) (k : Nat) : Written ring ring k [] where
  readPos := rfl
  queued := rfl
  intact := valid.intact
  view j _ := by simp

theorem written_store (valid : ring.Valid) {k : Nat} {values : List α} (behind : ring.queued ≤ k)
    (room : k + values.length ≤ capacity) (fits : values.length ≤ capacity - ring.cell k) :
    Written ring (ring.store (ring.cell k) values) k values :=
  ⟨rfl, rfl, store_intact valid behind room fits, fun _ inside => view_store valid.readPos room fits inside⟩

theorem Written.valid {after : RingBuffer α capacity} {k : Nat} {values : List α} (written : Written ring after k values)
    (valid : ring.Valid) : after.Valid :=
  ⟨written.readPos ▸ valid.readPos, written.queued ▸ valid.queued, written.intact⟩

theorem Written.cell {after : RingBuffer α capacity} {k : Nat} {values : List α} (written : Written ring after k values)
    (i : Nat) : after.cell i = ring.cell i := by
  rw [RingBuffer.cell, written.readPos, RingBuffer.cell]

/-- Copies that follow one another write one list. -/
theorem Written.append {middle after : RingBuffer α capacity} {k : Nat} {first second : List α}
    (early : Written ring middle k first) (late : Written middle after (k + first.length) second) :
    Written ring after k (first ++ second) where
  readPos := late.readPos.trans early.readPos
  queued := late.queued.trans early.queued
  intact := late.intact
  view j inside := by
    rw [late.view j inside, early.view j inside]
    by_cases far : k + first.length ≤ j
    · rw [if_pos far, if_pos (by omega), if_pos (by omega), List.getD_eq_default first _ (by omega),
        List.getD_append_right _ _ _ _ (by omega)]
      congr 1
      omega
    · rw [if_neg far]
      by_cases near : k ≤ j
      · rw [if_pos near, if_pos near, List.getD_append _ _ _ _ (by omega)]
      · rw [if_neg near, if_neg near]

theorem Written.contents {after : RingBuffer α capacity} {values : List α}
    (written : Written ring after ring.queued values) (room : ring.queued + values.length ≤ capacity) :
    (after.grow values.length).contents = ring.contents ++ values := by
  apply List.ext_getElem?
  intro i
  have view := written.view i
  rw [contents_getElem?, List.getElem?_append, contents_length, contents_getElem?]
  change (if i < after.queued + values.length then some (after.view i) else none) = _
  rw [written.queued]
  by_cases old : i < ring.queued
  · rw [if_pos (by omega), if_pos old, if_pos old, view (by omega), if_neg (by omega)]
  · by_cases new : i < ring.queued + values.length
    · have inside : i - ring.queued < values.length := by omega
      rw [if_pos new, if_neg old, view (by omega), if_pos (by omega), List.getD_eq_getElem _ _ inside,
        List.getElem?_eq_getElem inside]
    · rw [if_neg new, if_neg old, List.getElem?_eq_none (by omega)]

theorem Written.grown {after : RingBuffer α capacity} {k : Nat} {values : List α} (written : Written ring after k values)
    (valid : ring.Valid) (room : ring.queued + values.length ≤ capacity) : (after.grow values.length).Valid := by
  refine ⟨written.readPos ▸ valid.readPos, ?_, written.intact⟩
  change after.queued + values.length ≤ capacity
  rw [written.queued]
  exact room

/-- Append values with two copies, the second one for what crosses the end. -/
def write (ring : RingBuffer α capacity) (values : List α) : RingBuffer α capacity :=
  let first := min values.length (capacity - ring.writePos)
  ((ring.store ring.writePos (values.take first)).store 0 (values.drop first)).grow values.length

theorem store_nil (valid : ring.Valid) {position : Nat} (bound : position ≤ capacity) (k : Nat) :
    Written ring (ring.store position []) k [] := by
  refine ⟨rfl, rfl, ?_, ?_⟩
  · simp only [store, valid.intact, List.length_nil, Nat.add_zero, Bool.true_and, Bool.and_eq_true, decide_eq_true_eq]
    exact ⟨bound, by omega⟩
  · intro j _
    simp [view, store, cell]

/-- Two copies, the second one from the start of the array. -/
theorem written_pair (valid : ring.Valid) {first second : List α}
    (room : ring.queued + (first.length + second.length) ≤ capacity) (fits : first.length ≤ capacity - ring.writePos)
    (wraps : second = [] ∨ first.length = capacity - ring.writePos) :
    Written ring ((ring.store ring.writePos first).store 0 second) ring.queued (first ++ second) := by
  have early : Written ring (ring.store ring.writePos first) ring.queued first :=
    written_store valid le_rfl (by omega) fits
  refine early.append ?_
  rcases wraps with rfl | full
  · exact store_nil (early.valid valid) (Nat.zero_le _) _
  · have bound : ring.writePos < capacity := Nat.mod_lt _ (lt_of_le_of_lt (Nat.zero_le _) valid.readPos)
    have origin : (ring.store ring.writePos first).cell (ring.queued + first.length) = 0 := by
      have start := valid.readPos
      have place := cell_eq valid.readPos (show ring.queued ≤ capacity by omega)
      have target := cell_eq valid.readPos (show ring.queued + first.length ≤ capacity by omega)
      rw [early.cell]
      unfold writePos at *
      split_ifs at place target <;> omega
    have late := written_store (early.valid valid) (show ring.queued ≤ ring.queued + first.length by omega)
      (show ring.queued + first.length + second.length ≤ capacity by omega) (by rw [origin]; omega)
    rwa [origin] at late

theorem write_eq (ring : RingBuffer α capacity) (values : List α) : ∃ first second, values = first ++ second ∧
    first.length ≤ capacity - ring.writePos ∧ (second = [] ∨ first.length = capacity - ring.writePos) ∧
    ring.write values = ((ring.store ring.writePos first).store 0 second).grow values.length := by
  refine ⟨_, _, (List.take_append_drop (min values.length (capacity - ring.writePos)) values).symm, ?_, ?_, rfl⟩
  · rw [List.length_take]
    omega
  · by_cases crosses : values.length ≤ capacity - ring.writePos
    · left
      rw [min_eq_left crosses, List.drop_length]
    · right
      rw [List.length_take]
      omega

theorem write_written (valid : ring.Valid) {values : List α} (room : ring.queued + values.length ≤ capacity) :
    ∃ after, Written ring after ring.queued values ∧ ring.write values = after.grow values.length := by
  obtain ⟨first, second, rfl, fits, wraps, same⟩ := write_eq ring values
  rw [List.length_append] at room
  exact ⟨_, written_pair valid room fits wraps, same⟩

/-- What an append does, whichever copies it was made of. -/
structure Appended (ring after : RingBuffer α capacity) (values : List α) : Prop where
  valid : after.Valid
  readPos : after.readPos = ring.readPos
  queued : after.queued = ring.queued + values.length
  contents : after.contents = ring.contents ++ values

theorem Written.appended {after : RingBuffer α capacity} {values : List α}
    (written : Written ring after ring.queued values) (valid : ring.Valid)
    (room : ring.queued + values.length ≤ capacity) : Appended ring (after.grow values.length) values where
  valid := written.grown valid room
  readPos := written.readPos
  queued := congrArg (· + values.length) written.queued
  contents := written.contents room

theorem write_appended (valid : ring.Valid) {values : List α} (room : ring.queued + values.length ≤ capacity) :
    Appended ring (ring.write values) values := by
  obtain ⟨after, written, same⟩ := write_written valid room
  rw [same]
  exact written.appended valid room

theorem view_advance (ring : RingBuffer α capacity) (count i : Nat) : (ring.advance count).view i = ring.view (count + i) := by
  change ring.memory (((ring.readPos + count) % capacity + i) % capacity) = _
  rw [Nat.mod_add_mod, Nat.add_assoc]
  rfl

theorem contents_advance (ring : RingBuffer α capacity) {count : Nat} (present : count ≤ ring.queued) :
    (ring.advance count).contents = ring.contents.drop count := by
  apply List.ext_getElem?
  intro i
  rw [contents_getElem?, List.getElem?_drop, contents_getElem?, view_advance]
  change (if i < ring.queued - count then _ else _) = _
  by_cases inside : i < ring.queued - count
  · rw [if_pos inside, if_pos (by omega)]
  · rw [if_neg inside, if_neg (by omega)]

theorem Valid.advance (valid : ring.Valid) {count : Nat} (present : count ≤ ring.queued) : (ring.advance count).Valid :=
  ⟨Nat.mod_lt _ (lt_of_le_of_lt (Nat.zero_le _) valid.readPos), le_trans (Nat.sub_le _ _) valid.queued,
    by simp [RingBuffer.advance, valid.intact, present]⟩

/-- A copy from the front of the queue that does not cross the end. -/
theorem load_front (valid : ring.Valid) {count : Nat} (present : count ≤ ring.queued)
    (fits : count ≤ capacity - ring.readPos) : ring.load ring.readPos count = ring.contents.take count := by
  have bound := valid.readPos
  apply List.ext_getElem?
  intro i
  rw [List.getElem?_take, contents_getElem?]
  simp only [load, List.getElem?_map]
  by_cases inside : i < count
  · have place : ring.view i = ring.memory (ring.readPos + i) := by
      rw [view, cell, Nat.mod_eq_of_lt (by omega)]
    rw [if_pos inside, if_pos (by omega), place]
    simp [inside]
  · simp [inside]

/-- Two copies from the front, the second one from the start of the array. -/
theorem load_pair (valid : ring.Valid) {count : Nat} (present : count ≤ ring.queued) :
    ring.load ring.readPos (min count (capacity - ring.readPos)) ++
      ring.load 0 (count - min count (capacity - ring.readPos)) = ring.contents.take count := by
  have bound := valid.readPos
  have bounded := valid.queued
  rw [load_front valid (by omega) (Nat.min_le_right _ _)]
  by_cases crosses : count ≤ capacity - ring.readPos
  · rw [min_eq_left crosses, Nat.sub_self]
    simp [load]
  · rw [min_eq_right (by omega)]
    have rest : ring.load 0 (count - (capacity - ring.readPos)) =
        (ring.contents.take count).drop (capacity - ring.readPos) := by
      apply List.ext_getElem?
      intro i
      rw [List.getElem?_drop, List.getElem?_take, contents_getElem?]
      simp only [load, List.getElem?_map]
      by_cases inside : i < count - (capacity - ring.readPos)
      · have place : ring.view (capacity - ring.readPos + i) = ring.memory i := by
          rw [view, cell_eq bound (by omega), if_neg (by omega)]
          congr 1
          omega
        rw [if_pos (by omega), if_pos (by omega), place]
        simp [inside]
      · rw [if_neg (by omega)]
        simp [inside]
    have whole := List.take_append_drop (capacity - ring.readPos) (ring.contents.take count)
    rw [List.take_take, min_eq_left (by omega)] at whole
    rw [rest, whole]

theorem Valid.loaded (valid : ring.Valid) {position count : Nat} (fits : position + count ≤ capacity) :
    (ring.loaded position count).Valid :=
  ⟨valid.readPos, valid.queued, by simp [RingBuffer.loaded, valid.intact, fits]⟩

@[simp] theorem contents_loaded (ring : RingBuffer α capacity) (position count : Nat) :
    (ring.loaded position count).contents = ring.contents := rfl

end RingBuffer
