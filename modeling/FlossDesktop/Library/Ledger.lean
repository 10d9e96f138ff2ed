import Mathlib.Tactic

/-! A heap that numbers its cells and remembers every cell it gave back. A cell
number is never used twice, so the record of frees tells a leak from a double
free. -/

structure Ledger (α : Type) where
  next : Nat := 0
  cells : Nat → Option α := fun _ => none
  freed : List Nat := []

namespace Ledger

variable {α : Type}

def alloc (ledger : Ledger α) (value : α) : Ledger α :=
  { ledger with next := ledger.next + 1, cells := Function.update ledger.cells ledger.next (some value) }

def write (ledger : Ledger α) (id : Nat) (value : α) : Ledger α :=
  { ledger with cells := Function.update ledger.cells id (some value) }

def free (ledger : Ledger α) (id : Nat) : Ledger α :=
  { ledger with cells := Function.update ledger.cells id none, freed := id :: ledger.freed }

@[simp] theorem alloc_next (ledger : Ledger α) (value : α) : (ledger.alloc value).next = ledger.next + 1 := rfl
@[simp] theorem write_next (ledger : Ledger α) (id : Nat) (value : α) : (ledger.write id value).next = ledger.next := rfl
@[simp] theorem free_next (ledger : Ledger α) (id : Nat) : (ledger.free id).next = ledger.next := rfl

@[simp] theorem alloc_cells (ledger : Ledger α) (value : α) :
    (ledger.alloc value).cells = Function.update ledger.cells ledger.next (some value) := rfl

@[simp] theorem write_cells (ledger : Ledger α) (id : Nat) (value : α) :
    (ledger.write id value).cells = Function.update ledger.cells id (some value) := rfl

@[simp] theorem free_cells (ledger : Ledger α) (id : Nat) :
    (ledger.free id).cells = Function.update ledger.cells id none := rfl

/-- Cells are handed out in order, and each one is live or was freed once. -/
structure Sound (ledger : Ledger α) : Prop where
  fresh : ∀ id, ledger.next ≤ id → ledger.cells id = none
  once : ∀ id, ledger.freed.count id = if id < ledger.next ∧ (ledger.cells id).isNone then 1 else 0

theorem Sound.empty : Sound ({} : Ledger α) := ⟨fun _ _ => rfl, fun id => by simp⟩

theorem Sound.issued {ledger : Ledger α} (sound : ledger.Sound) {id : Nat} {value : α}
    (live : ledger.cells id = some value) : id < ledger.next := by
  by_contra late
  rw [sound.fresh id (not_lt.mp late)] at live
  cases live

theorem Sound.alloc {ledger : Ledger α} (sound : ledger.Sound) (value : α) : (ledger.alloc value).Sound := by
  constructor
  · intro id late
    have other : id ≠ ledger.next := by rintro rfl; simp [Ledger.alloc] at late
    rw [alloc_cells, Function.update_of_ne other]
    exact sound.fresh id (le_trans (Nat.le_succ _) late)
  · intro id
    have before := sound.once id
    by_cases same : id = ledger.next
    · subst same
      simpa [Ledger.alloc] using before
    · simp only [Ledger.alloc, Function.update_of_ne same, before]
      congr 1
      rw [eq_iff_iff]
      have bound : id < ledger.next + 1 ↔ id < ledger.next := by omega
      rw [bound]

theorem Sound.write {ledger : Ledger α} (sound : ledger.Sound) {id : Nat} {old : α}
    (live : ledger.cells id = some old) (value : α) : (ledger.write id value).Sound := by
  constructor
  · intro other late
    have different : other ≠ id := by rintro rfl; exact absurd (sound.issued live) (not_lt.mpr late)
    rw [write_cells, Function.update_of_ne different]
    exact sound.fresh other late
  · intro other
    have before := sound.once other
    by_cases same : other = id
    · subst same
      simpa [Ledger.write, live] using before
    · simpa [Ledger.write, Function.update_of_ne same] using before

theorem Sound.free {ledger : Ledger α} (sound : ledger.Sound) {id : Nat} {value : α}
    (live : ledger.cells id = some value) : (ledger.free id).Sound := by
  have issued := sound.issued live
  constructor
  · intro other late
    have different : other ≠ id := by rintro rfl; exact absurd issued (not_lt.mpr late)
    rw [free_cells, Function.update_of_ne different]
    exact sound.fresh other late
  · intro other
    have before := sound.once other
    by_cases same : other = id
    · subst same
      simpa [Ledger.free, live, issued] using before
    · simpa [Ledger.free, Function.update_of_ne same, List.count_cons, Ne.symm same] using before

/-- What soundness says about one issued cell. -/
theorem Sound.settled {ledger : Ledger α} (sound : ledger.Sound) {id : Nat} (issued : id < ledger.next) :
    (∃ value, ledger.cells id = some value ∧ ledger.freed.count id = 0) ∨
      ledger.cells id = none ∧ ledger.freed.count id = 1 := by
  have once := sound.once id
  cases held : ledger.cells id with
  | none => exact .inr ⟨rfl, by simpa [held, issued] using once⟩
  | some value => exact .inl ⟨value, rfl, by simpa [held] using once⟩

end Ledger
