import Mathlib.Logic.Function.Basic

/-! A map of values, and a second map that finds a value by its identity. Each is the inverse
of the other, and stays so when a new identity is put in or a value is taken out. -/

namespace IdentityIndex

variable {κ ι α : Type} [DecidableEq κ] [DecidableEq ι] {identity : α → ι}
variable {values : κ → Option α} {index : ι → Option κ} {key other : κ} {value : α}

/-- The index has just the identities of the values. -/
def Inverse (identity : α → ι) (values : κ → Option α) (index : ι → Option κ) : Prop :=
  ∀ name key, index name = some key ↔ ∃ value, values key = some value ∧ identity value = name

omit [DecidableEq κ] [DecidableEq ι] in
theorem Inverse.empty : Inverse identity (fun _ : κ => none) (fun _ => none) := by
  intro name key
  simp

omit [DecidableEq κ] [DecidableEq ι] in
theorem Inverse.found (inverse : Inverse identity values index) (held : values key = some value) :
    index (identity value) = some key := (inverse _ key).mpr ⟨value, held, rfl⟩

omit [DecidableEq κ] [DecidableEq ι] in
/-- An identity has one key. -/
theorem Inverse.unique (inverse : Inverse identity values index) {second : α} (held : values key = some value)
    (also : values other = some second) (same : identity value = identity second) : key = other := by
  have first := inverse.found held
  rw [same, inverse.found also] at first
  exact (Option.some.inj first).symm

theorem Inverse.insert (inverse : Inverse identity values index) (free : values key = none) (unknown : index (identity value) = none) :
    Inverse identity (Function.update values key (some value)) (Function.update index (identity value) (some key)) := by
  intro name other
  rw [Function.update_apply]
  by_cases named : name = identity value
  · rw [if_pos named]
    constructor
    · intro here
      cases here
      exact ⟨value, Function.update_self key (some value) values, named.symm⟩
    · rintro ⟨found, held, same⟩
      by_cases here : other = key
      · rw [here]
      · -- Another key would have had the identity before.
        rw [Function.update_of_ne here] at held
        have before := inverse.found held
        rw [same, named, unknown] at before
        cases before
  · rw [if_neg named, inverse]
    constructor
    · rintro ⟨found, held, same⟩
      have elsewhere : other ≠ key := by
        rintro rfl
        rw [free] at held
        cases held
      exact ⟨found, by rw [Function.update_of_ne elsewhere, held], same⟩
    · rintro ⟨found, held, same⟩
      by_cases here : other = key
      · rw [here, Function.update_self] at held
        cases held
        exact absurd same.symm named
      · rw [Function.update_of_ne here] at held
        exact ⟨found, held, same⟩

theorem Inverse.erase (inverse : Inverse identity values index) (held : values key = some value) :
    Inverse identity (Function.update values key none) (Function.update index (identity value) none) := by
  intro name other
  rw [Function.update_apply]
  by_cases named : name = identity value
  · rw [if_pos named]
    constructor
    · intro here
      cases here
    · rintro ⟨found, kept, same⟩
      by_cases here : other = key
      · rw [here, Function.update_self] at kept
        cases kept
      · rw [Function.update_of_ne here] at kept
        exact absurd (inverse.unique kept held (same.trans named)) here
  · rw [if_neg named, inverse]
    constructor
    · rintro ⟨found, kept, same⟩
      have elsewhere : other ≠ key := by
        rintro rfl
        rw [held] at kept
        cases kept
        exact named same.symm
      exact ⟨found, by rw [Function.update_of_ne elsewhere, kept], same⟩
    · rintro ⟨found, kept, same⟩
      by_cases here : other = key
      · rw [here, Function.update_self] at kept
        cases kept
      · rw [Function.update_of_ne here] at kept
        exact ⟨found, kept, same⟩

end IdentityIndex
