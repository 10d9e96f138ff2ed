import Mathlib.Data.List.Basic
import Mathlib.Logic.Function.Basic

/-! A copy of changing values that is kept over one channel in order. The source sends every
change, and answers questions with the values it has. Whoever keeps the copy takes every
change, and an answer or not. Whatever is held is current once the channel is empty. -/

namespace Mirror

variable {κ ν : Type} [DecidableEq κ]

inductive Note (κ ν : Type) where
  | changed (key : κ) (value : ν)
  | answered (key : κ) (value : ν)
deriving Repr, DecidableEq

namespace Note

def key : Note κ ν → κ
  | .changed key _ => key
  | .answered key _ => key

def value : Note κ ν → ν
  | .changed _ value => value
  | .answered _ value => value

end Note

/-- What a value becomes when the changes of its key are taken. -/
def settled : List (Note κ ν) → κ → ν → ν
  | [], _, value => value
  | .changed other new :: rest, key, value => settled rest key (if other = key then new else value)
  | .answered _ _ :: rest, key, value => settled rest key value

theorem settled_changed (notes : List (Note κ ν)) (other key : κ) (new value : ν) :
    settled (notes ++ [.changed other new]) key value = if other = key then new else settled notes key value := by
  induction notes generalizing value with
  | nil => rfl
  | cons note rest ih => cases note <;> exact ih _

theorem settled_answered (notes : List (Note κ ν)) (other key : κ) (new value : ν) :
    settled (notes ++ [.answered other new]) key value = settled notes key value := by
  induction notes generalizing value with
  | nil => rfl
  | cons note rest ih => cases note <;> exact ih _

/-- Every note leads to the current value of its key. -/
def Leads (current : κ → ν) : List (Note κ ν) → Prop
  | [] => True
  | note :: rest => settled rest note.key note.value = current note.key ∧ Leads current rest

theorem Leads.changed {current : κ → ν} {notes : List (Note κ ν)} (leads : Leads current notes) (key : κ) (value : ν) :
    Leads (Function.update current key value) (notes ++ [.changed key value]) := by
  induction notes with
  | nil => exact ⟨(Function.update_self key value current).symm, trivial⟩
  | cons note rest ih =>
    rw [List.cons_append]
    refine ⟨?_, ih leads.2⟩
    rw [settled_changed, Function.update_apply, leads.1]
    simp only [eq_comm]

theorem Leads.answered {current : κ → ν} {notes : List (Note κ ν)} (leads : Leads current notes) (key : κ) :
    Leads current (notes ++ [.answered key (current key)]) := by
  induction notes with
  | nil => exact ⟨rfl, trivial⟩
  | cons note rest ih =>
    rw [List.cons_append]
    refine ⟨?_, ih leads.2⟩
    rw [settled_answered]
    exact leads.1

/-- So does everything that is held. -/
structure Mirrored (current : κ → ν) (notes : List (Note κ ν)) (held : κ → Option ν) : Prop where
  leads : Leads current notes
  held : ∀ key value, held key = some value → settled notes key value = current key

variable {current : κ → ν} {notes : List (Note κ ν)} {held after : κ → Option ν}

theorem Mirrored.changed (mirrored : Mirrored current notes held) (key : κ) (value : ν) :
    Mirrored (Function.update current key value) (notes ++ [.changed key value]) held where
  leads := mirrored.leads.changed key value
  held := by
    intro other old kept
    rw [settled_changed, Function.update_apply, mirrored.held other old kept]
    simp only [eq_comm]

theorem Mirrored.answered (mirrored : Mirrored current notes held) (key : κ) :
    Mirrored current (notes ++ [.answered key (current key)]) held where
  leads := mirrored.leads.answered key
  held := by
    intro other old kept
    rw [settled_answered]
    exact mirrored.held other old kept

/-- A change that comes in is held from then on. -/
theorem Mirrored.take_change {key : κ} {value : ν} (mirrored : Mirrored current (.changed key value :: notes) held)
    (taken : after key = some value) (others : ∀ other, other ≠ key → after other = held other) :
    Mirrored current notes after where
  leads := mirrored.leads.2
  held := by
    intro other new kept
    by_cases same : other = key
    · subst same
      cases taken.symm.trans kept
      exact mirrored.leads.1
    · rw [others other same] at kept
      have leads := mirrored.held other new kept
      rw [settled, if_neg (Ne.symm same)] at leads
      exact leads

/-- An answer that comes in is held from then on, or changes nothing. -/
theorem Mirrored.take_answer {key : κ} {value : ν} (mirrored : Mirrored current (.answered key value :: notes) held)
    (taken : after key = some value ∨ after key = held key) (others : ∀ other, other ≠ key → after other = held other) :
    Mirrored current notes after where
  leads := mirrored.leads.2
  held := by
    intro other new kept
    have old : held other = some new → settled notes other new = current other := mirrored.held other new
    by_cases same : other = key
    · subst same
      rcases taken with taken | taken
      · cases taken.symm.trans kept
        exact mirrored.leads.1
      · exact old (taken ▸ kept)
    · exact old (others other same ▸ kept)

theorem Mirrored.quiet (mirrored : Mirrored current [] held) {key : κ} {value : ν} (kept : held key = some value) :
    value = current key := mirrored.held key value kept

end Mirror
