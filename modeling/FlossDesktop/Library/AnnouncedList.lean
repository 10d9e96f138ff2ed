import Mathlib.Data.List.Basic

/-! A list that announces its changes, row by row, to whoever shows it. An operation on a row
that is not there does not happen at all. Replaying what was announced gives the list. -/

namespace AnnouncedList

variable {ρ : Type}

/-- A change, with the row that it took away or put there. -/
inductive Note (ρ : Type) where
  | removed (row : Nat) (item : ρ)
  | inserted (row : Nat) (item : ρ)
  | moved (source destination : Nat)
  | changed (row : Nat) (item : ρ)
deriving Repr, DecidableEq

/-- What a view does with its own copy of the rows. -/
def Note.apply (rows : List ρ) : Note ρ → Option (List ρ)
  | .removed row _ => if row < rows.length then some (rows.eraseIdx row) else none
  | .inserted row item => if row ≤ rows.length then some (rows.insertIdx row item) else none
  | .moved source destination =>
    if destination < rows.length then
      rows[source]?.map fun item => (rows.eraseIdx source).insertIdx destination item
    else none
  | .changed row item => if row < rows.length then some (rows.set row item) else none

def replay : List ρ → List (Note ρ) → Option (List ρ)
  | rows, [] => some rows
  | rows, note :: rest => (note.apply rows).bind fun rows => replay rows rest

theorem replay_append (rows : List ρ) (first second : List (Note ρ)) :
    replay rows (first ++ second) = (replay rows first).bind fun rows => replay rows second := by
  induction first generalizing rows with
  | nil => rfl
  | cons note rest ih =>
    simp only [List.cons_append, replay, Option.bind_assoc]
    congr 1
    funext next
    exact ih next

structure Model (ρ : Type) where
  rows : List ρ
  notes : List (Note ρ) := []
deriving Repr, DecidableEq

def Model.announce (model : Model ρ) (note : Note ρ) : Option (Model ρ) :=
  (note.apply model.rows).map fun rows => { rows, notes := model.notes ++ [note] }

/-- The rows follow from the announcements. -/
def Announced (old : List ρ) (model : Model ρ) : Prop := replay old model.notes = some model.rows

theorem Announced.start (old : List ρ) : Announced old { rows := old } := rfl

theorem Announced.announce {old : List ρ} {model after : Model ρ} (announced : Announced old model) {note : Note ρ}
    (happened : model.announce note = some after) : Announced old after := by
  obtain ⟨rows, applied, rfl⟩ := Option.map_eq_some_iff.mp happened
  rw [Announced, replay_append, announced]
  simp only [Option.bind_some, replay, applied]

/-! A row in the middle of a list. -/

private theorem insertIdx_here (front back : List ρ) (item : ρ) :
    (front ++ back).insertIdx front.length item = front ++ item :: back := by
  induction front with
  | nil => rfl
  | cons first rest ih => exact congrArg (first :: ·) ih

private theorem eraseIdx_here (front back : List ρ) (item : ρ) :
    (front ++ item :: back).eraseIdx front.length = front ++ back := by
  induction front with
  | nil => rfl
  | cons first rest ih => exact congrArg (first :: ·) ih

theorem row_here (front back : List ρ) (item : ρ) : (front ++ item :: back)[front.length]? = some item := by
  rw [List.getElem?_append_right (Nat.le_refl _), Nat.sub_self]
  rfl

theorem announce_removed (front back : List ρ) (item : ρ) (notes : List (Note ρ)) :
    Model.announce { rows := front ++ item :: back, notes } (.removed front.length item) =
      some { rows := front ++ back, notes := notes ++ [.removed front.length item] } := by
  simp [Model.announce, Note.apply, eraseIdx_here]

theorem announce_inserted (front back : List ρ) (item : ρ) (notes : List (Note ρ)) :
    Model.announce { rows := front ++ back, notes } (.inserted front.length item) =
      some { rows := front ++ item :: back, notes := notes ++ [.inserted front.length item] } := by
  simp [Model.announce, Note.apply, insertIdx_here]

/-- A move towards the front passes the rows between. -/
theorem announce_moved (front between back : List ρ) (item : ρ) (notes : List (Note ρ)) :
    Model.announce { rows := front ++ (between ++ item :: back), notes } (.moved (front ++ between).length front.length) =
      some { rows := front ++ item :: (between ++ back), notes := notes ++ [.moved (front ++ between).length front.length] } := by
  have inside : front.length < (front ++ (between ++ item :: back)).length := by
    simp only [List.length_append, List.length_cons]
    omega
  have found : (front ++ (between ++ item :: back))[(front ++ between).length]? = some item := by
    rw [← List.append_assoc]
    exact row_here _ _ _
  have left : (front ++ (between ++ item :: back)).eraseIdx (front ++ between).length = front ++ (between ++ back) := by
    rw [← List.append_assoc, eraseIdx_here, List.append_assoc]
  simp only [Model.announce, Note.apply, if_pos inside, found, Option.map_some, left, insertIdx_here]

theorem announce_changed (front back : List ρ) (old item : ρ) (notes : List (Note ρ)) :
    Model.announce { rows := front ++ old :: back, notes } (.changed front.length item) =
      some { rows := front ++ item :: back, notes := notes ++ [.changed front.length item] } := by
  simp [Model.announce, Note.apply]

end AnnouncedList
