import FlossDesktop.Library.AnnouncedList

/-! The rows that the views of the desktop backend show. When the devices have changed, the
rows are brought to the new list step by step, and each step is announced, so that a view
keeps its delegates. A row or an index that is not there fails the whole refresh. -/

namespace FlossDesktop.DeviceList
open AnnouncedList

variable {ρ : Type} [DecidableEq ρ] (addressOf : ρ → String)

/-- Whether a row of the list has the address of the shown row. -/
def listed (rows : List ρ) (shown : ρ) : Bool :=
  rows.any fun item => addressOf item == addressOf shown

/-- `beginRemoveRows`, `removeAt` and `endRemoveRows`, unless the row is listed. -/
def dropRow (rows : List ρ) (row : Nat) (model : Model ρ) : Option (Model ρ) := do
  let shown ← model.rows[row]?
  if listed addressOf rows shown then some model else model.announce (.removed row shown)

/-- The loop from the last row to the first. -/
def removePass (rows : List ρ) : Nat → Model ρ → Option (Model ρ)
  | 0, model => some model
  | row + 1, model => do
    let model ← dropRow addressOf rows row model
    removePass rows row model

/-- The loop that looks for a row, from `row` on. -/
def findRow (address : String) : List ρ → Nat → Nat
  | [], row => row
  | item :: rest, row => if addressOf item ≠ address then findRow address rest (row + 1) else row

/-- Inserts the item, or moves its row up. -/
def placeRow (row : Nat) (item : ρ) (model : Model ρ) : Option (Model ρ) :=
  let oldRow := findRow addressOf (addressOf item) (model.rows.drop row) row
  if oldRow = model.rows.length then model.announce (.inserted row item)
  else if oldRow ≠ row then model.announce (.moved oldRow row)
  else some model

/-- `dataChanged`, when the row has other data. -/
def updateRow (row : Nat) (item : ρ) (model : Model ρ) : Option (Model ρ) := do
  let shown ← model.rows[row]?
  if shown ≠ item then model.announce (.changed row item) else some model

def placePass : Nat → List ρ → Model ρ → Option (Model ρ)
  | _, [], model => some model
  | row, item :: rest, model => do
    let model ← placeRow addressOf row item model
    let model ← updateRow row item model
    placePass (row + 1) rest model

/-- The handler of `changed`, from the rows shown to those of `devices()`. -/
def refresh (m_rows rows : List ρ) : Option (Model ρ) := do
  let model ← removePass addressOf rows m_rows.length { rows := m_rows }
  placePass addressOf 0 rows model

end FlossDesktop.DeviceList
