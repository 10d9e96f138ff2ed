import Mathlib.Data.List.Basic

/-! Properties of a growing record of events. A property speaks about an event
and everything recorded before it, so it survives any extension of the record. -/

namespace History

variable {α : Type*}

/-- The property holds at each event, given the events before it. -/
def Everywhere (property : List α → α → Prop) (history : List α) : Prop :=
  ∀ early event late, history = early ++ event :: late → property early event

variable {property : List α → α → Prop} {history : List α}

theorem Everywhere.nil : Everywhere property [] := by
  intro early event late impossible
  simp at impossible

theorem Everywhere.push (holds : Everywhere property history) (event : α) (latest : property history event) :
    Everywhere property (history ++ [event]) := by
  intro early other late divided
  rcases List.eq_nil_or_concat late with rfl | ⟨front, last, rfl⟩
  · obtain ⟨rfl, same⟩ := List.append_inj' divided rfl
    cases same
    exact latest
  · have shorter : history ++ [event] = (early ++ other :: front) ++ [last] := by simpa using divided
    exact holds early other front (List.append_inj' shorter rfl).1

theorem Everywhere.append (holds : Everywhere property history) {events : List α}
    (latest : ∀ early event late, events = early ++ event :: late → property (history ++ early) event) :
    Everywhere property (history ++ events) := by
  induction events generalizing history with
  | nil => rwa [List.append_nil]
  | cons event rest ih =>
    have now : property history event := by simpa using latest [] event rest rfl
    rw [List.append_cons]
    apply ih (holds.push event now)
    intro early other late divided
    rw [List.append_assoc]
    exact latest (event :: early) other late (congrArg (event :: ·) divided)

/-- What was recorded after the last event that starts anew. -/
def since (starts : α → Bool) (history : List α) : List α := (history.reverse.takeWhile fun event => !starts event).reverse

variable {starts : α → Bool} {event : α}

theorem since_start (history : List α) (anew : starts event = true) : since starts (history ++ [event]) = [] := by
  simp [since, anew]

theorem since_push (history : List α) (other : starts event = false) :
    since starts (history ++ [event]) = since starts history ++ [event] := by
  simp [since, other]

theorem mem_of_since (member : event ∈ since starts history) : event ∈ history := by
  rw [since, List.mem_reverse] at member
  exact List.mem_reverse.mp ((List.takeWhile_sublist _).mem member)

end History
