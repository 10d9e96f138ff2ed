import Mathlib.Data.List.Basic

/-! Feeding a machine one input at a time. Every step yields a new state and
either outputs or an error; the first error ends the feed. The state reached is
kept in both cases, so a caller may inspect what a failed feed left behind. -/

namespace Feed

variable {σ ι ω ε : Type*}

def feed (step : σ → ι → σ × Except ε (List ω)) (state : σ) : List ι → σ × Except ε (List ω)
  | [] => (state, .ok [])
  | input :: rest =>
    match step state input with
    | (state, .error reason) => (state, .error reason)
    | (state, .ok outputs) =>
      let (state, result) := feed step state rest
      (state, result.map (outputs ++ ·))

variable {step : σ → ι → σ × Except ε (List ω)}

@[simp] theorem feed_nil (state : σ) : feed step state [] = (state, .ok []) := rfl

theorem feed_cons_ok {state after : σ} {input : ι} {rest : List ι} {outputs : List ω} :
    feed step state (input :: rest) = (after, .ok outputs) ↔
      ∃ middle first later, step state input = (middle, .ok first) ∧
        feed step middle rest = (after, .ok later) ∧ outputs = first ++ later := by
  rw [feed]
  rcases stepped : step state input with ⟨middle, reason | first⟩
  · simp
  · rcases fed : feed step middle rest with ⟨last, reason | later⟩
    · simp [fed, Except.map]
    · simp only [fed, Except.map, Prod.mk.injEq, Except.ok.injEq]
      constructor
      · rintro ⟨rfl, rfl⟩
        exact ⟨middle, first, later, ⟨rfl, rfl⟩, fed, rfl⟩
      · rintro ⟨_, _, _, ⟨rfl, rfl⟩, again, rfl⟩
        rw [fed] at again
        cases again
        exact ⟨rfl, rfl⟩

/-- The error of a feed is the error of one of its steps. -/
theorem feed_error {state after : σ} {inputs : List ι} {reason : ε}
    (failed : feed step state inputs = (after, .error reason)) :
    ∃ before input next, step before input = (next, .error reason) := by
  induction inputs generalizing state after with
  | nil => cases failed
  | cons input rest ih =>
    rw [feed] at failed
    rcases stepped : step state input with ⟨middle, error | outputs⟩
    · rw [stepped] at failed
      simp only [Prod.mk.injEq, Except.error.injEq] at failed
      rw [failed.2] at stepped
      exact ⟨state, input, middle, stepped⟩
    · rw [stepped] at failed
      rcases fed : feed step middle rest with ⟨last, error | later⟩
      · simp only [fed, Except.map, Prod.mk.injEq, Except.error.injEq] at failed
        exact ih (failed.2 ▸ fed)
      · simp [fed, Except.map] at failed

theorem feed_append (state : σ) (first second : List ι) :
    feed step state (first ++ second) =
      match feed step state first with
      | (state, .error reason) => (state, .error reason)
      | (state, .ok outputs) =>
        let (state, result) := feed step state second
        (state, result.map (outputs ++ ·)) := by
  induction first generalizing state with
  | nil =>
    rcases fed : feed step state second with ⟨last, reason | later⟩ <;> simp [fed, Except.map]
  | cons input rest ih =>
    rw [List.cons_append, feed, feed]
    rcases step state input with ⟨middle, reason | outputs⟩
    · rfl
    · simp only [ih]
      rcases feed step middle rest with ⟨last, reason | later⟩
      · rfl
      · rcases fed : feed step last second with ⟨final, reason | more⟩ <;> simp [fed, Except.map]

theorem feed_append_ok {state after : σ} {first second : List ι} {outputs : List ω} :
    feed step state (first ++ second) = (after, .ok outputs) ↔
      ∃ middle early later, feed step state first = (middle, .ok early) ∧
        feed step middle second = (after, .ok later) ∧ outputs = early ++ later := by
  rw [feed_append]
  rcases fed : feed step state first with ⟨middle, reason | early⟩
  · simp
  · rcases again : feed step middle second with ⟨last, reason | later⟩
    · simp [again, Except.map]
    · simp only [again, Except.map, Prod.mk.injEq, Except.ok.injEq]
      constructor
      · rintro ⟨rfl, rfl⟩
        exact ⟨middle, early, later, ⟨rfl, rfl⟩, again, rfl⟩
      · rintro ⟨_, _, _, ⟨rfl, rfl⟩, same, rfl⟩
        rw [again] at same
        cases same
        exact ⟨rfl, rfl⟩

/-- Grouping the inputs is invisible: feeding groups one after another is
feeding their concatenation, errors included. -/
theorem feed_flatten (state : σ) (groups : List (List ι)) :
    feed (feed step) state groups = feed step state groups.flatten := by
  induction groups generalizing state with
  | nil => rfl
  | cons group rest ih =>
    rw [List.flatten_cons, feed_append, feed]
    rcases feed step state group with ⟨middle, reason | outputs⟩
    · rfl
    · simp only [ih]

/-- Whatever every step keeps, failing or not, a feed keeps. -/
theorem feed_keeps (property : σ → Prop) (keeps : ∀ state input, property state → property (step state input).1)
    (state : σ) (inputs : List ι) (holds : property state) : property (feed step state inputs).1 := by
  induction inputs generalizing state with
  | nil => exact holds
  | cons input rest ih =>
    have next := keeps state input holds
    rw [feed]
    rcases stepped : step state input with ⟨middle, reason | outputs⟩
    · simpa only [stepped] using next
    · exact ih middle (by simpa only [stepped] using next)

/-- If every step emits the same amount, so does the feed for every input. -/
theorem feed_length {size : Nat} {inputs : List ι}
    (each : ∀ state input after outputs, step state input = (after, .ok outputs) → outputs.length = size)
    {state after : σ} {outputs : List ω} (fed : feed step state inputs = (after, .ok outputs)) :
    outputs.length = size * inputs.length := by
  induction inputs generalizing state outputs with
  | nil =>
    cases fed
    rfl
  | cons input rest ih =>
    obtain ⟨middle, first, later, stepped, remaining, rfl⟩ := feed_cons_ok.mp fed
    rw [List.length_append, each state input middle first stepped, ih remaining, List.length_cons, Nat.mul_succ,
      Nat.add_comm]

/-- If no step fails from a state that it keeps, no feed fails. -/
theorem feed_succeeds (property : σ → Prop) {inputs : List ι}
    (succeeds : ∀ state input, input ∈ inputs → property state →
      ∃ after outputs, step state input = (after, .ok outputs) ∧ property after)
    {state : σ} (holds : property state) :
    ∃ after outputs, feed step state inputs = (after, .ok outputs) ∧ property after := by
  induction inputs generalizing state with
  | nil => exact ⟨state, [], rfl, holds⟩
  | cons input rest ih =>
    obtain ⟨middle, first, stepped, kept⟩ := succeeds state input List.mem_cons_self holds
    obtain ⟨after, later, fed, reached⟩ :=
      ih (fun other input member => succeeds other input (List.mem_cons_of_mem _ member)) kept
    exact ⟨after, first ++ later, feed_cons_ok.mpr ⟨middle, first, later, stepped, fed, rfl⟩, reached⟩

/-- An invariant over the state and everything emitted so far. -/
theorem feed_history (invariant : σ → List ω → Prop) {inputs : List ι}
    (grows : ∀ state input after outputs history, input ∈ inputs → invariant state history →
      step state input = (after, .ok outputs) → invariant after (history ++ outputs))
    {state after : σ} {history outputs : List ω} (holds : invariant state history)
    (fed : feed step state inputs = (after, .ok outputs)) : invariant after (history ++ outputs) := by
  induction inputs generalizing state history outputs with
  | nil =>
    cases fed
    simpa using holds
  | cons input rest ih =>
    obtain ⟨middle, first, later, stepped, remaining, rfl⟩ := feed_cons_ok.mp fed
    rw [← List.append_assoc]
    refine ih ?_ (grows state input middle first history (by simp) holds stepped) remaining
    exact fun state input after outputs history member => grows state input after outputs history (by simp [member])

/-- An instrumented machine follows another one when erasing its outputs gives
the outputs of the other at every successful step. -/
theorem feed_follows {τ : Type*} {observed : σ → ι → σ × Except ε (List τ)} {erase : τ → ω}
    (follows : ∀ state input after outputs, step state input = (after, .ok outputs) →
      ∃ records, observed state input = (after, .ok records) ∧ records.map erase = outputs)
    {state after : σ} {inputs : List ι} {outputs : List ω}
    (fed : feed step state inputs = (after, .ok outputs)) :
    ∃ records, feed observed state inputs = (after, .ok records) ∧ records.map erase = outputs := by
  induction inputs generalizing state outputs with
  | nil =>
    cases fed
    exact ⟨[], rfl, rfl⟩
  | cons input rest ih =>
    obtain ⟨middle, first, later, stepped, remaining, rfl⟩ := feed_cons_ok.mp fed
    obtain ⟨records, seen, erased⟩ := follows state input middle first stepped
    obtain ⟨others, followed, same⟩ := ih remaining
    exact ⟨records ++ others, feed_cons_ok.mpr ⟨middle, records, others, seen, followed, rfl⟩,
      by rw [List.map_append, erased, same]⟩

/-- Mark every output of a step with the states around that step. -/
def mark {τ : Type*} (label : σ → σ → ω → τ) (step : σ → ι → σ × Except ε (List ω)) (state : σ) (input : ι) :
    σ × Except ε (List τ) :=
  let (after, result) := step state input
  (after, result.map fun outputs => outputs.map (label state after))

theorem mark_follows {τ : Type*} (label : σ → σ → ω → τ) (erase : τ → ω)
    (erased : ∀ before after output, erase (label before after output) = output) (state : σ) (input : ι)
    (after : σ) (outputs : List ω) (stepped : step state input = (after, .ok outputs)) :
    ∃ records, mark label step state input = (after, .ok records) ∧ records.map erase = outputs := by
  refine ⟨outputs.map (label state after), by simp [mark, stepped, Except.map], ?_⟩
  rw [List.map_map]
  exact (List.map_congr_left fun output _ => erased state after output).trans (List.map_id outputs)

end Feed
