import Mathlib.Tactic

/-! A machine that reads one input at a time and emits outputs. Nothing it is fed can
make it fail, so a run is determined by its inputs. -/

namespace Machine

variable {σ ι ω : Type*} (step : σ → ι → σ × List ω)

def state (start : σ) (inputs : List ι) : σ := inputs.foldl (fun current input => (step current input).1) start

def outputs (start : σ) : List ι → List ω
  | [] => []
  | input :: rest => (step start input).2 ++ outputs (step start input).1 rest

variable {step} {start : σ}

@[simp] theorem state_nil : state step start [] = start := rfl

@[simp] theorem state_cons (input : ι) (rest : List ι) :
    state step start (input :: rest) = state step (step start input).1 rest := rfl

@[simp] theorem outputs_nil : outputs step start [] = [] := rfl

@[simp] theorem outputs_cons (input : ι) (rest : List ι) :
    outputs step start (input :: rest) = (step start input).2 ++ outputs step (step start input).1 rest := rfl

theorem state_append (first second : List ι) :
    state step start (first ++ second) = state step (state step start first) second := List.foldl_append

theorem state_concat (inputs : List ι) (input : ι) :
    state step start (inputs ++ [input]) = (step (state step start inputs) input).1 := by
  rw [state_append]
  rfl

theorem outputs_concat (inputs : List ι) (input : ι) :
    outputs step start (inputs ++ [input]) = outputs step start inputs ++ (step (state step start inputs) input).2 := by
  induction inputs generalizing start with
  | nil => simp
  | cons first rest ih => rw [List.cons_append, outputs_cons, ih, outputs_cons, state_cons, List.append_assoc]

/-- Of two places in the inputs one comes first, or they are the same. -/
theorem places {early late middle rest : List ι} {first second : ι}
    (same : early ++ first :: late = middle ++ second :: rest) :
    (∃ between, middle = early ++ first :: between ∧ late = between ++ second :: rest) ∨
      (early = middle ∧ first = second ∧ late = rest) ∨
      ∃ between, early = middle ++ second :: between ∧ rest = between ++ first :: late := by
  rcases List.append_eq_append_iff.mp same with ⟨gap, longer, tail⟩ | ⟨gap, longer, tail⟩
  · cases gap with
    | nil =>
      simp only [List.nil_append, List.cons.injEq] at tail
      exact .inr (.inl ⟨by simpa using longer.symm, tail⟩)
    | cons head between =>
      simp only [List.cons_append, List.cons.injEq] at tail
      exact .inl ⟨between, by rw [longer, tail.1], tail.2⟩
  · cases gap with
    | nil =>
      simp only [List.nil_append, List.cons.injEq] at tail
      exact .inr (.inl ⟨by simpa using longer, tail.1.symm, tail.2.symm⟩)
    | cons head between =>
      simp only [List.cons_append, List.cons.injEq] at tail
      exact .inr (.inr ⟨between, by rw [longer, tail.1], tail.2⟩)

/-- Whatever every step keeps holds along the whole run. -/
theorem keeps {allowed : ι → Prop} {invariant : σ → Prop}
    (kept : ∀ current input, allowed input → invariant current → invariant (step current input).1)
    {inputs : List ι} (fed : ∀ input ∈ inputs, allowed input) (holds : invariant start) :
    invariant (state step start inputs) := by
  induction inputs generalizing start with
  | nil => exact holds
  | cons input rest ih =>
    apply ih
    · exact fun other member => fed other (List.mem_cons_of_mem input member)
    · exact kept start input (fed input List.mem_cons_self) holds

/-- What is spent along a run was held at its start or paid in during it. -/
theorem budget {allowed : ι → Prop} {invariant : σ → Prop} (held : σ → Nat) (spent : List ω → Nat) (paid : ι → Nat)
    (none_spent : spent [] = 0) (additive : ∀ first second, spent (first ++ second) = spent first + spent second)
    (kept : ∀ current input, allowed input → invariant current → invariant (step current input).1)
    (pays : ∀ current input, allowed input → invariant current →
      spent (step current input).2 + held (step current input).1 ≤ held current + paid input)
    {inputs : List ι} (fed : ∀ input ∈ inputs, allowed input) (holds : invariant start) :
    spent (outputs step start inputs) + held (state step start inputs) ≤ held start + (inputs.map paid).sum := by
  induction inputs generalizing start with
  | nil => simp [none_spent]
  | cons input rest ih =>
    have first := fed input List.mem_cons_self
    have later := ih (fun other member => fed other (List.mem_cons_of_mem input member)) (kept start input first holds)
    have now := pays start input first holds
    rw [outputs_cons, state_cons, additive, List.map_cons, List.sum_cons]
    omega

end Machine
