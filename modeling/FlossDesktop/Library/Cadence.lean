import FlossDesktop.Library.Machine

/-! Keeping a pace. A machine that is ticked at a fixed interval asks for a different amount
from tick to tick, because the pace is no whole amount. How far it lags behind the pace is a
phase of its state, which a restart throws away. -/

namespace Cadence

variable {σ ι ω : Type*}

/-- A tick asks for the pace and what the phase gains by it. Any other input asks for nothing,
and either leaves the phase alone or is a restart, which puts it back to zero. -/
structure Paced (step : σ → ι → σ × List ω) (invariant : σ → Prop) (tick restart : ι → Bool) (asked : List ω → Int)
    (phase : σ → Int) (pace slack : Int) : Prop where
  none_asked : asked [] = 0
  additive : ∀ first second, asked (first ++ second) = asked first + asked second
  kept : ∀ current input, invariant current → invariant (step current input).1
  within : ∀ current, invariant current → -slack ≤ phase current ∧ phase current ≤ 0
  ticked : ∀ current input, invariant current → tick input = true →
    asked (step current input).2 = pace + phase (step current input).1 - phase current ∧ restart input = false
  quiet : ∀ current input, invariant current → tick input = false → asked (step current input).2 = 0 ∧
    phase (step current input).1 = if restart input then 0 else phase current

namespace Paced

variable {step : σ → ι → σ × List ω} {invariant : σ → Prop} {tick restart : ι → Bool} {asked : List ω → Int}
  {phase : σ → Int} {pace slack : Int} {start : σ}

/-- What a run has asked for lags behind the pace by its phase, and by at most the slack for
every restart. -/
theorem drift (paced : Paced step invariant tick restart asked phase pace slack) (holds : invariant start)
    (inputs : List ι) :
    pace * (inputs.countP tick : Int) + phase (Machine.state step start inputs) - phase start
        - slack * (inputs.countP restart : Int) ≤ asked (Machine.outputs step start inputs) ∧
      asked (Machine.outputs step start inputs) ≤
        pace * (inputs.countP tick : Int) + phase (Machine.state step start inputs) - phase start := by
  induction inputs generalizing start with
  | nil => simp [paced.none_asked]
  | cons input rest ih =>
    have later := ih (paced.kept start input holds)
    have bound := paced.within start holds
    rw [Machine.outputs_cons, Machine.state_cons, paced.additive, List.countP_cons, List.countP_cons]
    cases ticking : tick input with
    | true =>
      obtain ⟨now, plain⟩ := paced.ticked start input holds ticking
      rw [plain, now]
      push_cast
      simp only [if_true, mul_add, mul_one, add_zero]
      omega
    | false =>
      obtain ⟨now, moved⟩ := paced.quiet start input holds ticking
      rw [now]
      rw [moved] at later
      cases restarting : restart input <;> rw [restarting] at later <;> push_cast <;>
        simp only [Bool.false_eq_true, if_false, if_true, mul_add, mul_one, add_zero] at later ⊢ <;>
        omega

/-- From the beginning of a cycle, the pace is never exceeded, and is missed by at most the
slack, once for the cycle under way and once for every restart. -/
theorem keeps_pace (paced : Paced step invariant tick restart asked phase pace slack) (holds : invariant start)
    (fresh : phase start = 0) (inputs : List ι) :
    pace * (inputs.countP tick : Int) - slack * (inputs.countP restart + 1 : Int)
        ≤ asked (Machine.outputs step start inputs) ∧
      asked (Machine.outputs step start inputs) ≤ pace * (inputs.countP tick : Int) := by
  have drifted := paced.drift holds inputs
  have kept : invariant (Machine.state step start inputs) :=
    Machine.keeps (fun current input (_ : True) => paced.kept current input) (fun _ _ => trivial) holds
  have bound := paced.within _ kept
  rw [fresh] at drifted
  rw [mul_add, mul_one]
  omega

/-- Without restarts a run that ends on the beginning of a cycle has kept the pace exactly. -/
theorem exact (paced : Paced step invariant tick restart asked phase pace slack) (holds : invariant start)
    (fresh : phase start = 0) {inputs : List ι} (steady : ∀ input ∈ inputs, restart input = false)
    (complete : phase (Machine.state step start inputs) = 0) :
    asked (Machine.outputs step start inputs) = pace * (inputs.countP tick : Int) := by
  have drifted := paced.drift holds inputs
  have none : inputs.countP restart = 0 := List.countP_eq_zero.mpr fun input member => by simp [steady input member]
  rw [none, fresh, complete] at drifted
  simp only [Nat.cast_zero, mul_zero] at drifted
  omega

end Paced

end Cadence
