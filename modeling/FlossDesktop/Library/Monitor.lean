import FlossDesktop.Library.Machine

/-! A monitor reads what a machine does, keeps an account of it and objects to what the account
does not allow. That it never objects is a safety property of the machine. -/

namespace Monitor

variable {α ω : Type*} (watch : α → ω → Option α)

/-- The account after some events, unless one of them was objected to. -/
def run (account : α) (events : List ω) : Option α := events.foldlM watch account

variable {watch}

@[simp] theorem run_nil (account : α) : run watch account [] = some account := rfl

theorem run_cons {account last : α} {event : ω} {rest : List ω} :
    run watch account (event :: rest) = some last ↔
      ∃ next, watch account event = some next ∧ run watch next rest = some last := by
  rw [run, List.foldlM_cons]
  exact Option.bind_eq_some_iff

theorem run_append {account last : α} {first second : List ω} :
    run watch account (first ++ second) = some last ↔
      ∃ middle, run watch account first = some middle ∧ run watch middle second = some last := by
  rw [run, List.foldlM_append]
  exact Option.bind_eq_some_iff

theorem run_singleton {account : α} {event : ω} : run watch account [event] = watch account event := by
  rw [run, List.foldlM_cons]
  cases watch account event <;> rfl

/-- What events cost was held by the account or paid in by other events. -/
theorem spends {cost paid : ω → Nat} {held : α → Nat}
    (each : ∀ account event next, watch account event = some next → cost event + held next ≤ held account + paid event)
    {account last : α} {events : List ω} (watched : run watch account events = some last) :
    (events.map cost).sum + held last ≤ held account + (events.map paid).sum := by
  induction events generalizing account with
  | nil =>
    cases watched
    exact Nat.le_of_eq (Nat.zero_add _)
  | cons event rest ih =>
    obtain ⟨next, now, later⟩ := run_cons.mp watched
    have first := each account event next now
    have remaining := ih later
    rw [List.map_cons, List.map_cons, List.sum_cons, List.sum_cons]
    omega

variable {σ ι : Type*} {step : σ → ι → σ × List ω} {agrees : σ → α → Prop}

/-- If every step of a machine is allowed and leaves the account in agreement with the state,
so does every run. -/
theorem follows
    (each : ∀ current account input, agrees current account →
      ∃ next, run watch account (step current input).2 = some next ∧ agrees (step current input).1 next)
    {start : σ} {account : α} (agreed : agrees start account) (inputs : List ι) :
    ∃ last, run watch account (Machine.outputs step start inputs) = some last ∧
      agrees (Machine.state step start inputs) last := by
  induction inputs generalizing start account with
  | nil => exact ⟨account, rfl, agreed⟩
  | cons input rest ih =>
    obtain ⟨middle, now, reached⟩ := each start account input agreed
    obtain ⟨last, later, done⟩ := ih reached
    exact ⟨last, run_append.mpr ⟨middle, now, later⟩, done⟩

end Monitor
