import FlossDesktop.Library.Monitor

/-! Programs that make calls and go on with whatever they are answered. A monitor reads the
calls together with their answers. The rules say when a program never makes a call that the
monitor objects to, whatever the answers are and however long it runs. -/

namespace Dialogue

/-- A loop is left with `inr`, and goes on from another state with `inl`. -/
inductive Program (κ : Type) (ρ : κ → Type) : Type → Type 1 where
  | ret {α : Type} (value : α) : Program κ ρ α
  | call {α : Type} (request : κ) (next : ρ request → Program κ ρ α) : Program κ ρ α
  | loop {σ β α : Type} (body : σ → Program κ ρ (σ ⊕ β)) (start : σ) (next : β → Program κ ρ α) : Program κ ρ α

variable {κ : Type} {ρ : κ → Type} {α β σ : Type}

namespace Program

def bind {α β : Type} : Program κ ρ α → (α → Program κ ρ β) → Program κ ρ β
  | .ret value, after => after value
  | .call request next, after => .call request fun answer => (next answer).bind after
  | .loop body start next, after => .loop body start fun value => (next value).bind after

instance : Monad (Program κ ρ) where
  pure := .ret
  bind := .bind

end Program

/-- A call, and what comes back. -/
def ask (request : κ) : Program κ ρ (ρ request) := .call request .ret

def repeatUntil (body : σ → Program κ ρ (σ ⊕ β)) (start : σ) : Program κ ρ β := .loop body start .ret

/-- A call together with its answer. -/
abbrev Event (κ : Type) (ρ : κ → Type) := (request : κ) × ρ request

/-- Some of a run, against answers that may depend on all that was called before. There is a
value if the run has come to its end. -/
def execute (answer : List (Event κ ρ) → (request : κ) → ρ request) :
    Nat → {α : Type} → Program κ ρ α → List (Event κ ρ) → List (Event κ ρ) × Option α
  | _, _, .ret value, history => (history, some value)
  | 0, _, _, history => (history, none)
  | fuel + 1, _, .call request next, history =>
    execute answer fuel (next (answer history request)) (history ++ [⟨request, answer history request⟩])
  | fuel + 1, _, .loop body start next, history =>
    match execute answer fuel (body start) history with
    | (history, none) => (history, none)
    | (history, some (.inl again)) => execute answer fuel (.loop body again next) history
    | (history, some (.inr value)) => execute answer fuel (next value) history

variable {A : Type} (watch : A → Event κ ρ → Option A)

/-- The monitor objects to no call of the program, and agrees at its end with what is promised.
A loop has an invariant. -/
def Allowed {α : Type} : Program κ ρ α → (α → A → Prop) → A → Prop
  | .ret value, promise, account => promise value account
  | .call request next, promise, account =>
    ∀ answer, ∃ after, watch account ⟨request, answer⟩ = some after ∧ Allowed (next answer) promise after
  | @Program.loop _ _ σ _ _ body start next, promise, account =>
    ∃ invariant : σ → A → Prop, invariant start account ∧ ∀ current account, invariant current account →
      Allowed (body current) (fun step after =>
        match step with
        | .inl again => invariant again after
        | .inr value => Allowed (next value) promise after) account

namespace Allowed

variable {watch} {promise : α → A → Prop} {account : A}

theorem imp {program : Program κ ρ α} {stronger : α → A → Prop} (allowed : Allowed watch program stronger account)
    (implies : ∀ value after, stronger value after → promise value after) : Allowed watch program promise account := by
  induction program generalizing account with
  | ret value => exact implies value account allowed
  | call request next ih =>
    intro answer
    obtain ⟨after, seen, rest⟩ := allowed answer
    exact ⟨after, seen, ih answer rest implies⟩
  | loop body start next before later =>
    obtain ⟨invariant, first, each⟩ := allowed
    refine ⟨invariant, first, fun current account holds => ?_⟩
    apply before current (each current account holds)
    intro step after reached
    cases step with
    | inl again => exact reached
    | inr value => exact later value reached implies

theorem bind {program : Program κ ρ β} {after : β → Program κ ρ α} {middle : β → A → Prop}
    (first : Allowed watch program middle account)
    (rest : ∀ value account, middle value account → Allowed watch (after value) promise account) :
    Allowed watch (program >>= after) promise account := by
  change Allowed watch (program.bind after) promise account
  induction program generalizing account with
  | ret value => exact rest value account first
  | call request next ih =>
    intro answer
    obtain ⟨reached, seen, allowed⟩ := first answer
    exact ⟨reached, seen, ih answer allowed rest⟩
  | loop body start next before later =>
    obtain ⟨invariant, entered, each⟩ := first
    refine ⟨invariant, entered, fun current account holds => ?_⟩
    apply (each current account holds).imp
    intro step reached after
    cases step with
    | inl again => exact after
    | inr value => exact later value after rest

theorem repeatUntil {body : σ → Program κ ρ (σ ⊕ α)} {start : σ} (invariant : σ → A → Prop) (entered : invariant start account)
    (each : ∀ current account, invariant current account →
      Allowed watch (body current) (fun step after => step.elim (fun again => invariant again after) fun value => promise value after)
        account) : Allowed watch (Dialogue.repeatUntil body start) promise account := by
  refine ⟨invariant, entered, fun current account holds => (each current account holds).imp ?_⟩
  intro step after reached
  cases step with
  | inl again => exact reached
  | inr value => exact reached

/-! Programs that may end early, with an error. -/

section Errors

variable {ε : Type} {promise : Except ε α → A → Prop}

theorem andThen {first : ExceptT ε (Program κ ρ) β} {after : β → ExceptT ε (Program κ ρ) α} {middle : Except ε β → A → Prop}
    (allowed : Allowed watch first.run middle account)
    (ok : ∀ value account, middle (.ok value) account → Allowed watch (after value).run promise account)
    (error : ∀ reason account, middle (.error reason) account → promise (.error reason) account) :
    Allowed watch (first >>= after).run promise account := by
  refine Allowed.bind allowed fun result account holds => ?_
  cases result with
  | ok value => exact ok value account holds
  | error reason => exact error reason account holds

/-- One step for each item, until one of them fails. -/
theorem forEach {step : β → ExceptT ε (Program κ ρ) PUnit} {promise : Except ε PUnit → A → Prop} (items : List β)
    (invariant : List β → A → Prop) (entered : invariant items account)
    (each : ∀ item rest account, invariant (item :: rest) account → Allowed watch (step item).run
      (fun result after => match result with | .ok _ => invariant rest after | .error reason => promise (.error reason) after)
      account)
    (done : ∀ account, invariant [] account → promise (.ok ()) account) :
    Allowed watch (items.forM step).run promise account := by
  induction items generalizing account with
  | nil => exact done account entered
  | cons item rest ih =>
    change Allowed watch (step item >>= fun _ => rest.forM step).run promise account
    exact andThen (each item rest account entered) (fun _ account holds => ih holds) fun _ _ holds => holds

end Errors

/-- What has been called is allowed, however far the run has got. -/
theorem run (answer : List (Event κ ρ) → (request : κ) → ρ request) (fuel : Nat) {program : Program κ ρ α}
    (allowed : Allowed watch program promise account) {start : A} {history : List (Event κ ρ)}
    (seen : Monitor.run watch start history = some account) :
    ∃ last, Monitor.run watch start (execute answer fuel program history).1 = some last ∧
      ∀ value ∈ (execute answer fuel program history).2, promise value last := by
  induction fuel generalizing α program account history with
  | zero =>
    cases program with
    | ret value => exact ⟨account, seen, fun _ same => Option.some.inj same ▸ allowed⟩
    | call request next => exact ⟨account, seen, nofun⟩
    | loop body start next => exact ⟨account, seen, nofun⟩
  | succ fuel ih =>
    cases program with
    | ret value => exact ⟨account, seen, fun _ same => Option.some.inj same ▸ allowed⟩
    | call request next =>
      obtain ⟨after, watched, rest⟩ := allowed (answer history request)
      apply ih rest
      exact Monitor.run_append.mpr ⟨account, seen, Monitor.run_singleton.trans watched⟩
    | loop body current next =>
      obtain ⟨invariant, entered, each⟩ := allowed
      obtain ⟨last, watched, reached⟩ := ih (each current account entered) seen
      rw [execute]
      split
      next history stopped =>
        rw [stopped] at watched
        exact ⟨last, watched, nofun⟩
      next history again stopped =>
        rw [stopped] at watched reached
        have holds : invariant again last := reached _ rfl
        have loop : Allowed watch (.loop body again next) promise last := ⟨invariant, holds, each⟩
        exact ih loop watched
      next history value stopped =>
        rw [stopped] at watched reached
        exact ih (reached _ rfl) watched

end Allowed
end Dialogue
