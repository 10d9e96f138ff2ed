import FlossDesktop.ScoPcm
import Mathlib.Tactic

/-! The generation identifies what is published. Every section that changes it counts
the generation up, so a snapshot or a queued teardown with an old number is known to
be stale. -/

namespace FlossDesktop.ScoPcm.State

variable {s : State}

/-- What a snapshot can show, apart from its number. -/
def published (s : State) : PcmConfig × RawAddress := ({ s.config with generation := 0 }, s.address)

/-- A section that belongs to the opening or closing of a voice link. -/
def Step.reopens : Step → Bool
  | .publish _ _ _ => true
  | .cleanup => true
  | _ => false

def Step.opens : Step → Bool
  | .publish _ _ _ => true
  | _ => false

/-- How many teardowns a step adds to the queue. -/
def posts (s : State) (step : Step) : Nat := (s.step step).posted.length - s.posted.length

def postsAll (s : State) : List Step → Nat
  | [] => 0
  | step :: rest => s.posts step + (s.step step).postsAll rest

theorem posts_none {step : Step} (queue : (s.step step).posted.length ≤ s.posted.length) : s.posts step = 0 :=
  Nat.sub_eq_zero_of_le queue

/-- Everything a step does to the published state. -/
theorem step_cases (s : State) (step : Step) :
    ((s.step step).config = s.config ∧ (s.step step).address = s.address ∧ step.reopens = false ∧ s.posts step = 0) ∨
    (∃ task, s.failing = some task ∧ step = .fail ∧ s.config.ready = true ∧ (s.step step).address = s.address ∧
      (s.step step).config = { s.config with ready := false, generation := s.config.generation + 1 } ∧
      s.posts step = 1) ∨
    (step.reopens = true ∧ (s.step step).config.generation = s.config.generation + 1 ∧ s.posts step = 0 ∧
      (step.opens = false → (s.step step).config.ready = false)) := by
  cases step with
  | openSocket init opened =>
    left
    cases init <;> exact ⟨rfl, rfl, rfl, posts_none le_rfl⟩
  | publish address codec srvfd => exact .inr (.inr ⟨rfl, rfl, posts_none le_rfl, nofun⟩)
  | cleanup => exact .inr (.inr ⟨rfl, rfl, posts_none le_rfl, fun _ => rfl⟩)
  | closeSocket => exact .inl ⟨rfl, rfl, rfl, posts_none le_rfl⟩
  | fail =>
    cases failing : s.failing with
    | none =>
      have same : s.step .fail = s := by simp [State.step, failTransport, failing]
      left
      refine ⟨by rw [same], by rw [same], rfl, posts_none ?_⟩
      rw [same]
    | some task =>
      right; left
      have ready : s.config.ready = true ∧ task = ⟨s.address, s.config.generation + 1⟩ := by
        unfold State.failing at failing
        split at failing
        · cases failing
        next live =>
          rw [not_or, Bool.not_eq_false] at live
          exact ⟨live.2, (Option.some.inj failing).symm⟩
      refine ⟨task, rfl, rfl, ready.1, ?_, ?_, ?_⟩
      · simp [State.step, failTransport, failing]
      · simp [State.step, failTransport, failing, ready.2]
      · simp [posts, State.step, failTransport, failing]
  | task index =>
    left
    have fewer : (s.runTask index).posted.length ≤ s.posted.length := by
      unfold runTask
      split
      · exact le_rfl
      · dsimp only
        split
        · exact List.length_eraseIdx_le ..
        · exact List.length_eraseIdx_le ..
    refine ⟨?_, ?_, rfl, posts_none fewer⟩
    all_goals
      simp only [State.step, runTask]
      split
      · rfl
      · split <;> rfl
  | links links => exact .inl ⟨rfl, rfl, rfl, posts_none le_rfl⟩

theorem step_generation (s : State) (step : Step) : s.config.generation ≤ (s.step step).config.generation := by
  rcases step_cases s step with ⟨same, _⟩ | ⟨_, _, _, _, _, same, _⟩ | ⟨_, more, _⟩
  · rw [same]
  · rw [same]
    exact Nat.le_succ _
  · rw [more]
    exact Nat.le_succ _

theorem run_generation (s : State) (steps : List Step) : s.config.generation ≤ (s.run steps).config.generation := by
  induction steps generalizing s with
  | nil => exact le_rfl
  | cons step rest ih => exact (step_generation s step).trans (ih (s.step step))

/-- A run that leaves the generation where it was has changed nothing that is published,
and no link was opened or closed in it. -/
theorem run_same {steps : List Step} (same : (s.run steps).config.generation = s.config.generation) :
    (s.run steps).config = s.config ∧ (s.run steps).address = s.address ∧ ∀ step ∈ steps, step.reopens = false := by
  induction steps generalizing s with
  | nil => exact ⟨rfl, rfl, nofun⟩
  | cons step rest ih =>
    have first := step_generation s step
    have later := run_generation (s.step step) rest
    have whole : ((s.step step).run rest).config.generation = s.config.generation := same
    rcases step_cases s step with ⟨config, address, quiet, _⟩ | ⟨_, _, _, _, _, config, _⟩ | ⟨_, more, _⟩
    · obtain ⟨restConfig, restAddress, restQuiet⟩ := @ih (s.step step) (by rw [whole, config])
      refine ⟨restConfig.trans config, restAddress.trans address, ?_⟩
      intro other member
      rcases List.mem_cons.mp member with rfl | member
      · exact quiet
      · exact restQuiet other member
    · rw [config] at later
      dsimp only at later
      omega
    · omega

theorem getPcmConfig_generation (s : State) (address : RawAddress) :
    (s.getPcmConfig address).generation = s.config.generation := by
  unfold getPcmConfig
  split <;> rfl

/-- A published transport fails once; another failure needs another opening. -/
theorem postsAll_bound (s : State) (steps : List Step) :
    s.postsAll steps ≤ (if s.config.ready then 1 else 0) + steps.countP Step.opens := by
  induction steps generalizing s with
  | nil => exact Nat.zero_le _
  | cons step rest ih =>
    have later := ih (s.step step)
    have bound : (if (s.step step).config.ready then 1 else 0) ≤ 1 := by split <;> omega
    rw [postsAll, List.countP_cons]
    rcases step_cases s step with ⟨config, _, quiet, posted⟩ | ⟨_, _, rfl, ready, _, config, posted⟩ | ⟨_, _, posted, closed⟩
    · rw [config] at later
      omega
    · rw [config] at later
      rw [ready, if_pos rfl]
      simp only [Bool.false_eq_true, if_false] at later
      omega
    · cases opens : step.opens with
      | false =>
        rw [closed opens] at later
        simp only [Bool.false_eq_true, if_false] at later
        omega
      | true =>
        simp only [if_true]
        omega

/-- A teardown that removes a link was posted for the state it finds. -/
theorem runTask_removed {index : Nat} {task : Teardown} (queued : s.posted[index]? = some task)
    (removed : (s.runTask index).removed ≠ s.removed) : s.config.generation = task.generation := by
  unfold runTask at removed
  rw [queued] at removed
  dsimp only at removed
  split at removed
  · exact absurd rfl removed
  next link found =>
    unfold disconnectFailedTransport at found
    simp only [getPcmConfig_generation] at found
    split at found
    · cases found
    next current =>
      rw [not_or, not_not] at current
      exact current.1

theorem failTransport_generation {task : Teardown} (failing : s.failing = some task) :
    s.failTransport.config.generation = task.generation := by
  simp [failTransport, failing]

/-- From any state, what is published changes only with the generation, equal
generations show equal snapshots, a teardown removes a link only if none was opened or
closed since its failure, and one opening posts one teardown at most. -/
theorem generation_discipline (s : State) (steps : List Step) :
    (published (s.run steps) ≠ published s → s.config.generation < (s.run steps).config.generation) ∧
    (∀ address, (s.getPcmConfig address).generation = ((s.run steps).getPcmConfig address).generation →
      s.getPcmConfig address = (s.run steps).getPcmConfig address) ∧
    (∀ task, s.failing = some task → ∀ index, (s.failTransport.run steps).posted[index]? = some task →
      ((s.failTransport.run steps).runTask index).removed ≠ (s.failTransport.run steps).removed →
      ∀ step ∈ steps, step.reopens = false) ∧
    ((∀ step ∈ steps, step.opens = false) → s.postsAll steps ≤ 1) ∧
    State.postsAll {} steps ≤ steps.countP Step.opens := by
  refine ⟨?_, ?_, ?_, ?_, ?_⟩
  · intro changed
    apply lt_of_le_of_ne (run_generation s steps)
    intro same
    obtain ⟨config, address, _⟩ := run_same same.symm
    apply changed
    rw [published, published, config, address]
  · intro address same
    rw [getPcmConfig_generation, getPcmConfig_generation] at same
    obtain ⟨config, holder, _⟩ := run_same same.symm
    rw [getPcmConfig, getPcmConfig, config, holder]
  · intro task failing index queued removed
    have found := runTask_removed queued removed
    rw [← failTransport_generation failing] at found
    exact (run_same found).2.2
  · intro unopened
    have bound := postsAll_bound s steps
    have none_ : steps.countP Step.opens = 0 := by
      rw [List.countP_eq_zero]
      intro step member
      rw [unopened step member]
      decide
    rw [none_] at bound
    split at bound <;> omega
  · have bound := postsAll_bound {} steps
    simpa using bound

end FlossDesktop.ScoPcm.State
