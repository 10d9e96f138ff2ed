import FlossDesktop.Library.SharedSettings

/-! A program that runs while every other process waits, and while no synchronisation
fails. It is one step of a coarser world, and every such step is an uninterrupted run of
the world in which any process may take the next step. -/

namespace SharedSettings

variable {ι ε κ ν μ ρ : Type}

/-- What a program leaves behind. -/
structure Outcome (κ ν μ ρ : Type) where
  file : Store κ ν
  settings : Settings κ ν
  result : ρ
  sent : List μ

/-- Everything is committed, and everything is loaded. -/
def Settings.committed (settings : Settings κ ν) (file : Store κ ν) : Settings κ ν :=
  { settings with loaded := overlay settings.changes file, changes := fun _ => none }

namespace Settings

/-- No change waits to be committed, and no synchronisation has failed. -/
structure Idle (settings : Settings κ ν) : Prop where
  changes : settings.changes = fun _ => none
  sound : settings.broken = false

/-- Nothing was committed since the file was loaded. -/
structure Tracks (settings : Settings κ ν) (file : Store κ ν) : Prop where
  loaded : settings.loaded = file
  sound : settings.broken = false

variable {settings : Settings κ ν} {file : Store κ ν}

theorem tracks_loaded (file : Store κ ν) : ({ loaded := file } : Settings κ ν).Tracks file := ⟨rfl, rfl⟩

theorem idle_loaded (file : Store κ ν) : ({ loaded := file } : Settings κ ν).Idle := ⟨rfl, rfl⟩

theorem value_loaded (file : Store κ ν) : ({ loaded := file } : Settings κ ν).value = file := rfl

theorem value_setValue [DecidableEq κ] (settings : Settings κ ν) (key : κ) (value : ν) :
    (settings.setValue key value).value = Function.update settings.value key (some value) := by
  funext other
  change (Function.update settings.changes key (some value) other).or (settings.loaded other) = _
  rw [Function.update_apply, Function.update_apply]
  split
  · rfl
  · rfl

theorem Tracks.setValue [DecidableEq κ] (tracks : settings.Tracks file) (key : κ) (value : ν) :
    (settings.setValue key value).Tracks file := ⟨tracks.loaded, tracks.sound⟩

theorem Tracks.overlay (tracks : settings.Tracks file) : overlay settings.changes file = settings.value := by
  rw [← tracks.loaded]
  rfl

theorem Tracks.committed (tracks : settings.Tracks file) : settings.committed file = { loaded := settings.value } := by
  unfold Settings.committed
  rw [tracks.overlay, tracks.sound]

theorem Idle.overlay (idle : settings.Idle) (file : Store κ ν) : overlay settings.changes file = file := by
  rw [idle.changes]
  rfl

theorem Idle.committed (idle : settings.Idle) (file : Store κ ν) : settings.committed file = { loaded := file } := by
  unfold Settings.committed
  rw [idle.overlay, idle.sound]

end Settings

namespace Program

variable [DecidableEq κ]

/-- It takes no time. -/
def alone (now : Int) : Program κ ν μ ρ → Settings κ ν → Store κ ν → Outcome κ ν μ ρ
  | .ret result, settings, file => ⟨file, settings, result, []⟩
  | .sync next, settings, file => alone now next (settings.committed file) (overlay settings.changes file)
  | .setValue key value next, settings, file => alone now next (settings.setValue key value) file
  | .get next, settings, file => alone now (next settings) settings file
  | .clock next, settings, file => alone now (next now) settings file
  | .send message next, settings, file =>
    { alone now next settings file with sent := message :: (alone now next settings file).sent }

variable {now : Int} {settings : Settings κ ν} {file : Store κ ν}

@[simp] theorem alone_ret (result : ρ) :
    (Program.ret result : Program κ ν μ ρ).alone now settings file = ⟨file, settings, result, []⟩ := rfl

@[simp] theorem alone_sync (next : Program κ ν μ ρ) : (Program.sync next).alone now settings file =
    next.alone now (settings.committed file) (overlay settings.changes file) := rfl

@[simp] theorem alone_setValue (key : κ) (value : ν) (next : Program κ ν μ ρ) :
    (Program.setValue key value next).alone now settings file =
      next.alone now (settings.setValue key value) file := rfl

@[simp] theorem alone_get (next : Settings κ ν → Program κ ν μ ρ) :
    (Program.get next).alone now settings file = (next settings).alone now settings file := rfl

@[simp] theorem alone_clock (next : Int → Program κ ν μ ρ) :
    (Program.clock next).alone now settings file = (next now).alone now settings file := rfl

@[simp] theorem alone_send (message : μ) (next : Program κ ν μ ρ) :
    (Program.send message next).alone now settings file =
      { next.alone now settings file with sent := message :: (next.alone now settings file).sent } := rfl

end Program

namespace Program

variable [DecidableEq κ] {now : Int} {settings : Settings κ ν} {file : Store κ ν}

/-- A first synchronisation loads the file. -/
theorem alone_sync_idle (idle : settings.Idle) (next : Program κ ν μ ρ) :
    (Program.sync next).alone now settings file = next.alone now { loaded := file } file := by
  rw [alone_sync, idle.committed, idle.overlay]

/-- A later one commits the changes, and there is nothing else to load. -/
theorem alone_sync_tracks (tracks : settings.Tracks file) (next : Program κ ν μ ρ) :
    (Program.sync next).alone now settings file =
      next.alone now { loaded := settings.value } settings.value := by
  rw [alone_sync, tracks.committed, tracks.overlay]

end Program

namespace World

variable [DecidableEq ι] [DecidableEq κ]

/-- Who sent what, in order. -/
def messages (w : World ι ε κ ν μ ρ) : List (ι × μ) := w.log.map fun sent => (sent.process, sent.message)

/-- The process has come to the end of its program, and nothing else has happened. -/
structure Completed (process : ι) (outcome : Outcome κ ν μ ρ) (w next : World ι ε κ ν μ ρ) : Prop where
  file : next.file = outcome.file
  settings : (next.processes process).settings = outcome.settings
  result : (next.processes process).result = outcome.result
  program : (next.processes process).program = none
  unanswered : (next.processes process).unanswered = (w.processes process).unanswered ++ outcome.sent
  others : ∀ other, other ≠ process → next.processes other = w.processes other
  messages : next.messages = w.messages ++ outcome.sent.map fun message => (process, message)

variable {system : System ε κ ν μ ρ} {w next : World ι ε κ ν μ ρ} {process : ι} {outcome : Outcome κ ν μ ρ}

omit [DecidableEq ι] [DecidableEq κ] in
/-- A step that only the process notices may come before. -/
theorem Completed.after {middle : World ι ε κ ν μ ρ} (completed : Completed process outcome middle next)
    (unanswered : (middle.processes process).unanswered = (w.processes process).unanswered)
    (others : ∀ other, other ≠ process → middle.processes other = w.processes other)
    (log : middle.log = w.log) : Completed process outcome w next where
  file := completed.file
  settings := completed.settings
  result := completed.result
  program := completed.program
  unanswered := unanswered ▸ completed.unanswered
  others := fun other apart => (completed.others other apart).trans (others other apart)
  messages := by
    rw [completed.messages]
    unfold World.messages
    rw [log]

omit [DecidableEq κ] in
theorem update_same (after : Process κ ν μ ρ) : (w.update process after).processes process = after :=
  Function.update_self ..

omit [DecidableEq κ] in
theorem update_other (after : Process κ ν μ ρ) {other : ι} (apart : other ≠ process) :
    (w.update process after).processes other = w.processes other := Function.update_of_ne apart ..

omit [DecidableEq κ] in
theorem commit_same (rest : Program κ ν μ ρ) : (w.commit process rest).processes process =
    { w.processes process with
      settings := (w.processes process).settings.committed w.file
      program := some rest
      seen := w.history.length + 1
      window := w.history.drop (w.processes process).seen } := Function.update_self ..

theorem step_advance (system : System ε κ ν μ ρ) {program : Program κ ν μ ρ} (now : Int)
    (running : (w.processes process).program = some program) :
    w.step system (.advance process false now) = some (w.advance process false now program) := by
  rw [World.step, running]
  rfl

/-- One step, and then the rest of the program. -/
theorem Completed.reached {action : Action ι ε} {middle : World ι ε κ ν μ ρ} (step : w.step system action = some middle)
    (unanswered : (middle.processes process).unanswered = (w.processes process).unanswered)
    (others : ∀ other, other ≠ process → middle.processes other = w.processes other) (log : middle.log = w.log)
    (reached : ∃ actions next, middle.run system actions = some next ∧ Completed process outcome middle next) :
    ∃ actions next, w.run system actions = some next ∧ Completed process outcome w next := by
  obtain ⟨actions, next, ran, completed⟩ := reached
  refine ⟨action :: actions, next, ?_, completed.after unanswered others log⟩
  rw [World.run, step]
  exact ran

/-- Left alone, a process comes to the end of its program with that outcome. -/
theorem completes (system : System ε κ ν μ ρ) (program : Program κ ν μ ρ) (now : Int) (w : World ι ε κ ν μ ρ)
    (running : (w.processes process).program = some program) :
    ∃ actions next, w.run system actions = some next ∧
      Completed process (program.alone now (w.processes process).settings w.file) w next := by
  have stepped := step_advance system now running
  induction program generalizing w with
  | ret result =>
    refine ⟨[.advance process false now],
      w.update process { w.processes process with result, program := none }, ?_, ?_⟩
    · rw [World.run, stepped]
      rfl
    · refine ⟨rfl, ?_, ?_, ?_, ?_, fun other apart => update_other _ apart, ?_⟩
      · rw [update_same]
        rfl
      · rw [update_same]
        rfl
      · rw [update_same]
      · rw [update_same]
        exact (List.append_nil _).symm
      · exact (List.append_nil _).symm
  | sync rest ih =>
    have same : (w.commit process rest).processes process = _ := commit_same rest
    have began : ((w.commit process rest).processes process).program = some rest := by rw [same]
    have following := ih (w.commit process rest) began (step_advance system now began)
    rw [same] at following
    have unanswered := congrArg Process.unanswered same
    apply Completed.reached stepped unanswered _ rfl following
    exact fun other apart => Function.update_of_ne apart ..
  | setValue key value rest ih =>
    have same : (w.update process _).processes process = { w.processes process with
        settings := (w.processes process).settings.setValue key value, program := some rest } := update_same _
    have following := ih _ (congrArg Process.program same) (step_advance system now (congrArg Process.program same))
    rw [same] at following
    have unanswered := congrArg Process.unanswered same
    apply Completed.reached stepped unanswered _ rfl following
    exact fun other apart => update_other _ apart
  | get rest ih =>
    have same : (w.update process _).processes process = { w.processes process with
        program := some (rest (w.processes process).settings) } := update_same _
    have following := ih _ _ (congrArg Process.program same) (step_advance system now (congrArg Process.program same))
    rw [same] at following
    have unanswered := congrArg Process.unanswered same
    apply Completed.reached stepped unanswered _ rfl following
    exact fun other apart => update_other _ apart
  | clock rest ih =>
    have same : (w.update process _).processes process = { w.processes process with
        program := some (rest now) } := update_same _
    have following := ih now _ (congrArg Process.program same) (step_advance system now (congrArg Process.program same))
    rw [same] at following
    have unanswered := congrArg Process.unanswered same
    apply Completed.reached stepped unanswered _ rfl following
    exact fun other apart => update_other _ apart
  | send message rest ih =>
    have changed : (w.advance process false now (.send message rest)).processes process =
        { w.processes process with
          program := some rest, unanswered := (w.processes process).unanswered ++ [message] } := Function.update_self ..
    have began := congrArg Process.program changed
    obtain ⟨actions, next, ran, completed⟩ := ih _ began (step_advance system now began)
    rw [changed] at completed
    refine ⟨.advance process false now :: actions, next, ?_, ?_⟩
    · rw [World.run, stepped]
      exact ran
    · refine ⟨completed.file, completed.settings, completed.result, completed.program, ?_, ?_, ?_⟩
      · rw [completed.unanswered, changed, List.append_assoc]
        rfl
      · exact fun other apart => (completed.others other apart).trans (Function.update_of_ne apart ..)
      · rw [completed.messages]
        change List.map _ (w.log ++ _) ++ _ = _
        rw [List.map_append, List.append_assoc]
        rfl

theorem run_append (system : System ε κ ν μ ρ) (w : World ι ε κ ν μ ρ) (first second : List (Action ι ε)) :
    w.run system (first ++ second) = (w.run system first).bind fun next => next.run system second := by
  induction first generalizing w with
  | nil => rfl
  | cons action rest ih =>
    rw [List.cons_append, World.run, World.run, Option.bind_assoc]
    congr 1
    funext next
    exact ih next

/-- An idle process handles an entry while the others wait. -/
theorem handles (system : System ε κ ν μ ρ) (w : World ι ε κ ν μ ρ) {process : ι} {entry : ε} {rest : List μ} (now : Int)
    (idle : (w.processes process).program = none)
    (accepted : system.accept entry (w.processes process).unanswered = some rest) :
    ∃ actions next, w.run system actions = some next ∧
      Completed process ((system.program entry (w.processes process).result).alone now (w.processes process).settings w.file)
        { w with processes := Function.update w.processes process { w.processes process with unanswered := rest } } next := by
  obtain ⟨begun, same⟩ : ∃ begun : World ι ε κ ν μ ρ, begun =
      { w.update process { w.processes process with
          program := some (system.program entry (w.processes process).result), unanswered := rest } with
        started := w.started ++ [(process, entry)] } := ⟨_, rfl⟩
  have mine : begun.processes process = { w.processes process with
      program := some (system.program entry (w.processes process).result), unanswered := rest } := by
    rw [same]
    exact Function.update_self ..
  have apart : ∀ other, other ≠ process → begun.processes other = w.processes other := by
    intro other different
    rw [same]
    exact Function.update_of_ne different ..
  have started : w.step system (.start process entry) = some begun := by
    simp only [World.step, idle, Option.isSome_none, Bool.false_eq_true, if_false, accepted, Option.map_some, same]
  obtain ⟨actions, next, ran, completed⟩ :=
    completes system (system.program entry (w.processes process).result) now begun (by rw [mine])
  refine ⟨.start process entry :: actions, next, ?_, ?_⟩
  · rw [World.run, started]
    exact ran
  · have file : begun.file = w.file := by rw [same]; rfl
    rw [mine, file] at completed
    apply completed.after
    · rw [mine]
      dsimp only
      rw [Function.update_self]
    · intro other different
      rw [apart other different]
      exact (Function.update_of_ne different ..).symm
    · rw [same]
      rfl

end World
end SharedSettings
