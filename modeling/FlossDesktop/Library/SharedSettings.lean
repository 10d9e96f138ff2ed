import Mathlib.Logic.Function.Basic
import Mathlib.Tactic

/-! Processes that share a settings file. Each one works on a copy of the file with changes
of its own; synchronising writes the changes and loads everything else, in one step. The
processes run small programs, and between any two steps of one the others may take steps.
What a process may assume of the file is only what was committed since it loaded it. -/

namespace SharedSettings

/-- A map from keys to values: the file, a loaded copy, or changes to one. -/
abbrev Store (κ ν : Type) := κ → Option ν

variable {ι ε κ ν μ ρ : Type}

def overlay (changes store : Store κ ν) : Store κ ν := fun key => (changes key).or (store key)

/-- The store after changes, the oldest first. -/
def replay (history : List (Store κ ν)) (store : Store κ ν) : Store κ ν :=
  history.foldl (fun store changes => overlay changes store) store

/-- The last value that changes give a key. -/
def lastWrite (history : List (Store κ ν)) (key : κ) : Option ν := replay history (fun _ => none) key

theorem replay_append (first last : List (Store κ ν)) (store : Store κ ν) :
    replay (first ++ last) store = replay last (replay first store) := List.foldl_append

theorem replay_last (history : List (Store κ ν)) (store : Store κ ν) (key : κ) :
    replay history store key = (lastWrite history key).or (store key) := by
  unfold lastWrite replay
  induction history using List.reverseRecOn with
  | nil => rfl
  | append_singleton history changes ih =>
    rw [List.foldl_append, List.foldl_append]
    change (changes key).or _ = ((changes key).or _).or _
    rw [ih, Option.or_assoc]

/-- The copy of a process, and whether a synchronisation has ever failed. -/
structure Settings (κ ν : Type) where
  loaded : Store κ ν
  changes : Store κ ν := fun _ => none
  broken : Bool := false

namespace Settings

def value (settings : Settings κ ν) (key : κ) : Option ν := overlay settings.changes settings.loaded key

def setValue [DecidableEq κ] (settings : Settings κ ν) (key : κ) (value : ν) : Settings κ ν :=
  { settings with changes := Function.update settings.changes key (some value) }

/-- A synchronisation that found other changes in the file. -/
def synced (settings : Settings κ ν) (others : List (Store κ ν)) : Settings κ ν :=
  { settings with loaded := overlay settings.changes (replay others settings.loaded), changes := fun _ => none }

def failed (settings : Settings κ ν) : Settings κ ν := { settings with broken := true }

@[simp] theorem value_clean {settings : Settings κ ν} (clean : settings.changes = fun _ => none) (key : κ) :
    settings.value key = settings.loaded key := by
  unfold value overlay
  rw [clean]
  rfl

end Settings

/-- What a process does between two idle moments. -/
inductive Program (κ ν μ ρ : Type) where
  | ret (result : ρ)
  | sync (next : Program κ ν μ ρ)
  | setValue (key : κ) (value : ν) (next : Program κ ν μ ρ)
  | get (next : Settings κ ν → Program κ ν μ ρ)
  | clock (next : Int → Program κ ν μ ρ)
  | send (message : μ) (next : Program κ ν μ ρ)

/-- The programs that an idle process may start, given its messages that are not answered. -/
structure System (ε κ ν μ ρ : Type) where
  program : ε → ρ → Program κ ν μ ρ
  accept : ε → List μ → Option (List μ)
  fresh : ρ

structure Process (κ ν μ ρ : Type) where
  settings : Settings κ ν
  result : ρ
  program : Option (Program κ ν μ ρ) := none
  unanswered : List μ := []
  /-- How many commits the last synchronisation has seen, and those it found. -/
  seen : Nat := 0
  window : List (Store κ ν) := []

/-- A message with what its sender knew. -/
structure Sent (ι κ ν μ : Type) where
  process : ι
  message : μ
  settings : Settings κ ν
  window : List (Store κ ν)
  seen : List (Store κ ν)

/-- The history, the log and the programs started are recorded; nothing reads them. -/
structure World (ι ε κ ν μ ρ : Type) where
  file : Store κ ν
  processes : ι → Process κ ν μ ρ
  history : List (Store κ ν) := []
  log : List (Sent ι κ ν μ) := []
  started : List (ι × ε) := []

inductive Action (ι ε : Type) where
  | start (process : ι) (entry : ε)
  | restart (process : ι)
  | advance (process : ι) (fails : Bool) (now : Int)

namespace World

variable [DecidableEq ι] [DecidableEq κ]

def update (w : World ι ε κ ν μ ρ) (process : ι) (after : Process κ ν μ ρ) : World ι ε κ ν μ ρ :=
  { w with processes := Function.update w.processes process after }

/-- The changes of a process are committed, and it sees everything. -/
def commit (w : World ι ε κ ν μ ρ) (process : ι) (next : Program κ ν μ ρ) : World ι ε κ ν μ ρ :=
  let p := w.processes process
  { w with
    file := overlay p.settings.changes w.file
    history := w.history ++ [p.settings.changes]
    processes := Function.update w.processes process
      { p with
        settings := { p.settings with loaded := overlay p.settings.changes w.file, changes := fun _ => none }
        program := some next
        seen := w.history.length + 1
        window := w.history.drop p.seen } }

def advance (w : World ι ε κ ν μ ρ) (process : ι) (fails : Bool) (now : Int) : Program κ ν μ ρ → World ι ε κ ν μ ρ
  | .ret result => w.update process { w.processes process with result, program := none }
  | .sync next =>
    if fails then
      w.update process
        { w.processes process with settings := (w.processes process).settings.failed, program := some next }
    else w.commit process next
  | .setValue key value next =>
    w.update process
      { w.processes process with settings := (w.processes process).settings.setValue key value, program := some next }
  | .get next => w.update process { w.processes process with program := some (next (w.processes process).settings) }
  | .clock next => w.update process { w.processes process with program := some (next now) }
  | .send message next =>
    let p := w.processes process
    { w.update process { p with program := some next, unanswered := p.unanswered ++ [message] } with
      log := w.log ++ [⟨process, message, p.settings, p.window, w.history.take p.seen⟩] }

/-- One step. A process starts a program when it is idle; a restart forgets everything but
the file. -/
def step (system : System ε κ ν μ ρ) (w : World ι ε κ ν μ ρ) : Action ι ε → Option (World ι ε κ ν μ ρ)
  | .start process entry =>
    let p := w.processes process
    if p.program.isSome then none
    else
      (system.accept entry p.unanswered).map fun unanswered =>
        { w.update process { p with program := some (system.program entry p.result), unanswered } with
          started := w.started ++ [(process, entry)] }
  | .restart process =>
    some (w.update process { settings := { loaded := w.file }, result := system.fresh, seen := w.history.length })
  | .advance process fails now => (w.processes process).program.map (w.advance process fails now)

def run (system : System ε κ ν μ ρ) (w : World ι ε κ ν μ ρ) : List (Action ι ε) → Option (World ι ε κ ν μ ρ)
  | [] => some w
  | action :: rest => (w.step system action).bind fun next => next.run system rest

/-- Every process has just been started. -/
def initial (system : System ε κ ν μ ρ) (file : Store κ ν) : World ι ε κ ν μ ρ :=
  { file, processes := fun _ => { settings := { loaded := file }, result := system.fresh } }

end World

namespace Program

/-- Whatever the others commit, every message is sent with settings, and after a window of
foreign commits, that allow it. -/
def Guarded [DecidableEq κ] (ok : Settings κ ν → List (Store κ ν) → μ → Prop) :
    Program κ ν μ ρ → Settings κ ν → List (Store κ ν) → Prop
  | .ret _, _, _ => True
  | .sync next, settings, window =>
    (∀ others, Guarded ok next (settings.synced others) others) ∧ Guarded ok next settings.failed window
  | .setValue key value next, settings, window => Guarded ok next (settings.setValue key value) window
  | .get next, settings, window => Guarded ok (next settings) settings window
  | .clock next, settings, window => ∀ now, Guarded ok (next now) settings window
  | .send message next, settings, window => ok settings window message ∧ Guarded ok next settings window

/-- The program may give the key this value. -/
def Sets : Program κ ν μ ρ → κ → ν → Prop
  | .ret _, _, _ => False
  | .sync next, key, value => Sets next key value
  | .setValue other value' next, key, value => other = key ∧ value' = value ∨ Sets next key value
  | .get next, key, value => ∃ settings, Sets (next settings) key value
  | .clock next, key, value => ∃ now, Sets (next now) key value
  | .send _ next, key, value => Sets next key value

end Program

namespace World

variable [DecidableEq ι] [DecidableEq κ]

/-- What is known of one process: its copy is the file as it was at its last synchronisation,
and the rest of its program is guarded. -/
structure Served (base : Store κ ν) (ok : Settings κ ν → List (Store κ ν) → μ → Prop) (history : List (Store κ ν))
    (p : Process κ ν μ ρ) : Prop where
  seen : p.seen ≤ history.length
  loaded : p.settings.loaded = replay (history.take p.seen) base
  window : p.window ⊆ history
  guarded : ∀ program, p.program = some program → program.Guarded ok p.settings p.window

/-- What a recorded message says. -/
structure Recorded (base : Store κ ν) (ok : Settings κ ν → List (Store κ ν) → μ → Prop) (history : List (Store κ ν))
    (sent : Sent ι κ ν μ) : Prop where
  allowed : ok sent.settings sent.window sent.message
  loaded : sent.settings.loaded = replay sent.seen base
  window : sent.window ⊆ history
  seen : sent.seen <+: history

structure Sound (base : Store κ ν) (ok : Settings κ ν → List (Store κ ν) → μ → Prop) (w : World ι ε κ ν μ ρ) : Prop where
  file : w.file = replay w.history base
  served : ∀ process, Served base ok w.history (w.processes process)
  log : ∀ sent ∈ w.log, Recorded base ok w.history sent

variable {base : Store κ ν} {ok : Settings κ ν → List (Store κ ν) → μ → Prop} {w next : World ι ε κ ν μ ρ}
  {system : System ε κ ν μ ρ} {process : ι}

/-- One process changes, and nothing is committed. -/
theorem Sound.update (sound : Sound base ok w) {after : Process κ ν μ ρ} (served : Served base ok w.history after) :
    Sound base ok (w.update process after) where
  file := sound.file
  served := by
    intro other
    change Served base ok w.history (Function.update w.processes process after other)
    rw [Function.update_apply]
    split
    · exact served
    · exact sound.served other
  log := sound.log

theorem Served.longer {history : List (Store κ ν)} {p : Process κ ν μ ρ} (served : Served base ok history p)
    (changes : Store κ ν) : Served base ok (history ++ [changes]) p where
  seen := by
    rw [List.length_append]
    exact served.seen.trans (Nat.le_add_right _ _)
  loaded := by
    rw [List.take_append_of_le_length served.seen]
    exact served.loaded
  window := List.Subset.trans served.window (List.subset_append_left _ _)
  guarded := served.guarded

omit [DecidableEq ι] [DecidableEq κ] in
theorem Recorded.longer {history : List (Store κ ν)} {sent : Sent ι κ ν μ} (recorded : Recorded base ok history sent)
    (changes : Store κ ν) : Recorded base ok (history ++ [changes]) sent :=
  ⟨recorded.allowed, recorded.loaded, List.Subset.trans recorded.window (List.subset_append_left _ _),
    recorded.seen.trans (List.prefix_append _ _)⟩

omit [DecidableEq ι] in
/-- The file is what a process loaded, with what it has not seen. -/
theorem Sound.unseen (sound : Sound base ok w) (process : ι) :
    w.file = replay (w.history.drop (w.processes process).seen) (w.processes process).settings.loaded := by
  rw [sound.file, (sound.served process).loaded, ← replay_append, List.take_append_drop]

theorem Sound.commit (sound : Sound base ok w) {program : Program κ ν μ ρ}
    (running : (w.processes process).program = some (.sync program)) : Sound base ok (w.commit process program) where
  file := by
    change overlay _ w.file = replay (w.history ++ [_]) base
    rw [replay_append, ← sound.file]
    rfl
  served := by
    intro other
    change Served base ok (w.history ++ [_]) (Function.update w.processes process _ other)
    rw [Function.update_apply]
    split
    · have guarded := ((sound.served process).guarded _ running).1 (w.history.drop (w.processes process).seen)
      refine ⟨?_, ?_, ?_, ?_⟩
      · rw [List.length_append]
        rfl
      · have whole : (w.history ++ [(w.processes process).settings.changes]).take (w.history.length + 1) =
            w.history ++ [(w.processes process).settings.changes] := List.take_of_length_le (by simp)
        change overlay _ w.file = _
        rw [whole, replay_append, ← sound.file]
        rfl
      · exact List.Subset.trans (List.drop_subset _ _) (List.subset_append_left _ _)
      · intro other continued
        cases continued
        unfold Settings.synced at guarded
        rw [← sound.unseen process] at guarded
        exact guarded
    · exact (sound.served other).longer _
  log := fun sent member => (sound.log sent member).longer _

theorem Sound.advance (sound : Sound base ok w) {program : Program κ ν μ ρ}
    (running : (w.processes process).program = some program) (fails : Bool) (now : Int) :
    Sound base ok (w.advance process fails now program) := by
  have served := sound.served process
  have guarded := served.guarded _ running
  have continued : ∀ settings : Settings κ ν, settings.loaded = (w.processes process).settings.loaded →
      ∀ rest : Program κ ν μ ρ, rest.Guarded ok settings (w.processes process).window →
      Served base ok w.history { w.processes process with settings, program := some rest } := by
    intro settings loaded rest holds
    refine ⟨served.seen, loaded.trans served.loaded, served.window, ?_⟩
    intro other same
    cases same
    exact holds
  cases program with
  | ret result => exact sound.update ⟨served.seen, served.loaded, served.window, nofun⟩
  | sync rest =>
    rw [World.advance]
    split
    · exact sound.update (continued (w.processes process).settings.failed rfl rest guarded.2)
    · exact sound.commit running
  | setValue key value rest =>
    exact sound.update (continued ((w.processes process).settings.setValue key value) rfl rest guarded)
  | get rest => exact sound.update (continued _ rfl _ guarded)
  | clock rest => exact sound.update (continued _ rfl _ (guarded now))
  | send message rest =>
    have kept := continued _ rfl rest guarded.2
    have updated : Sound base ok (w.update process
        { w.processes process with program := some rest, unanswered := (w.processes process).unanswered ++ [message] }) :=
      sound.update ⟨kept.seen, kept.loaded, kept.window, kept.guarded⟩
    refine ⟨updated.file, updated.served, ?_⟩
    intro sent member
    rcases List.mem_append.mp member with old | new
    · exact sound.log sent old
    · cases List.mem_singleton.mp new
      exact ⟨guarded.1, served.loaded, served.window, List.take_prefix _ _⟩

theorem start_taken {entry : ε} (taken : w.step system (.start process entry) = some next) :
    ∃ unanswered, { w.update process { w.processes process with
      program := some (system.program entry (w.processes process).result), unanswered } with
      started := w.started ++ [(process, entry)] } = next := by
  unfold World.step at taken
  dsimp only at taken
  split at taken
  · cases taken
  · obtain ⟨unanswered, _, same⟩ := Option.map_eq_some_iff.mp taken
    exact ⟨unanswered, same⟩

theorem Sound.step (sound : Sound base ok w)
    (programs : ∀ entry result settings window, (system.program entry result).Guarded ok settings window)
    {action : Action ι ε} (taken : w.step system action = some next) : Sound base ok next := by
  cases action with
  | start process entry =>
    have served := sound.served process
    obtain ⟨unanswered, rfl⟩ := start_taken taken
    have begun : Sound base ok (w.update process { w.processes process with
        program := some (system.program entry (w.processes process).result), unanswered }) := by
      apply sound.update
      refine ⟨served.seen, served.loaded, served.window, ?_⟩
      intro program same
      cases same
      exact programs entry _ _ _
    exact ⟨begun.file, begun.served, begun.log⟩
  | restart process =>
    cases taken
    apply sound.update
    refine ⟨le_rfl, ?_, List.nil_subset _, nofun⟩
    rw [List.take_length]
    exact sound.file
  | advance process fails now =>
    obtain ⟨program, running, rfl⟩ := Option.map_eq_some_iff.mp taken
    exact sound.advance running fails now

omit [DecidableEq ι] in
theorem initial_sound (system : System ε κ ν μ ρ) (file : Store κ ν) :
    Sound file ok (initial system file : World ι ε κ ν μ ρ) :=
  ⟨rfl, fun _ => ⟨le_rfl, rfl, List.nil_subset _, nofun⟩, nofun⟩

/-- What every step preserves, a run preserves. -/
theorem run_preserves {property : World ι ε κ ν μ ρ → Prop}
    (kept : ∀ {w next : World ι ε κ ν μ ρ} {action : Action ι ε}, property w → w.step system action = some next →
      property next)
    {actions : List (Action ι ε)} (holds : property w) (ran : w.run system actions = some next) : property next := by
  induction actions generalizing w with
  | nil =>
    cases ran
    exact holds
  | cons action rest ih =>
    obtain ⟨middle, taken, rested⟩ := Option.bind_eq_some_iff.mp ran
    exact ih (kept holds taken) rested

/-- Guarded programs send only what is allowed, in any interleaving with any restarts. -/
theorem run_sound {file : Store κ ν} {actions : List (Action ι ε)}
    (programs : ∀ entry result settings window, (system.program entry result).Guarded ok settings window)
    (ran : (initial system file).run system actions = some w) : Sound file ok w :=
  run_preserves (fun sound taken => sound.step programs taken) (initial_sound system file) ran

/-- Some program that was started may give the key this value. -/
def Origin (system : System ε κ ν μ ρ) (w : World ι ε κ ν μ ρ) (key : κ) (value : ν) : Prop :=
  ∃ process entry result, (process, entry) ∈ w.started ∧ (system.program entry result).Sets key value

/-- Every change, committed or not, comes from a program that was started. -/
structure Traced (system : System ε κ ν μ ρ) (w : World ι ε κ ν μ ρ) : Prop where
  programs : ∀ process program, (w.processes process).program = some program →
    ∀ key value, program.Sets key value → Origin system w key value
  changes : ∀ process key value, (w.processes process).settings.changes key = some value → Origin system w key value
  history : ∀ changes ∈ w.history, ∀ key value, changes key = some value → Origin system w key value

omit [DecidableEq κ] in
theorem Traced.update (traced : Traced system w) (after : Process κ ν μ ρ)
    (program : ∀ program, after.program = some program → ∀ key value, program.Sets key value → Origin system w key value)
    (changes : ∀ key value, after.settings.changes key = some value → Origin system w key value) :
    Traced system (w.update process after) where
  programs := by
    intro other
    change ∀ program, (Function.update w.processes process after other).program = some program → _
    rw [Function.update_apply]
    split
    · exact program
    · exact traced.programs other
  changes := by
    intro other
    change ∀ key value, (Function.update w.processes process after other).settings.changes key = some value → _
    rw [Function.update_apply]
    split
    · exact changes
    · exact traced.changes other
  history := traced.history

theorem Traced.advance (traced : Traced system w) {program : Program κ ν μ ρ}
    (running : (w.processes process).program = some program) (fails : Bool) (now : Int) :
    Traced system (w.advance process fails now program) := by
  have mine := traced.programs process program running
  have pending := traced.changes process
  have continued : ∀ rest : Program κ ν μ ρ, (∀ key value, rest.Sets key value → program.Sets key value) →
      ∀ other, some rest = some other → ∀ key value, other.Sets key value → Origin system w key value := by
    intro rest part other same key value sets
    cases same
    exact mine key value (part key value sets)
  cases program with
  | ret result => exact traced.update _ nofun pending
  | sync rest =>
    rw [World.advance]
    split
    · exact traced.update _ (continued rest fun _ _ sets => sets) pending
    · have updated : Traced system (w.update process _) := traced.update
        { w.processes process with
          settings := { (w.processes process).settings with
            loaded := overlay (w.processes process).settings.changes w.file, changes := fun _ => none }
          program := some rest
          seen := w.history.length + 1
          window := w.history.drop (w.processes process).seen } (continued rest fun _ _ sets => sets) nofun
      refine ⟨updated.programs, updated.changes, ?_⟩
      intro changes member
      rcases List.mem_append.mp member with old | new
      · exact traced.history changes old
      · cases List.mem_singleton.mp new
        exact pending
  | setValue key value rest =>
    apply traced.update _ (continued rest fun _ _ sets => .inr sets)
    intro other written here
    change Function.update (w.processes process).settings.changes key (some value) other = some written at here
    rw [Function.update_apply] at here
    split at here
    · next same =>
      cases here
      exact mine other value (.inl ⟨same.symm, rfl⟩)
    · exact pending other written here
  | get rest => exact traced.update _ (continued _ fun _ _ sets => ⟨_, sets⟩) pending
  | clock rest => exact traced.update _ (continued _ fun _ _ sets => ⟨now, sets⟩) pending
  | send message rest =>
    have updated : Traced system (w.update process _) := traced.update
      { w.processes process with program := some rest, unanswered := (w.processes process).unanswered ++ [message] }
      (continued rest fun _ _ sets => sets) pending
    exact ⟨updated.programs, updated.changes, updated.history⟩

theorem Traced.step (traced : Traced system w) {action : Action ι ε} (taken : w.step system action = some next) :
    Traced system next := by
  cases action with
  | start process entry =>
    obtain ⟨unanswered, rfl⟩ := start_taken taken
    have longer : ∀ {key value}, Origin system w key value →
        Origin system { w with started := w.started ++ [(process, entry)] } key value := by
      rintro key value ⟨process, entry, result, member, sets⟩
      exact ⟨process, entry, result, List.mem_append_left _ member, sets⟩
    have kept : Traced system { w with started := w.started ++ [(process, entry)] } :=
      ⟨fun other program same key value sets => longer (traced.programs other program same key value sets),
        fun other key value here => longer (traced.changes other key value here),
        fun changes member key value here => longer (traced.history changes member key value here)⟩
    apply kept.update
      { w.processes process with program := some (system.program entry (w.processes process).result), unanswered } ?_
      (kept.changes process)
    intro program same key value sets
    cases same
    exact ⟨process, entry, _, List.mem_append_right _ (List.mem_singleton_self _), sets⟩
  | restart process =>
    cases taken
    exact traced.update _ nofun nofun
  | advance process fails now =>
    obtain ⟨program, running, rfl⟩ := Option.map_eq_some_iff.mp taken
    exact traced.advance running fails now

theorem run_traced {file : Store κ ν} {actions : List (Action ι ε)}
    (ran : (initial system file).run system actions = some w) : Traced system w := by
  refine run_preserves (fun traced taken => traced.step taken) ⟨?_, ?_, ?_⟩ ran
  · intro _ _ running
    cases running
  · intro _ _ _ written
    cases written
  · intro _ member
    cases member

end World
end SharedSettings
