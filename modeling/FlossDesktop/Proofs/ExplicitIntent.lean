import FlossDesktop.Proofs.RetryBackoff

/-! Explicit intent and late answers. What a user's operation wrote stands until something
else happens to the device, with one exception: an operation that comes just as long after
an attempt as the attempt's delay writes the deadline of that attempt, and a rejection takes
the value for its own. -/

namespace FlossDesktop.Handoff

open SharedSettings Reconnect

/-- The file holds what the operation wrote. -/
structure Intent (who : Peer) (operation : String) (now : Int) (file : Store Key Value) : Prop where
  inhibited : file (who.key .inhibited) = some (.bool (inhibits operation))
  autoAttempt : file (who.key .autoAttempt) = some (.bool false)
  disconnectUntil : file (who.key .disconnectUntil) = some (.int (if inhibits operation then now + 45000 else 0))
  failures : file (who.key .failures) = some (.int 0)
  nextAttempt : file (who.key .nextAttempt) = some (.int (now + 30000))

/-- An operation of the user that was the last to happen to its device. -/
def Stands (d : Desktop) : Prop :=
  ∀ who operation now, phase who d.log = .operated operation now → Intent who operation now d.file

def Phase.isOperated : Phase → Bool
  | .operated _ _ => true
  | _ => false

/-- A rejection that moves the next attempt although the user was last to set it: the time
that the user set is the deadline of the attempt, and not the time that is written. -/
def overwrites (d : Desktop) : Act → Bool
  | .wake process (.reply (.connectAllEnabledProfiles adapter candidate request delay deadline) false) now =>
    request == (d.hosts process).worker.request && (phase (peer adapter candidate) d.log).isOperated &&
      !(peer adapter candidate).inhibited d.file &&
      decide ((peer adapter candidate).number d.file .nextAttempt = deadline) && decide (now + delay ≠ deadline)
  | _ => false

def connects (who : Peer) : Event → Bool
  | .connected other _ => other == who
  | _ => false

/-- A property of every state of a run. -/
def Desktop.always (property : Desktop → Prop) (d : Desktop) : List Act → Prop
  | [] => property d
  | act :: rest => property d ∧ ∀ next, d.step act = some next → next.always property rest

/-- No step of the run overwrites what a user set. -/
def Desktop.spared (d : Desktop) : List Act → Bool
  | [] => true
  | act :: rest => !overwrites d act && (d.step act).all fun next => next.spared rest

/-- No attempt comes within half a minute of an operation, unless a connection was seen. -/
def Unhurried (log : List Event) : Prop :=
  ∀ who before operation time between event late attempt,
    log = before ++ .operated who operation time :: between ++ event :: late → attempt? who event = some attempt →
    (∀ other ∈ between, connects who other = false) → time + 30000 ≤ attempt.time

variable {who other : Peer} {log between late : List Event} {event : Event} {file : Store Key Value} {now clock : Int}
  {process : Nat} {operation : String} {d next : Desktop} {act : Act} {rest : List Message} {entry : Entry}

/-- The operation is as old as the clock allows. -/
def Past (who : Peer) (clock : Int) (log : List Event) : Prop :=
  ∀ operation now, phase who log = .operated operation now → 0 ≤ now ∧ now ≤ clock

/-- No attempt is sent for half a minute after the operation. -/
def Guarded (who : Peer) (log : List Event) : Prop :=
  History.Everywhere (fun early event => ∀ attempt, attempt? who event = some attempt →
    ∀ operation now, phase who early = .operated operation now → now + 30000 ≤ attempt.time) log

/-- What is known of the last operation of the user. -/
structure Standing (who : Peer) (clock : Int) (file : Store Key Value) (log : List Event) : Prop where
  intent : ∀ operation now, phase who log = .operated operation now → Intent who operation now file
  past : Past who clock log
  guarded : Guarded who log

theorem Intent.number (intent : Intent who operation now file) : who.number file .nextAttempt = now + 30000 := by
  unfold Peer.number
  rw [intent.nextAttempt]
  rfl

theorem Intent.elsewhere {after : Store Key Value} (intent : Intent who operation now file)
    (same : ∀ setting, setting ≠ .nextDisconnect → after (who.key setting) = file (who.key setting)) :
    Intent who operation now after where
  inhibited := (same _ (by decide)).trans intent.inhibited
  autoAttempt := (same _ (by decide)).trans intent.autoAttempt
  disconnectUntil := (same _ (by decide)).trans intent.disconnectUntil
  failures := (same _ (by decide)).trans intent.failures
  nextAttempt := (same _ (by decide)).trans intent.nextAttempt

theorem operated_intent (who : Peer) (operation : String) (now : Int) (file : Store Key Value) :
    Intent who operation now (who.operated operation now file) := by
  have apart : ∀ {setting written : Setting} {value : Value} {file : Store Key Value}, setting ≠ written →
      who.write written value file (who.key setting) = file (who.key setting) := fun apart => Peer.write_setting apart
  unfold Peer.operated
  refine ⟨?_, ?_, ?_, ?_, Peer.write_same ..⟩
  · rw [apart (by decide), apart (by decide), apart (by decide), apart (by decide), apart (by decide), Peer.write_same]
  · rw [apart (by decide), apart (by decide), apart (by decide), apart (by decide), Peer.write_same]
  · rw [apart (by decide), apart (by decide), apart (by decide), Peer.write_same]
    rfl
  · rw [apart (by decide), Peer.write_same]

theorem Standing.later {after : Int} (holds : Standing who clock file log) (later : clock ≤ after) :
    Standing who after file log where
  intent := holds.intent
  past := by
    intro operation now same
    obtain ⟨began, past⟩ := holds.past operation now same
    exact ⟨began, past.trans later⟩
  guarded := holds.guarded

theorem Standing.elsewhere {after : Store Key Value} (holds : Standing who clock file log)
    (same : ∀ setting, setting ≠ .nextDisconnect → after (who.key setting) = file (who.key setting)) :
    Standing who clock after log :=
  ⟨fun operation now here => (holds.intent operation now here).elsewhere same, holds.past, holds.guarded⟩

theorem guarded_push (guarded : Guarded who log) (none_sent : attempt? who event = none) : Guarded who (log ++ [event]) := by
  apply History.Everywhere.push guarded
  intro attempt sent
  cases none_sent.symm.trans sent

/-- An event that is no news of the device. -/
theorem Standing.unnoticed (holds : Standing who clock file log) (same : (phase who log).next who event = phase who log)
    (none_sent : attempt? who event = none) : Standing who clock file (log ++ [event]) := by
  have kept := (phase_push who log event).trans same
  refine ⟨?_, ?_, guarded_push holds.guarded none_sent⟩
  · rw [kept]
    exact holds.intent
  · intro operation now
    rw [kept]
    exact holds.past operation now

/-- After it, the operation is no longer the last that happened to the device. -/
theorem Standing.ended {after : Store Key Value} (ended : ∀ operation time, phase who (log ++ [event]) ≠ .operated operation time)
    (guarded : Guarded who (log ++ [event])) : Standing who now after (log ++ [event]) :=
  ⟨fun operation time same => absurd same (ended operation time), fun operation time same => absurd same (ended operation time),
    guarded⟩

theorem Standing.connected (holds : Standing who now file log) (other : Peer) :
    Standing who now (other.cleared file) (log ++ [.connected other now]) := by
  by_cases same : other = who
  · subst same
    apply Standing.ended
    · intro operation time
      rw [phase_push]
      dsimp only [Phase.next]
      rw [if_pos rfl]
      exact nofun
    · exact guarded_push holds.guarded rfl
  · apply Standing.unnoticed _ _ rfl
    · exact holds.elsewhere fun setting _ => cleared_other (Ne.symm same) setting
    · dsimp only [Phase.next]
      rw [if_neg same]

/-- A sight of the device leaves the time that the user set, for it is a possible one. -/
theorem Standing.disconnected (holds : Standing who now file log) (other : Peer) :
    Standing who now (other.scheduled now file) (log ++ [.disconnected other now]) := by
  by_cases same : other = who
  · subst same
    have seen : phase other (log ++ [.disconnected other now]) = (phase other log).seen now := by
      rw [phase_push]
      dsimp only [Phase.next]
      rw [if_pos rfl]
    have guarded : Guarded other (log ++ [.disconnected other now]) := guarded_push holds.guarded rfl
    cases here : phase other log with
    | operated operation time =>
      obtain ⟨began, past⟩ := holds.past operation time here
      have planned : ¬ other.unscheduled file now := by
        unfold Peer.unscheduled maximumDelay connectionTimeout
        rw [(holds.intent operation time here).number]
        omega
      rw [Peer.scheduled_kept other file planned]
      apply holds.unnoticed _ rfl
      dsimp only [Phase.next]
      rw [if_pos rfl, here]
      rfl
    | _ =>
      apply Standing.ended _ guarded
      intro operation time
      rw [seen, here]
      exact nofun
  · apply Standing.unnoticed _ _ rfl
    · exact holds.elsewhere fun setting _ => scheduled_other (Ne.symm same) setting
    · dsimp only [Phase.next]
      rw [if_neg same]

theorem Standing.attempted (holds : Standing who now file log) (adapter : Nat) (candidate : String) (request : Nat)
    (due : (peer adapter candidate).number file .nextAttempt ≤ now) :
    Standing who now ((peer adapter candidate).reserved now file)
      (log ++ [.sent process now (.connectAllEnabledProfiles adapter candidate request ((peer adapter candidate).delay file)
        (now + connectionTimeout + (peer adapter candidate).delay file))]) := by
  by_cases same : peer adapter candidate = who
  · subst same
    obtain ⟨who, named⟩ : ∃ who, who = peer adapter candidate := ⟨_, rfl⟩
    obtain ⟨event, written⟩ : ∃ event : Event, event = .sent process now (.connectAllEnabledProfiles adapter candidate
      request (who.delay file) (now + connectionTimeout + who.delay file)) := ⟨_, rfl⟩
    rw [← named] at holds due ⊢
    rw [← written]
    have sent : attempt? who event = some ⟨now, who.delay file⟩ := by
      rw [written]
      dsimp only [attempt?]
      rw [if_pos named.symm]
    apply Standing.ended
    · intro operation time
      rw [phase_push, next_attempt _ sent]
      exact nofun
    · apply History.Everywhere.push holds.guarded
      intro attempt tried operation time here
      cases sent.symm.trans tried
      rw [(holds.intent operation time here).number] at due
      exact due
  · have apart := Ne.symm same
    apply Standing.unnoticed
    · apply holds.elsewhere
      intro setting _
      unfold Peer.reserved
      rw [Peer.write_other apart, Peer.write_other apart, Peer.write_other apart]
    · dsimp only [Phase.next, attempt?]
      rw [if_neg same]
    · dsimp only [attempt?]
      rw [if_neg same]

theorem Standing.change {before after : Record} (holds : Standing who now before.file before.log)
    (change : Change process now before after) : Standing who now after.file after.log := by
  cases change with
  | aside other value =>
    apply holds.elsewhere
    intro setting apart
    exact Peer.write_setting apart
  | connected other permitted => exact holds.connected other
  | disconnected other permitted => exact holds.disconnected other
  | attempt adapter candidate request permitted positive due => exact holds.attempted adapter candidate request due
  | message message quiet => exact holds.unnoticed (next_message _ _ _ quiet) (attempt_message _ _ _ quiet)

theorem Standing.changes {before after : Record} (holds : Standing who now before.file before.log)
    (changes : Changes process now before after) : Standing who now after.file after.log := by
  induction changes with
  | refl => exact holds
  | tail _ change ih => exact ih.change change

theorem Standing.messages (holds : Standing who clock file log) (process : Nat) (now : Int) {sent : List Message}
    (quiet : ∀ message ∈ sent, attempts message = false) :
    Standing who clock file (log ++ sent.map fun message => .sent process now message) :=
  messages_keep (Standing who clock file) (fun holds same unsent => holds.unnoticed same unsent) process now quiet holds

theorem Standing.operated (holds : Standing who now file log) (began : 0 ≤ now) (other : Peer) (operation : String) :
    Standing who now (other.operated operation now file) (log ++ [.operated other operation now]) := by
  by_cases same : other = who
  · subst same
    have anew : phase other (log ++ [.operated other operation now]) = .operated operation now := by
      rw [phase_push]
      dsimp only [Phase.next]
      rw [if_pos rfl]
    refine ⟨?_, ?_, guarded_push holds.guarded rfl⟩
    · intro asked time here
      cases anew.symm.trans here
      exact operated_intent other operation now file
    · intro asked time here
      cases anew.symm.trans here
      exact ⟨began, le_rfl⟩
  · apply Standing.unnoticed _ _ rfl
    · apply holds.elsewhere
      intro setting _
      unfold Peer.operated
      simp only [Peer.write_other (Ne.symm same)]
    · dsimp only [Phase.next]
      rw [if_neg same]

/-- A rejection that is not for the user's time, or that gives the same time again. -/
theorem Standing.delayed (holds : Standing who now file log) (other : Peer) {delay deadline : Int}
    (spared : (phase other log).isOperated = true → other.inhibited file = false →
      other.number file .nextAttempt = deadline → now + delay = deadline) :
    Standing who now (other.delayed delay deadline now file) log := by
  by_cases matching : other.inhibited file = false ∧ other.number file .nextAttempt = deadline
  · rw [delayed_matching other delay now file matching]
    by_cases same : other = who
    · subst same
      refine ⟨?_, holds.past, holds.guarded⟩
      intro operation time here
      have intent := holds.intent operation time here
      have again := spared (by rw [here]; rfl) matching.1 matching.2
      rw [← matching.2, intent.number] at again
      have apart : ∀ {setting : Setting}, setting ≠ .nextAttempt →
          other.write .nextAttempt (.int (now + delay)) file (other.key setting) = file (other.key setting) :=
        fun apart => Peer.write_setting apart
      refine ⟨?_, ?_, ?_, ?_, ?_⟩
      · exact (apart (by decide)).trans intent.inhibited
      · exact (apart (by decide)).trans intent.autoAttempt
      · exact (apart (by decide)).trans intent.disconnectUntil
      · exact (apart (by decide)).trans intent.failures
      · rw [Peer.write_same, again]
    · exact holds.elsewhere fun setting _ => Peer.write_other (Ne.symm same)
  · rw [delayed_other other delay now file matching]
    exact holds

/-- The operations of the user stand, for every device. -/
structure Kind (d : Desktop) : Prop where
  elected : Elected d
  standing : ∀ who, Standing who d.clock d.file d.log

theorem Kind.stands (kind : Kind d) : Stands d := fun who => (kind.standing who).intent

/-- The answer to the current attempt of a process, when the daemon refuses. -/
abbrev rejection (d : Desktop) (process : Nat) (adapter : Nat) (candidate : String) (delay deadline : Int) : Entry :=
  .reply (.connectAllEnabledProfiles adapter candidate (d.hosts process).worker.request delay deadline) false

theorem overwrites_rejection (d : Desktop) (process : Nat) (now : Int) (adapter : Nat) (candidate : String)
    (delay deadline : Int) :
    overwrites d (.wake process (rejection d process adapter candidate delay deadline) now) = true ↔
      (phase (peer adapter candidate) d.log).isOperated = true ∧ (peer adapter candidate).inhibited d.file = false ∧
        (peer adapter candidate).number d.file .nextAttempt = deadline ∧ now + delay ≠ deadline := by
  dsimp only [overwrites]
  simp only [BEq.rfl, Bool.true_and, Bool.and_eq_true, Bool.not_eq_true', decide_eq_true_eq, and_assoc]

/-- Only the rejection of a current attempt overwrites. -/
theorem overwrites_cases (moved : overwrites d act = true) :
    ∃ process adapter candidate delay deadline now,
      act = .wake process (rejection d process adapter candidate delay deadline) now := by
  cases act with
  | restart process => cases moved
  | wake process entry now =>
    cases entry with
    | reply message answer =>
      cases message with
      | connectAllEnabledProfiles adapter candidate request delay deadline =>
        cases answer with
        | true => cases moved
        | false =>
          have current := moved
          dsimp only [overwrites] at current
          simp only [Bool.and_eq_true, beq_iff_eq] at current
          rw [current.1.1.1.1]
          exact ⟨process, adapter, candidate, delay, deadline, now, rfl⟩
      | _ => cases moved
    | _ => cases moved

theorem Kind.step (kind : Kind d) (spared : overwrites d act = false) (taken : d.step act = some next) : Kind next := by
  refine ⟨kind.elected.step taken, ?_⟩
  intro who
  rcases step_cases kind.elected.idle taken with ⟨process, rfl, rfl⟩ | ⟨process, entry, now, rest, rfl, later, _, rfl, handled⟩
  · exact kind.standing who
  · have before := (kind.standing who).later later
    rw [wake_log, ← List.append_assoc]
    change Standing who now (d.handled process entry now).file _
    generalize d.handled process entry now = outcome at handled ⊢
    generalize witnessed d.file (d.hosts process).worker now entry = marks at handled ⊢
    cases handled with
    | tick owner leads => exact before.changes leads.changes
    | quiet file idle quiet request kept elected =>
      rw [file, List.append_nil]
      exact before.messages process now quiet
    | operated adapter address operation =>
      apply (before.operated (kind.elected.clock.trans later) (peer adapter address) operation).messages process now
      intro message member
      cases List.mem_singleton.mp member
      rfl
    | rejected adapter candidate delay deadline idle outstanding =>
      rw [List.append_nil, List.map_nil, List.append_nil]
      apply before.delayed
      intro asked permitted same
      by_contra moved
      have overwritten := (overwrites_rejection d process now adapter candidate delay deadline).mpr ⟨asked, permitted, same, moved⟩
      rw [spared] at overwritten
      cases overwritten

theorem rejection_wakes (idle : (d.hosts process).settings.Idle) (adapter : Nat) (candidate : String)
    (delay deadline now : Int) (rest : List Message) :
    (d.wake process (rejection d process adapter candidate delay deadline) now rest).log = d.log ∧
      (d.wake process (rejection d process adapter candidate delay deadline) now rest).file =
        (peer adapter candidate).delayed delay deadline now d.file := by
  obtain ⟨after, _, outcome⟩ := replied_alone now d.file idle adapter candidate delay deadline
    (show (d.hosts process).worker.request = (d.hosts process).worker.request from rfl)
  have handled : d.handled process (rejection d process adapter candidate delay deadline) now = _ := outcome
  refine ⟨?_, ?_⟩
  · rw [wake_log, handled]
    exact List.append_nil _
  · exact congrArg Outcome.file handled

/-- A rejection that overwrites leaves another time than the user's. -/
theorem Kind.overwritten (kind : Kind d) (moved : overwrites d act = true) (taken : d.step act = some next) :
    ¬ Stands next := by
  intro stands
  obtain ⟨process, adapter, candidate, delay, deadline, now, rfl⟩ := overwrites_cases moved
  obtain ⟨asked, permitted, same, moved⟩ := (overwrites_rejection d process now adapter candidate delay deadline).mp moved
  rcases step_cases kind.elected.idle taken with ⟨_, other, _⟩ | ⟨_, _, _, rest, woken, _, _, rfl, _⟩
  · cases other
  · cases woken
    obtain ⟨log, file⟩ := rejection_wakes (kind.elected.idle process) adapter candidate delay deadline now rest
    rw [delayed_matching _ delay now d.file ⟨permitted, same⟩] at file
    cases here : phase (peer adapter candidate) d.log with
    | operated operation time =>
      have intent := stands (peer adapter candidate) operation time (by rw [log]; exact here)
      have number := ((kind.standing (peer adapter candidate)).intent operation time here).number
      rw [file] at intent
      have after := intent.number
      rw [number_written] at after
      omega
    | _ =>
      rw [here] at asked
      cases asked

theorem always_now {property : Desktop → Prop} {acts : List Act} (holds : d.always property acts) : property d := by
  cases acts with
  | nil => exact holds
  | cons act rest => exact holds.1

theorem always_reached {property : Desktop → Prop} {first rest : List Act} (holds : d.always property (first ++ rest))
    (ran : d.run first = some next) : next.always property rest := by
  induction first generalizing d with
  | nil =>
    cases ran
    exact holds
  | cons act first ih =>
    obtain ⟨middle, taken, rested⟩ := Option.bind_eq_some_iff.mp ran
    exact ih (holds.2 middle taken) rested

theorem spared_cons {middle : Desktop} {acts : List Act} (taken : d.step act = some middle) :
    d.spared (act :: acts) = true ↔ overwrites d act = false ∧ middle.spared acts = true := by
  rw [Desktop.spared, taken, Option.all_some, Bool.and_eq_true, Bool.not_eq_true']

/-- From a state where every operation stands, a run keeps it so just when it is spared. -/
theorem Kind.run (kind : Kind d) {acts : List Act} (ran : d.run acts = some next) :
    (d.always Stands acts ↔ d.spared acts = true) ∧ (d.spared acts = true → Kind next) := by
  induction acts generalizing d with
  | nil =>
    cases ran
    exact ⟨⟨fun _ => rfl, fun _ => kind.stands⟩, fun _ => kind⟩
  | cons act rest ih =>
    obtain ⟨middle, taken, rested⟩ := Option.bind_eq_some_iff.mp ran
    rw [spared_cons taken]
    refine ⟨⟨?_, ?_⟩, ?_⟩
    · intro always
      cases moved : overwrites d act with
      | true => exact absurd (always_now (always.2 middle taken)) (kind.overwritten moved taken)
      | false => exact ⟨rfl, (ih (kind.step moved taken) rested).1.mp (always.2 middle taken)⟩
    · intro spared
      refine ⟨kind.stands, ?_⟩
      intro after step
      cases taken.symm.trans step
      exact (ih (kind.step spared.1 taken) rested).1.mpr spared.2
    · intro spared
      exact (ih (kind.step spared.1 taken) rested).2 spared.2

theorem start_kind (adapters : Nat → Nat) (file : Store Key Value) (clock : Nat) : Kind (start adapters file clock) := by
  refine ⟨start_elected adapters file clock, ?_⟩
  intro who
  exact ⟨nofun, nofun, History.Everywhere.nil⟩

/-- While nothing but operations of the user happens, the last of them is what counts. -/
theorem phase_since_operated (log : List Event) (operation : String) (time : Int)
    (quiet : ∀ event ∈ between, attempt? who event = none ∧ connects who event = false) :
    ∃ asked last, phase who (log ++ .operated who operation time :: between) = .operated asked last ∧
      (last = time ∨ .operated who asked last ∈ between) := by
  induction between using List.reverseRecOn with
  | nil =>
    refine ⟨operation, time, ?_, .inl rfl⟩
    rw [phase_push]
    dsimp only [Phase.next]
    rw [if_pos rfl]
  | append_singleton between event ih =>
    obtain ⟨asked, last, same, found⟩ := ih fun other member => quiet other (List.mem_append_left _ member)
    obtain ⟨unsent, unseen⟩ := quiet event (List.mem_append_right _ (List.mem_singleton_self _))
    rw [← List.cons_append, ← List.append_assoc, phase_push, same]
    have longer : last = time ∨ Event.operated who asked last ∈ between ++ [event] :=
      found.imp_right fun member => List.mem_append_left _ member
    cases event with
    | connected other now =>
      have apart : other ≠ who := by simpa [connects] using unseen
      dsimp only [Phase.next]
      rw [if_neg apart]
      exact ⟨asked, last, rfl, longer⟩
    | disconnected other now =>
      dsimp only [Phase.next, Phase.seen]
      rw [ite_self]
      exact ⟨asked, last, rfl, longer⟩
    | operated other again now =>
      dsimp only [Phase.next]
      split
      · next here =>
        subst here
        exact ⟨again, now, rfl, .inr (List.mem_append_right _ (List.mem_singleton_self _))⟩
      · exact ⟨asked, last, rfl, longer⟩
    | sent sender now message =>
      dsimp only [Phase.next]
      rw [unsent]
      exact ⟨asked, last, rfl, longer⟩

theorem attempt_time {attempt : Attempt} (sent : attempt? who event = some attempt) : attempt.time = event.time := by
  cases event with
  | sent sender now message =>
    cases message with
    | connectAllEnabledProfiles adapter address request delay deadline =>
      dsimp only [attempt?] at sent
      split at sent
      · cases sent
        rfl
      · cases sent
    | _ => cases sent
  | _ => cases sent

/-- The first attempt after an operation comes half a minute after it. -/
theorem Guarded.first (guarded : Guarded who log)
    (ordered : History.Everywhere (fun early event => ∀ other ∈ early, other.time ≤ event.time) log)
    {before : List Event} {time : Int} {attempt : Attempt}
    (places : log = before ++ .operated who operation time :: between ++ event :: late)
    (tried : attempt? who event = some attempt)
    (quiet : ∀ event ∈ between, attempt? who event = none ∧ connects who event = false) :
    time + 30000 ≤ attempt.time := by
  obtain ⟨asked, last, same, found⟩ := phase_since_operated before operation time quiet
  have apart := guarded _ event late places attempt tried asked last same
  have later : time ≤ last := by
    rcases found with rfl | member
    · exact le_rfl
    · obtain ⟨front, back, split⟩ := List.append_of_mem member
      have whole : log = before ++ .operated who operation time :: front ++
          .operated who asked last :: (back ++ event :: late) := by
        rw [places, split]
        simp
      exact ordered _ (.operated who asked last) _ whole (.operated who operation time) (by simp)
  omega

theorem Guarded.attempts (guarded : Guarded who log)
    (ordered : History.Everywhere (fun early event => ∀ other ∈ early, other.time ≤ event.time) log)
    {before : List Event} {time : Int} {attempt : Attempt}
    (places : log = before ++ .operated who operation time :: between ++ event :: late)
    (tried : attempt? who event = some attempt) (unseen : ∀ event ∈ between, connects who event = false) :
    time + 30000 ≤ attempt.time := by
  cases found : between.find? fun event => (attempt? who event).isSome with
  | none =>
    apply guarded.first ordered places tried
    intro other member
    have unsent := List.find?_eq_none.mp found other member
    exact ⟨Option.not_isSome_iff_eq_none.mp unsent, unseen other member⟩
  | some first =>
    -- An earlier attempt came late enough, and this one comes after it.
    obtain ⟨sends, front, back, split, unsent⟩ := List.find?_eq_some_iff_append.mp found
    obtain ⟨earlier, sent⟩ := Option.isSome_iff_exists.mp sends
    have whole : log = before ++ .operated who operation time :: front ++ first :: (back ++ event :: late) := by
      rw [places, split]
      simp
    have apart := guarded.first ordered whole sent (fun other member =>
      ⟨by simpa using unsent other member, unseen other (by rw [split]; exact List.mem_append_left _ member)⟩)
    have order := ordered _ event late places first (by rw [split]; simp)
    rw [attempt_time sent] at apart
    rw [attempt_time tried]
    omega

/-- In every run: what the operations of the user wrote stands in every state, until an
attempt, a connection or another operation, and no attempt is sent within half a minute of
an operation unless a connection was seen, just when no rejection overwrites a user's time. -/
theorem intent_kept_iff {adapters : Nat → Nat} {file : Store Key Value} {clock : Nat} {acts : List Act} {d : Desktop}
    (ran : (start adapters file clock).run acts = some d) :
    (start adapters file clock).always Stands acts ∧ Unhurried d.log ↔ (start adapters file clock).spared acts = true := by
  obtain ⟨kept, kind⟩ := (start_kind adapters file clock).run ran
  refine ⟨fun both => kept.mp both.1, fun spared => ⟨kept.mpr spared, ?_⟩⟩
  intro who before operation time between event late attempt places tried unseen
  have ordered : Elected d ∧ Ordered d := by
    refine run_keeps (fun d => Elected d ∧ Ordered d) ?_ ?_ ran
    · intro d next act held taken
      exact ⟨held.1.step taken, held.2.step held.1 taken⟩
    · exact ⟨start_elected adapters file clock, nofun, History.Everywhere.nil⟩
  exact ((kind spared).standing who).guarded.attempts ordered.2.ordered places tried unseen

/-- The owner tries at six seconds, with a delay of five; somebody else connects explicitly
at this time, and the attempt is refused a second later. -/
def refused (asked : Int) : List Act :=
  [.wake 0 (.acquire true) 0, .wake 0 (.tick away false) 1000, .wake 0 (.tick away false) 6000,
    .wake 1 (.userOperation 0 "A1" "connect") asked,
    .wake 0 (.reply (.connectAllEnabledProfiles 0 "A1" 2 5000 41000) false) (asked + 1000)]

theorem intent_kept_after_refusal : ∃ d, (start (fun _ => 0) (fun _ => none) 0).run (refused 12000) = some d ∧
    (start (fun _ => 0) (fun _ => none) 0).always Stands (refused 12000) ∧ Unhurried d.log := by
  have possible : ((start (fun _ => 0) (fun _ => none) 0).run (refused 12000)).isSome = true := by decide +kernel
  have spared : (start (fun _ => 0) (fun _ => none) 0).spared (refused 12000) = true := by decide +kernel
  obtain ⟨d, ran⟩ := Option.isSome_iff_exists.mp possible
  exact ⟨d, ran, (intent_kept_iff ran).mpr spared⟩

/-- Five seconds after the attempt, the time that the user sets is its deadline. The refusal
moves it, and the next attempt is sent six seconds after the user's operation. -/
theorem refusal_overwrites : ∃ d, (start (fun _ => 0) (fun _ => none) 0).run
      (refused 11000 ++ [.wake 0 (.tick away false) 17000]) = some d ∧
    ¬ (start (fun _ => 0) (fun _ => none) 0).always Stands (refused 11000 ++ [.wake 0 (.tick away false) 17000]) ∧
    ¬ Unhurried d.log := by
  have moved : ((start (fun _ => 0) (fun _ => none) 0).run (refused 11000)).map (fun d =>
      (phase (peer 0 "A1") d.log, (peer 0 "A1").number d.file .nextAttempt)) =
      some (.operated "connect" 11000, 17000) := by decide +kernel
  have logged : ((start (fun _ => 0) (fun _ => none) 0).run (refused 11000 ++ [.wake 0 (.tick away false) 17000])).map
      Desktop.log = some ([.disconnected (peer 0 "A1") 1000, .disconnected (peer 0 "A1") 6000,
        .sent 0 6000 (.connectAllEnabledProfiles 0 "A1" 2 5000 41000)] ++
        .operated (peer 0 "A1") "connect" 11000 ::
          [.sent 1 11000 (.operate 0 "A1" "connect"), .disconnected (peer 0 "A1") 17000] ++
        .sent 0 17000 (.connectAllEnabledProfiles 0 "A1" 3 5000 52000) :: []) := by decide +kernel
  obtain ⟨d, ran, log⟩ := Option.map_eq_some_iff.mp logged
  refine ⟨d, ran, ?_, ?_⟩
  · intro always
    obtain ⟨middle, reached, same⟩ := Option.map_eq_some_iff.mp moved
    have intent := always_now (always_reached always reached) _ _ _ (congrArg Prod.fst same)
    cases intent.number.symm.trans (congrArg Prod.snd same)
  · intro unhurried
    have apart := unhurried (peer 0 "A1") _ "connect" 11000 _ _ [] ⟨17000, 5000⟩ log (by decide +kernel) (by decide +kernel)
    exact absurd apart (by decide)

end FlossDesktop.Handoff
