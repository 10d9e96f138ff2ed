import FlossDesktop.Library.History
import FlossDesktop.Proofs.HandoffSteps

/-! Backoff across crashes and handoffs. What was last done about a device is read off the
record, and the file agrees with it: the time of the next attempt is kept clear of every
attempt since the last reset, also when a rejection moves it. -/

namespace FlossDesktop.Handoff

open SharedSettings Reconnect

structure Attempt where
  time : Int
  delay : Int
deriving Repr, DecidableEq

/-- What the record says last of a device. -/
inductive Phase where
  | unknown
  /-- The attempts since the last reset. -/
  | attempted (attempts : List Attempt)
  | connected
  /-- The first sight of it that was not connected, after one that was. -/
  | disconnected (first : Int)
  | operated (operation : String) (now : Int)
deriving Repr, DecidableEq

namespace Phase

def attempts : Phase → List Attempt
  | .attempted attempts => attempts
  | _ => []

def seen (phase : Phase) (now : Int) : Phase :=
  match phase with
  | .connected => .disconnected now
  | phase => phase

end Phase

/-- The event is an automatic attempt for the device. -/
def attempt? (who : Peer) : Event → Option Attempt
  | .sent _ now (.connectAllEnabledProfiles adapter address _ delay _) =>
    if peer adapter address = who then some ⟨now, delay⟩ else none
  | _ => none

def Phase.next (who : Peer) (phase : Phase) : Event → Phase
  | .connected other _ => if other = who then .connected else phase
  | .disconnected other now => if other = who then phase.seen now else phase
  | .operated other operation now => if other = who then .operated operation now else phase
  | event =>
    match attempt? who event with
    | some attempt => .attempted (phase.attempts ++ [attempt])
    | none => phase

def phase (who : Peer) (log : List Event) : Phase := log.foldl (Phase.next who) .unknown

def Event.time : Event → Int
  | .connected _ now => now
  | .disconnected _ now => now
  | .operated _ _ now => now
  | .sent _ now _ => now

/-- A connection was seen, or the user did something. -/
def resets (who : Peer) : Event → Bool
  | .connected other _ => other == who
  | .operated other _ _ => other == who
  | _ => false

/-- The least time from an attempt to the next one, after that many others. -/
def backoff (made : Nat) : Int := min 300000 (5000 * 2 ^ min made 6)

variable {who other : Peer} {log early between late : List Event} {event : Event} {file : Store Key Value}
  {now clock : Int} {process : Nat} {attempt : Attempt}

theorem phase_push (who : Peer) (log : List Event) (event : Event) :
    phase who (log ++ [event]) = (phase who log).next who event := List.foldl_concat ..

theorem next_message (phase : Phase) (sender : Nat) (now : Int) {message : Message} (quiet : attempts message = false) :
    phase.next who (.sent sender now message) = phase := by
  cases message with
  | connectAllEnabledProfiles => cases quiet
  | _ => rfl

theorem attempt_message (who : Peer) (sender : Nat) (now : Int) {message : Message} (quiet : attempts message = false) :
    attempt? who (.sent sender now message) = none := by
  cases message with
  | connectAllEnabledProfiles => cases quiet
  | _ => rfl

/-- An attempt for the device follows those that were made since the last reset. -/
theorem next_attempt (phase : Phase) (mine : attempt? who event = some attempt) :
    phase.next who event = .attempted (phase.attempts ++ [attempt]) := by
  cases event with
  | sent sender now message =>
    dsimp only [Phase.next]
    rw [mine]
  | _ => cases mine

/-- A reset forgets the attempts. -/
theorem next_anew (phase : Phase) (anew : resets who event = true) : (phase.next who event).attempts = [] := by
  cases event with
  | connected other now =>
    dsimp only [Phase.next]
    rw [if_pos (by simpa [resets] using anew)]
    rfl
  | operated other operation now =>
    dsimp only [Phase.next]
    rw [if_pos (by simpa [resets] using anew)]
    rfl
  | disconnected other now => cases anew
  | sent sender now message => cases anew

/-- Nothing else but an attempt for the device changes them. -/
theorem next_quiet (phase : Phase) (kept : resets who event = false) (none_sent : attempt? who event = none) :
    (phase.next who event).attempts = phase.attempts := by
  cases event with
  | connected other now =>
    have apart : other ≠ who := by simpa [resets] using kept
    dsimp only [Phase.next]
    rw [if_neg apart]
  | disconnected other now =>
    dsimp only [Phase.next]
    split
    · cases phase <;> rfl
    · rfl
  | operated other operation now =>
    have apart : other ≠ who := by simpa [resets] using kept
    dsimp only [Phase.next]
    rw [if_neg apart]
  | sent sender now message =>
    dsimp only [Phase.next]
    rw [none_sent]

/-- Without an attempt for the device, no attempt is added. -/
theorem next_subset (phase : Phase) (none_sent : attempt? who event = none) :
    (phase.next who event).attempts ⊆ phase.attempts := by
  cases anew : resets who event with
  | true =>
    rw [next_anew phase anew]
    exact List.nil_subset _
  | false =>
    rw [next_quiet phase anew none_sent]
    exact List.Subset.refl _

theorem phase_subset {more : List Event} (none_sent : ∀ event ∈ more, attempt? who event = none) :
    (phase who (log ++ more)).attempts ⊆ (phase who log).attempts := by
  induction more using List.reverseRecOn with
  | nil =>
    rw [List.append_nil]
    exact List.Subset.refl _
  | append_singleton more event ih =>
    rw [← List.append_assoc, phase_push]
    apply List.Subset.trans (next_subset _ (none_sent event (List.mem_append_right _ (List.mem_singleton_self _))))
    exact ih fun other member => none_sent other (List.mem_append_left _ member)

/-- Without a reset, no attempt is forgotten. -/
theorem next_keeps (phase : Phase) (kept : resets who event = false) : phase.attempts ⊆ (phase.next who event).attempts := by
  cases sent : attempt? who event with
  | some attempt =>
    rw [next_attempt phase sent]
    exact List.subset_append_left _ _
  | none =>
    rw [next_quiet phase kept sent]
    exact List.Subset.refl _

theorem phase_keeps {more : List Event} (kept : ∀ event ∈ more, resets who event = false) :
    (phase who log).attempts ⊆ (phase who (log ++ more)).attempts := by
  induction more using List.reverseRecOn with
  | nil =>
    rw [List.append_nil]
    exact List.Subset.refl _
  | append_singleton more event ih =>
    rw [← List.append_assoc, phase_push]
    apply List.Subset.trans (ih fun other member => kept other (List.mem_append_left _ member))
    exact next_keeps _ (kept event (List.mem_append_right _ (List.mem_singleton_self _)))

/-- The attempts since the last reset, counted. -/
theorem attempts_made (who : Peer) (log : List Event) :
    (phase who log).attempts = (History.since (resets who) log).filterMap (attempt? who) := by
  induction log using List.reverseRecOn with
  | nil => rfl
  | append_singleton log event ih =>
    rw [phase_push]
    cases anew : resets who event with
    | true =>
      rw [History.since_start log anew, next_anew _ anew]
      rfl
    | false =>
      rw [History.since_push log anew, List.filterMap_append, ← ih]
      cases sent : attempt? who event with
      | some attempt =>
        rw [next_attempt _ sent, List.filterMap_cons_some sent]
        rfl
      | none => rw [next_quiet _ anew sent, List.filterMap_cons_none sent, List.filterMap_nil, List.append_nil]

/-- An attempt comes late enough after what was done before. -/
structure Spaced (who : Peer) (early : List Event) (attempt : Attempt) : Prop where
  delay : backoff (phase who early).attempts.length ≤ attempt.delay
  attempts : ∀ earlier ∈ (phase who early).attempts, earlier.time + earlier.delay ≤ attempt.time
  seen : phase who early ≠ .connected
  scheduled : ∀ first, phase who early = .disconnected first → first + initialDelay ≤ attempt.time

/-- The times of an attempt are possible ones. -/
structure Proper (clock : Int) (attempt : Attempt) : Prop where
  began : 0 ≤ attempt.time
  past : attempt.time ≤ clock
  least : initialDelay ≤ attempt.delay
  most : attempt.delay ≤ maximumDelay

/-- The file agrees with the record about the device. -/
structure Backoff (who : Peer) (clock : Int) (file : Store Key Value) (log : List Event) : Prop where
  failed : min 6 (phase who log).attempts.length ≤ who.failed file
  spaced : ∀ attempt ∈ (phase who log).attempts, attempt.time + attempt.delay ≤ who.number file .nextAttempt
  proper : ∀ attempt ∈ (phase who log).attempts, Proper clock attempt
  up : phase who log = .connected → who.number file .nextAttempt = 0
  down : ∀ first, phase who log = .disconnected first →
    0 ≤ first ∧ first ≤ clock ∧ first + initialDelay ≤ who.number file .nextAttempt
  bounded : phase who log ≠ .unknown → who.number file .nextAttempt ≤ clock + maximumDelay + connectionTimeout
  history : History.Everywhere (fun early event => ∀ attempt, attempt? who event = some attempt → Spaced who early attempt) log

theorem Proper.later {later : Int} (proper : Proper clock attempt) (after : clock ≤ later) : Proper later attempt :=
  ⟨proper.began, proper.past.trans after, proper.least, proper.most⟩

theorem Backoff.later {later : Int} (holds : Backoff who clock file log) (after : clock ≤ later) :
    Backoff who later file log where
  failed := holds.failed
  spaced := holds.spaced
  proper := fun attempt member => (holds.proper attempt member).later after
  up := holds.up
  down := by
    intro first same
    obtain ⟨began, past, apart⟩ := holds.down first same
    exact ⟨began, past.trans after, apart⟩
  bounded := by
    intro known
    have bound := holds.bounded known
    omega
  history := holds.history

/-- Nothing that matters to the device has changed. -/
theorem Backoff.elsewhere {after : Store Key Value} (holds : Backoff who clock file log)
    (failures : after (who.key .failures) = file (who.key .failures))
    (nextAttempt : after (who.key .nextAttempt) = file (who.key .nextAttempt)) : Backoff who clock after log where
  failed := by
    unfold Peer.failed Peer.number
    rw [failures]
    exact holds.failed
  spaced := by
    unfold Peer.number
    rw [nextAttempt]
    exact holds.spaced
  proper := holds.proper
  up := by
    unfold Peer.number
    rw [nextAttempt]
    exact holds.up
  down := by
    unfold Peer.number
    rw [nextAttempt]
    exact holds.down
  bounded := by
    unfold Peer.number
    rw [nextAttempt]
    exact holds.bounded
  history := holds.history

theorem Backoff.unsent (holds : Backoff who clock file log) (none_sent : attempt? who event = none) :
    History.Everywhere (fun early event => ∀ attempt, attempt? who event = some attempt → Spaced who early attempt)
      (log ++ [event]) := by
  apply holds.history.push
  intro attempt sent
  cases none_sent.symm.trans sent

/-- An event that is no news of the device. -/
theorem Backoff.unnoticed (holds : Backoff who clock file log) (same : (phase who log).next who event = phase who log)
    (none_sent : attempt? who event = none) : Backoff who clock file (log ++ [event]) := by
  have kept := (phase_push who log event).trans same
  refine ⟨?_, ?_, ?_, ?_, ?_, ?_, holds.unsent none_sent⟩
  · rw [kept]
    exact holds.failed
  · rw [kept]
    exact holds.spaced
  · rw [kept]
    exact holds.proper
  · rw [kept]
    exact holds.up
  · rw [kept]
    exact holds.down
  · rw [kept]
    exact holds.bounded

/-- A reset: there are no attempts to keep clear of. -/
theorem Backoff.reset {after : Store Key Value} (holds : Backoff who now file log) (none_sent : attempt? who event = none)
    (anew : (phase who (log ++ [event])).attempts = [])
    (up : phase who (log ++ [event]) = .connected → who.number after .nextAttempt = 0)
    (down : ∀ first, phase who (log ++ [event]) ≠ .disconnected first)
    (bounded : who.number after .nextAttempt ≤ now + maximumDelay + connectionTimeout) :
    Backoff who now after (log ++ [event]) where
  failed := by
    rw [anew]
    exact Nat.zero_le _
  spaced := by
    rw [anew]
    exact nofun
  proper := by
    rw [anew]
    exact nofun
  up := up
  down := fun first same => absurd same (down first)
  bounded := fun _ => bounded
  history := holds.unsent none_sent

theorem number_written (who : Peer) (setting : Setting) (value : Int) (file : Store Key Value) :
    who.number (who.write setting (.int value) file) setting = value := by
  unfold Peer.number
  rw [Peer.write_same]
  rfl

/-- A planned attempt can be true, so a sight of the device leaves it alone. -/
theorem Backoff.planned (holds : Backoff who now file log) (known : phase who log ≠ .unknown)
    (positive : 0 < who.number file .nextAttempt) : ¬ who.unscheduled file now := by
  have bound := holds.bounded known
  unfold Peer.unscheduled
  omega

theorem Backoff.connected (holds : Backoff who now file log) (began : 0 ≤ now) (other : Peer) :
    Backoff who now (other.cleared file) (log ++ [.connected other now]) := by
  by_cases same : other = who
  · subst same
    have anew : phase other (log ++ [.connected other now]) = .connected := by
      rw [phase_push]
      dsimp only [Phase.next]
      rw [if_pos rfl]
    have zero : other.number (other.cleared file) .nextAttempt = 0 := by
      by_cases pending : other.number file .nextAttempt ≠ 0
      · rw [Peer.cleared_pending other file pending, number_written]
      · rw [Peer.cleared_idle other file pending]
        exact not_not.mp pending
    apply holds.reset rfl
    · rw [anew]
      rfl
    · exact fun _ => zero
    · rw [anew]
      exact nofun
    · rw [zero]
      unfold maximumDelay connectionTimeout
      omega
  · apply Backoff.unnoticed _ _ rfl
    · exact holds.elsewhere (cleared_other (Ne.symm same) _) (cleared_other (Ne.symm same) _)
    · dsimp only [Phase.next]
      rw [if_neg same]

/-- Nothing was planned, so there is nothing that would have to be kept. -/
theorem Backoff.unplanned (holds : Backoff who now file log) (missing : who.unscheduled file now) :
    (phase who log).attempts = [] := by
  apply List.eq_nil_iff_forall_not_mem.mpr
  intro attempt member
  have known : phase who log ≠ .unknown := by
    intro unknown
    rw [unknown] at member
    cases member
  refine holds.planned known ?_ missing
  have spaced := holds.spaced attempt member
  have began := (holds.proper attempt member).began
  have least := (holds.proper attempt member).least
  unfold initialDelay at least
  omega

/-- The attempt is planned from now on. -/
theorem Backoff.scheduled_anew (holds : Backoff who now file log) (began : 0 ≤ now) (missing : who.unscheduled file now) :
    Backoff who now (who.write .nextAttempt (.int (now + initialDelay)) file) (log ++ [.disconnected who now]) := by
  have seen : phase who (log ++ [.disconnected who now]) = (phase who log).seen now := by
    rw [phase_push]
    dsimp only [Phase.next]
    rw [if_pos rfl]
  have anew := number_written who .nextAttempt (now + initialDelay) file
  have empty : ((phase who log).seen now).attempts = [] := by
    rw [← holds.unplanned missing]
    cases phase who log <;> rfl
  refine ⟨?_, ?_, ?_, ?_, ?_, ?_, holds.unsent rfl⟩
  · rw [seen, empty]
    exact Nat.zero_le _
  · rw [seen, empty]
    exact nofun
  · rw [seen, empty]
    exact nofun
  · rw [seen]
    cases phase who log <;> exact nofun
  · intro first same
    rw [seen] at same
    rw [anew]
    cases here : phase who log with
    | connected =>
      rw [here] at same
      cases same
      exact ⟨began, le_rfl, le_rfl⟩
    | disconnected before =>
      -- The device was seen disconnected before, and its attempt was planned then.
      exfalso
      obtain ⟨began, _, apart⟩ := holds.down before here
      refine holds.planned (by rw [here]; exact nofun) ?_ missing
      unfold initialDelay at apart
      omega
    | _ =>
      rw [here] at same
      cases same
  · intro _
    rw [anew]
    unfold initialDelay maximumDelay connectionTimeout
    omega

/-- The attempt was planned before, and stays so. -/
theorem Backoff.scheduled_kept (holds : Backoff who now file log) (planned : ¬ who.unscheduled file now) :
    Backoff who now file (log ++ [.disconnected who now]) := by
  have kept : phase who log ≠ .connected := by
    intro up
    apply planned
    left
    exact (holds.up up).le
  have unchanged : (phase who log).seen now = phase who log := by
    cases here : phase who log with
    | connected => exact absurd here kept
    | _ => rfl
  apply holds.unnoticed _ rfl
  dsimp only [Phase.next]
  rw [if_pos rfl]
  exact unchanged

theorem Backoff.disconnected (holds : Backoff who now file log) (began : 0 ≤ now) (other : Peer) :
    Backoff who now (other.scheduled now file) (log ++ [.disconnected other now]) := by
  by_cases same : other = who
  · subst same
    by_cases missing : other.unscheduled file now
    · rw [Peer.scheduled_anew other file missing]
      exact holds.scheduled_anew began missing
    · rw [Peer.scheduled_kept other file missing]
      exact holds.scheduled_kept missing
  · apply Backoff.unnoticed _ _ rfl
    · exact holds.elsewhere (scheduled_other (Ne.symm same) _) (scheduled_other (Ne.symm same) _)
    · dsimp only [Phase.next]
      rw [if_neg same]

theorem backoff_le_delay {made : Nat} (failed : min 6 made ≤ who.failed file) : backoff made ≤ who.delay file := by
  have powers : (2 : Int) ^ min made 6 ≤ 2 ^ who.failed file := by
    apply pow_le_pow_right₀ (by decide)
    rw [Nat.min_comm]
    exact failed
  unfold backoff Peer.delay maximumDelay initialDelay
  omega

theorem delay_least (who : Peer) (file : Store Key Value) : initialDelay ≤ who.delay file := by
  have positive : (1 : Int) ≤ 2 ^ who.failed file := one_le_pow₀ (by decide)
  unfold Peer.delay maximumDelay initialDelay
  omega

theorem delay_most (who : Peer) (file : Store Key Value) : who.delay file ≤ maximumDelay := min_le_left _ _

theorem failures_reserved (who : Peer) (now : Int) (file : Store Key Value) :
    who.number (who.reserved now file) .failures = who.failed file + 1 := by
  unfold Peer.reserved Peer.number
  rw [Peer.write_setting (by decide), Peer.write_setting (by decide), Peer.write_same]
  rfl

/-- An attempt for the device, made when it is due. -/
theorem Backoff.reserved (holds : Backoff who now file log) (began : 0 ≤ now)
    (sent : attempt? who event = some ⟨now, who.delay file⟩) (positive : 0 < who.number file .nextAttempt)
    (due : who.number file .nextAttempt ≤ now) : Backoff who now (who.reserved now file) (log ++ [event]) := by
  have anew : phase who (log ++ [event]) = .attempted ((phase who log).attempts ++ [⟨now, who.delay file⟩]) := by
    rw [phase_push, next_attempt _ sent]
  have moved : who.number (who.reserved now file) .nextAttempt = now + connectionTimeout + who.delay file :=
    number_written ..
  have counted := failures_reserved who now file
  have least := delay_least who file
  have most := delay_most who file
  refine ⟨?_, ?_, ?_, ?_, ?_, ?_, ?_⟩
  · rw [anew]
    have before := holds.failed
    change min 6 ((phase who log).attempts ++ [_]).length ≤ _
    rw [List.length_append, List.length_singleton]
    unfold Peer.failed at before ⊢
    rw [counted]
    unfold Peer.failed
    omega
  · rw [anew, moved]
    intro attempt member
    rcases List.mem_append.mp member with old | new
    · have spaced := holds.spaced attempt old
      unfold initialDelay at least
      unfold connectionTimeout
      omega
    · cases List.mem_singleton.mp new
      unfold connectionTimeout
      dsimp only
      omega
  · rw [anew]
    intro attempt member
    rcases List.mem_append.mp member with old | new
    · exact holds.proper attempt old
    · cases List.mem_singleton.mp new
      exact ⟨began, le_rfl, least, most⟩
  · rw [anew]
    exact nofun
  · rw [anew]
    exact nofun
  · intro _
    rw [moved]
    omega
  · apply holds.history.push
    intro attempt tried
    cases sent.symm.trans tried
    refine ⟨backoff_le_delay holds.failed, ?_, ?_, ?_⟩
    · intro earlier member
      exact (holds.spaced earlier member).trans due
    · intro up
      rw [holds.up up] at positive
      cases positive
    · intro first down
      exact (holds.down first down).2.2.trans due

theorem Backoff.attempted (holds : Backoff who now file log) (began : 0 ≤ now) (adapter : Nat) (candidate : String)
    (request : Nat) (positive : 0 < (peer adapter candidate).number file .nextAttempt)
    (due : (peer adapter candidate).number file .nextAttempt ≤ now) :
    Backoff who now ((peer adapter candidate).reserved now file)
      (log ++ [.sent process now (.connectAllEnabledProfiles adapter candidate request ((peer adapter candidate).delay file)
        (now + connectionTimeout + (peer adapter candidate).delay file))]) := by
  by_cases same : peer adapter candidate = who
  · rw [same] at positive due ⊢
    apply holds.reserved began _ positive due
    dsimp only [attempt?]
    rw [if_pos same]
  · have apart := Ne.symm same
    apply Backoff.unnoticed
    · apply holds.elsewhere
      · unfold Peer.reserved
        rw [Peer.write_other apart, Peer.write_other apart, Peer.write_other apart]
      · unfold Peer.reserved
        rw [Peer.write_other apart, Peer.write_other apart, Peer.write_other apart]
    · dsimp only [Phase.next, attempt?]
      rw [if_neg same]
    · dsimp only [attempt?]
      rw [if_neg same]

/-- One change of a tick. -/
theorem Backoff.change {before after : Record} (holds : Backoff who now before.file before.log) (began : 0 ≤ now)
    (change : Change process now before after) : Backoff who now after.file after.log := by
  cases change with
  | aside other value =>
    exact holds.elsewhere (Peer.write_setting (by decide)) (Peer.write_setting (by decide))
  | connected other permitted => exact holds.connected began other
  | disconnected other permitted => exact holds.disconnected began other
  | attempt adapter candidate request permitted positive due =>
    exact holds.attempted began adapter candidate request positive due
  | message message quiet => exact holds.unnoticed (next_message _ _ _ quiet) (attempt_message _ _ _ quiet)

theorem Backoff.changes {before after : Record} (holds : Backoff who now before.file before.log) (began : 0 ≤ now)
    (changes : Changes process now before after) : Backoff who now after.file after.log := by
  induction changes with
  | refl => exact holds
  | tail _ change ih => exact ih.change began change

/-- Other messages are no news of the device. -/
theorem messages_keep (property : List Event → Prop)
    (kept : ∀ {log : List Event} {event : Event}, property log → (phase who log).next who event = phase who log →
      attempt? who event = none → property (log ++ [event]))
    (process : Nat) (now : Int) {sent : List Message} (quiet : ∀ message ∈ sent, attempts message = false)
    (holds : property log) : property (log ++ sent.map fun message => .sent process now message) := by
  induction sent using List.reverseRecOn with
  | nil =>
    rw [List.map_nil, List.append_nil]
    exact holds
  | append_singleton sent message ih =>
    rw [List.map_append, ← List.append_assoc]
    have last := quiet message (List.mem_append_right _ (List.mem_singleton_self _))
    have before := ih fun other member => quiet other (List.mem_append_left _ member)
    exact kept before (next_message _ _ _ last) (attempt_message _ _ _ last)

theorem Backoff.messages (holds : Backoff who clock file log) (process : Nat) (now : Int) {sent : List Message}
    (quiet : ∀ message ∈ sent, attempts message = false) :
    Backoff who clock file (log ++ sent.map fun message => .sent process now message) :=
  messages_keep (Backoff who clock file) (fun holds same unsent => holds.unnoticed same unsent) process now quiet holds

theorem Backoff.operated (holds : Backoff who now file log) (other : Peer) (operation : String) :
    Backoff who now (other.operated operation now file) (log ++ [.operated other operation now]) := by
  by_cases same : other = who
  · subst same
    have anew : phase other (log ++ [.operated other operation now]) = .operated operation now := by
      rw [phase_push]
      dsimp only [Phase.next]
      rw [if_pos rfl]
    have moved : other.number (other.operated operation now file) .nextAttempt = now + connectionTimeout := number_written ..
    apply holds.reset rfl
    · rw [anew]
      rfl
    · rw [anew]
      exact nofun
    · rw [anew]
      exact nofun
    · rw [moved]
      unfold maximumDelay
      omega
  · have apart := Ne.symm same
    have untouched : ∀ setting, other.operated operation now file (who.key setting) = file (who.key setting) := by
      intro setting
      unfold Peer.operated
      simp only [Peer.write_other apart]
    apply Backoff.unnoticed (holds.elsewhere (untouched _) (untouched _)) _ rfl
    dsimp only [Phase.next]
    rw [if_neg same]

/-- What the sender of an outstanding attempt may do with its rejection. -/
structure Awaits (who : Peer) (clock : Int) (log : List Event) (delay deadline : Int) : Prop where
  least : initialDelay ≤ delay
  most : delay ≤ maximumDelay
  positive : 0 < deadline
  clear : ∀ attempt ∈ (phase who log).attempts, attempt.time + attempt.delay ≤ clock + delay

/-- The last attempt that is recorded. -/
theorem Backoff.awaits {delay : Int} (holds : Backoff who now file (log ++ [event]))
    (tried : attempt? who event = some ⟨now, delay⟩) :
    Awaits who now (log ++ [event]) delay (now + connectionTimeout + delay) := by
  have spaced := holds.history log event [] rfl _ tried
  have attempts : (phase who (log ++ [event])).attempts = (phase who log).attempts ++ [⟨now, delay⟩] := by
    rw [phase_push, next_attempt _ tried]
    rfl
  have proper := holds.proper ⟨now, delay⟩ (by
    rw [attempts]
    exact List.mem_append_right _ (List.mem_singleton_self _))
  have least := proper.least
  have began := proper.began
  dsimp only at least began
  refine ⟨least, proper.most, ?_, ?_⟩
  · unfold initialDelay at least
    unfold connectionTimeout
    omega
  · rw [attempts]
    intro attempt member
    rcases List.mem_append.mp member with old | last
    · have clear := spaced.attempts attempt old
      unfold initialDelay at least
      dsimp only at clear
      omega
    · cases List.mem_singleton.mp last
      exact le_rfl

/-- A rejection moves the next attempt to a time that is late enough as well. -/
theorem Backoff.delayed (holds : Backoff who now file log) (other : Peer) {delay deadline : Int}
    (awaits : other = who → Awaits who now log delay deadline) :
    Backoff who now (other.delayed delay deadline now file) log := by
  by_cases matching : other.inhibited file = false ∧ other.number file .nextAttempt = deadline
  · rw [delayed_matching other delay now file matching]
    by_cases same : other = who
    · subst same
      have awaits := awaits rfl
      have moved := number_written other .nextAttempt (now + delay) file
      have failures : (other.write .nextAttempt (.int (now + delay)) file) (other.key .failures) =
          file (other.key .failures) := Peer.write_setting (by decide)
      have least := awaits.least
      refine ⟨?_, ?_, holds.proper, ?_, ?_, ?_, holds.history⟩
      · unfold Peer.failed Peer.number
        rw [failures]
        exact holds.failed
      · rw [moved]
        exact awaits.clear
      · -- A time that was reset is no deadline of an attempt.
        intro up
        have positive := awaits.positive
        rw [← matching.2, holds.up up] at positive
        cases positive
      · intro first down
        obtain ⟨began, past, _⟩ := holds.down first down
        rw [moved]
        exact ⟨began, past, by omega⟩
      · intro _
        have most := awaits.most
        rw [moved]
        unfold connectionTimeout
        omega
    · exact holds.elsewhere (Peer.write_other (Ne.symm same)) (Peer.write_other (Ne.symm same))
  · rw [delayed_other other delay now file matching]
    exact holds

/-- What is known of the retries for a device. -/
structure Retries (who : Peer) (d : Desktop) : Prop where
  elected : Elected d
  backoff : Backoff who d.clock d.file d.log
  awaits : ∀ process adapter address delay deadline, peer adapter address = who →
    .connectAllEnabledProfiles adapter address (d.hosts process).worker.request delay deadline ∈
      (d.hosts process).unanswered → Awaits who d.clock d.log delay deadline

theorem Awaits.later {delay deadline later : Int} (more : List Event) (awaits : Awaits who clock log delay deadline)
    (after : clock ≤ later) (none_sent : ∀ event ∈ more, attempt? who event = none) :
    Awaits who later (log ++ more) delay deadline where
  least := awaits.least
  most := awaits.most
  positive := awaits.positive
  clear := by
    intro attempt member
    have clear := awaits.clear attempt (phase_subset none_sent member)
    omega

theorem witnessed_none (file : Store Key Value) (worker : Worker) (now : Int) (entry : Entry) :
    ∀ event ∈ witnessed file worker now entry, attempt? who event = none := by
  intro event member
  cases event with
  | sent process time message =>
    have silent := List.filterMap_eq_nil_iff.mp (witnessed_silent file worker now entry) _ member
    cases silent
  | _ => rfl

variable {d next : Desktop} {entry : Entry} {rest : List Message} {outcome : Outcome Key Value Message Worker}
  {marks : List Event}

/-- A handled entry sends no attempt for the device, or it is the tick of an owner. -/
theorem Handled.attempt_or_none (handled : Handled d process now entry marks outcome)
    (unmarked : ∀ event ∈ marks, attempt? who event = none) :
    (∀ event ∈ marks ++ outcome.sent.map fun message => .sent process now message, attempt? who event = none) ∨
      ∃ candidate delay, peer (d.hosts process).adapter candidate = who ∧ (d.hosts process).worker.owner = true ∧
        outcome.sent = [.connectAllEnabledProfiles (d.hosts process).adapter candidate outcome.result.request delay
          (now + connectionTimeout + delay)] ∧ (d.hosts process).worker.request < outcome.result.request := by
  have silent : (∀ message ∈ outcome.sent, attempts message = false) →
      ∀ event ∈ marks ++ outcome.sent.map fun message => .sent process now message, attempt? who event = none := by
    intro quiet event member
    rcases List.mem_append.mp member with mark | sent
    · exact unmarked event mark
    · obtain ⟨message, inside, rfl⟩ := List.mem_map.mp sent
      exact attempt_message who process now (quiet message inside)
  cases handled with
  | tick owner leads =>
    rcases leads.sends with ⟨quiet, _⟩ | ⟨candidate, delay, sent, owns, later⟩
    · exact .inl (silent quiet)
    · by_cases named : peer (d.hosts process).adapter candidate = who
      · exact .inr ⟨candidate, delay, named, owns, sent, later⟩
      · left
        intro event member
        rw [sent] at member
        rcases List.mem_append.mp member with mark | last
        · exact unmarked event mark
        · cases List.mem_singleton.mp last
          dsimp only [attempt?]
          rw [if_neg named]
  | quiet file idle quiet request kept elected => exact .inl (silent quiet)
  | operated adapter address operation =>
    apply Or.inl
    apply silent
    intro message member
    cases List.mem_singleton.mp member
    rfl
  | rejected adapter candidate delay deadline idle outstanding => exact .inl (silent nofun)

theorem Retries.restart (retries : Retries who d) (process : Nat) : Retries who (d.restart process) where
  elected := retries.elected.restart process
  backoff := retries.backoff
  awaits := by
    intro other adapter address delay deadline named member
    by_cases same : other = process
    · subst same
      rw [restart_same] at member
      cases member
    · rw [restart_other d same] at member
      exact retries.awaits other adapter address delay deadline named member

theorem wake_log (d : Desktop) (process : Nat) (entry : Entry) (now : Int) (rest : List Message) :
    (d.wake process entry now rest).log = d.log ++ (witnessed d.file (d.hosts process).worker now entry ++
      (d.handled process entry now).sent.map fun message => .sent process now message) := List.append_assoc ..

/-- The file and the record agree after a handled entry. -/
theorem Retries.handled (retries : Retries who d) (later : d.clock ≤ now)
    (handled : Handled d process now entry marks outcome) :
    Backoff who now outcome.file (d.log ++ marks ++ outcome.sent.map fun message => .sent process now message) := by
  have before := retries.backoff.later later
  cases handled with
  | tick owner leads => exact before.changes (retries.elected.clock.trans later) leads.changes
  | quiet file idle quiet request kept elected =>
    rw [file, List.append_nil]
    exact before.messages process now quiet
  | operated adapter address operation =>
    apply (before.operated (peer adapter address) operation).messages process now
    intro message member
    cases List.mem_singleton.mp member
    rfl
  | rejected adapter candidate delay deadline idle outstanding =>
    rw [List.append_nil, List.map_nil, List.append_nil]
    apply before.delayed
    intro named
    have awaits := retries.awaits process adapter candidate delay deadline named outstanding
    have moved := awaits.later [] later nofun
    rw [List.append_nil] at moved
    exact moved

theorem Retries.wake (retries : Retries who d) (later : d.clock ≤ now)
    (accepted : accept entry (d.hosts process).unanswered = some rest)
    (handled : Handled d process now entry (witnessed d.file (d.hosts process).worker now entry) (d.handled process entry now)) :
    Retries who (d.wake process entry now rest) where
  elected := retries.elected.wake later accepted handled.kept
  backoff := retries.handled later handled
  awaits := by
    have backoff := retries.handled later handled
    rw [List.append_assoc] at backoff
    rw [wake_log]
    intro other adapter address delay deadline named member
    rcases handled.attempt_or_none (witnessed_none _ _ _ _) with silent | ⟨candidate, wait, aimed, owns, sent, newer⟩
    · apply Awaits.later _ _ later silent
      by_cases same : other = process
      · subst same
        rw [wake_same] at member
        rcases List.mem_append.mp member with old | new
        · have outstanding := accept_subset accepted old
          have current : (d.handled other entry now).result.request = (d.hosts other).worker.request :=
            le_antisymm (retries.elected.mine _ _ _ _ _ _ outstanding).2.2 handled.kept.request
          dsimp only at outstanding
          rw [current] at outstanding
          exact retries.awaits other adapter address delay deadline named outstanding
        · have unheard := silent _ (List.mem_append_right _ (List.mem_map_of_mem new))
          dsimp only [attempt?] at unheard
          rw [if_pos named] at unheard
          cases unheard
      · rw [wake_other d same] at member
        exact retries.awaits other adapter address delay deadline named member
    · by_cases same : other = process
      · subst same
        rw [wake_same] at member
        rcases List.mem_append.mp member with old | new
        · exact absurd (retries.elected.mine _ _ _ _ _ _ (accept_subset accepted old)).2.2 (not_le.mpr newer)
        · -- The attempt was sent in this step, and is the last that is recorded.
          rw [sent] at new backoff ⊢
          cases List.mem_singleton.mp new
          rw [List.map_singleton, ← List.append_assoc] at backoff ⊢
          apply backoff.awaits
          dsimp only [attempt?]
          rw [if_pos named]
      · -- Another process that waits for the same device would be an owner too.
        exfalso
        rw [wake_other d same] at member
        obtain ⟨also, mine, _⟩ := retries.elected.mine other adapter address _ delay deadline member
        apply same
        apply retries.elected.one_owner also owns
        rw [← mine]
        exact congrArg Peer.adapter (named.trans aimed.symm)

theorem Retries.step {act : Act} (retries : Retries who d) (taken : d.step act = some next) : Retries who next := by
  rcases step_cases retries.elected.idle taken with ⟨process, rfl, rfl⟩ |
    ⟨process, entry, now, rest, rfl, later, accepted, rfl, handled⟩
  · exact retries.restart process
  · exact retries.wake later accepted handled

theorem start_retries (who : Peer) (adapters : Nat → Nat) (file : Store Key Value) (clock : Nat) :
    Retries who (start adapters file clock) where
  elected := start_elected adapters file clock
  backoff :=
    { failed := Nat.zero_le _
      spaced := nofun
      proper := nofun
      up := nofun
      down := nofun
      bounded := fun known => absurd rfl known
      history := History.Everywhere.nil }
  awaits := nofun

/-- The record is in the order of time. -/
structure Ordered (d : Desktop) : Prop where
  past : ∀ event ∈ d.log, event.time ≤ d.clock
  ordered : History.Everywhere (fun early event => ∀ other ∈ early, other.time ≤ event.time) d.log

theorem witnessed_time (file : Store Key Value) (worker : Worker) (entry : Entry) :
    ∀ event ∈ witnessed file worker now entry, event.time = now := by
  intro event member
  cases entry with
  | tick backend acquired =>
    dsimp only [witnessed] at member
    split at member
    · obtain ⟨⟨address, device⟩, _, same⟩ := List.mem_filterMap.mp member
      dsimp only [sight] at same
      split at same
      · split at same
        · cases same
          rfl
        · cases same
          rfl
      · cases same
    · cases member
  | userOperation adapter address operation =>
    cases List.mem_singleton.mp member
    rfl
  | _ => cases member

theorem ordered_append {more : List Event} (past : ∀ event ∈ log, event.time ≤ now)
    (ordered : History.Everywhere (fun early event => ∀ other ∈ early, other.time ≤ event.time) log)
    (current : ∀ event ∈ more, event.time = now) :
    History.Everywhere (fun early event => ∀ other ∈ early, other.time ≤ event.time) (log ++ more) := by
  induction more using List.reverseRecOn with
  | nil =>
    rw [List.append_nil]
    exact ordered
  | append_singleton more event ih =>
    have earlier : ∀ other ∈ more, other.time = now := fun other member => current other (List.mem_append_left _ member)
    rw [← List.append_assoc]
    apply (ih earlier).push
    intro other member
    rw [current event (List.mem_append_right _ (List.mem_singleton_self _))]
    rcases List.mem_append.mp member with old | new
    · exact past other old
    · exact (earlier other new).le

theorem Ordered.step {act : Act} (ordered : Ordered d) (elected : Elected d) (taken : d.step act = some next) :
    Ordered next := by
  rcases step_cases elected.idle taken with ⟨process, rfl, rfl⟩ | ⟨process, entry, now, rest, rfl, later, _, rfl, _⟩
  · exact ⟨ordered.past, ordered.ordered⟩
  · have past : ∀ event ∈ d.log, event.time ≤ now := fun event member => (ordered.past event member).trans later
    have current : ∀ event ∈ witnessed d.file (d.hosts process).worker now entry ++
        (d.handled process entry now).sent.map (fun message => Event.sent process now message), event.time = now := by
      intro event member
      rcases List.mem_append.mp member with mark | sent
      · exact witnessed_time _ _ _ event mark
      · obtain ⟨message, _, rfl⟩ := List.mem_map.mp sent
        rfl
    refine ⟨?_, ?_⟩
    · rw [wake_log]
      intro event member
      rcases List.mem_append.mp member with old | new
      · exact past event old
      · exact (current event new).le
    · rw [wake_log]
      exact ordered_append past ordered.ordered current

/-- How many attempts were made for the device since its last reset. -/
def made (who : Peer) (log : List Event) : Nat := ((History.since (resets who) log).filterMap (attempt? who)).length

def operates (who : Peer) : Event → Bool
  | .operated other _ _ => other == who
  | _ => false

/-- A candidate scan saw the device, and it was not connected. -/
def misses (who : Peer) : Event → Bool
  | .disconnected other _ => other == who
  | _ => false

/-- Two attempts without a reset between them. -/
theorem Backoff.apart (holds : Backoff who clock file log) {before : List Event} {first second : Event}
    {earlier later : Attempt} (places : log = before ++ first :: between ++ second :: late)
    (tried : attempt? who first = some earlier) (again : attempt? who second = some later)
    (kept : ∀ event ∈ between, resets who event = false) : backoff (made who before) ≤ later.time - earlier.time := by
  have spaced := holds.history (before ++ first :: between) second late places later again
  have member : earlier ∈ (phase who (before ++ first :: between)).attempts := by
    have divided : before ++ first :: between = before ++ [first] ++ between := by simp
    rw [divided]
    apply phase_keeps kept
    rw [phase_push, next_attempt _ tried]
    exact List.mem_append_right _ (List.mem_singleton_self _)
  have began := holds.history before first (between ++ second :: late) (by rw [places]; simp) earlier tried
  have waits := spaced.attempts earlier member
  have long := began.delay
  rw [attempts_made] at long
  unfold made
  omega

/-- What is known of a device since it was seen connected. -/
theorem phase_since_up (log : List Event) (now : Int)
    (quiet : ∀ event ∈ between, attempt? who event = none ∧ operates who event = false) :
    phase who (log ++ .connected who now :: between) = .connected ∨
      ∃ first, phase who (log ++ .connected who now :: between) = .disconnected first ∧ .disconnected who first ∈ between := by
  induction between using List.reverseRecOn with
  | nil =>
    left
    rw [phase_push]
    dsimp only [Phase.next]
    rw [if_pos rfl]
  | append_singleton between event ih =>
    have before := ih fun other member => quiet other (List.mem_append_left _ member)
    obtain ⟨unsent, unasked⟩ := quiet event (List.mem_append_right _ (List.mem_singleton_self _))
    rw [← List.cons_append, ← List.append_assoc, phase_push]
    have longer : ∀ {first}, Event.disconnected who first ∈ between → .disconnected who first ∈ between ++ [event] :=
      fun member => List.mem_append_left _ member
    cases event with
    | connected other time =>
      dsimp only [Phase.next]
      split
      · exact .inl rfl
      · exact before.imp_right fun ⟨first, same, member⟩ => ⟨first, same, longer member⟩
    | disconnected other time =>
      dsimp only [Phase.next]
      split
      · next same =>
        subst same
        rcases before with up | ⟨first, same, member⟩
        · rw [up]
          exact .inr ⟨time, rfl, List.mem_append_right _ (List.mem_singleton_self _)⟩
        · rw [same]
          exact .inr ⟨first, rfl, longer member⟩
      · exact before.imp_right fun ⟨first, same, member⟩ => ⟨first, same, longer member⟩
    | operated other operation time =>
      have apart : other ≠ who := by simpa [operates] using unasked
      dsimp only [Phase.next]
      rw [if_neg apart]
      exact before.imp_right fun ⟨first, same, member⟩ => ⟨first, same, longer member⟩
    | sent sender time message =>
      dsimp only [Phase.next]
      rw [unsent]
      exact before.imp_right fun ⟨first, same, member⟩ => ⟨first, same, longer member⟩

/-- The first attempt after a connection was seen. -/
theorem Backoff.after_up (holds : Backoff who clock file log)
    (ordered : History.Everywhere (fun early event => ∀ other ∈ early, other.time ≤ event.time) log)
    {before : List Event} {seen : Int} {second : Event}
    (places : log = before ++ .connected who seen :: between ++ second :: late) (tried : attempt? who second = some attempt)
    (quiet : ∀ event ∈ between, attempt? who event = none ∧ operates who event = false) :
    ∃ early first late, between = early ++ .disconnected who first :: late ∧ (∀ event ∈ early, misses who event = false) ∧
      first + 5000 ≤ attempt.time := by
  have spaced := holds.history _ second late places attempt tried
  rcases phase_since_up before seen quiet with up | ⟨time, same, member⟩
  · exact absurd up spaced.seen
  · have apart := spaced.scheduled time same
    have found : (between.find? (misses who)).isSome = true := by
      rw [List.find?_isSome]
      exact ⟨_, member, by simp [misses]⟩
    obtain ⟨event, chosen⟩ := Option.isSome_iff_exists.mp found
    obtain ⟨sees, early, tail, divided, unseen⟩ := List.find?_eq_some_iff_append.mp chosen
    cases event with
    | disconnected other first =>
      have here : other = who := by simpa [misses] using sees
      subst here
      refine ⟨early, first, tail, divided, fun event inside => by simpa using unseen event inside, ?_⟩
      have earlier : first ≤ time := by
        rw [divided] at member
        rcases List.mem_append.mp member with inside | rest
        · have unseen := unseen _ inside
          simp [misses] at unseen
        · rcases List.mem_cons.mp rest with same | inside
          · cases same
            exact le_rfl
          · obtain ⟨front, back, split⟩ := List.append_of_mem inside
            have whole : log = before ++ .connected other seen :: (early ++ .disconnected other first :: front) ++
                .disconnected other time :: (back ++ second :: late) := by
              rw [places, divided, split]
              simp
            exact ordered _ (.disconnected other time) _ whole (.disconnected other first) (by simp)
      unfold initialDelay at apart
      omega
    | _ => cases sees

/-- For every device, in every run with any elections, crashes, sights, operations and
replies: two attempts without a reset between them are apart by the backoff of the attempts
that were made before, and the first attempt after a connection was seen comes five seconds
after the device was first seen disconnected. -/
theorem backoff_survives {adapters : Nat → Nat} {file : Store Key Value} {clock : Nat} {acts : List Act} {d : Desktop}
    (ran : (start adapters file clock).run acts = some d) (who : Peer) :
    (∀ before first between second late earlier later, d.log = before ++ first :: between ++ second :: late →
      attempt? who first = some earlier → attempt? who second = some later →
      (∀ event ∈ between, resets who event = false) → backoff (made who before) ≤ later.time - earlier.time) ∧
    ∀ before seen between second late attempt, d.log = before ++ .connected who seen :: between ++ second :: late →
      attempt? who second = some attempt →
      (∀ event ∈ between, attempt? who event = none ∧ operates who event = false) →
      ∃ early first rest, between = early ++ .disconnected who first :: rest ∧ (∀ event ∈ early, misses who event = false) ∧
        first + 5000 ≤ attempt.time := by
  have kept : Retries who d ∧ Ordered d := by
    refine run_keeps (fun d => Retries who d ∧ Ordered d) ?_ ?_ ran
    · intro d next act held taken
      exact ⟨held.1.step taken, held.2.step held.1.elected taken⟩
    · exact ⟨start_retries who adapters file clock, nofun, History.Everywhere.nil⟩
  refine ⟨?_, ?_⟩
  · intro before first between second late earlier later places tried again quiet
    exact kept.1.backoff.apart places tried again quiet
  · intro before seen between second late attempt places tried quiet
    exact kept.1.backoff.after_up kept.2.ordered places tried quiet

/-- A bonded device that is not connected, and one that is. -/
def away : Backend := { devices := [("A1", { paired := some true, connected := some false })] }

def here : Backend := { devices := [("A1", { paired := some true, connected := some true })] }

/-- The owner sees a connection, loses it, tries, and crashes before its attempt is refused;
another process takes over and tries again. -/
def handover : List Act :=
  [.wake 0 (.acquire true) 0, .wake 0 (.tick here false) 1000, .wake 0 (.tick away false) 2000,
    .wake 0 (.tick away false) 7000, .restart 0, .wake 1 (.tick away true) 8000, .wake 1 (.tick away false) 9000,
    .wake 1 (.tick away false) 42000]

/-- What was seen between the connection and the first attempt. -/
def lost : List Event := [.disconnected (peer 0 "A1") 2000, .disconnected (peer 0 "A1") 7000]

def tried : Event := .sent 0 7000 (.connectAllEnabledProfiles 0 "A1" 2 5000 42000)

def waited : List Event := [.disconnected (peer 0 "A1") 9000, .disconnected (peer 0 "A1") 42000]

def triedAgain : Event := .sent 1 42000 (.connectAllEnabledProfiles 0 "A1" 2 10000 82000)

theorem backoff_survives_handover : ∃ d, (start (fun _ => 0) (fun _ => none) 0).run handover = some d ∧
    d.log = .connected (peer 0 "A1") 1000 :: lost ++ tried :: waited ++ [triedAgain] ∧
    backoff (made (peer 0 "A1") (.connected (peer 0 "A1") 1000 :: lost)) ≤ 42000 - 7000 ∧
    ∃ early first rest, lost = early ++ .disconnected (peer 0 "A1") first :: rest ∧
      (∀ event ∈ early, misses (peer 0 "A1") event = false) ∧ first + 5000 ≤ 7000 := by
  have traced : ((start (fun _ => 0) (fun _ => none) 0).run handover).map Desktop.log =
      some (.connected (peer 0 "A1") 1000 :: lost ++ tried :: waited ++ [triedAgain]) := by decide +kernel
  have first_attempt : attempt? (peer 0 "A1") tried = some ⟨7000, 5000⟩ := by decide +kernel
  have second_attempt : attempt? (peer 0 "A1") triedAgain = some ⟨42000, 10000⟩ := by decide +kernel
  obtain ⟨d, ran, same⟩ := Option.map_eq_some_iff.mp traced
  refine ⟨d, ran, same, ?_, ?_⟩
  · exact (backoff_survives ran (peer 0 "A1")).1 _ tried waited triedAgain [] ⟨7000, 5000⟩ ⟨42000, 10000⟩ same
      first_attempt second_attempt (by decide +kernel)
  · exact (backoff_survives ran (peer 0 "A1")).2 [] 1000 lost tried (waited ++ [triedAgain]) ⟨7000, 5000⟩
      (same.trans (by simp)) first_attempt (by decide +kernel)

end FlossDesktop.Handoff
