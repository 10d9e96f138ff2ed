import FlossDesktop.Watchdog

/-! What a report of a stalled transport says about the two seconds before it. -/

namespace FlossDesktop.Watchdog

/-- Some submitted PCM has not been reported consumed. -/
def Outstanding (w : Watchdog) : Prop := w.positionBytes < w.audioWritten

/-- The property holds in every state that is in force after a time. -/
def Throughout (property : Watchdog → Prop) (events : List Event) (since : Nat) : Prop :=
  ∀ early late, events = early ++ late → (∀ event ∈ late, since < event.time) → property (run early)

/-- An accepted reply with another byte count than the last one, or the first reply. -/
def Progress (w : Watchdog) (event : Event) : Prop :=
  ∃ p, event.move = .positionReceived (some p) ∧ w.accepts event.time p = true ∧
    (w.positionValid = false ∨ p.bytes ≠ w.positionBytes)

/-- No reply at or after a time reports consumption. -/
def NoProgress (events : List Event) (since : Nat) : Prop :=
  ∀ early event late, events = early ++ event :: late → since ≤ event.time → ¬ Progress (run early) event

/-- Bytes are sent after a time at a moment when nothing is outstanding. -/
def Resumed (events : List Event) (since : Nat) : Prop :=
  ∃ early event late count, events = early ++ event :: late ∧ since < event.time ∧ event.move = .sent count ∧
    ¬ Outstanding (run early)

def Ordered (events : List Event) (now : Nat) : Prop :=
  events.Pairwise (fun first second => first.time ≤ second.time) ∧ ∀ event ∈ events, event.time ≤ now

theorem run_append (early late : List Event) : run (early ++ late) = late.foldl step (run early) := List.foldl_append

variable {w : Watchdog} {event : Event} {events : List Event}

/-- A count is never reported before it was submitted. -/
structure Counted (w : Watchdog) : Prop where
  reported : w.positionBytes ≤ w.audioWritten
  fresh : w.positionValid = false → w.positionBytes = 0

/-- What one event does to the counters and to the progress timestamp. -/
theorem step_cases (w : Watchdog) (event : Event) :
    (∃ count, event.move = .sent count ∧ (w.step event).positionBytes = w.positionBytes ∧
        (w.step event).positionValid = w.positionValid ∧ (w.step event).positionProgressNs = w.positionProgressNs ∧
        w.audioWritten ≤ (w.step event).audioWritten) ∨
    (∃ p, event.move = .positionReceived (some p) ∧ w.accepts event.time p = true ∧
        (w.step event).audioWritten = w.audioWritten ∧ (w.step event).positionBytes = p.bytes ∧
        (w.step event).positionValid = true ∧
        ((w.step event).positionProgressNs = event.time ∨
          (w.step event).positionProgressNs = w.positionProgressNs ∧ ¬ Progress w event)) ∨
    (¬ Progress w event ∧ (w.step event).audioWritten = w.audioWritten ∧
        (w.step event).positionBytes = w.positionBytes ∧ (w.step event).positionValid = w.positionValid ∧
        ((w.step event).positionProgressNs = event.time ∨
          (w.step event).positionProgressNs = w.positionProgressNs)) := by
  have other : (∀ p, event.move ≠ .positionReceived (some p)) → ¬ Progress w event := by
    intro different progress
    obtain ⟨p, same, _⟩ := progress
    exact different p same
  unfold step
  cases moved : event.move with
  | process =>
    refine .inr (.inr ⟨other (by simp [moved]), ?_⟩)
    unfold process
    dsimp only
    split
    · exact ⟨rfl, rfl, rfl, .inr rfl⟩
    · split <;> exact ⟨rfl, rfl, rfl, .inr rfl⟩
  | sent count =>
    refine .inl ⟨count, rfl, ?_⟩
    unfold sent
    dsimp only
    split
    · exact ⟨rfl, rfl, rfl, le_rfl⟩
    · exact ⟨rfl, rfl, rfl, Nat.le_add_right _ _⟩
  | stateChanged streaming =>
    refine .inr (.inr ⟨other (by simp [moved]), ?_⟩)
    unfold stateChanged
    cases streaming with
    | true => exact ⟨rfl, rfl, rfl, .inr rfl⟩
    | false => exact ⟨rfl, rfl, rfl, .inl rfl⟩
  | positionReceived reply =>
    cases reply with
    | none => exact .inr (.inr ⟨other (by simp [moved]), rfl, rfl, rfl, .inr rfl⟩)
    | some p =>
      unfold positionReceived
      dsimp only
      by_cases accepted : w.accepts event.time p = true
      · rw [if_pos accepted]
        refine .inr (.inl ⟨p, rfl, accepted, rfl, rfl, rfl, ?_⟩)
        dsimp only
        split
        · exact .inl rfl
        next same =>
          refine .inr ⟨rfl, ?_⟩
          intro progress
          obtain ⟨other, moves, _, changed⟩ := progress
          rw [moved] at moves
          cases moves
          rcases changed with first | different
          · exact same (.inl first)
          · exact same (.inr (.inl different))
      · rw [if_neg accepted]
        refine .inr (.inr ⟨?_, rfl, rfl, rfl, .inr rfl⟩)
        intro progress
        obtain ⟨other, moves, passes, _⟩ := progress
        rw [moved] at moves
        cases moves
        exact accepted passes

theorem accepts_bytes {now : Nat} {p : Position} (accepted : w.accepts now p = true) :
    p.bytes ≤ w.audioWritten ∧ (w.positionValid = true → w.positionBytes ≤ p.bytes) := by
  simp only [accepts, Bool.and_eq_true, Bool.or_eq_true, Bool.not_eq_true', decide_eq_true_eq] at accepted
  obtain ⟨⟨⟨⟨_, written⟩, monotone⟩, _⟩, _⟩ := accepted
  refine ⟨written, ?_⟩
  intro valid
  rcases monotone with unset | grows
  · rw [valid] at unset
    cases unset
  · exact grows

theorem Counted.step (counted : Counted w) (event : Event) : Counted (w.step event) := by
  rcases step_cases w event with ⟨_, _, bytes, valid, _, grows⟩ | ⟨p, _, accepted, written, bytes, valid, _⟩ |
    ⟨_, written, bytes, valid, _⟩
  · refine ⟨?_, ?_⟩
    · rw [bytes]
      exact le_trans counted.reported grows
    · rw [bytes, valid]
      exact counted.fresh
  · refine ⟨?_, ?_⟩
    · rw [bytes, written]
      exact (accepts_bytes accepted).1
    · rw [valid]
      intro impossible
      cases impossible
  · refine ⟨?_, ?_⟩
    · rw [bytes, written]
      exact counted.reported
    · rw [bytes, valid]
      exact counted.fresh

theorem counted_run (events : List Event) : Counted (run events) := by
  have start : Counted {} := ⟨le_rfl, fun _ => rfl⟩
  unfold run
  generalize ({} : Watchdog) = w at start ⊢
  induction events generalizing w with
  | nil => exact start
  | cons event rest ih => exact ih _ (start.step event)

/-- Only a send makes something outstanding. -/
theorem outstanding_by_send (counted : Counted w) (idle : ¬ Outstanding w) (busy : Outstanding (w.step event)) :
    ∃ count, event.move = .sent count := by
  have reported := counted.reported
  unfold Outstanding at idle busy
  rcases step_cases w event with ⟨count, moved, _⟩ | ⟨p, _, accepted, written, bytes, _⟩ | ⟨_, written, bytes, _⟩
  · exact ⟨count, moved⟩
  · have bounds := accepts_bytes accepted
    rw [bytes, written] at busy
    cases valid : w.positionValid with
    | true =>
      have grows := bounds.2 valid
      omega
    | false =>
      have fresh := counted.fresh valid
      omega
  · rw [bytes, written] at busy
    exact (idle busy).elim

/-- Something became outstanding, so some send found nothing outstanding. -/
theorem exists_resume (early late : List Event) (idle : ¬ Outstanding (run early))
    (busy : Outstanding (run (early ++ late))) :
    ∃ before event after count, early ++ late = before ++ event :: after ∧ event ∈ late ∧
      event.move = .sent count ∧ ¬ Outstanding (run before) := by
  induction late generalizing early with
  | nil =>
    rw [List.append_nil] at busy
    exact (idle busy).elim
  | cons event rest ih =>
    have next : run (early ++ [event]) = (run early).step event := run_append early [event]
    by_cases now : Outstanding (run (early ++ [event]))
    · rw [next] at now
      obtain ⟨count, moved⟩ := outstanding_by_send (counted_run early) idle now
      exact ⟨early, event, rest, count, rfl, List.mem_cons_self, moved, idle⟩
    · have joined : (early ++ [event]) ++ rest = early ++ event :: rest := by simp
      rw [← joined] at busy ⊢
      obtain ⟨before, sender, after, count, same, member, moved, nothing⟩ := ih (early ++ [event]) now busy
      exact ⟨before, sender, after, count, same, List.mem_cons_of_mem _ member, moved, nothing⟩

/-- Later events never move the progress timestamp back behind a time. -/
theorem progress_kept (since : Nat) (later : List Event) (start : since ≤ w.positionProgressNs)
    (times : ∀ event ∈ later, since ≤ event.time) : since ≤ (later.foldl step w).positionProgressNs := by
  induction later generalizing w with
  | nil => exact start
  | cons event rest ih =>
    have here := times event List.mem_cons_self
    apply ih
    · rcases step_cases w event with ⟨_, _, _, _, same, _⟩ | ⟨_, _, _, _, _, _, moved | same⟩ |
        ⟨_, _, _, _, moved | same⟩
      · rw [same]
        exact start
      · rw [moved]
        exact here
      · rw [same.1]
        exact start
      · rw [moved]
        exact here
      · rw [same]
        exact start
    · exact fun later member => times later (List.mem_cons_of_mem _ member)

/-- A progress reply moves the timestamp to its time. -/
theorem progress_stamped (progress : Progress w event) : (w.step event).positionProgressNs = event.time := by
  rcases step_cases w event with ⟨_, moved, _⟩ | ⟨_, _, _, _, _, _, stamped | same⟩ | ⟨none, _⟩
  · obtain ⟨p, reply, _⟩ := progress
    rw [moved] at reply
    cases reply
  · exact stamped
  · exact (same.2 progress).elim
  · exact (none progress).elim

theorem ordered_tail {early late : List Event} {now : Nat} (ordered : Ordered (early ++ event :: late) now) :
    ∀ later ∈ late, event.time ≤ later.time := by
  have tail := (List.pairwise_append.mp ordered.1).2.1
  exact (List.pairwise_cons.mp tail).1

/-- A report of a stalled transport leaves no progress within the timeout. -/
theorem no_progress {now : Nat} (ordered : Ordered events now)
    (stale : positionTimeout < now - (run events).positionProgressNs) : NoProgress events (now - positionTimeout) := by
  intro early event late same recent progress
  subst same
  have kept := progress_kept event.time late (le_of_eq (progress_stamped progress).symm) (ordered_tail ordered)
  have joined : run (early ++ event :: late) = late.foldl step ((run early).step event) := run_append early (event :: late)
  rw [joined] at stale
  omega

/-- When the watchdog reports a stalled transport, PCM was outstanding and nothing
was consumed during all of the timeout before, exactly if no bytes were sent in that
time at a moment when nothing was outstanding. -/
theorem stall_reported_iff (events : List Event) (now : Nat) (ordered : Ordered events now)
    (stopped : (run events).playbackLevel now = some .transportStopped) :
    (Throughout Outstanding events (now - positionTimeout) ∧ NoProgress events (now - positionTimeout)) ↔
      ¬ Resumed events (now - positionTimeout) := by
  have found : Outstanding (run events) ∧ positionTimeout < now - (run events).positionProgressNs := by
    unfold playbackLevel at stopped
    split at stopped
    · cases stopped
    · split at stopped
      · cases stopped
      · split at stopped
        next reason => exact ⟨reason.2.1, reason.2.2⟩
        next => cases stopped
  constructor
  · intro holds resumed
    obtain ⟨early, event, late, count, same, recent, _, idle⟩ := resumed
    apply idle
    apply holds.1 early (event :: late) same
    intro later member
    rcases List.mem_cons.mp member with here | after
    · rw [here]
      exact recent
    · subst same
      exact lt_of_lt_of_le recent (ordered_tail ordered later after)
  · intro steady
    refine ⟨?_, no_progress ordered found.2⟩
    intro early late same recent
    by_contra idle
    subst same
    obtain ⟨before, event, after, count, split, member, moved, nothing⟩ := exists_resume early late idle found.1
    exact steady ⟨before, event, after, count, split, recent event member, moved, nothing⟩

/-- A peer that stops after the first report. -/
def stuckPeer : List Event :=
  [⟨0, .stateChanged true⟩, ⟨1, .sent 100⟩, ⟨2, .positionReceived (some { bytes := 40 })⟩,
    ⟨1500000000, .positionReceived (some { bytes := 40 })⟩]

theorem stuckPeer_ordered : Ordered stuckPeer 2000000003 := by
  unfold Ordered stuckPeer
  simp

theorem stall_of_stuck_peer :
    (run stuckPeer).playbackLevel 2000000003 = some .transportStopped ∧
      ((Throughout Outstanding stuckPeer (2000000003 - positionTimeout) ∧
          NoProgress stuckPeer (2000000003 - positionTimeout)) ↔ ¬ Resumed stuckPeer (2000000003 - positionTimeout)) := by
  have stopped : (run stuckPeer).playbackLevel 2000000003 = some .transportStopped := by decide
  exact ⟨stopped, stall_reported_iff stuckPeer 2000000003 stuckPeer_ordered stopped⟩

/-- Everything was consumed, nothing was sent for three seconds, and then a little. -/
def idleGap : List Event :=
  [⟨0, .stateChanged true⟩, ⟨1, .sent 100⟩, ⟨2, .positionReceived (some { bytes := 100 })⟩,
    ⟨1500000000, .positionReceived (some { bytes := 100 })⟩, ⟨3000000000, .positionReceived (some { bytes := 100 })⟩,
    ⟨3000000001, .process⟩, ⟨3000000002, .sent 40⟩]

/-- The next buffer, ten milliseconds later, fails the transport. -/
theorem idle_gap_reported_stalled :
    Ordered idleGap 3010000002 ∧ (run idleGap).failed = false ∧
      (run idleGap).playbackLevel 3010000002 = some .transportStopped ∧
      ¬ (Throughout Outstanding idleGap (3010000002 - positionTimeout) ∧
        NoProgress idleGap (3010000002 - positionTimeout)) := by
  refine ⟨?_, by decide, by decide, ?_⟩
  · unfold Ordered idleGap
    simp
  · intro holds
    have busy := holds.1 (idleGap.take 4) (idleGap.drop 4) (List.take_append_drop 4 idleGap).symm
      (by unfold idleGap positionTimeout; simp)
    revert busy
    unfold Outstanding
    decide

end FlossDesktop.Watchdog
