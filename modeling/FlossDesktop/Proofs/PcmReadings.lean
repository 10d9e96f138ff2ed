import FlossDesktop.Proofs.PeerCalls

/-! What two readings of the encoder's format tell about the time between them. The format is
stamped with a generation that each update raises, so equal stamps mean that there was none. -/

namespace FlossDesktop.A2dpIntf

open EncodingHost (PcmConfig)
open ScoPcm (RawAddress)

/-- The second was read no sooner than the first, and is the same unless there was an update. -/
structure Follows (first second : PcmConfig) : Prop where
  le : first.generation ≤ second.generation
  same : first.generation = second.generation → first = second

namespace Follows

variable {first second third : PcmConfig}

theorem refl (config : PcmConfig) : Follows config config := ⟨Nat.le_refl _, fun _ => rfl⟩

theorem trans (earlier : Follows first second) (later : Follows second third) : Follows first third where
  le := Nat.le_trans earlier.le later.le
  same := by
    intro equal
    have middle : second.generation = third.generation := Nat.le_antisymm later.le (equal ▸ earlier.le)
    exact (earlier.same (equal.trans middle.symm)).trans (later.same middle)

theorem update (follows : Follows first second) (rate bits channels : Nat) : Follows first (second.update rate bits channels) where
  le := Nat.le_succ_of_le follows.le
  same := fun equal => absurd (equal ▸ follows.le) (Nat.not_succ_le_self _)

theorem change {stack : Stack} (follows : Follows first stack.pcm) (change : Change) : Follows first (stack.change change).pcm := by
  unfold Stack.change
  dsimp only
  generalize stack.pcm = pcm at follows ⊢
  induction change.updates generalizing pcm with
  | nil => exact follows
  | cons update rest ih =>
    apply ih
    exact follows.update update.1 update.2.1 update.2.2

end Follows

/-- A format that was read for a call, whether or not it is back. -/
def Call.Holds (call : Call) (config : A2dpPcmConfig) : Prop :=
  config.ready = true ∧ (call.result = some (.pcmConfig config) ∨ call.stage = .returned (.pcmConfig config))

/-- Formats that were read for calls from `count` on lie between the first and the present one. -/
structure Reads (first : PcmConfig) (count : Nat) (s : System) : Prop where
  present : Follows first s.stack.pcm
  calls : ∀ (id : Nat) (call : Call) config, count ≤ id → s.calls[id]? = some call → call.Holds config →
    Follows first config.toPcmConfig ∧ Follows config.toPcmConfig s.stack.pcm

namespace Reads

variable {first : PcmConfig} {count : Nat} {s after : System} {id : Nat} {call next : Call}

theorem later (reads : Reads first count s) (calls : after.calls = s.calls) (grows : Follows s.stack.pcm after.stack.pcm) :
    Reads first count after where
  present := reads.present.trans grows
  calls := by
    intro id call config enough found holds
    obtain ⟨since, upto⟩ := reads.calls id call config enough (calls ▸ found) holds
    exact ⟨since, upto.trans grows⟩

theorem update (reads : Reads first count s) (calls : after.calls = s.calls.set id next) (found : s.calls[id]? = some call)
    (grows : Follows s.stack.pcm after.stack.pcm)
    (holds : ∀ config, next.Holds config → call.Holds config ∨ config.toPcmConfig = s.stack.pcm) : Reads first count after where
  present := reads.present.trans grows
  calls := by
    intro other current config enough there held
    rw [calls, List.getElem?_set] at there
    split at there
    next same =>
      subst same
      rw [if_pos (System.known found)] at there
      cases there
      rcases holds config held with before | now
      · obtain ⟨since, upto⟩ := reads.calls id call config enough found before
        exact ⟨since, upto.trans grows⟩
      · exact now ▸ ⟨reads.present, grows⟩
    · obtain ⟨since, upto⟩ := reads.calls other current config enough there held
      exact ⟨since, upto.trans grows⟩

theorem returns (reads : Reads first count s) (found : s.calls[id]? = some call) (cancelled : Bool) (reply : Reply)
    (why : ∀ config, config.ready = true → reply = .pcmConfig config → call.result = some reply) :
    Reads first count (s.returnWith id { call with cancelled } reply).1 := by
  refine reads.update rfl found (.refl _) fun config held => .inl ⟨held.1, ?_⟩
  rcases held.2 with result | returned
  · exact .inl result
  · have same : reply = .pcmConfig config := Stage.returned.inj returned
    exact .inl (same ▸ why config held.1 same)

theorem wait (reads : Reads first count s) (id : Nat) (expired posted : Bool) : Reads first count (s.wait id expired posted).1 := by
  unfold System.wait
  split
  · exact reads
  next call found =>
    have revised : ∀ stage ready, (∀ config, stage ≠ .returned (.pcmConfig config)) →
        Reads first count (s.update id { call with stage, ready }) := by
      intro stage ready different
      exact reads.update rfl found (.refl _) fun config held =>
        .inl ⟨held.1, .inl (held.2.resolve_right (different config))⟩
    split
    · split
      · exact revised .readying call.ready nofun
      · split
        · exact reads.returns found true _ nofun
        · exact reads
    · split
      · split
        · exact (revised .waiting call.ready nofun).later rfl (.refl _)
        · exact reads.returns found call.cancelled _ nofun
      · split
        · exact reads.returns found call.cancelled _ nofun
        · exact reads
    · split
      next reply answered => exact reads.returns found call.cancelled _ fun _ _ _ => answered
      · split
        · refine reads.returns found call.cancelled _ fun config ready same => ?_
          cases request : call.request with
          | pcmConfig =>
            rw [request] at same
            cases same
            cases ready
          | _ =>
            rw [request] at same
            cases same
        · exact reads
    · exact reads

theorem answer (reads : Reads first count s) (found : s.calls[id]? = some call) (calls : after.calls =
      s.calls.set id { call with result := some reply }) (grows : Follows s.stack.pcm after.stack.pcm)
    (read : ∀ config, config.ready = true → reply = .pcmConfig config → config.toPcmConfig = s.stack.pcm) : Reads first count after := by
  refine reads.update calls found grows fun config held => ?_
  rcases held.2 with result | returned
  · exact .inr (read config held.1 (Option.some.inj result))
  · exact .inl ⟨held.1, .inr returned⟩

theorem serve (reads : Reads first count s) (native : Native) : Reads first count (s.serve native).1 := by
  unfold System.serve
  split
  next job rest busy queue =>
    split
    next call found =>
      obtain ⟨id, task⟩ := job
      have popped : Reads first count { s with queue := rest } := reads.later rfl (.refl _)
      cases task with
      | select =>
        dsimp only [System.perform]
        split
        · exact popped.update rfl found (.refl _) fun config held => .inl held
        · exact reads.later rfl (.refl _)
      | start =>
        dsimp only [System.perform]
        split
        · exact popped.answer found rfl ((Follows.refl _).change _) nofun
        · exact popped.answer found rfl (.refl _) nofun
      | stop => exact popped.answer found rfl ((Follows.refl _).change _) nofun
      | pcmConfig =>
        refine popped.answer found rfl (.refl _) fun config ready same => ?_
        cases same
        unfold Stack.pcmConfigForPeer at ready ⊢
        split at ready
        next streams => rw [if_pos streams]
        · cases ready
      | position => exact popped.answer found rfl (.refl _) nofun
    · exact reads
  · exact reads

theorem step (reads : Reads first count s) (event : System.Event) : Reads first count (s.step event).1 := by
  cases event with
  | change change =>
    dsimp only [System.step]
    split
    · exact reads.later rfl ((Follows.refl _).change change)
    · exact reads
  | call request address posted =>
    have entered : ∀ stage, (∀ config, config.ready = true → stage ≠ .returned (.pcmConfig config)) →
        Reads first count (s.enter request address stage) := by
      refine fun stage different => ⟨reads.present, fun id call config enough found held => ?_⟩
      rw [System.enter, List.getElem?_append] at found
      split at found
      · exact reads.calls id call config enough found held
      · rw [List.getElem?_singleton] at found
        split at found
        · cases found
          rcases held.2 with early | returned
          · cases early
          · exact absurd returned (different config held.1)
        · cases found
    dsimp only [System.step, System.call]
    split
    · have waiting : ∀ config, config.ready = true → request.firstStage ≠ .returned (.pcmConfig config) := by
        intro config ready same
        cases request <;> cases same
      exact (entered _ waiting).later rfl (.refl _)
    · refine entered _ fun config ready same => ?_
      cases request <;> cases same
      cases ready
  | wait id expired posted => exact reads.wait id expired posted
  | serve native => exact reads.serve native
  | select native ready =>
    dsimp only [System.step, System.select]
    split
    · exact reads
    · split
      · exact reads.later rfl (.refl _)
      next found =>
        split
        · exact reads.update rfl found (.refl _) fun config held => .inl held
        · exact reads.update rfl found ((Follows.refl _).change _) fun config held => .inl held
  | readied id =>
    dsimp only [System.step, System.readied]
    split
    next found =>
      split
      · exact reads.update rfl found (.refl _) fun config held => .inl held
      · exact reads
    · exact reads

theorem run (reads : Reads first count s) (events : List System.Event) : Reads first count (Machine.state System.step s events) :=
  Machine.keeps (fun _ event (_ : True) reads => reads.step event) (fun _ _ => trivial) reads

/-- Nothing was read yet for the calls to come. -/
theorem restart (s : System) : Reads s.stack.pcm s.calls.length s :=
  ⟨.refl _, fun _ _ _ enough found => absurd (System.known found) (Nat.not_lt.mpr enough)⟩

end Reads

/-- What a call has returned. -/
def System.returns (s : System) (id : Nat) (config : A2dpPcmConfig) : Prop :=
  (s.calls[id]?).map Call.stage = some (.returned (.pcmConfig config))

theorem System.returns.held {s : System} {id : Nat} {config : A2dpPcmConfig} (returns : s.returns id config)
    (ready : config.ready = true) : ∃ call, s.calls[id]? = some call ∧ call.Holds config := by
  obtain ⟨call, found, stage⟩ := Option.map_eq_some_iff.mp returns
  exact ⟨call, found, ready, .inr stage⟩

/-- When the bridge has opened its socket, or has looked for its format again, then that was the
format of the encoder at every moment from the end of the first reading to the start of the last. -/
theorem format_was_kept (before between after : List System.Event) (first second : Nat) (config confirmed : A2dpPcmConfig)
    (read : (Machine.state System.step {} before).returns first config) (ready : config.ready = true)
    (later : (Machine.state System.step {} (before ++ between)).calls.length ≤ second)
    (reread : (Machine.state System.step {} (before ++ between ++ after)).returns second confirmed)
    (same : config.opens confirmed = true ∨ confirmed.keeps config.generation = true) :
    confirmed.toPcmConfig = config.toPcmConfig ∧
      ∀ early late, between = early ++ late → (Machine.state System.step {} (before ++ early)).stack.pcm = config.toPcmConfig := by
  have still : confirmed.ready = true ∧ confirmed.generation = config.generation := by
    rcases same with opened | kept
    · simp only [A2dpPcmConfig.opens, Bool.and_eq_true, beq_iff_eq] at opened
      exact ⟨opened.1.1.1.1.2, opened.1.1.1.2⟩
    · simp only [A2dpPcmConfig.keeps, Bool.and_eq_true, beq_iff_eq] at kept
      exact kept
  obtain ⟨call, found, holds⟩ := read.held ready
  obtain ⟨again, there, held⟩ := reread.held still.1
  have past := (((Reads.restart {}).run before).calls first call config (Nat.zero_le _) found holds).2
  have whole : Follows (Machine.state System.step {} (before ++ between)).stack.pcm confirmed.toPcmConfig := by
    rw [Machine.state_append] at there
    exact ((Reads.restart _).run after).calls second again confirmed later there held |>.1
  have grows : ∀ start events, Follows start.stack.pcm (Machine.state System.step start events).stack.pcm :=
    fun start events => ((Reads.restart start).run events).present
  have through : ∀ early late, between = early ++ late →
      Follows config.toPcmConfig (Machine.state System.step {} (before ++ early)).stack.pcm ∧
        Follows (Machine.state System.step {} (before ++ early)).stack.pcm confirmed.toPcmConfig := by
    rintro early late rfl
    refine ⟨past.trans ?_, Follows.trans ?_ whole⟩
    · rw [Machine.state_append]
      exact grows _ early
    · rw [← List.append_assoc, Machine.state_append _ late]
      exact grows _ late
  have ends := through [] between rfl
  refine ⟨((ends.1.trans ends.2).same still.2.symm).symm, fun early late divided => ?_⟩
  obtain ⟨since, upto⟩ := through early late divided
  refine (since.same (Nat.le_antisymm since.le ?_)).symm
  exact still.2 ▸ upto.le

/-- The peer of the call gets a stream, which is read twice. -/
theorem format_was_kept_twice :
    let streaming : Change :=
      { enabled := true, activePeer := 5, streamStartedReady := true, updates := [(0, 0, 0), (44100, 16, 2)]
        position := { remoteDelayReportNs := 0, totalBytesRead := 0, dataPosition := {} } }
    let native : Native := { accepted := true, change := streaming }
    let read : List System.Event := [.change streaming, .call .pcmConfig 5 true, .serve native, .wait 0 false true]
    let delayed : List System.Event := [.change { streaming with updates := [] }]
    ∀ early late, delayed = early ++ late → (Machine.state System.step {} (read ++ early)).stack.pcm =
      { ready := true, sampleRate := 44100, bitsPerSample := 16, channelsCount := 2, generation := 2 } := by
  intro streaming native read delayed
  let config : A2dpPcmConfig :=
    { ready := true, sampleRate := 44100, bitsPerSample := 16, channelsCount := 2, generation := 2
      socketPath := "/var/run/bluetooth/audio/.a2dp_data" }
  exact (format_was_kept read delayed [.call .pcmConfig 5 true, .serve native, .wait 1 false true] 0 1 config config
    rfl rfl (by decide) rfl (.inl rfl)).2

end FlossDesktop.A2dpIntf
