import FlossDesktop.Proofs.MediaListeners

/-! No listener outlives its session, and none is told twice or told about something else.
A listener is a descriptor that is moved into the call, so no two calls pass the same
one. -/

namespace FlossDesktop.Media.BluetoothMedia

open ScoPcm (RawAddress)

variable {s : BluetoothMedia} {inputs : List Input}

theorem run_append (first second : List Input) : run (first ++ second) = Machine.state step (run first) second :=
  Machine.state_append first second

theorem run_concat (inputs : List Input) (input : Input) : run (inputs ++ [input]) = ((run inputs).step input).1 :=
  Machine.state_concat inputs input

theorem step_startAudioSession (s : BluetoothMedia) (token : Nat) (owner : String) (told : File) (native : Native) :
    s.step (.startAudioSession token owner told native) = reply (s.startAudioSession token owner told native) := rfl

/-- The start finds nothing to start, or brings its own listener. -/
theorem step_start (tidy : Tidy s) (token : Nat) (owner : String) (told : File) (native : Native) :
    (s.step (.startAudioSession token owner told native)).1 = s ∧
        writes (s.step (.startAudioSession token owner told native)).2 = [] ∨
      Starts s (s.step (.startAudioSession token owner told native)) told := by
  rw [step_startAudioSession]
  cases ready : (s.startable token owner).isSome with
  | false =>
    left
    have missing : s.startable token owner = none := by simpa using ready
    unfold startAudioSession
    rw [missing]
    exact ⟨rfl, rfl⟩
  | true =>
    right
    have starts := startAudioSession_starts tidy token owner told native ready
    have same := writes_answer (s.startAudioSession token owner told native).1.2
      (s.startAudioSession token owner told native).2
    refine ⟨starts.tidy, ?_, ?_, ?_⟩
    · intro hfp other slot
      obtain ⟨mine, quiet⟩ := starts.held hfp other slot
      exact ⟨mine, same.trans quiet⟩
    · intro other member
      exact starts.written other (same ▸ member)
    · exact (congrArg List.length same).trans_le starts.once

/-- An input of a run without the older calls passes a listener only to start a session. -/
theorem plain_cases {input : Input} (plain : input.legacy = false) :
    input.passed = none ∨ ∃ token owner told native, input = .startAudioSession token owner told native := by
  cases input with
  | startAudioSession token owner told native => exact .inr ⟨token, owner, told, native, rfl⟩
  | startAudioRequest listener native => cases plain
  | startScoCall address listener native => cases plain
  | _ => exact .inl rfl

theorem step_tidy (tidy : Tidy s) {input : Input} (plain : input.legacy = false) : Tidy (s.step input).1 := by
  rcases plain_cases plain with nothing | ⟨token, owner, told, native, rfl⟩
  · exact (step_moves tidy plain nothing).tidy
  · rcases step_start tidy token owner told native with ⟨same, _⟩ | starts
    · rw [same]
      exact tidy
    · exact starts.tidy

theorem tidy_initial : Tidy ({} : BluetoothMedia) := by
  apply Tidy.empty
  intro hfp
  cases hfp <;> rfl

theorem run_tidy (plain : ∀ input ∈ inputs, input.legacy = false) : Tidy (run inputs) := by
  apply @Machine.keeps _ _ _ step {} (fun input => input.legacy = false) Tidy
  · exact fun current input allowed holds => step_tidy holds allowed
  · exact plain
  · exact tidy_initial

/-- A step that does not pass the listener can only keep it or tell it, and tells it in a
callback for the session. -/
theorem step_other (tidy : Tidy s) {input : Input} (plain : input.legacy = false) {told : File}
    (other : input.passed ≠ some told) :
    (∀ hfp, (s.step input).1.listener hfp = some told → s.listener hfp = some told ∧ SameSession s (s.step input).1) ∧
      (told ∈ writes (s.step input).2 → ∃ session, s.audioSession = some session ∧
        s.listener session.hfp = some told ∧ input.callback = some (session.address, session.hfp)) := by
  rcases plain_cases plain with nothing | ⟨token, owner, mine, native, rfl⟩
  · have moves := step_moves tidy plain nothing
    exact ⟨fun hfp => moves.kept hfp told, fun member => (moves.written told member).2⟩
  · have apart : told ≠ mine := by
      intro same
      exact other (congrArg some same.symm)
    rcases step_start tidy token owner mine native with ⟨same, quiet⟩ | starts
    · rw [same, quiet]
      refine ⟨?_, nofun⟩
      intro hfp held
      obtain ⟨session, busy, _⟩ := tidy hfp told held
      exact ⟨held, session, session, busy, busy, rfl, rfl, rfl⟩
    · exact ⟨fun hfp held => absurd (starts.held hfp told held).1 apart,
        fun member => absurd (starts.written told member) apart⟩

/-- The listener waits in no slot but that of a session for this peer and profile. -/
def Tracks (told : File) (about : Option (RawAddress × Bool)) (s : BluetoothMedia) : Prop :=
  ∀ hfp, s.listener hfp = some told → ∃ session, s.audioSession = some session ∧
    about = some (session.address, session.hfp)

theorem step_tracks (tidy : Tidy s) {input : Input} (plain : input.legacy = false) {told : File}
    (other : input.passed ≠ some told) {about : Option (RawAddress × Bool)} (tracks : Tracks told about s) :
    Tracks told about (s.step input).1 := by
  intro hfp held
  obtain ⟨slot, before, now, busy, kept, _, address, profile⟩ := (step_other tidy plain other).1 hfp held
  obtain ⟨session, same, mine⟩ := tracks hfp slot
  rw [busy] at same
  cases same
  exact ⟨now, kept, by rw [mine, address, profile]⟩

/-- A listener that is not passed again stays with its session. -/
theorem state_tracks (tidy : Tidy s) (plain : ∀ input ∈ inputs, input.legacy = false) {told : File}
    (others : ∀ input ∈ inputs, input.passed ≠ some told) {about : Option (RawAddress × Bool)}
    (tracks : Tracks told about s) : Tracks told about (Machine.state step s inputs) := by
  have kept := @Machine.keeps _ _ _ step s (fun input => input.legacy = false ∧ input.passed ≠ some told)
    (fun s => Tidy s ∧ Tracks told about s) (by
      intro current input allowed holds
      exact ⟨step_tidy holds.1 allowed.1, step_tracks holds.1 allowed.1 allowed.2 holds.2⟩)
    inputs (fun input member => ⟨plain input member, others input member⟩) ⟨tidy, tracks⟩
  exact kept.2

/-- Before it is passed, a listener is in no slot. -/
theorem run_unheard (plain : ∀ input ∈ inputs, input.legacy = false) {told : File}
    (others : ∀ input ∈ inputs, input.passed ≠ some told) (hfp : Bool) : (run inputs).listener hfp ≠ some told := by
  have nowhere : Tracks told none ({} : BluetoothMedia) := by
    intro hfp held
    cases hfp <;> cases held
  intro held
  obtain ⟨session, _, impossible⟩ := state_tracks tidy_initial plain others nowhere hfp held
  cases impossible

/-- One if the listener waits in a slot. -/
def held (told : File) (s : BluetoothMedia) : Nat := if ∃ hfp, s.listener hfp = some told then 1 else 0

theorem held_le (told : File) (s : BluetoothMedia) : held told s ≤ 1 := by
  unfold held
  split <;> omega

theorem held_zero {told : File} (absent : ∀ hfp, s.listener hfp ≠ some told) : held told s = 0 := by
  unfold held
  rw [if_neg]
  intro present
  obtain ⟨hfp, waiting⟩ := present
  exact absent hfp waiting

theorem held_mono {told : File} {after : BluetoothMedia}
    (back : ∀ hfp, after.listener hfp = some told → s.listener hfp = some told) : held told after ≤ held told s := by
  by_cases present : ∃ hfp, after.listener hfp = some told
  · obtain ⟨hfp, waiting⟩ := present
    unfold held
    rw [if_pos ⟨hfp, waiting⟩, if_pos ⟨hfp, back hfp waiting⟩]
  · rw [held_zero fun hfp waiting => present ⟨hfp, waiting⟩]
    exact Nat.zero_le _

theorem count_le_one (told : File) {files : List File} (once : files.length ≤ 1) : files.count told ≤ 1 :=
  List.count_le_length.trans once

/-- Telling a listener uses it up. -/
theorem step_budget (tidy : Tidy s) {input : Input} (plain : input.legacy = false) (told : File) :
    (writes (s.step input).2).count told + held told (s.step input).1 ≤
      held told s + (input.passed.toList).count told := by
  rcases plain_cases plain with nothing | ⟨token, owner, mine, native, rfl⟩
  · have moves := step_moves tidy plain nothing
    by_cases written : told ∈ writes (s.step input).2
    · obtain ⟨silent, session, _, waiting, _⟩ := moves.written told written
      have gone : held told (s.step input).1 = 0 := by
        apply held_zero
        intro hfp still
        rw [silent] at still
        cases still
      have before : held told s = 1 := if_pos ⟨session.hfp, waiting⟩
      have single := count_le_one told moves.once
      omega
    · have unwritten := List.count_eq_zero.mpr written
      have kept := held_mono fun hfp still => (moves.kept hfp told still).1
      omega
  · rcases step_start tidy token owner mine native with ⟨same, quiet⟩ | starts
    · rw [same, quiet]
      simp
    · have paid : (Input.passed (.startAudioSession token owner mine native)).toList.count told = [mine].count told := rfl
      rw [paid]
      by_cases ours : told = mine
      · rw [ours, List.count_singleton_self]
        by_cases waiting : ∃ hfp, (s.step (.startAudioSession token owner mine native)).1.listener hfp = some mine
        · obtain ⟨hfp, slot⟩ := waiting
          rw [(starts.held hfp mine slot).2]
          have single := held_le mine (s.step (.startAudioSession token owner mine native)).1
          rw [List.count_nil]
          omega
        · rw [held_zero fun hfp slot => waiting ⟨hfp, slot⟩]
          have single := count_le_one mine starts.once
          omega
      · have unwritten := List.count_eq_zero.mpr fun member => ours (starts.written told member)
        have absent := held_zero fun hfp slot => ours (starts.held hfp told slot).1
        omega

/-- Over a whole run a listener is told at most as often as it was passed. -/
theorem run_budget (plain : ∀ input ∈ inputs, input.legacy = false) (told : File) :
    (writes (effects inputs)).count told ≤ (inputs.filterMap Input.passed).count told := by
  have spent := @Machine.budget _ _ _ step {} (fun input => input.legacy = false) Tidy
    (held told) (fun effects => (writes effects).count told) (fun input => input.passed.toList.count told) rfl
    (fun first second => by rw [writes_append, List.count_append])
    (fun current input allowed holds => step_tidy holds allowed)
    (fun current input allowed holds => step_budget holds allowed told) inputs plain tidy_initial
  have nowhere : held told ({} : BluetoothMedia) = 0 := by
    apply held_zero
    intro hfp
    cases hfp <;> exact nofun
  have passed : (inputs.map fun input => input.passed.toList.count told).sum =
      (inputs.filterMap Input.passed).count told := by
    clear spent plain
    induction inputs with
    | nil => rfl
    | cons input rest ih =>
      rw [List.map_cons, List.sum_cons, ih, List.filterMap_cons]
      cases input.passed with
      | none => simp
      | some file =>
        rw [Option.toList_some, List.count_cons, List.count_cons, List.count_nil]
        omega
  unfold effects
  omega

theorem passed_mem {input : Input} {told : File} (member : input ∈ inputs) (passes : input.passed = some told) :
    told ∈ inputs.filterMap Input.passed := List.mem_filterMap.mpr ⟨input, member, passes⟩

/-- Where each call passes a listener of its own, one listener is passed in one place. -/
theorem passed_once {early late : List Input} {start : Input} {told : File}
    (moved : ((early ++ start :: late).filterMap Input.passed).Nodup) (passes : start.passed = some told) :
    (∀ input ∈ early, input.passed ≠ some told) ∧ ∀ input ∈ late, input.passed ≠ some told := by
  rw [List.filterMap_append, List.filterMap_cons_some passes] at moved
  obtain ⟨_, tail, apart⟩ := List.nodup_append.mp moved
  constructor
  · intro input member again
    exact apart told (passed_mem member again) told List.mem_cons_self rfl
  · intro input member again
    exact (List.nodup_cons.mp tail).1 (passed_mem member again)

/-- The session of an accepted start tracks its listener. -/
theorem accepted_tracks {token : Nat} {owner : String} {told : File} {native : Native}
    {session : AudioSession} (busy : s.audioSession = some session)
    (accepted : (s.startAudioSession token owner told native).2 = true) :
    Tracks told (some (session.address, session.hfp)) (s.step (.startAudioSession token owner told native)).1 ∧
      ∀ byte, .write told byte ∈ (s.step (.startAudioSession token owner told native)).2 →
        byte = 1 ∧ session.hfp = false ∧ s.a2dpAudioState.get session.address = some .started := by
  rw [step_startAudioSession]
  rcases startAudioSession_cases s token owner told native with ⟨_, refused⟩ | ⟨same, found, _, _, outcome⟩
  · rw [refused] at accepted
    cases accepted
  · obtain ⟨mine, _⟩ := startable_iff.mp found
    rw [busy] at mine
    cases mine
    rcases outcome with ⟨_, started⟩ | ⟨refused, _⟩
    · constructor
      · intro hfp _
        exact ⟨_, started.running, rfl⟩
      · intro byte written
        have really : .write told byte ∈ (s.startAudioSession token owner told native).1.2 := by
          rcases List.mem_append.mp written with effect | answer
          · exact effect
          · cases List.mem_singleton.mp answer
        rcases started.listener with ⟨_, quiet⟩ | ⟨_, _, acknowledged, profile, state⟩
        · have impossible := mem_writes really
          rw [quiet] at impossible
          cases impossible
        · exact ⟨acknowledged byte really, profile, state⟩
    · rw [accepted] at refused
      cases refused

/-- Whoever tells a listener of an accepted start is a callback for its session, or the
start itself, where the stream was running before. -/
theorem told_by {early late : List Input} {token : Nat} {owner : String} {told : File} {native : Native}
    {session : AudioSession} (plain : ∀ input ∈ inputs, input.legacy = false)
    (moved : (inputs.filterMap Input.passed).Nodup)
    (here : inputs = early ++ .startAudioSession token owner told native :: late)
    (accepted : ((run early).startAudioSession token owner told native).2 = true)
    (busy : (run early).audioSession = some session) {middle rest : List Input} {input : Input} {byte : UInt8}
    (place : inputs = middle ++ input :: rest) (written : .write told byte ∈ ((run middle).step input).2) :
    input.callback = some (session.address, session.hfp) ∨
      (middle = early ∧ input = .startAudioSession token owner told native ∧ byte = 1 ∧ session.hfp = false ∧
        (run early).a2dpAudioState.get session.address = some .started) := by
  have allowed : ∀ part : List Input, (∀ other ∈ part, other ∈ inputs) → ∀ other ∈ part, other.legacy = false :=
    fun part inside other member => plain other (inside other member)
  have quiet : ∀ other ∈ middle, other.legacy = false := by
    apply allowed middle
    intro other member
    rw [place]
    exact List.mem_append_left _ member
  have tidy := run_tidy quiet
  have unlegacy : input.legacy = false := plain input (by simp [place])
  obtain ⟨before, after⟩ := @passed_once early late (.startAudioSession token owner told native) told (here ▸ moved) rfl
  rcases Machine.places (here.symm.trans place) with ⟨between, rfl, rfl⟩ | ⟨rfl, rfl, rfl⟩ | ⟨between, rfl, rfl⟩
  · left
    have fresh : ∀ other ∈ between, other.passed ≠ some told := by
      intro other member
      exact after other (List.mem_append_left _ member)
    have started : Tidy (run early) := by
      apply run_tidy
      intro other member
      exact quiet other (List.mem_append_left _ member)
    have tracked : Tracks told (some (session.address, session.hfp))
        (run (early ++ .startAudioSession token owner told native :: between)) := by
      rw [run_append, Machine.state_cons]
      apply state_tracks
      · exact step_tidy started rfl
      · exact fun other member => quiet other (by simp [member])
      · exact fresh
      · exact (accepted_tracks busy accepted).1
    obtain ⟨owning, held, waiting, callback⟩ :=
      (step_other tidy unlegacy (after input (by simp))).2 (mem_writes written)
    obtain ⟨same, again, mine⟩ := tracked _ waiting
    rw [held] at again
    cases again
    exact callback.trans mine.symm
  · right
    exact ⟨rfl, rfl, (accepted_tracks busy accepted).2 byte written⟩
  · exfalso
    have earlier : ∀ other ∈ middle, other.passed ≠ some told := by
      intro other member
      exact before other (List.mem_append_left _ member)
    obtain ⟨_, _, waiting, _⟩ := (step_other tidy unlegacy (before input (by simp))).2 (mem_writes written)
    exact run_unheard quiet earlier _ waiting

/-- A reservation is refused for reasons of its own, never for a listener left behind. -/
theorem reserve_refused (tidy : Tidy s) (address : RawAddress) (hfp : Bool) (owner : String) :
    (s.reserveAudioSession address hfp owner).2 = 0 ↔
      s.initialized = false ∨ owner = "" ∨ s.audioSession.isSome ∨ s.hfpAudioBusy ∨ s.a2dpAudioBusy address hfp ∨
        s.profileConnected address hfp = false ∨ 2 ^ 64 ≤ s.nextAudioToken + 1 := by
  unfold reserveAudioSession
  cases busy : s.audioSession with
  | some session => simp
  | none =>
    have hfpSilent : s.hfpAudioConnectionListener = none := tidy.idle busy true
    have a2dpSilent : s.a2dpAudioConnectionListener = none := tidy.idle busy false
    rw [hfpSilent, a2dpSilent]
    by_cases room : s.nextAudioToken + 1 < 2 ^ 64
    · rw [if_pos room, eq_false (not_le.mpr room)]
      split
      next refused => simpa [or_assoc] using refused
      next granted =>
        simp only [Nat.add_eq_zero_iff, one_ne_zero, and_false, false_iff]
        simpa [or_assoc] using granted
    · rw [if_neg room, ite_self, eq_true (not_lt.mp room)]
      simp

/-- In every run without the older calls a listener is held only for the started session of
its profile, and is told once at most, by a callback for that session or by its own start. A
free service holds none, so none can get in the way of the next reservation. -/
theorem listeners_never_leak (plain : ∀ input ∈ inputs, input.legacy = false)
    (moved : (inputs.filterMap Input.passed).Nodup) :
    (∀ hfp told, (run inputs).listener hfp = some told → ∃ session, (run inputs).audioSession = some session ∧
        session.hfp = hfp ∧ session.started = true ∧ session.stopping = false) ∧
      (∀ early token owner told native late session,
        inputs = early ++ .startAudioSession token owner told native :: late →
        ((run early).startAudioSession token owner told native).2 = true → (run early).audioSession = some session →
        (writes (effects inputs)).count told ≤ 1 ∧
        ∀ middle input rest byte, inputs = middle ++ input :: rest → .write told byte ∈ ((run middle).step input).2 →
          input.callback = some (session.address, session.hfp) ∨
            (middle = early ∧ input = .startAudioSession token owner told native ∧ byte = 1 ∧ session.hfp = false ∧
              (run early).a2dpAudioState.get session.address = some .started)) ∧
      ((run inputs).audioSession = none → ∀ hfp, (run inputs).listener hfp = none) ∧
      ∀ address hfp owner, ((run inputs).reserveAudioSession address hfp owner).2 = 0 ↔
        (run inputs).initialized = false ∨ owner = "" ∨ (run inputs).audioSession.isSome ∨ (run inputs).hfpAudioBusy ∨
          (run inputs).a2dpAudioBusy address hfp ∨ (run inputs).profileConnected address hfp = false ∨
          2 ^ 64 ≤ (run inputs).nextAudioToken + 1 := by
  have tidy := run_tidy plain
  refine ⟨tidy, ?_, tidy.idle, reserve_refused tidy⟩
  intro early token owner told native late session here accepted busy
  constructor
  · exact (run_budget plain told).trans (List.nodup_iff_count_le_one.mp moved told)
  · intro middle input rest byte place written
    exact told_by plain moved here accepted busy place written

/-- A headset that streams already is leased and started. -/
def runningStream : List Input :=
  [.initialized, .a2dpConnectionState 1 .connected, .a2dpAudioState 1 .started, .reserveAudioSession 1 false ":1.7"]

def startRunning : Input := .startAudioSession 1 ":1.7" 3 ⟨true, true, true⟩

theorem running_stream_lease : (writes (effects (runningStream ++ [startRunning]))).count 3 ≤ 1 := by
  have plain : ∀ input ∈ runningStream ++ [startRunning], input.legacy = false := by decide
  have moved : ((runningStream ++ [startRunning]).filterMap Input.passed).Nodup := by decide
  have session : (run runningStream).audioSession = some { token := 1, address := 1, hfp := false, owner := ":1.7" } := by
    decide +kernel
  have leased := (listeners_never_leak plain moved).2.1 runningStream 1 ":1.7" 3 ⟨true, true, true⟩ [] _ rfl
    (by decide +kernel) session
  exact leased.1

/-- Its listener is told by the start itself, not by a callback. -/
theorem told_by_start : ¬ ∀ inputs : List Input, (∀ input ∈ inputs, input.legacy = false) →
    (inputs.filterMap Input.passed).Nodup → ∀ early input late told byte, inputs = early ++ input :: late →
      .write told byte ∈ ((run early).step input).2 → ∃ session, (run early).audioSession = some session ∧
        input.callback = some (session.address, session.hfp) := by
  intro claimed
  have told := claimed (runningStream ++ [startRunning]) (by decide) (by decide) runningStream startRunning [] 3 1 rfl
    (by decide +kernel)
  obtain ⟨session, _, callback⟩ := told
  cases callback

end FlossDesktop.Media.BluetoothMedia
