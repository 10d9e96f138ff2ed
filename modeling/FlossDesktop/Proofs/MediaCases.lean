import FlossDesktop.Media

/-! What the operations of the media service do to the lease: the session and the two
listeners. Everything else they touch is bookkeeping about the peers. -/

namespace FlossDesktop.Media.BluetoothMedia

open ScoPcm (RawAddress)

variable {s after : BluetoothMedia}

def listener (s : BluetoothMedia) (hfp : Bool) : Option File :=
  if hfp then s.hfpAudioConnectionListener else s.a2dpAudioConnectionListener

/-- The lease is untouched. -/
structure SameLease (s after : BluetoothMedia) : Prop where
  session : after.audioSession = s.audioSession
  listener : ∀ hfp, after.listener hfp = s.listener hfp

theorem SameLease.refl (s : BluetoothMedia) : SameLease s s := ⟨rfl, fun _ => rfl⟩

theorem SameLease.trans {middle : BluetoothMedia} (first : SameLease s middle) (last : SameLease middle after) :
    SameLease s after := ⟨last.session.trans first.session, fun hfp => (last.listener hfp).trans (first.listener hfp)⟩

/-- The session is a given one, and the listener of one profile is gone. -/
structure Silenced (s after : BluetoothMedia) (session : Option AudioSession) (hfp : Bool) : Prop where
  session : after.audioSession = session
  silent : after.listener hfp = none
  other : ∀ profile, profile ≠ hfp → after.listener profile = s.listener profile

/-- The call into the native stack that ends a session. -/
def stopEffect (session : AudioSession) : Effect :=
  if session.hfp then .disconnectAudio session.address else .stopAudioForPeer session.address

/-- A cancellation finds no session, ends a reservation, or begins to stop a session. -/
theorem cancelAudioSession_cases (s : BluetoothMedia) (token : Nat) :
    ((∀ session, s.audioSession = some session → session.token ≠ token) ∧ s.cancelAudioSession token = (s, [])) ∨
      ∃ session, s.audioSession = some session ∧ session.token = token ∧
        ((session.started = false ∧ s.cancelAudioSession token = ({ s with audioSession := none }, [])) ∨
          (session.started = true ∧ (s.cancelAudioSession token).2 = [stopEffect session] ∧
            Silenced s (s.cancelAudioSession token).1 (some { session with stopping := true }) session.hfp)) := by
  unfold cancelAudioSession
  cases held : s.audioSession with
  | none =>
    left
    exact ⟨nofun, rfl⟩
  | some session =>
    by_cases ours : session.token = token
    · right
      refine ⟨session, rfl, ours, ?_⟩
      have found : (some session).filter (·.token == token) = some session := if_pos (beq_iff_eq.mpr ours)
      rw [found]
      dsimp only
      cases started : session.started with
      | false =>
        left
        exact ⟨rfl, if_pos rfl⟩
      | true =>
        right
        rw [if_neg (Bool.noConfusion ·)]
        unfold stopEffect
        cases profile : session.hfp with
        | false =>
          rw [if_neg (Bool.noConfusion ·)]
          refine ⟨rfl, rfl, rfl, rfl, ?_⟩
          intro other apart
          cases other with
          | false => exact absurd rfl apart
          | true => rfl
        | true =>
          rw [if_pos rfl]
          refine ⟨rfl, rfl, rfl, rfl, ?_⟩
          intro other apart
          cases other with
          | false => rfl
          | true => exact absurd rfl apart
    · left
      refine ⟨?_, by simp [Option.filter, ours]⟩
      intro other same
      cases same
      exact ours

theorem sessionMatches_iff {address : RawAddress} {hfp : Bool} : s.sessionMatches address hfp = true ↔
    ∃ session, s.audioSession = some session ∧ session.address = address ∧ session.hfp = hfp := by
  unfold sessionMatches
  cases s.audioSession <;> simp

/-- A report about the audio state is for another session, ends the session, or repeats its
cancellation. -/
theorem audioSessionState_cases (s : BluetoothMedia) (address : RawAddress) (hfp terminal : Bool) :
    s.audioSessionState address hfp terminal = (s, []) ∧
        (terminal = true → ∀ session, s.audioSession = some session → ¬ (session.address = address ∧ session.hfp = hfp)) ∨
      ∃ session, s.audioSession = some session ∧ session.address = address ∧ session.hfp = hfp ∧
        (terminal = true ∧ s.audioSessionState address hfp terminal = ({ s with audioSession := none }, []) ∨
          terminal = false ∧ session.stopping = true ∧
            s.audioSessionState address hfp terminal = s.cancelAudioSession session.token) := by
  unfold audioSessionState
  cases matched : s.sessionMatches address hfp with
  | false =>
    left
    refine ⟨if_pos rfl, ?_⟩
    intro _ session held about
    have present := sessionMatches_iff.mpr ⟨session, held, about⟩
    rw [matched] at present
    cases present
  | true =>
    obtain ⟨session, held, same, profile⟩ := sessionMatches_iff.mp matched
    cases terminal with
    | true =>
      right
      exact ⟨session, held, same, profile, .inl ⟨rfl, by simp⟩⟩
    | false =>
      cases stopping : session.stopping with
      | false =>
        left
        refine ⟨by simp [held, Option.filter, stopping], nofun⟩
      | true =>
        right
        exact ⟨session, held, same, profile, .inr ⟨rfl, stopping, by simp [held, Option.filter, stopping]⟩⟩

/-- A listener is told only what concerns the session, and only once. -/
theorem notify_cases (s : BluetoothMedia) (address : RawAddress) (hfp : Bool) (byte : UInt8) :
    s.notify address hfp byte = (s, []) ∧ ((∀ session, s.audioSession = some session →
        session.hfp = hfp ∧ session.address = address) → s.listener hfp = none) ∨
      ∃ told, s.listener hfp = some told ∧ (∀ session, s.audioSession = some session →
        session.hfp = hfp ∧ session.address = address) ∧ (s.notify address hfp byte).2 = [.write told byte] ∧
        Silenced s (s.notify address hfp byte).1 s.audioSession hfp := by
  unfold notify
  split
  next other =>
    left
    refine ⟨rfl, ?_⟩
    intro about
    exfalso
    cases held : s.audioSession with
    | none => simp [held] at other
    | some session =>
      have same := about session held
      simp [held, same.1, same.2] at other
  next about =>
    have concerns : ∀ session, s.audioSession = some session → session.hfp = hfp ∧ session.address = address := by
      intro session held
      simpa [held] using about
    cases hfp with
    | false =>
      cases told : s.a2dpAudioConnectionListener with
      | none =>
        left
        exact ⟨rfl, fun _ => told⟩
      | some told' =>
        right
        refine ⟨told', told, concerns, rfl, rfl, rfl, ?_⟩
        intro profile apart
        cases profile with
        | false => exact absurd rfl apart
        | true => rfl
    | true =>
      cases told : s.hfpAudioConnectionListener with
      | none =>
        left
        exact ⟨rfl, fun _ => told⟩
      | some told' =>
        right
        refine ⟨told', told, concerns, rfl, rfl, rfl, ?_⟩
        intro profile apart
        cases profile with
        | false => rfl
        | true => exact absurd rfl apart

/-- The listeners that are written. -/
def writes (effects : List Effect) : List File :=
  effects.filterMap fun effect => match effect with
    | .write listener _ => some listener
    | _ => none

@[simp] theorem writes_append (first second : List Effect) : writes (first ++ second) = writes first ++ writes second :=
  List.filterMap_append

theorem mem_writes {told : File} {byte : UInt8} {effects : List Effect} (written : .write told byte ∈ effects) :
    told ∈ writes effects := List.mem_filterMap.mpr ⟨_, written, rfl⟩

theorem writes_stopEffect (session : AudioSession) : writes [stopEffect session] = [] := by
  unfold stopEffect
  split <;> rfl

/-- The starts that are asked of the native stack for one peer. -/
def starts (effects : List Effect) : List (RawAddress × Bool) :=
  effects.filterMap fun effect => match effect with
    | .connectAudio address => some (address, true)
    | .startAudioForPeer address => some (address, false)
    | _ => none

@[simp] theorem starts_append (first second : List Effect) : starts (first ++ second) = starts first ++ starts second :=
  List.filterMap_append

/-- A start for at most this peer and profile, which leaves the lease alone. -/
structure Attempt (s : BluetoothMedia) (result : Result) (address : RawAddress) (hfp : Bool) : Prop where
  lease : SameLease s result.1
  token : result.1.nextAudioToken = s.nextAudioToken
  a2dp : result.1.a2dpAudioState = s.a2dpAudioState
  writes : writes result.2 = []
  starts : starts result.2 = [] ∨ starts result.2 = [(address, hfp)]

theorem startScoTransport_attempt (s : BluetoothMedia) (address : RawAddress) (native : Native) :
    Attempt s (s.startScoTransport address native).1 address true := by
  unfold startScoTransport
  split
  · exact ⟨.refl s, rfl, rfl, rfl, .inl rfl⟩
  · split
    · exact ⟨.refl s, rfl, rfl, rfl, .inl rfl⟩
    · split
      · exact ⟨.refl s, rfl, rfl, rfl, .inl rfl⟩
      · split
        · exact ⟨.refl s, rfl, rfl, rfl, .inr rfl⟩
        · exact ⟨⟨rfl, fun _ => rfl⟩, rfl, rfl, rfl, .inr rfl⟩

/-- The listener takes its slot, whatever was in it. -/
def armed (s : BluetoothMedia) (hfp : Bool) (told : File) : BluetoothMedia :=
  if hfp then { s with hfpAudioConnectionListener := some told } else { s with a2dpAudioConnectionListener := some told }

theorem armed_session (s : BluetoothMedia) (hfp : Bool) (told : File) : (s.armed hfp told).audioSession = s.audioSession := by
  cases hfp <;> rfl

theorem armed_listener (s : BluetoothMedia) (hfp : Bool) (told : File) : (s.armed hfp told).listener hfp = some told := by
  cases hfp <;> rfl

theorem armed_other (s : BluetoothMedia) {hfp other : Bool} (told : File) (apart : other ≠ hfp) :
    (s.armed hfp told).listener other = s.listener other := by
  cases hfp <;> cases other <;> first | rfl | exact absurd rfl apart

theorem armed_token (s : BluetoothMedia) (hfp : Bool) (told : File) :
    (s.armed hfp told).nextAudioToken = s.nextAudioToken ∧ (s.armed hfp told).a2dpAudioState = s.a2dpAudioState := by
  cases hfp <;> exact ⟨rfl, rfl⟩

theorem startNative_attempt (s : BluetoothMedia) (address : RawAddress) (hfp : Bool) (told : File) (native : Native) :
    Attempt (s.armed hfp told) (s.startNative address hfp told native).1 address hfp := by
  unfold startNative
  cases hfp with
  | false => exact ⟨.refl _, rfl, rfl, rfl, .inr rfl⟩
  | true =>
    have sco := startScoTransport_attempt (s.armed true told) address { native with parsed := true }
    exact ⟨sco.lease, sco.token, sco.a2dp, sco.writes, sco.starts⟩

/-- The stream was running already, and its listener hears so from the start itself. -/
structure Acknowledged (s : BluetoothMedia) (result : Result) (address : RawAddress) (hfp : Bool) (told : File) : Prop where
  effects : result.2 = [.write told 1]
  silenced : Silenced s result.1 s.audioSession hfp
  profile : hfp = false
  started : s.a2dpAudioState.get address = some .started

theorem acknowledge_cases (s : BluetoothMedia) (address : RawAddress) (hfp : Bool) (native : Native) {told : File}
    (held : s.listener hfp = some told) :
    s.acknowledge address hfp native = (s, []) ∨ Acknowledged s (s.acknowledge address hfp native) address hfp told := by
  unfold acknowledge
  split
  next running =>
    obtain ⟨rfl, started, _⟩ := running
    right
    have slot : s.a2dpAudioConnectionListener = some told := held
    rw [slot]
    refine ⟨rfl, ⟨rfl, rfl, ?_⟩, rfl, started⟩
    intro other apart
    cases other with
    | false => exact absurd rfl apart
    | true => rfl
  · exact .inl rfl

theorem acknowledge_token (s : BluetoothMedia) (address : RawAddress) (hfp : Bool) (native : Native) :
    (s.acknowledge address hfp native).1.nextAudioToken = s.nextAudioToken := by
  unfold acknowledge
  split
  · split <;> rfl
  · rfl

theorem startable_iff {token : Nat} {owner : String} {session : AudioSession} :
    s.startable token owner = some session ↔ s.audioSession = some session ∧ session.token = token ∧
      session.owner = owner ∧ session.started = false ∧ session.stopping = false := by
  unfold startable sessionOwner
  rw [Option.filter_eq_some_iff]
  constructor
  · intro found
    obtain ⟨held, rest⟩ := found
    rw [held] at rest
    simpa [held, and_assoc] using rest
  · intro found
    obtain ⟨held, rest⟩ := found
    refine ⟨held, ?_⟩
    simpa [held, and_assoc] using rest

/-- A start that the native stack accepted. The listener waits in its slot, or has been
told that the stream runs. -/
structure Accepted (s : BluetoothMedia) (result : Result) (session : AudioSession) (told : File) : Prop where
  running : result.1.audioSession = some { session with started := true }
  other : ∀ profile, profile ≠ session.hfp → result.1.listener profile = s.listener profile
  listener : (result.1.listener session.hfp = some told ∧ writes result.2 = []) ∨
    (result.1.listener session.hfp = none ∧ writes result.2 = [told] ∧
      (∀ byte, .write told byte ∈ result.2 → byte = 1) ∧ session.hfp = false ∧
      s.a2dpAudioState.get session.address = some .started)

/-- A start that the native stack refused. Nothing of the session is left. -/
structure Refused (result : Result) : Prop where
  ended : result.1.audioSession = none
  listener : ∀ hfp, result.1.listener hfp = none
  writes : writes result.2 = []

/-- What a start of a session does. -/
theorem startAudioSession_cases (s : BluetoothMedia) (token : Nat) (owner : String) (told : File) (native : Native) :
    s.startable token owner = none ∧ s.startAudioSession token owner told native = ((s, []), false) ∨
      ∃ session, s.startable token owner = some session ∧
        (s.startAudioSession token owner told native).1.1.nextAudioToken = s.nextAudioToken ∧
        (starts (s.startAudioSession token owner told native).1.2 = [] ∨
          starts (s.startAudioSession token owner told native).1.2 = [(session.address, session.hfp)]) ∧
        ((s.startAudioSession token owner told native).2 = true ∧
            Accepted s (s.startAudioSession token owner told native).1 session told ∨
          (s.startAudioSession token owner told native).2 = false ∧
            Refused (s.startAudioSession token owner told native).1) := by
  unfold startAudioSession
  cases found : s.startable token owner with
  | none => exact .inl ⟨rfl, rfl⟩
  | some session =>
    right
    refine ⟨session, rfl, ?_⟩
    dsimp only
    generalize marking : { s with audioSession := some { session with started := true } } = marked
    have owned : marked.audioSession = some { session with started := true } := by rw [← marking]
    have before : marked.nextAudioToken = s.nextAudioToken ∧ marked.a2dpAudioState = s.a2dpAudioState := by
      rw [← marking]
      exact ⟨rfl, rfl⟩
    have slots : ∀ hfp, marked.listener hfp = s.listener hfp := by
      rw [← marking]
      exact fun _ => rfl
    have attempt := startNative_attempt marked session.address session.hfp told native
    obtain ⟨tokens, states⟩ := armed_token marked session.hfp told
    generalize marked.startNative session.address session.hfp told native = started at attempt
    have heard : started.1.1.listener session.hfp = some told := by
      rw [attempt.lease.listener]
      exact armed_listener marked session.hfp told
    have running : started.1.1.audioSession = some { session with started := true } := by
      rw [attempt.lease.session, armed_session, owned]
    have elsewhere : ∀ profile, profile ≠ session.hfp → started.1.1.listener profile = s.listener profile := by
      intro profile apart
      rw [attempt.lease.listener, armed_other marked told apart, slots]
    split
    next accepted =>
      rcases acknowledge_cases started.1.1 session.address session.hfp native heard with same | acknowledged
      · unfold andThen
        dsimp only
        rw [same]
        refine ⟨(attempt.token.trans tokens).trans before.1, ?_, .inl ⟨rfl, running, elsewhere, .inl ⟨heard, ?_⟩⟩⟩
        · simpa using attempt.starts
        · simpa using attempt.writes
      · have tokens_ := acknowledge_token started.1.1 session.address session.hfp native
        unfold andThen
        dsimp only
        generalize started.1.1.acknowledge session.address session.hfp native = acked at acknowledged tokens_
        refine ⟨((tokens_.trans attempt.token).trans tokens).trans before.1, ?_, .inl ⟨rfl, ?_, ?_, .inr ?_⟩⟩
        · rw [acknowledged.effects, starts_append]
          simpa [starts] using attempt.starts
        · rw [acknowledged.silenced.session, running]
        · intro profile apart
          rw [acknowledged.silenced.other profile apart, elsewhere profile apart]
        · have state : s.a2dpAudioState.get session.address = some .started := by
            rw [← before.2, ← states, ← attempt.a2dp]
            exact acknowledged.started
          refine ⟨acknowledged.silenced.silent, ?_, ?_, acknowledged.profile, state⟩
          · rw [acknowledged.effects, writes_append, attempt.writes]
            rfl
          · intro byte written
            rw [acknowledged.effects] at written
            rcases List.mem_append.mp written with early | late
            · have impossible := mem_writes early
              rw [attempt.writes] at impossible
              cases impossible
            · cases List.mem_singleton.mp late
              rfl
    next refused =>
      refine ⟨(attempt.token.trans tokens).trans before.1, attempt.starts, .inr ⟨rfl, rfl, ?_, attempt.writes⟩⟩
      intro hfp
      cases hfp <;> rfl

end FlossDesktop.Media.BluetoothMedia
