import FlossDesktop.Proofs.LeaseListeners

/-! Who owns the audio lease. Tokens only grow, so whatever is delayed with an old token
finds nothing to change; a started session keeps its identity until the native stack
reports that its audio is gone. -/

namespace FlossDesktop.Media.BluetoothMedia

open ScoPcm (RawAddress)

variable {s : BluetoothMedia} {inputs : List Input} {input : Input} {result : Result}

/-- The tokens that were handed out. Zero is a refusal. -/
def tokens (effects : List Effect) : List Nat :=
  effects.filterMap fun effect => match effect with
    | .token token => if token = 0 then none else some token
    | _ => none

@[simp] theorem tokens_append (first second : List Effect) : tokens (first ++ second) = tokens first ++ tokens second :=
  List.filterMap_append

/-- How a step other than a reservation changes the session, and what it asks the native
stack to start. -/
inductive Change (input : Input) (before after : Option AudioSession) (asked : List (RawAddress × Bool)) : Prop where
  | same (kept : after = before) (quiet : asked = [] ∨ before = none)
  | started (session : AudioSession) (held : before = some session) (fresh : session.started = false)
      (call : ∃ told native, input = .startAudioSession session.token session.owner told native)
      (outcome : after = some { session with started := true } ∨ after = none)
      (start : asked = [] ∨ asked = [(session.address, session.hfp)])
  | dropped (session : AudioSession) (held : before = some session) (fresh : session.started = false)
      (gone : after = none) (quiet : asked = [])
  | stopping (session : AudioSession) (held : before = some session) (running : session.started = true)
      (marked : after = some { session with stopping := true }) (quiet : asked = [])
  | ended (session : AudioSession) (held : before = some session)
      (reported : input.terminal = some (session.address, session.hfp)) (gone : after = none) (quiet : asked = [])

structure Stepped (s : BluetoothMedia) (input : Input) (result : Result) : Prop where
  change : Change input s.audioSession result.1.audioSession (starts result.2)
  token : result.1.nextAudioToken = s.nextAudioToken
  none : tokens result.2 = []

theorem Stepped.nothing : Stepped s input (s, []) := ⟨.same rfl (.inl rfl), rfl, rfl⟩

/-- A part of a step that touches neither the session nor the tokens came before. -/
structure Before (s : BluetoothMedia) (result : Result) : Prop where
  session : result.1.audioSession = s.audioSession
  token : result.1.nextAudioToken = s.nextAudioToken
  starts : starts result.2 = []
  none : tokens result.2 = []

theorem Before.stepped (before : Before s result) : Stepped s input result :=
  ⟨.same before.session (.inl before.starts), before.token, before.none⟩

theorem Before.andThen (before : Before s result) {next : BluetoothMedia → Result}
    (rest : Stepped result.1 input (next result.1)) : Stepped s input (BluetoothMedia.andThen result next) where
  change := by
    have change := rest.change
    unfold BluetoothMedia.andThen
    dsimp only
    rw [starts_append, before.starts, List.nil_append]
    rwa [before.session] at change
  token := rest.token.trans before.token
  none := by
    unfold BluetoothMedia.andThen
    dsimp only
    rw [tokens_append, before.none, rest.none, List.append_nil]

theorem stopEffect_quiet (session : AudioSession) : starts [stopEffect session] = [] ∧ tokens [stopEffect session] = [] := by
  unfold stopEffect
  split <;> exact ⟨rfl, rfl⟩

theorem cancelAudioSession_token (s : BluetoothMedia) (token : Nat) :
    (s.cancelAudioSession token).1.nextAudioToken = s.nextAudioToken := by
  unfold cancelAudioSession
  split
  · rfl
  · split
    · rfl
    · dsimp only
      split <;> rfl

theorem cancelAudioSession_stepped (s : BluetoothMedia) (token : Nat) : Stepped s input (s.cancelAudioSession token) := by
  have same := cancelAudioSession_token s token
  rcases cancelAudioSession_cases s token with
    ⟨_, unchanged⟩ | ⟨session, held, _, ⟨fresh, ended⟩ | ⟨running, stopped, silenced⟩⟩
  · rw [unchanged]
    exact .nothing
  · refine ⟨.dropped session held fresh ?_ ?_, same, ?_⟩ <;> rw [ended] <;> rfl
  · obtain ⟨unasked, unreplied⟩ := stopEffect_quiet session
    exact ⟨.stopping session held running silenced.session (stopped ▸ unasked), same, stopped ▸ unreplied⟩

theorem audioSessionState_stepped (s : BluetoothMedia) {address : RawAddress} {hfp terminal : Bool}
    (reported : terminal = true → input.terminal = some (address, hfp)) :
    Stepped s input (s.audioSessionState address hfp terminal) := by
  rcases audioSessionState_cases s address hfp terminal with
    ⟨unchanged, _⟩ | ⟨session, held, rfl, rfl, ⟨final, ended⟩ | ⟨_, _, again⟩⟩
  · rw [unchanged]
    exact .nothing
  · rw [ended]
    exact ⟨.ended session held (reported final) rfl rfl, rfl, rfl⟩
  · rw [again]
    exact cancelAudioSession_stepped s session.token

theorem notify_before (s : BluetoothMedia) (address : RawAddress) (hfp : Bool) (byte : UInt8) :
    Before s (s.notify address hfp byte) := by
  unfold notify
  split
  · exact ⟨rfl, rfl, rfl, rfl⟩
  · split
    · split <;> exact ⟨rfl, rfl, rfl, rfl⟩
    · split <;> exact ⟨rfl, rfl, rfl, rfl⟩

/-- A callback that tells the listener and reports to the session. -/
theorem heard_stepped (s : BluetoothMedia) {address : RawAddress} {hfp terminal : Bool} (byte : UInt8)
    (reported : terminal = true → input.terminal = some (address, hfp)) (note : BluetoothMedia → BluetoothMedia)
    (noted : ∀ s, (note s).audioSession = s.audioSession ∧ (note s).nextAudioToken = s.nextAudioToken) :
    Stepped s input (andThen (s.notify address hfp byte) fun s => (note s).audioSessionState address hfp terminal) := by
  apply (notify_before s address hfp byte).andThen
  obtain ⟨session, token⟩ := noted (s.notify address hfp byte).1
  have rest := audioSessionState_stepped (note (s.notify address hfp byte).1) reported
  have change := rest.change
  rw [session] at change
  exact ⟨change, rest.token.trans token, rest.none⟩

theorem Stepped.reply {answered : Result × Bool} (stepped : Stepped s input answered.1) :
    Stepped s input (reply answered) where
  change := by
    unfold BluetoothMedia.reply
    dsimp only
    rw [starts_append]
    simpa [starts] using stepped.change
  token := stepped.token
  none := by
    unfold BluetoothMedia.reply
    dsimp only
    rw [tokens_append, stepped.none]
    rfl

theorem startScoTransport_tokens (s : BluetoothMedia) (address : RawAddress) (native : Native) :
    tokens (s.startScoTransport address native).1.2 = [] := by
  unfold startScoTransport
  split
  · rfl
  · split
    · rfl
    · split
      · rfl
      · split <;> rfl

/-- A call outside the session is refused where there is one. -/
theorem unowned_stepped {free : Result} (session : s.audioSession = none → free.1.audioSession = none)
    (token : free.1.nextAudioToken = s.nextAudioToken) (none : tokens free.2 = []) :
    Stepped s input (s.unowned free) := by
  unfold unowned
  split
  · exact .nothing
  next idle =>
    have alone : s.audioSession = Option.none := by simpa using idle
    exact ⟨.same ((session alone).trans alone.symm) (.inr alone), token, none⟩

theorem unownedAnswer_stepped {free : Result × Bool} (session : s.audioSession = none → free.1.1.audioSession = none)
    (token : free.1.1.nextAudioToken = s.nextAudioToken) (none : tokens free.1.2 = []) :
    Stepped s input (s.unownedAnswer free).1 := by
  have same : (s.unownedAnswer free).1 = s.unowned free.1 := by
    unfold unownedAnswer unowned
    split <;> rfl
  rw [same]
  exact unowned_stepped session token none

theorem startAudioSession_tokens (s : BluetoothMedia) (token : Nat) (owner : String) (told : File) (native : Native) :
    tokens (s.startAudioSession token owner told native).1.2 = [] := by
  have native_tokens : ∀ (s : BluetoothMedia) (address : RawAddress) (hfp : Bool),
      tokens (s.startNative address hfp told native).1.2 = [] := by
    intro s address hfp
    unfold startNative
    split
    · exact startScoTransport_tokens _ _ _
    · rfl
  have acknowledged : ∀ (s : BluetoothMedia) (address : RawAddress) (hfp : Bool),
      tokens (s.acknowledge address hfp native).2 = [] := by
    intro s address hfp
    unfold acknowledge
    split
    · split <;> rfl
    · rfl
  unfold startAudioSession
  split
  · rfl
  · dsimp only
    split
    · unfold andThen
      dsimp only
      rw [tokens_append, native_tokens, acknowledged]
      rfl
    · exact native_tokens _ _ _

theorem startAudioSession_stepped (s : BluetoothMedia) (token : Nat) (owner : String) (told : File) (native : Native) :
    Stepped s (.startAudioSession token owner told native) (s.startAudioSession token owner told native).1 := by
  have none := startAudioSession_tokens s token owner told native
  rcases startAudioSession_cases s token owner told native with ⟨_, refused⟩ | ⟨session, found, same, start, outcome⟩
  · rw [refused]
    exact .nothing
  · obtain ⟨held, rfl, rfl, fresh, _⟩ := startable_iff.mp found
    refine ⟨.started session held fresh ⟨told, native, rfl⟩ ?_ start, same, none⟩
    rcases outcome with ⟨_, accepted⟩ | ⟨_, refused⟩
    · exact .inl accepted.running
    · exact .inr refused.ended

theorem startScoTransport_session (s : BluetoothMedia) (address : RawAddress) (native : Native) :
    (s.startScoTransport address native).1.1.audioSession = s.audioSession ∧
      (s.startScoTransport address native).1.1.nextAudioToken = s.nextAudioToken :=
  have attempt := startScoTransport_attempt s address native
  ⟨attempt.lease.session, attempt.token⟩

theorem startAudioRequest_stepped (s : BluetoothMedia) (listener : File) (native : Native) :
    Stepped s input (s.startAudioRequest listener native).1 := by
  unfold startAudioRequest
  split
  · exact .nothing
  next free =>
    have alone : s.audioSession = none := by
      simp only [Bool.or_eq_true, not_or, Option.isSome_iff_ne_none, not_not] at free
      exact free.1
    unfold startAudioRequestImpl unownedAnswer
    simp only [alone, Option.isSome_none, Bool.false_eq_true, if_false]
    split <;> exact ⟨.same alone.symm (.inr alone), rfl, rfl⟩

theorem startScoCall_stepped (s : BluetoothMedia) (address : RawAddress) (listener : File) (native : Native) :
    Stepped s input (s.startScoCall address listener native).1 := by
  unfold startScoCall
  split
  · exact .nothing
  next free =>
    have alone : s.audioSession = none := by simpa using free
    split
    · exact .nothing
    · obtain ⟨session, token⟩ :=
        startScoTransport_session { s with hfpAudioConnectionListener := some listener } address native
      have none := startScoTransport_tokens { s with hfpAudioConnectionListener := some listener } address native
      have same : BluetoothMedia.startScoCallImpl { s with hfpAudioConnectionListener := some listener } address native =
          BluetoothMedia.startScoTransport { s with hfpAudioConnectionListener := some listener } address native := by
        unfold startScoCallImpl unownedAnswer
        exact if_neg (by simp [alone])
      rw [same]
      dsimp only
      split <;> exact ⟨.same session (.inr alone), token, none⟩

/-- The cleanup of the daemon itself, which drops the lease whoever holds it. -/
def Input.shutdown : Input → Bool
  | .cleanup _ => true
  | _ => false

def Input.reserves : Input → Bool
  | .reserveAudioSession _ _ _ => true
  | _ => false

theorem step_stepped (s : BluetoothMedia) {input : Input} (alive : input.shutdown = false)
    (other : input.reserves = false) : Stepped s input (s.step input) := by
  have quiet : ∀ effects, tokens effects = [] → Stepped s input (s.unowned (s, effects)) :=
    fun effects none => unowned_stepped id rfl none
  cases input with
  | initialized => exact ⟨.same rfl (.inl rfl), rfl, rfl⟩
  | cleanup initialized => cases alive
  | reserveAudioSession address hfp owner => cases other
  | startAudioSession token owner told native => exact (startAudioSession_stepped s token owner told native).reply
  | stopAudioSession token owner =>
    apply Stepped.reply
    unfold stopAudioSession
    split
    · exact .nothing
    · split
      · exact .nothing
      · exact cancelAudioSession_stepped s token
  | getA2dpPcmConfig token owner => exact ⟨.same rfl (.inl rfl), rfl, rfl⟩
  | getAudioSessionPosition token owner => exact ⟨.same rfl (.inl rfl), rfl, rfl⟩
  | expireAudioReservation token =>
    have step : s.step (.expireAudioReservation token) = s.expireAudioReservation token := rfl
    rw [step]
    unfold expireAudioReservation
    split
    · exact cancelAudioSession_stepped s token
    · exact .nothing
  | cancelAudioSession token => exact cancelAudioSession_stepped s token
  | startAudioRequest listener native => exact (startAudioRequest_stepped s listener native).reply
  | stopAudioRequest left => exact unowned_stepped id rfl rfl
  | startScoCall address listener native => exact (startScoCall_stepped s address listener native).reply
  | stopScoCall address left => exact unowned_stepped id rfl rfl
  | startAudioRequestImpl native =>
    apply Stepped.reply
    exact unownedAnswer_stepped id rfl rfl
  | suspendAudioRequestImpl => exact quiet _ rfl
  | startScoCallImpl address native =>
    obtain ⟨session, token⟩ := startScoTransport_session s address native
    exact (unownedAnswer_stepped session.trans token (startScoTransport_tokens s address native)).reply
  | stopScoCallImpl address => exact quiet _ rfl
  | setActiveDevice address =>
    apply quiet
    split <;> rfl
  | resetActiveDevice required =>
    apply quiet
    split <;> rfl
  | setHfpActiveDevice address =>
    apply quiet
    split <;> rfl
  | setAudioConfig address =>
    apply Stepped.reply
    apply unownedAnswer_stepped
    · split <;> exact id
    · split <;> rfl
    · split <;> rfl
  | cleanupCall initialized =>
    apply Stepped.reply
    exact unownedAnswer_stepped (fun _ => rfl) rfl rfl
  | a2dpConnectionState address state =>
    cases state with
    | disconnected =>
      exact heard_stepped s 0 (fun _ => rfl) (fun s => { s with
          a2dpStates := s.a2dpStates.remove address, a2dpAudioState := s.a2dpAudioState.remove address })
        fun _ => ⟨rfl, rfl⟩
    | _ => exact ⟨.same rfl (.inl rfl), rfl, rfl⟩
  | a2dpAudioState address state =>
    apply heard_stepped s (a2dpStarted state) _
      (fun s => { s with a2dpAudioState := s.a2dpAudioState.insert address state }) fun _ => ⟨rfl, rfl⟩
    intro gone
    exact if_pos (beq_iff_eq.mp gone)
  | hfpConnectionState address state =>
    cases state with
    | disconnected =>
      exact heard_stepped s 0 (fun _ => rfl) (fun s => { s with
          hfpStates := s.hfpStates.remove address, hfpAudioState := s.hfpAudioState.remove address })
        fun _ => ⟨rfl, rfl⟩
    | _ => exact ⟨.same rfl (.inl rfl), rfl, rfl⟩
  | hfpAudioState address codec state =>
    cases state with
    | disconnected =>
      exact heard_stepped s 0 (fun _ => rfl) (fun s => { s with
        hfpAudioState := s.hfpAudioState.insert address .disconnected }) fun _ => ⟨rfl, rfl⟩
    | connected =>
      have unreported : false = true →
          Input.terminal (.hfpAudioState address codec .connected) = some (address, true) := nofun
      have heard := heard_stepped { s with hfpAudioState := s.hfpAudioState.insert address .connected } codec unreported
        (fun s => s) fun _ => ⟨rfl, rfl⟩
      exact ⟨heard.change, heard.token, heard.none⟩
    | _ => exact ⟨.same rfl (.inl rfl), rfl, rfl⟩

/-- A reservation is granted with the next token, where the service is free. -/
theorem step_reserves (s : BluetoothMedia) (input : Input) (reserves : input.reserves = true) :
    ((s.step input).1 = s ∧ tokens (s.step input).2 = []) ∧ starts (s.step input).2 = [] ∨
      ∃ address hfp owner, input = .reserveAudioSession address hfp owner ∧ s.audioSession = none ∧
        (s.reserveAudioSession address hfp owner).2 = s.nextAudioToken + 1 ∧
        (s.step input).1.audioSession = some { token := s.nextAudioToken + 1, address, hfp, owner } ∧
        (s.step input).1.nextAudioToken = s.nextAudioToken + 1 ∧ tokens (s.step input).2 = [s.nextAudioToken + 1] ∧
        starts (s.step input).2 = [] := by
  cases input with
  | reserveAudioSession address hfp owner =>
    have step : s.step (.reserveAudioSession address hfp owner) =
        replyToken (s.reserveAudioSession address hfp owner) := rfl
    rw [step]
    unfold replyToken
    rcases reserveAudioSession_cases s address hfp owner with refused | ⟨free, _, _, granted⟩
    · left
      rw [refused]
      exact ⟨⟨rfl, rfl⟩, rfl⟩
    · right
      refine ⟨address, hfp, owner, rfl, free, ?_⟩
      rw [granted]
      exact ⟨rfl, rfl, rfl, rfl, rfl⟩
  | _ => cases reserves

/-- No step lowers the counter of tokens, and a token that is handed out is above it. -/
theorem step_tokens (s : BluetoothMedia) (input : Input) :
    (tokens (s.step input).2 = [] ∧ (s.step input).1.nextAudioToken = s.nextAudioToken) ∨
      (tokens (s.step input).2 = [s.nextAudioToken + 1] ∧ (s.step input).1.nextAudioToken = s.nextAudioToken + 1) := by
  cases reserves : input.reserves with
  | true =>
    rcases step_reserves s input reserves with ⟨⟨same, none⟩, _⟩ | ⟨_, _, _, _, _, _, _, next, granted, _⟩
    · exact .inl ⟨none, by rw [same]⟩
    · exact .inr ⟨granted, next⟩
  | false =>
    cases down : input.shutdown with
    | false =>
      have stepped := step_stepped s down reserves
      exact .inl ⟨stepped.none, stepped.token⟩
    | true =>
      cases input with
      | cleanup initialized => exact .inl ⟨rfl, rfl⟩
      | _ => cases down

theorem tokens_increase (s : BluetoothMedia) (inputs : List Input) :
    (tokens (Machine.outputs step s inputs)).Pairwise (· < ·) ∧
      ∀ token ∈ tokens (Machine.outputs step s inputs), s.nextAudioToken < token := by
  induction inputs generalizing s with
  | nil => exact ⟨.nil, nofun⟩
  | cons input rest ih =>
    obtain ⟨sorted, above⟩ := ih (s.step input).1
    rw [Machine.outputs_cons, tokens_append]
    rcases step_tokens s input with ⟨none, same⟩ | ⟨granted, next⟩
    · rw [none, List.nil_append]
      rw [same] at above
      exact ⟨sorted, above⟩
    · rw [granted, List.singleton_append]
      rw [next] at above
      refine ⟨.cons above sorted, ?_⟩
      intro token member
      rcases List.mem_cons.mp member with rfl | later
      · exact Nat.lt_succ_self _
      · exact (Nat.lt_succ_self _).trans (above token later)

/-- The delayed messages and the stop that name a token. -/
def Input.names (token : Nat) : Input → Bool
  | .expireAudioReservation other => other == token
  | .cancelAudioSession other => other == token
  | .stopAudioSession other _ => other == token
  | _ => false

/-- Whoever comes with the token of another session changes nothing. -/
theorem stale_token {session : AudioSession} (held : s.audioSession = some session) {token : Nat}
    (stale : session.token ≠ token) {input : Input} (names : input.names token = true) : (s.step input).1 = s := by
  have cancelled : s.cancelAudioSession token = (s, []) := by
    rcases cancelAudioSession_cases s token with ⟨_, unchanged⟩ | ⟨same, busy, ours, _⟩
    · exact unchanged
    · rw [held] at busy
      cases busy
      exact absurd ours stale
  cases input with
  | expireAudioReservation other =>
    obtain rfl := beq_iff_eq.mp names
    have step : s.step (.expireAudioReservation other) = s.expireAudioReservation other := rfl
    rw [step]
    unfold expireAudioReservation
    rw [cancelled, ite_self]
  | cancelAudioSession other =>
    obtain rfl := beq_iff_eq.mp names
    exact congrArg Prod.fst cancelled
  | stopAudioSession other owner =>
    obtain rfl := beq_iff_eq.mp names
    have ignored : s.stopAudioSession other owner = ((s, []), true) := by
      unfold stopAudioSession
      exact if_pos (by simp [held, stale])
    have step : s.step (.stopAudioSession other owner) = reply (s.stopAudioSession other owner) := rfl
    rw [step, ignored]
    rfl
  | _ => cases names

/-- Both are the same session, at different times. -/
structure Same (session now : AudioSession) : Prop where
  token : now.token = session.token
  address : now.address = session.address
  hfp : now.hfp = session.hfp
  owner : now.owner = session.owner

/-- A step that leaves a session leaves the one there was, or one it has reserved. -/
theorem step_session (s : BluetoothMedia) {input : Input} (alive : input.shutdown = false) {now : AudioSession}
    (held : (s.step input).1.audioSession = some now) :
    (∃ session, s.audioSession = some session ∧ Same session now ∧ (session.started = true → now.started = true)) ∨
      (s.audioSession = none ∧ now.started = false ∧ now.token = s.nextAudioToken + 1 ∧
        input = .reserveAudioSession now.address now.hfp now.owner ∧
        (s.reserveAudioSession now.address now.hfp now.owner).2 = now.token) := by
  cases reserves : input.reserves with
  | true =>
    rcases step_reserves s input reserves with ⟨⟨same, _⟩, _⟩ | ⟨address, hfp, owner, rfl, free, reply, new, _⟩
    · rw [same] at held
      exact .inl ⟨now, held, ⟨rfl, rfl, rfl, rfl⟩, id⟩
    · rw [new] at held
      cases held
      exact .inr ⟨free, rfl, rfl, rfl, reply⟩
  | false =>
    left
    cases (step_stepped s alive reserves).change with
    | same kept quiet =>
      rw [kept] at held
      exact ⟨now, held, ⟨rfl, rfl, rfl, rfl⟩, id⟩
    | started session busy fresh call outcome start =>
      rcases outcome with running | refused
      · rw [running] at held
        cases held
        exact ⟨session, busy, ⟨rfl, rfl, rfl, rfl⟩, fun _ => rfl⟩
      · rw [refused] at held
        cases held
    | dropped session busy fresh gone quiet =>
      rw [gone] at held
      cases held
    | stopping session busy running marked quiet =>
      rw [marked] at held
      cases held
      exact ⟨session, busy, ⟨rfl, rfl, rfl, rfl⟩, id⟩
    | ended session busy reported gone quiet =>
      rw [gone] at held
      cases held

/-- The session was reserved with its token for this peer, profile and owner. -/
def Reserved (inputs : List Input) (session : AudioSession) : Prop :=
  ∃ first rest, inputs = first ++ .reserveAudioSession session.address session.hfp session.owner :: rest ∧
    ((run first).reserveAudioSession session.address session.hfp session.owner).2 = session.token

theorem alive_append {first second : List Input} (alive : ∀ input ∈ first ++ second, input.shutdown = false) :
    (∀ input ∈ first, input.shutdown = false) ∧ ∀ input ∈ second, input.shutdown = false :=
  List.forall_mem_append.mp alive

/-- Every session was reserved in its run, and its token is within those handed out. -/
theorem run_reserved (alive : ∀ input ∈ inputs, input.shutdown = false) {session : AudioSession}
    (held : (run inputs).audioSession = some session) :
    Reserved inputs session ∧ session.token ≤ (run inputs).nextAudioToken := by
  induction inputs using List.reverseRecOn generalizing session with
  | nil => cases held
  | append_singleton front input ih =>
    obtain ⟨before, last⟩ := alive_append alive
    have counted : (run front).nextAudioToken ≤ (run (front ++ [input])).nextAudioToken := by
      rw [run_concat]
      rcases step_tokens (run front) input with ⟨_, same⟩ | ⟨_, next⟩ <;> omega
    rw [run_concat] at held
    rcases step_session (run front) (last input (by simp)) held with
      ⟨earlier, busy, same, _⟩ | ⟨_, _, token, reservation, reply⟩
    · obtain ⟨⟨first, rest, divided, granted⟩, bound⟩ := ih before busy
      rw [← same.address, ← same.hfp, ← same.owner, ← same.token] at granted
      rw [← same.address, ← same.hfp, ← same.owner] at divided
      refine ⟨⟨first, rest ++ [input], by rw [divided, List.append_assoc]; rfl, granted⟩, ?_⟩
      rw [same.token]
      exact bound.trans counted
    · refine ⟨⟨front, [], by rw [reservation], reply⟩, ?_⟩
      rw [run_concat]
      rcases step_reserves (run front) input (by rw [reservation]; rfl) with
        ⟨⟨unchanged, _⟩, _⟩ | ⟨_, _, _, _, _, _, _, next, _⟩
      · rw [unchanged] at held ⊢
        exact (ih before held).2
      · omega

/-- The native start of this token is over: its session, if it is still there, has started. -/
def Spent (token : Nat) (s : BluetoothMedia) : Prop :=
  token ≤ s.nextAudioToken ∧ ∀ session, s.audioSession = some session → session.token = token → session.started = true

theorem step_spent {token : Nat} (spent : Spent token s) {input : Input} (alive : input.shutdown = false) :
    Spent token (s.step input).1 := by
  constructor
  · rcases step_tokens s input with ⟨_, same⟩ | ⟨_, next⟩
    · exact same ▸ spent.1
    · exact next ▸ spent.1.trans (Nat.le_succ _)
  · intro now held mine
    rcases step_session s alive held with ⟨session, busy, same, started⟩ | ⟨_, _, fresh, _⟩
    · exact started (spent.2 session busy (same.token.symm.trans mine))
    · have bound := spent.1
      omega

/-- A native start while there is a session is the start of that session, asked for by
its owner with its token. -/
theorem step_asks {session : AudioSession} (held : s.audioSession = some session) {input : Input}
    (alive : input.shutdown = false) (asked : starts (s.step input).2 ≠ []) :
    session.started = false ∧ (∃ told native, input = .startAudioSession session.token session.owner told native) ∧
      starts (s.step input).2 = [(session.address, session.hfp)] ∧
      ∀ now, (s.step input).1.audioSession = some now → now.started = true := by
  cases reserves : input.reserves with
  | true =>
    rcases step_reserves s input reserves with ⟨_, quiet⟩ | ⟨_, _, _, _, free, _⟩
    · exact absurd quiet asked
    · rw [free] at held
      cases held
  | false =>
    cases (step_stepped s alive reserves).change with
    | same kept quiet =>
      rcases quiet with quiet | free
      · exact absurd quiet asked
      · rw [free] at held
        cases held
    | started same busy fresh call outcome start =>
      rw [held] at busy
      cases busy
      refine ⟨fresh, call, start.resolve_left asked, ?_⟩
      intro now left
      rcases outcome with running | refused
      · rw [running] at left
        cases left
        rfl
      · rw [refused] at left
        cases left
    | dropped same busy fresh gone quiet => exact absurd quiet asked
    | stopping same busy running marked quiet => exact absurd quiet asked
    | ended same busy reported gone quiet => exact absurd quiet asked

/-- The session has started, and nothing has reported its end. -/
def Owned (session : AudioSession) (s : BluetoothMedia) : Prop :=
  ∃ now, s.audioSession = some now ∧ Same session now ∧ now.started = true

theorem step_owned {session : AudioSession} (owned : Owned session s) {input : Input} (alive : input.shutdown = false)
    (unreported : input.terminal ≠ some (session.address, session.hfp)) : Owned session (s.step input).1 := by
  obtain ⟨now, held, same, running⟩ := owned
  cases reserves : input.reserves with
  | true =>
    rcases step_reserves s input reserves with ⟨⟨kept, _⟩, _⟩ | ⟨_, _, _, _, free, _⟩
    · rw [kept]
      exact ⟨now, held, same, running⟩
    · rw [free] at held
      cases held
  | false =>
    cases (step_stepped s alive reserves).change with
    | same kept quiet => exact ⟨now, kept.trans held, same, running⟩
    | started other busy fresh call outcome start =>
      rw [held] at busy
      cases busy
      rw [fresh] at running
      cases running
    | dropped other busy fresh gone quiet =>
      rw [held] at busy
      cases busy
      rw [fresh] at running
      cases running
    | stopping other busy running' marked quiet =>
      rw [held] at busy
      cases busy
      exact ⟨_, marked, ⟨same.token, same.address, same.hfp, same.owner⟩, running⟩
    | ended other busy reported gone quiet =>
      rw [held] at busy
      cases busy
      rw [same.address, same.hfp] at reported
      exact absurd reported unreported

/-- The calls that do not come from the owner of a session. -/
def Input.outside : Input → Bool
  | .startAudioRequest _ _ => true
  | .stopAudioRequest _ => true
  | .startScoCall _ _ _ => true
  | .stopScoCall _ _ => true
  | .startAudioRequestImpl _ => true
  | .suspendAudioRequestImpl => true
  | .startScoCallImpl _ _ => true
  | .stopScoCallImpl _ => true
  | .setActiveDevice _ => true
  | .resetActiveDevice _ => true
  | .setHfpActiveDevice _ => true
  | .setAudioConfig _ => true
  | .cleanupCall _ => true
  | _ => false

/-- Where there is a session, all that such a call does is to be refused. -/
theorem outside_refused (busy : s.audioSession.isSome) {input : Input} (outside : input.outside = true) :
    s.step input = (s, []) ∨ s.step input = (s, [.answer false]) := by
  have ignored : ∀ free, s.unowned free = (s, []) := fun _ => if_pos busy
  have refused : ∀ free, s.unownedAnswer free = ((s, []), false) := fun _ => if_pos busy
  have answered : ∀ {answered : Result × Bool}, answered = ((s, []), false) → reply answered = (s, [.answer false]) := by
    intro _ same
    rw [same]
    rfl
  cases input with
  | startAudioRequest listener native => exact .inr (answered (if_pos (by simp [busy])))
  | stopAudioRequest left => exact .inl (ignored _)
  | startScoCall address listener native => exact .inr (answered (if_pos busy))
  | stopScoCall address left => exact .inl (ignored _)
  | startAudioRequestImpl native => exact .inr (answered (refused _))
  | suspendAudioRequestImpl => exact .inl (ignored _)
  | startScoCallImpl address native => exact .inr (answered (refused _))
  | stopScoCallImpl address => exact .inl (ignored _)
  | setActiveDevice address => exact .inl (ignored _)
  | resetActiveDevice required => exact .inl (ignored _)
  | setHfpActiveDevice address => exact .inl (ignored _)
  | setAudioConfig address => exact .inr (answered (refused _))
  | cleanupCall initialized => exact .inr (answered (refused _))
  | _ => cases outside

/-- The lease in every run. Tokens only increase, and an old one changes nothing. A native
start while there is a session is its own, comes from its owner, and comes once. From an
accepted start until the native stack reports the end of that audio, the session stays, no
reservation is granted and nobody else gets through. -/
theorem lease_exclusive (alive : ∀ input ∈ inputs, input.shutdown = false) :
    (tokens (effects inputs)).Pairwise (· < ·) ∧
      (∀ session token input, (run inputs).audioSession = some session → session.token ≠ token →
        input.names token = true → ((run inputs).step input).1 = run inputs) ∧
      (∀ early input late session, inputs = early ++ input :: late → (run early).audioSession = some session →
        starts ((run early).step input).2 ≠ [] →
        Reserved early session ∧
        (∃ told native, input = .startAudioSession session.token session.owner told native) ∧
        starts ((run early).step input).2 = [(session.address, session.hfp)] ∧
        ∀ middle other rest later, late = middle ++ other :: rest →
          (run (early ++ input :: middle)).audioSession = some later → later.token = session.token →
          starts ((run (early ++ input :: middle)).step other).2 = []) ∧
      ∀ early token owner told native late session,
        inputs = early ++ .startAudioSession token owner told native :: late →
        ((run early).startAudioSession token owner told native).2 = true → (run early).audioSession = some session →
        (∀ input ∈ late, input.terminal ≠ some (session.address, session.hfp)) →
        Owned session (run inputs) ∧
        (∀ address hfp owner, (run inputs).reserveAudioSession address hfp owner = (run inputs, 0)) ∧
        ∀ input, input.outside = true →
          (run inputs).step input = (run inputs, []) ∨ (run inputs).step input = (run inputs, [.answer false]) := by
  refine ⟨(tokens_increase {} inputs).1, fun session token input held stale names => stale_token held stale names, ?_, ?_⟩
  · intro early input late session here held asked
    rw [here] at alive
    obtain ⟨before, after⟩ := alive_append alive
    obtain ⟨reserved, bound⟩ := run_reserved before held
    obtain ⟨fresh, call, start, running⟩ := step_asks held (after input List.mem_cons_self) asked
    refine ⟨reserved, call, start, ?_⟩
    intro middle other rest later there busy mine
    have spent : Spent session.token ((run early).step input).1 := by
      constructor
      · rcases step_tokens (run early) input with ⟨_, same⟩ | ⟨_, next⟩ <;> omega
      · exact fun now left _ => running now left
    have kept : Spent session.token (run (early ++ input :: middle)) := by
      rw [run_append, Machine.state_cons]
      apply @Machine.keeps _ _ _ step _ (fun input => input.shutdown = false)
      · exact fun current input allowed holds => step_spent holds allowed
      · exact fun input member => after input (by simp [there, member])
      · exact spent
    by_contra again
    obtain ⟨unstarted, _⟩ := step_asks busy (after other (by simp [there])) again
    rw [kept.2 later busy mine] at unstarted
    cases unstarted
  · intro early token owner told native late session here accepted held unreported
    have owned : Owned session (run inputs) := by
      rw [here] at alive ⊢
      obtain ⟨_, after⟩ := alive_append alive
      rw [run_append, Machine.state_cons]
      apply @Machine.keeps _ _ _ step _
        (fun input => input.shutdown = false ∧ input.terminal ≠ some (session.address, session.hfp))
      · exact fun current input allowed holds => step_owned holds allowed.1 allowed.2
      · exact fun input member => ⟨after input (List.mem_cons_of_mem _ member), unreported input member⟩
      · rcases startAudioSession_cases (run early) token owner told native with ⟨_, refused⟩ | ⟨same, found, _, _, outcome⟩
        · rw [refused] at accepted
          cases accepted
        · obtain ⟨mine, _⟩ := startable_iff.mp found
          rw [held] at mine
          cases mine
          rcases outcome with ⟨_, started⟩ | ⟨refused, _⟩
          · exact ⟨_, started.running, ⟨rfl, rfl, rfl, rfl⟩, rfl⟩
          · rw [accepted] at refused
            cases refused
    have ⟨now, busy, _⟩ := owned
    have taken : (run inputs).audioSession.isSome := by
      rw [busy]
      rfl
    refine ⟨owned, ?_, fun input outside => outside_refused taken outside⟩
    intro address hfp owner
    rcases reserveAudioSession_cases (run inputs) address hfp owner with refused | ⟨free, _⟩
    · exact refused
    · rw [busy] at free
      cases free

theorem lease_of_running_stream : Owned { token := 1, address := 1, hfp := false, owner := ":1.7" }
    (run (runningStream ++ [startRunning, .cancelAudioSession 1, .setActiveDevice 2])) := by
  have alive : ∀ input ∈ runningStream ++ [startRunning, .cancelAudioSession 1, .setActiveDevice 2],
      input.shutdown = false := by decide
  have session : (run runningStream).audioSession = some { token := 1, address := 1, hfp := false, owner := ":1.7" } := by
    decide +kernel
  have leased := (lease_exclusive alive).2.2.2 runningStream 1 ":1.7" 3 ⟨true, true, true⟩ _ _ rfl (by decide +kernel)
    session (by decide)
  exact leased.1

end FlossDesktop.Media.BluetoothMedia
