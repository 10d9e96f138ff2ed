import FlossDesktop.Proofs.MediaCases

/-! The listeners of the media service follow its session. A listener is held only for a
started session of its profile, and what takes it out of its slot says so once. -/

namespace FlossDesktop.Media.BluetoothMedia

open ScoPcm (RawAddress)

variable {s after : BluetoothMedia}

/-- Only a started session that nothing stops has a listener. -/
def Tidy (s : BluetoothMedia) : Prop :=
  ∀ hfp told, s.listener hfp = some told → ∃ session, s.audioSession = some session ∧ session.hfp = hfp ∧
    session.started = true ∧ session.stopping = false

theorem Tidy.lease (tidy : Tidy s) (same : SameLease s after) : Tidy after := by
  intro hfp told held
  rw [same.session]
  rw [same.listener] at held
  exact tidy hfp told held

theorem Tidy.idle (tidy : Tidy s) (free : s.audioSession = none) (hfp : Bool) : s.listener hfp = none := by
  cases held : s.listener hfp with
  | none => rfl
  | some told =>
    obtain ⟨session, busy, _⟩ := tidy hfp told held
    rw [free] at busy
    cases busy

theorem Tidy.empty (silent : ∀ hfp, s.listener hfp = none) : Tidy s := by
  intro hfp told held
  rw [silent] at held
  cases held

/-- No listener is held for the profile the session does not use. -/
theorem Tidy.apart (tidy : Tidy s) {session : AudioSession} (held : s.audioSession = some session) {hfp : Bool}
    (other : session.hfp ≠ hfp) : s.listener hfp = none := by
  cases told : s.listener hfp with
  | none => rfl
  | some told' =>
    obtain ⟨same, busy, profile, _⟩ := tidy hfp told' told
    rw [held] at busy
    cases busy
    exact absurd profile other

/-- Once the listener of its own profile is gone, no listener is left. -/
theorem Tidy.silenced (tidy : Tidy s) {session : AudioSession} (held : s.audioSession = some session)
    {now : Option AudioSession} (silenced : Silenced s after now session.hfp) (hfp : Bool) : after.listener hfp = none := by
  by_cases same : hfp = session.hfp
  · rw [same]
    exact silenced.silent
  · rw [silenced.other hfp same]
    exact tidy.apart held (Ne.symm same)

/-- The session is still the one it was. -/
def SameSession (s after : BluetoothMedia) : Prop :=
  ∃ before now, s.audioSession = some before ∧ after.audioSession = some now ∧ now.token = before.token ∧
    now.address = before.address ∧ now.hfp = before.hfp

/-- What a step does to the listeners when it takes no new one. `about` is the peer and
the profile of a callback. -/
structure Moves (s : BluetoothMedia) (about : Option (RawAddress × Bool)) (result : Result) : Prop where
  tidy : Tidy result.1
  kept : ∀ hfp told, result.1.listener hfp = some told → s.listener hfp = some told ∧ SameSession s result.1
  written : ∀ told ∈ writes result.2, (∀ hfp, result.1.listener hfp = none) ∧ ∃ session, s.audioSession = some session ∧
    s.listener session.hfp = some told ∧ about = some (session.address, session.hfp)
  once : (writes result.2).length ≤ 1

variable {about : Option (RawAddress × Bool)} {result : Result}

theorem Moves.same (tidy : Tidy s) (same : SameLease s result.1) (quiet : writes result.2 = []) : Moves s about result where
  tidy := tidy.lease same
  kept hfp told held := by
    rw [same.listener] at held
    obtain ⟨session, busy, _⟩ := tidy hfp told held
    exact ⟨held, session, session, busy, same.session.trans busy, rfl, rfl, rfl⟩
  written told member := by
    rw [quiet] at member
    cases member
  once := by simp [quiet]

theorem Moves.nothing (tidy : Tidy s) : Moves s about (s, []) := .same tidy (.refl s) rfl

theorem Moves.silent (silent : ∀ hfp, result.1.listener hfp = none) (quiet : writes result.2 = []) : Moves s about result where
  tidy := .empty silent
  kept hfp told held := by
    rw [silent] at held
    cases held
  written told member := by
    rw [quiet] at member
    cases member
  once := by simp [quiet]

theorem cancelAudioSession_moves (tidy : Tidy s) (token : Nat) : Moves s about (s.cancelAudioSession token) := by
  rcases cancelAudioSession_cases s token with ⟨_, unchanged⟩ | ⟨session, held, _, ⟨fresh, ended⟩ | ⟨_, stopped, silenced⟩⟩
  · rw [unchanged]
    exact .nothing tidy
  · rw [ended]
    apply Moves.silent
    · intro hfp
      cases told : s.listener hfp with
      | none => exact told
      | some told' =>
        obtain ⟨same, busy, _, started, _⟩ := tidy hfp told' told
        rw [held] at busy
        cases busy
        rw [fresh] at started
        cases started
    · rfl
  · apply Moves.silent
    · exact tidy.silenced held silenced
    · rw [stopped]
      exact writes_stopEffect session

/-- After the listener was told, a report about the same audio writes nothing and leaves
no listener behind that the service has to forget. -/
theorem audioSessionState_moves (tidy : Tidy s) (address : RawAddress) (hfp terminal : Bool)
    (told : terminal = true → ∀ session, s.audioSession = some session → session.address = address → session.hfp = hfp →
      s.listener hfp = none) : Moves s about (s.audioSessionState address hfp terminal) := by
  rcases audioSessionState_cases s address hfp terminal with
    ⟨unchanged, _⟩ | ⟨session, held, same, profile, ⟨final, ended⟩ | ⟨_, _, again⟩⟩
  · rw [unchanged]
    exact .nothing tidy
  · rw [ended]
    apply Moves.silent
    · intro other
      by_cases mine : other = hfp
      · rw [mine]
        exact told final session held same profile
      · exact tidy.apart held (profile ▸ Ne.symm mine)
    · rfl
  · rw [again]
    exact cancelAudioSession_moves tidy session.token

/-- A step follows one that left the lease alone. -/
theorem Moves.after_same {middle : BluetoothMedia} (same : SameLease s middle) (moves : Moves middle about result) :
    Moves s about result where
  tidy := moves.tidy
  kept hfp told held := by
    obtain ⟨before, kept⟩ := moves.kept hfp told held
    rw [same.listener] at before
    unfold SameSession at kept
    rw [same.session] at kept
    exact ⟨before, kept⟩
  written told member := by
    obtain ⟨silent, session, busy, held, callback⟩ := moves.written told member
    rw [same.session] at busy
    rw [same.listener] at held
    exact ⟨silent, session, busy, held, callback⟩
  once := moves.once

/-- A callback tells the listener and reports to the session. -/
theorem heard_moves (tidy : Tidy s) (address : RawAddress) (hfp terminal : Bool) (byte : UInt8)
    (note : BluetoothMedia → BluetoothMedia) (noted : ∀ s, SameLease s (note s)) :
    Moves s (some (address, hfp))
      (andThen (s.notify address hfp byte) fun s => (note s).audioSessionState address hfp terminal) := by
  unfold andThen
  rcases notify_cases s address hfp byte with ⟨unchanged, nobody⟩ | ⟨told, held, concerns, written, silenced⟩
  · rw [unchanged]
    apply Moves.after_same (noted s)
    apply audioSessionState_moves (tidy.lease (noted s))
    intro _ session busy same profile
    rw [(noted s).listener]
    apply nobody
    intro other here
    rw [(noted s).session, here] at busy
    cases busy
    exact ⟨profile, same⟩
  · obtain ⟨session, busy, profile, started, _⟩ := tidy hfp told held
    have taken : Silenced s (s.notify address hfp byte).1 s.audioSession session.hfp := by
      rw [profile]
      exact silenced
    have silent : ∀ other, (note (s.notify address hfp byte).1).listener other = none := by
      intro other
      rw [(noted _).listener]
      exact tidy.silenced busy taken other
    have rest : Moves (note (s.notify address hfp byte).1) none
        ((note (s.notify address hfp byte).1).audioSessionState address hfp terminal) :=
      audioSessionState_moves (.empty silent) address hfp terminal fun _ _ _ _ _ => silent hfp
    have quiet : writes ((note (s.notify address hfp byte).1).audioSessionState address hfp terminal).2 = [] := by
      apply List.eq_nil_iff_forall_not_mem.mpr
      intro other member
      obtain ⟨_, _, _, _, impossible⟩ := rest.written other member
      cases impossible
    have finally_ : ∀ other, ((note (s.notify address hfp byte).1).audioSessionState address hfp terminal).1.listener other =
        none := by
      intro other
      cases left : ((note (s.notify address hfp byte).1).audioSessionState address hfp terminal).1.listener other with
      | none => rfl
      | some kept =>
        have before := (rest.kept other kept left).1
        rw [silent] at before
        cases before
    refine ⟨.empty finally_, ?_, ?_, ?_⟩
    · intro other kept left
      rw [finally_] at left
      cases left
    · intro other member
      dsimp only at member
      rw [writes_append, quiet, written, List.append_nil] at member
      obtain rfl := List.mem_singleton.mp member
      obtain ⟨mine, here⟩ := concerns session busy
      refine ⟨finally_, session, busy, ?_, ?_⟩
      · rw [mine]
        exact held
      · rw [mine, here]
    · dsimp only
      rw [writes_append, quiet, written]
      exact le_rfl

/-- Only the writes among the effects matter here. -/
theorem Moves.writing (moves : Moves s about result) {effects : List Effect} (same : writes effects = writes result.2) :
    Moves s about (result.1, effects) where
  tidy := moves.tidy
  kept := moves.kept
  written := by
    dsimp only
    rw [same]
    exact moves.written
  once := by
    dsimp only
    rw [same]
    exact moves.once

theorem writes_answer (effects : List Effect) (accepted : Bool) : writes (effects ++ [.answer accepted]) = writes effects := by
  rw [writes_append]
  exact List.append_nil _

theorem Moves.reply {answered : Result × Bool} (moves : Moves s about answered.1) : Moves s about (reply answered) :=
  moves.writing (writes_answer answered.1.2 answered.2)

theorem unowned_moves (tidy : Tidy s) {effects : List Effect} (quiet : writes effects = []) :
    Moves s about (s.unowned (s, effects)) := by
  unfold unowned
  split
  · exact .nothing tidy
  · exact .same tidy (.refl s) quiet

theorem unownedAnswer_moves {free : Result × Bool} (tidy : Tidy s) (moves : Moves s about free.1) :
    Moves s about (s.unownedAnswer free).1 := by
  unfold unownedAnswer
  split
  · exact .nothing tidy
  · exact moves

theorem reserveAudioSession_cases (s : BluetoothMedia) (address : RawAddress) (hfp : Bool) (owner : String) :
    s.reserveAudioSession address hfp owner = (s, 0) ∨
      (s.audioSession = none ∧ (∀ profile, s.listener profile = none) ∧ s.nextAudioToken + 1 < 2 ^ 64 ∧
        s.reserveAudioSession address hfp owner =
          ({ s with
              nextAudioToken := s.nextAudioToken + 1
              audioSession := some { token := s.nextAudioToken + 1, address, hfp, owner } }, s.nextAudioToken + 1)) := by
  unfold reserveAudioSession
  split
  · exact .inl rfl
  next free =>
    split
    next room =>
      right
      simp only [Bool.or_eq_true, not_or, Option.isSome_iff_ne_none, not_not] at free
      obtain ⟨⟨⟨⟨⟨⟨⟨_, _⟩, idle⟩, quietHfp⟩, quietA2dp⟩, _⟩, _⟩, _⟩ := free
      refine ⟨idle, ?_, room, rfl⟩
      intro profile
      cases profile with
      | false => exact quietA2dp
      | true => exact quietHfp
    · exact .inl rfl

theorem reserveAudioSession_moves (tidy : Tidy s) (address : RawAddress) (hfp : Bool) (owner : String) :
    Moves s about (replyToken (s.reserveAudioSession address hfp owner)) := by
  unfold replyToken
  rcases reserveAudioSession_cases s address hfp owner with refused | ⟨_, silent, _, granted⟩
  · rw [refused]
    exact .same tidy (.refl s) rfl
  · rw [granted]
    exact .silent silent rfl

theorem stopAudioSession_moves (tidy : Tidy s) (token : Nat) (owner : String) :
    Moves s about (s.stopAudioSession token owner).1 := by
  unfold stopAudioSession
  split
  · exact .nothing tidy
  · split
    · exact .nothing tidy
    · exact cancelAudioSession_moves tidy token

theorem expireAudioReservation_moves (tidy : Tidy s) (token : Nat) : Moves s about (s.expireAudioReservation token) := by
  unfold expireAudioReservation
  split
  · exact cancelAudioSession_moves tidy token
  · exact .nothing tidy

theorem cleanup_moves (initialized : Bool) : Moves s about (s.cleanup initialized) := by
  apply Moves.silent
  · intro hfp
    cases hfp <;> rfl
  · rfl

/-- The calls of the older interface that put a listener into a slot of their own. -/
def Input.legacy : Input → Bool
  | .startAudioRequest _ _ => true
  | .stopAudioRequest _ => true
  | .startScoCall _ _ _ => true
  | .stopScoCall _ _ => true
  | _ => false

/-- The listener that a call passes. -/
def Input.passed : Input → Option File
  | .startAudioSession _ _ listener _ => some listener
  | .startAudioRequest listener _ => some listener
  | .startScoCall _ listener _ => some listener
  | _ => none

theorem step_moves (tidy : Tidy s) {input : Input} (plain : input.legacy = false) (nothing : input.passed = none) :
    Moves s input.callback (s.step input) := by
  cases input with
  | initialized => exact .same tidy ⟨rfl, fun _ => rfl⟩ rfl
  | cleanup initialized => exact cleanup_moves initialized
  | reserveAudioSession address hfp owner => exact reserveAudioSession_moves tidy address hfp owner
  | startAudioSession token owner listener native => cases nothing
  | stopAudioSession token owner => exact (stopAudioSession_moves tidy token owner).reply
  | getA2dpPcmConfig token owner => exact .same tidy (.refl s) rfl
  | getAudioSessionPosition token owner => exact .same tidy (.refl s) rfl
  | expireAudioReservation token => exact expireAudioReservation_moves tidy token
  | cancelAudioSession token => exact cancelAudioSession_moves tidy token
  | startAudioRequest listener native => cases plain
  | stopAudioRequest left => cases plain
  | startScoCall address listener native => cases plain
  | stopScoCall address left => cases plain
  | startAudioRequestImpl native => exact (unownedAnswer_moves tidy (.same tidy (.refl s) rfl)).reply
  | suspendAudioRequestImpl => exact unowned_moves tidy rfl
  | startScoCallImpl address native =>
    apply Moves.reply
    apply unownedAnswer_moves tidy
    have attempt := startScoTransport_attempt s address native
    exact .same tidy attempt.lease attempt.writes
  | stopScoCallImpl address => exact unowned_moves tidy rfl
  | setActiveDevice address =>
    apply unowned_moves tidy
    split <;> rfl
  | resetActiveDevice required =>
    apply unowned_moves tidy
    split <;> rfl
  | setHfpActiveDevice address =>
    apply unowned_moves tidy
    split <;> rfl
  | setAudioConfig address =>
    apply Moves.reply
    apply unownedAnswer_moves tidy
    split
    · exact .nothing tidy
    · exact .same tidy (.refl s) rfl
  | cleanupCall initialized => exact (unownedAnswer_moves tidy (cleanup_moves initialized)).reply
  | a2dpConnectionState address state =>
    cases state with
    | disconnected =>
      exact heard_moves tidy address false true 0
        (fun s => { s with
          a2dpStates := s.a2dpStates.remove address, a2dpAudioState := s.a2dpAudioState.remove address })
        fun _ => ⟨rfl, fun _ => rfl⟩
    | connecting => exact .same tidy ⟨rfl, fun _ => rfl⟩ rfl
    | connected => exact .same tidy ⟨rfl, fun _ => rfl⟩ rfl
    | disconnecting => exact .same tidy ⟨rfl, fun _ => rfl⟩ rfl
  | a2dpAudioState address state =>
    exact heard_moves tidy address false (a2dpStarted state == 0) (a2dpStarted state)
      (fun s => { s with a2dpAudioState := s.a2dpAudioState.insert address state }) fun _ => ⟨rfl, fun _ => rfl⟩
  | hfpConnectionState address state =>
    cases state with
    | disconnected =>
      exact heard_moves tidy address true true 0
        (fun s => { s with hfpStates := s.hfpStates.remove address, hfpAudioState := s.hfpAudioState.remove address })
        fun _ => ⟨rfl, fun _ => rfl⟩
    | connecting => exact .same tidy ⟨rfl, fun _ => rfl⟩ rfl
    | connected => exact .same tidy ⟨rfl, fun _ => rfl⟩ rfl
    | slcConnected => exact .same tidy ⟨rfl, fun _ => rfl⟩ rfl
    | disconnecting => exact .same tidy ⟨rfl, fun _ => rfl⟩ rfl
  | hfpAudioState address codec state =>
    cases state with
    | disconnected =>
      exact heard_moves tidy address true true 0
        (fun s => { s with hfpAudioState := s.hfpAudioState.insert address .disconnected }) fun _ => ⟨rfl, fun _ => rfl⟩
    | connecting => exact .same tidy ⟨rfl, fun _ => rfl⟩ rfl
    | connected =>
      have connected : SameLease s { s with hfpAudioState := s.hfpAudioState.insert address .connected } :=
        ⟨rfl, fun _ => rfl⟩
      apply Moves.after_same connected
      exact heard_moves (tidy.lease connected) address true false codec (fun s => s) SameLease.refl
    | disconnecting => exact .same tidy ⟨rfl, fun _ => rfl⟩ rfl

/-- A session that can be started holds no listener yet. -/
theorem startable_silent (tidy : Tidy s) {token : Nat} {owner : String} {session : AudioSession}
    (found : s.startable token owner = some session) (hfp : Bool) : s.listener hfp = none := by
  obtain ⟨held, _, _, fresh, _⟩ := startable_iff.mp found
  cases told : s.listener hfp with
  | none => rfl
  | some told' =>
    obtain ⟨same, busy, _, started, _⟩ := tidy hfp told' told
    rw [held] at busy
    cases busy
    rw [fresh] at started
    cases started

/-- What a start does to the listeners: the only one that can be held or written
afterwards is the one it brought. -/
structure Starts (s : BluetoothMedia) (result : Result) (told : File) : Prop where
  tidy : Tidy result.1
  held : ∀ hfp other, result.1.listener hfp = some other → other = told ∧ writes result.2 = []
  written : ∀ other ∈ writes result.2, other = told
  once : (writes result.2).length ≤ 1

theorem startAudioSession_starts (tidy : Tidy s) (token : Nat) (owner : String) (told : File) (native : Native)
    (ready : (s.startable token owner).isSome) : Starts s (s.startAudioSession token owner told native).1 told := by
  rcases startAudioSession_cases s token owner told native with ⟨missing, _⟩ | ⟨session, found, _, _, outcome⟩
  · rw [missing] at ready
    cases ready
  · have silent := startable_silent tidy found
    obtain ⟨_, _, _, _, fresh⟩ := startable_iff.mp found
    rcases outcome with ⟨_, accepted⟩ | ⟨_, refused⟩
    · have held : ∀ hfp other, (s.startAudioSession token owner told native).1.1.listener hfp = some other →
          hfp = session.hfp ∧ other = told ∧ writes (s.startAudioSession token owner told native).1.2 = [] := by
        intro hfp other slot
        by_cases mine : hfp = session.hfp
        · rw [mine] at slot
          rcases accepted.listener with ⟨waiting, quiet⟩ | ⟨gone, _⟩
          · rw [waiting] at slot
            cases slot
            exact ⟨mine, rfl, quiet⟩
          · rw [gone] at slot
            cases slot
        · rw [accepted.other hfp mine, silent] at slot
          cases slot
      refine ⟨?_, fun hfp other slot => (held hfp other slot).2, ?_, ?_⟩
      · intro hfp other slot
        exact ⟨_, accepted.running, (held hfp other slot).1.symm, rfl, fresh⟩
      · intro other member
        rcases accepted.listener with ⟨_, quiet⟩ | ⟨_, only, _⟩
        · rw [quiet] at member
          cases member
        · rw [only] at member
          exact List.mem_singleton.mp member
      · rcases accepted.listener with ⟨_, quiet⟩ | ⟨_, only, _⟩
        · simp [quiet]
        · simp [only]
    · refine ⟨.empty refused.listener, ?_, ?_, ?_⟩
      · intro hfp other slot
        rw [refused.listener] at slot
        cases slot
      · intro other member
        rw [refused.writes] at member
        cases member
      · simp [refused.writes]

end FlossDesktop.Media.BluetoothMedia
