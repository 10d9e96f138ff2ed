import FlossDesktop.Proofs.PairingCases

/-! When the calls of the pairing half were made. Between two changes of the daemon every
new call is of the present epoch, and a change leaves all outstanding calls behind. -/

namespace FlossDesktop.Pairing.Backend

/-- The daemon is the same, and what is outstanding was so before or has just been sent. A
call keeps its place when it returns. -/
structure Timely (s after : Backend) : Prop where
  epoch : after.epoch = s.epoch
  longer : s.calls.length ≤ after.calls.length
  calls : ∀ index call, after.calls[index]? = some call →
    (∃ old, s.calls[index]? = some old ∧ old.epoch = call.epoch) ∨ s.calls.length ≤ index ∧ call.epoch = s.epoch
  checks : ∀ check ∈ after.checks, check ∈ s.checks ∨ check.epoch = s.epoch

variable {s after middle : Backend}

/-- Nothing is sent. -/
theorem timely_idle (epoch : after.epoch = s.epoch) (calls : after.calls = s.calls) (checks : after.checks = s.checks) :
    Timely s after where
  epoch := epoch
  longer := by rw [calls]
  calls := by
    rw [calls]
    exact fun index call found => .inl ⟨call, found, rfl⟩
  checks := by
    rw [checks]
    exact fun check member => .inl member

theorem Timely.refl (s : Backend) : Timely s s := timely_idle rfl rfl rfl

theorem Timely.trans (first : Timely s middle) (last : Timely middle after) : Timely s after where
  epoch := last.epoch.trans first.epoch
  longer := first.longer.trans last.longer
  calls := by
    intro index call found
    rcases last.calls index call found with ⟨old, inside, same⟩ | ⟨new, now⟩
    · rw [← same]
      exact first.calls index old inside
    · exact .inr ⟨first.longer.trans new, now.trans first.epoch⟩
  checks := by
    intro check member
    rcases last.checks check member with old | now
    · exact first.checks check old
    · exact .inr (now.trans first.epoch)

theorem fail_timely (s : Backend) (message : String) : Timely s (s.fail message) := timely_idle rfl rfl rfl

theorem uncache_timely (s : Backend) (address : String) : Timely s (s.uncache address) := timely_idle rfl rfl rfl

theorem present_timely (s : Backend) (shown : Option Prompt) : Timely s (s.present shown) := by
  unfold present pairingChanged
  cases shown with
  | none => exact timely_idle rfl rfl rfl
  | some shown => exact timely_idle rfl rfl rfl

theorem pairingChanged_timely (s : Backend) : Timely s s.pairingChanged := by
  unfold pairingChanged
  split
  · exact .refl s
  · exact timely_idle rfl rfl rfl

theorem showCachedPairing_timely (s : Backend) : Timely s s.showCachedPairing := by
  unfold showCachedPairing
  split
  · exact .refl s
  · split
    · exact .refl s
    · next request _ =>
      refine ⟨rfl, le_rfl, fun index call found => .inl ⟨call, found, rfl⟩, ?_⟩
      intro check member
      rcases List.mem_append.mp member with old | new
      · exact .inl old
      · cases List.mem_singleton.mp new
        exact .inr rfl

theorem clearPairing_timely (s : Backend) (address : String) : Timely s (s.clearPairing address) := by
  unfold clearPairing
  dsimp only
  apply Timely.trans _ (showCachedPairing_timely _)
  split
  · exact (uncache_timely s address).trans (present_timely _ none)
  · exact uncache_timely s address

theorem acquirePairing_timely (s : Backend) (registered : Bool) : Timely s (s.acquirePairing registered) := by
  unfold acquirePairing
  split
  · exact .refl s
  · dsimp only
    split
    · exact (timely_idle rfl rfl rfl : Timely s { s with pairingOwner := registered }).trans (showCachedPairing_timely _)
    · exact timely_idle rfl rfl rfl

theorem attachPairingView_timely (s : Backend) (registered : Bool) : Timely s (s.attachPairingView registered) := by
  unfold attachPairingView
  dsimp only
  apply Timely.trans _ (pairingChanged_timely _)
  exact (timely_idle rfl rfl rfl : Timely s { s with pairingViews := s.pairingViews ++ [s.nextView], nextView := s.nextView + 1 }).trans
    (acquirePairing_timely _ registered)

theorem detachPairingView_timely (s : Backend) (view : Nat) : Timely s (s.detachPairingView view) := by
  unfold detachPairingView
  dsimp only
  apply Timely.trans _ (pairingChanged_timely _)
  split
  · exact timely_idle rfl rfl rfl
  · exact timely_idle rfl rfl rfl

theorem call_timely (s : Backend) (address : String) (token : Nat) (method : Method) :
    Timely s (s.call address token method) := by
  unfold call
  split
  · exact fail_timely s _
  · refine ⟨rfl, ?_, ?_, fun check member => .inl member⟩
    · dsimp only
      rw [List.length_append]
      omega
    · intro index call found
      rcases Nat.lt_or_ge index s.calls.length with old | new
      · rw [List.getElem?_append_left old] at found
        exact .inl ⟨call, found, rfl⟩
      · rw [List.getElem?_append_right new] at found
        cases List.mem_singleton.mp (List.mem_of_getElem? found)
        exact .inr ⟨new, rfl⟩

theorem cancelPairing_timely (s : Backend) (token : Nat) : Timely s (s.cancelPairing token) := by
  unfold cancelPairing
  split
  · exact .refl s
  · split
    · exact .refl s
    · have noted : Timely s { s with cancelled := s.cancelled ++ [token] } := timely_idle rfl rfl rfl
      dsimp only
      split
      · exact noted.trans (present_timely _ _)
      · exact (noted.trans (present_timely _ _)).trans (call_timely _ _ _ _)

theorem cancelReturned_timely (s : Backend) (address : String) (token : Nat) (outcome : Outcome) :
    Timely s (s.cancelReturned address token outcome) := by
  unfold cancelReturned
  split
  · exact .refl s
  · split
    · exact .refl s
    · split
      · exact clearPairing_timely s address
      · exact (fail_timely s _).trans (present_timely _ _)

theorem answerPairing_timely (s : Backend) (token : Nat) (accept : Bool) (pin : String) :
    Timely s (s.answerPairing token accept pin) := by
  unfold answerPairing
  split
  · exact .refl s
  · split
    · exact .refl s
    · split
      · exact cancelPairing_timely s token
      · split
        · exact .refl s
        · split
          · exact fail_timely s _
          · exact present_timely s _
          · exact (present_timely s _).trans (call_timely _ _ _ _)

theorem answerReturned_timely (s : Backend) (token : Nat) (outcome : Outcome) : Timely s (s.answerReturned token outcome) := by
  unfold answerReturned
  split
  · exact .refl s
  · next shown _ =>
    split
    · exact .refl s
    · have told : Timely s (if outcome = .accepted then s else s.fail (answerFailure outcome)) := by
        split
        · exact .refl s
        · exact fail_timely s _
      dsimp only
      split
      · exact (told.trans (present_timely _ _)).trans (cancelPairing_timely _ _)
      · exact told.trans (present_timely _ _)

theorem replied_timely (s : Backend) (index : Nat) (outcome : Outcome) : Timely s (s.replied index outcome) := by
  unfold replied
  split
  · exact .refl s
  · next call found =>
    split
    · exact .refl s
    · have heard : Timely s { s with calls := s.calls.set index { call with outcome := some outcome } } := by
        refine ⟨rfl, by rw [List.length_set], ?_, fun check member => .inl member⟩
        intro other answered same
        left
        rw [List.getElem?_set] at same
        split at same
        · next here =>
          subst here
          split at same
          · cases same
            exact ⟨call, found, rfl⟩
          · cases same
        · exact ⟨answered, same, rfl⟩
      dsimp only
      split
      · exact heard
      · split
        · exact heard.trans (answerReturned_timely _ _ _)
        · exact heard.trans (cancelReturned_timely _ _ _ _)

theorem bondStateReturned_timely (s : Backend) (index : Nat) (state : Except String Nat) :
    Timely s (s.bondStateReturned index state) := by
  unfold bondStateReturned
  split
  · exact .refl s
  · next ticket _ =>
    have heard : Timely s { s with checks := s.checks.eraseIdx index } :=
      ⟨rfl, le_rfl, fun index call found => .inl ⟨call, found, rfl⟩, fun check member => .inl (List.mem_of_mem_eraseIdx member)⟩
    have validated : ∀ error, Timely s { s with checks := s.checks.eraseIdx index, pairingValidation := false, error } :=
      fun _ => ⟨rfl, le_rfl, heard.calls, heard.checks⟩
    obtain ⟨error, told⟩ := reported_eq { s with checks := s.checks.eraseIdx index } state
    have validated := validated error
    dsimp only
    split
    · exact heard
    · rw [told]
      split
      · exact validated
      · split
        · exact validated.trans (showCachedPairing_timely _)
        · split
          · exact (validated.trans (uncache_timely _ _)).trans (showCachedPairing_timely _)
          · exact validated.trans (present_timely _ _)

theorem prompt_timely (s : Backend) (address : String) (kind : Kind) (code : String) (minimum : Nat) :
    Timely s (s.prompt address kind code minimum) := by
  unfold prompt
  split
  · exact .refl s
  · dsimp only
    split
    · exact timely_idle rfl rfl rfl
    · split
      · exact (timely_idle rfl rfl rfl : Timely s (({ s with
          nextToken := s.nextToken + 1, received := s.received ++ [⟨s.nextToken, address, kind, s.pairingOwner⟩] } : Backend).cache
            _)).trans (timely_idle (present_timely _ _).epoch rfl rfl)
      · exact timely_idle rfl rfl rfl

theorem expire_timely (s : Backend) (index : Nat) : Timely s (s.expire index) := by
  unfold expire
  split
  · exact .refl s
  · next timer _ =>
    have heard : Timely s { s with timers := s.timers.eraseIdx index, fired := s.fired ++ [timer.token] } :=
      timely_idle rfl rfl rfl
    have uncached : ∀ s : Backend, Timely s (s.expireCached timer) := by
      intro s
      unfold expireCached
      split
      · exact uncache_timely s _
      · exact .refl s
    have shown : ∀ s : Backend, Timely s (s.expireShown timer) := by
      intro s
      unfold expireShown
      split
      · exact .refl s
      · next shown _ =>
        split
        · exact .refl s
        · exact (timely_idle rfl rfl rfl : Timely s { s with pairing := some { shown with expired := true } }).trans
            (cancelPairing_timely _ _)
    dsimp only
    split
    · exact heard
    · exact (heard.trans (uncached _)).trans (shown _)

/-- Everything but a change of the daemon. -/
theorem step_timely (s : Backend) (event : Event) (same : ∀ owner, event ≠ .reset owner) : Timely s (s.step event) := by
  have called : ∀ handled : Backend, Timely s handled → Timely s (s.callback handled) := by
    intro handled timely
    unfold callback
    split
    · exact .refl s
    · exact timely
  cases event with
  | sspRequest address variant passkey =>
    apply called
    split
    · exact prompt_timely s _ _ _ _
    · exact prompt_timely s _ _ _ _
    · exact prompt_timely s _ _ _ _
    · exact .refl s
  | pinRequest address min16 => exact called _ (prompt_timely s _ _ _ _)
  | pinDisplay address code => exact called _ (prompt_timely s _ _ _ _)
  | bondStateChanged address state =>
    apply called
    split
    · exact .refl s
    · exact clearPairing_timely s address
  | deviceCleared address => exact called _ (clearPairing_timely s address)
  | attach registered => exact attachPairingView_timely s registered
  | detach view => exact detachPairingView_timely s view
  | unregistered registered => exact acquirePairing_timely s registered
  | answer token accept pin => exact answerPairing_timely s token accept pin
  | replied index outcome => exact replied_timely s index outcome
  | bondState index state => exact bondStateReturned_timely s index state
  | expire index => exact expire_timely s index
  | reset owner => exact absurd rfl (same owner)

/-- The reply to a call of a former daemon shows nothing. -/
theorem replied_past {index : Nat} (outcome : Outcome)
    (past : ∀ call, s.calls[index]? = some call → call.epoch < s.epoch) :
    (s.replied index outcome).pairing = s.pairing ∧ (s.replied index outcome).pairingCache = s.pairingCache := by
  unfold replied
  split
  · exact ⟨rfl, rfl⟩
  · next call found =>
    split
    · exact ⟨rfl, rfl⟩
    · dsimp only
      rw [if_pos (past call found).ne]
      exact ⟨rfl, rfl⟩

theorem bondStateReturned_past {index : Nat} (state : Except String Nat) {check : Ticket} (found : s.checks[index]? = some check)
    (past : check.epoch < s.epoch) :
    (s.bondStateReturned index state).pairing = s.pairing ∧
      (s.bondStateReturned index state).pairingCache = s.pairingCache := by
  unfold bondStateReturned
  rw [found]
  dsimp only
  rw [if_pos past.ne]
  exact ⟨rfl, rfl⟩

end FlossDesktop.Pairing.Backend
