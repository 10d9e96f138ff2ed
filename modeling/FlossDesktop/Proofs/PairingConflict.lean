import FlossDesktop.Proofs.PairingCases

/-! Answers and cancellations of one prompt exclude each other as long as the prompt
that is shown remembers the call it waits for. Only the prompt shown remembers it; the
cached copy does not. -/

namespace FlossDesktop.Pairing.Backend

variable {s after : Backend}

/-- How many calls for a prompt wait for their reply. -/
def awaitingReply (s : Backend) (token : Nat) : Nat :=
  s.calls.countP fun call => call.token == token && call.outcome.isNone

structure Exclusive (s : Backend) : Prop where
  calls : ∀ call ∈ s.calls, call.token < s.nextToken
  cancelled : ∀ token ∈ s.cancelled, token < s.nextToken
  live : ∀ prompt, Live s prompt → prompt.token < s.nextToken
  single : ∀ token, s.awaitingReply token ≤ 1
  busy : ∀ prompt, s.pairing = some prompt → s.awaitingReply prompt.token ≠ 0 → prompt.pending = true
  requested : ∀ prompt, s.pairing = some prompt → prompt.token ∈ s.cancelled → prompt.cancelRequested = true

theorem awaitingReply_congr (same : after.calls = s.calls) (token : Nat) :
    after.awaitingReply token = s.awaitingReply token := by
  unfold awaitingReply
  rw [same]

theorem awaitingReply_fresh (bounded : ∀ call ∈ s.calls, call.token < s.nextToken) {token : Nat}
    (fresh : s.nextToken ≤ token) : s.awaitingReply token = 0 := by
  unfold awaitingReply
  rw [List.countP_eq_zero]
  intro call member
  have apart : call.token ≠ token := ((bounded call member).trans_le fresh).ne
  simp [apart]

namespace Exclusive

theorem dropped (exclusive : Exclusive s) (dropped : Dropped s after) : Exclusive after where
  calls := by
    rw [dropped.calls, dropped.nextToken]
    exact exclusive.calls
  cancelled := by
    rw [dropped.cancelled, dropped.nextToken]
    exact exclusive.cancelled
  live prompt live := by
    rw [dropped.nextToken]
    exact exclusive.live prompt (dropped.live live)
  single token := by
    rw [awaitingReply_congr dropped.calls]
    exact exclusive.single token
  busy prompt shown := by
    rw [awaitingReply_congr dropped.calls]
    rcases dropped.pairing with gone | kept
    · rw [gone] at shown
      cases shown
    · exact exclusive.busy prompt (kept ▸ shown)
  requested prompt shown := by
    rw [dropped.cancelled]
    rcases dropped.pairing with gone | kept
    · rw [gone] at shown
      cases shown
    · exact exclusive.requested prompt (kept ▸ shown)

/-- The prompt shown changes, and with it perhaps the list of cancellations. -/
theorem presentCancelled (exclusive : Exclusive s) {prompt : Prompt} (shown : Prompt) (live : Live s prompt)
    (same : shown.token = prompt.token) {cancelled : List Nat} (bounded : ∀ token ∈ cancelled, token < s.nextToken)
    (busy : s.awaitingReply prompt.token ≠ 0 → shown.pending = true)
    (requested : prompt.token ∈ cancelled → shown.cancelRequested = true) :
    Exclusive ({ s with cancelled }.present (some shown)) where
  calls := exclusive.calls
  cancelled := bounded
  live other live_ := by
    rcases live_ with shown_ | cached
    · cases shown_
      rw [same]
      exact exclusive.live prompt live
    · obtain ⟨before, member, rfl⟩ := mem_present.mp cached
      rw [synced_token]
      exact exclusive.live before (.inr member)
  single := exclusive.single
  busy other shown_ := by
    cases shown_
    rw [same]
    exact busy
  requested other shown_ := by
    cases shown_
    rw [same]
    exact requested

theorem present (exclusive : Exclusive s) {prompt : Prompt} (shown : Prompt) (live : Live s prompt)
    (same : shown.token = prompt.token) (busy : s.awaitingReply prompt.token ≠ 0 → shown.pending = true)
    (requested : prompt.token ∈ s.cancelled → shown.cancelRequested = true) : Exclusive (s.present (some shown)) :=
  exclusive.presentCancelled shown live same exclusive.cancelled busy requested

theorem call (exclusive : Exclusive s) {prompt : Prompt} (shown : s.pairing = some prompt) (pending : prompt.pending = true)
    (idle : s.awaitingReply prompt.token = 0) (address : String) (method : Method) :
    Exclusive (s.call address prompt.token method) := by
  rcases call_cases s address prompt.token method with same | same <;> rw [same]
  · exact { exclusive with }
  · refine ⟨?_, exclusive.cancelled, exclusive.live, ?_, ?_, exclusive.requested⟩
    · intro call member
      rcases List.mem_append.mp member with member | member
      · exact exclusive.calls call member
      · obtain rfl := List.mem_singleton.mp member
        exact exclusive.live prompt (.inl shown)
    · intro token
      have before := exclusive.single token
      unfold awaitingReply at before idle ⊢
      rw [List.countP_append]
      by_cases here : prompt.token = token
      · rw [← here, idle]
        simp
      · simpa [List.countP_cons, here] using before
    · intro other same _
      rw [shown] at same
      cases same
      exact pending

end Exclusive

/-- A reply takes one call off the waiting ones. -/
theorem awaitingReply_replied {index : Nat} {call : Call} (found : s.calls[index]? = some call)
    (waiting : call.outcome = none) (outcome : Outcome) (token : Nat) :
    awaitingReply { s with calls := s.calls.set index { call with outcome := some outcome } } token =
      s.awaitingReply token - if call.token = token then 1 else 0 := by
  obtain ⟨bound, same⟩ := List.getElem?_eq_some_iff.mp found
  unfold awaitingReply
  dsimp only
  rw [List.countP_set bound, same]
  by_cases here : call.token = token <;> simp [here, waiting]

namespace Exclusive

theorem replied {index : Nat} {call : Call} (exclusive : Exclusive s) (found : s.calls[index]? = some call)
    (waiting : call.outcome = none) (outcome : Outcome) :
    Exclusive { s with calls := s.calls.set index { call with outcome := some outcome } } := by
  have less : ∀ token, awaitingReply { s with calls := s.calls.set index { call with outcome := some outcome } } token ≤
      s.awaitingReply token := by
    intro token
    rw [awaitingReply_replied found waiting]
    exact Nat.sub_le _ _
  refine ⟨?_, exclusive.cancelled, exclusive.live, ?_, ?_, exclusive.requested⟩
  · intro other member
    rcases List.mem_or_eq_of_mem_set member with old | rfl
    · exact exclusive.calls other old
    · exact exclusive.calls call (List.mem_of_getElem? found)
  · exact fun token => (less token).trans (exclusive.single token)
  · intro prompt shown some_
    apply exclusive.busy prompt shown
    have bound := less prompt.token
    omega

theorem fail (exclusive : Exclusive s) (message : String) : Exclusive (s.fail message) := { exclusive with }

/-- A cancellation is sent if nothing else is under way. -/
theorem cancelPairing (exclusive : Exclusive s) (token : Nat) : Exclusive (s.cancelPairing token) := by
  unfold Backend.cancelPairing
  split
  · exact exclusive
  next shown showing =>
    split
    · exact exclusive
    next ours =>
      obtain rfl : shown.token = token := not_not.mp (not_or.mp ours).2
      have bounded : ∀ token ∈ s.cancelled ++ [shown.token], token < s.nextToken := by
        intro token member
        rcases List.mem_append.mp member with old | new
        · exact exclusive.cancelled token old
        · rw [List.mem_singleton.mp new]
          exact exclusive.live shown (.inl showing)
      dsimp only
      split
      next pending =>
        exact exclusive.presentCancelled { shown with cancelRequested := true } (.inl showing) rfl bounded
          (fun _ => pending) fun _ => rfl
      next idle =>
        have marked := exclusive.presentCancelled { shown with cancelRequested := true, pending := true } (.inl showing)
          rfl bounded (fun _ => rfl) fun _ => rfl
        have none_ : s.awaitingReply shown.token = 0 := by
          by_contra some_
          exact idle (exclusive.busy shown showing some_)
        exact marked.call rfl rfl none_ shown.address .cancelBondProcess

theorem cancelReturned (exclusive : Exclusive s) {address : String} {token : Nat} {outcome : Outcome}
    (idle : s.awaitingReply token = 0) : Exclusive (s.cancelReturned address token outcome) := by
  unfold Backend.cancelReturned
  split
  · exact exclusive
  next shown showing =>
    split
    · exact exclusive
    next ours =>
      obtain rfl := not_not.mp ours
      split
      · exact exclusive.dropped (clearPairing_dropped s address)
      · have failed := exclusive.fail "Could not cancel pairing. Retry Cancel or wait for the device to finish."
        exact failed.present { shown with pending := false } (.inl showing) rfl (fun some_ => absurd idle some_)
          (exclusive.requested shown showing)

theorem answerReturned (exclusive : Exclusive s) {token : Nat} {outcome : Outcome}
    (idle : s.awaitingReply token = 0) : Exclusive (s.answerReturned token outcome) := by
  unfold Backend.answerReturned
  split
  · exact exclusive
  next shown showing =>
    split
    · exact exclusive
    next ours =>
      obtain rfl := not_not.mp ours
      dsimp only
      have settled : ∀ before : Backend, Exclusive before → before.pairing = s.pairing → before.calls = s.calls →
          before.cancelled = s.cancelled → Exclusive (before.present (some (returned shown outcome))) := by
        intro before kept same calls cancelled
        apply kept.present (returned shown outcome) (.inl (same.trans showing)) rfl
        · intro some_
          rw [awaitingReply_congr calls] at some_
          exact absurd idle some_
        · rw [cancelled]
          exact exclusive.requested shown showing
      have marked : Exclusive ((if outcome = .accepted then s else s.fail (answerFailure outcome)).present
          (some (returned shown outcome))) := by
        split
        · exact settled s exclusive rfl rfl rfl
        · exact settled _ (exclusive.fail _) rfl rfl rfl
      split
      · exact marked.cancelPairing _
      · exact marked

theorem answerPairing (exclusive : Exclusive s) (token : Nat) (accept : Bool) (pin : String) :
    Exclusive (s.answerPairing token accept pin) := by
  unfold Backend.answerPairing
  split
  · exact exclusive
  next shown showing =>
    split
    · exact exclusive
    next ours =>
      obtain rfl : shown.token = token := not_not.mp (not_or.mp ours).2
      split
      · exact exclusive.cancelPairing _
      · split
        · exact exclusive
        next free =>
          have idle : s.awaitingReply shown.token = 0 := by
            by_contra some_
            have pending := exclusive.busy shown showing some_
            exact free (by simp [Prompt.answerable, pending])
          split
          · exact exclusive.fail _
          · exact exclusive.present { shown with answered := true } (.inl showing) rfl (fun some_ => absurd idle some_)
              (exclusive.requested shown showing)
          next method _ =>
            have marked := exclusive.present { shown with pending := true } (.inl showing) rfl (fun _ => rfl)
              (exclusive.requested shown showing)
            exact marked.call rfl rfl idle shown.address method

/-- A new prompt has a token of its own. -/
theorem prompt (exclusive : Exclusive s) (address : String) (kind : Kind) (code : String) (minimum : Nat) :
    Exclusive (s.prompt address kind code minimum) := by
  unfold Backend.prompt
  split
  · exact exclusive
  · dsimp only
    generalize built : ({ address, kind, code, minimum, token := s.nextToken, uncertain := !s.pairingOwner } : Prompt) =
      request
    have token : request.token = s.nextToken := by rw [← built]
    generalize arrived : ({ s with
      nextToken := s.nextToken + 1
      received := s.received ++ [⟨s.nextToken, address, kind, s.pairingOwner⟩] } : Backend).cache request = cached
    have exclusive' : Exclusive cached := by
      rw [← arrived]
      refine ⟨?_, ?_, ?_, exclusive.single, exclusive.busy, exclusive.requested⟩
      · exact fun call member => Nat.lt_succ_of_lt (exclusive.calls call member)
      · exact fun token member => Nat.lt_succ_of_lt (exclusive.cancelled token member)
      · intro other live
        rcases live with shown | member
        · exact Nat.lt_succ_of_lt (exclusive.live other (.inl shown))
        · rcases mem_cache.mp member with rfl | ⟨old, _⟩
          · rw [token]
            exact Nat.lt_succ_self _
          · exact Nat.lt_succ_of_lt (exclusive.live other (.inr old))
    have quiet : cached.awaitingReply request.token = 0 := by
      rw [← arrived, token]
      exact awaitingReply_fresh exclusive.calls le_rfl
    have uncancelled : request.token ∉ cached.cancelled := by
      rw [← arrived, token]
      exact fun member => Nat.lt_irrefl _ (exclusive.cancelled _ member)
    have live : Live cached request := by
      rw [← arrived]
      exact .inr (mem_cache.mpr (.inl rfl))
    have timed : ∀ before : Backend, Exclusive before → ∀ timers, Exclusive { before with timers } :=
      fun before exclusive timers => { exclusive with }
    apply timed
    split
    · exact exclusive'
    · split
      · exact exclusive'.present request live rfl (fun some_ => absurd quiet some_) fun member =>
          absurd member uncancelled
      · exact { exclusive' with }

theorem expireShown (exclusive : Exclusive s) (timer : Ticket) : Exclusive (s.expireShown timer) := by
  unfold Backend.expireShown
  split
  · exact exclusive
  next shown showing =>
    split
    · exact exclusive
    · have marked : Exclusive { s with pairing := some { shown with expired := true } } := by
        refine ⟨exclusive.calls, exclusive.cancelled, ?_, exclusive.single, ?_, ?_⟩
        · intro other live
          rcases live with shown_ | cached
          · cases shown_
            exact exclusive.live shown (.inl showing)
          · exact exclusive.live other (.inr cached)
        · intro other shown_
          cases shown_
          exact exclusive.busy shown showing
        · intro other shown_
          cases shown_
          exact exclusive.requested shown showing
      exact marked.cancelPairing timer.token

theorem expire (exclusive : Exclusive s) (index : Nat) : Exclusive (s.expire index) := by
  unfold Backend.expire
  split
  · exact exclusive
  next timer _ =>
    have noted : Exclusive { s with timers := s.timers.eraseIdx index, fired := s.fired ++ [timer.token] } :=
      { exclusive with }
    dsimp only
    split
    · exact noted
    · exact (noted.dropped (expireCached_dropped _ timer)).expireShown timer

theorem frame (exclusive : Exclusive s) {shown : Prompt} (showing : s.pairing = some shown) : Exclusive s.pairingChanged := by
  rw [pairingChanged_eq, showing]
  exact exclusive.present shown (.inl showing) rfl (exclusive.busy shown showing) (exclusive.requested shown showing)

theorem pairingChanged (exclusive : Exclusive s) : Exclusive s.pairingChanged := by
  cases showing : s.pairing with
  | none =>
    rw [pairingChanged_eq, showing, present_none]
    exact exclusive.dropped ⟨by constructor <;> rfl, .inl rfl, fun _ => id⟩
  | some shown => exact exclusive.frame showing

theorem acquirePairing (exclusive : Exclusive s) (registered : Bool) : Exclusive (s.acquirePairing registered) := by
  rcases acquirePairing_cases s registered with same | dropped
  · rw [same]
    exact exclusive
  · have owning : Exclusive { s with pairingOwner := true } := { exclusive with }
    exact owning.dropped dropped

end Exclusive

/-- No prompt is shown again while a call for it waits for its reply, nor after it was to
be cancelled. -/
def Remembered (s : Backend) (event : Event) : Prop :=
  ∀ request, s.reshownBy event = some request → s.awaitingReply request.token = 0 ∧ request.token ∉ s.cancelled

theorem Exclusive.step {event : Event} (exclusive : Exclusive s) (remembered : Remembered s event) :
    Exclusive (s.step event) := by
  have heard : ∀ handled, Exclusive handled → Exclusive (s.callback handled) := by
    intro handled kept
    unfold callback
    split
    · exact exclusive
    · exact kept
  cases event with
  | sspRequest address variant passkey =>
    apply heard
    split
    · exact exclusive.prompt ..
    · exact exclusive.prompt ..
    · exact exclusive.prompt ..
    · exact exclusive
  | pinRequest address min16 => exact heard _ (exclusive.prompt ..)
  | pinDisplay address code => exact heard _ (exclusive.prompt ..)
  | bondStateChanged address state =>
    apply heard
    split
    · exact exclusive
    · exact exclusive.dropped (clearPairing_dropped s address)
  | deviceCleared address => exact heard _ (exclusive.dropped (clearPairing_dropped s address))
  | attach registered =>
    have attached : Exclusive { s with pairingViews := s.pairingViews ++ [s.nextView], nextView := s.nextView + 1 } :=
      { exclusive with }
    exact (attached.acquirePairing registered).pairingChanged
  | detach view =>
    have detached : Exclusive { s with pairingViews := s.pairingViews.filter (· != view) } := { exclusive with }
    show Exclusive (s.detachPairingView view)
    unfold detachPairingView
    dsimp only
    split
    · refine ⟨exclusive.calls, exclusive.cancelled, ?_, exclusive.single, nofun, nofun⟩
      exact fun prompt live => exclusive.live prompt (.inr (live.resolve_left nofun))
    · exact detached.pairingChanged
  | unregistered registered => exact exclusive.acquirePairing registered
  | answer token accept pin => exact exclusive.answerPairing token accept pin
  | replied index outcome =>
    show Exclusive (s.replied index outcome)
    unfold Backend.replied
    split
    · exact exclusive
    next call found =>
      split
      · exact exclusive
      next waiting =>
        have unanswered : call.outcome = none := by simpa using waiting
        have recorded := exclusive.replied found unanswered outcome
        have idle : awaitingReply { s with calls := s.calls.set index { call with outcome := some outcome } } call.token =
            0 := by
          rw [awaitingReply_replied found unanswered, if_pos rfl]
          have bound := exclusive.single call.token
          omega
        dsimp only
        split
        · exact recorded
        · split
          · exact recorded.answerReturned idle
          · exact recorded.cancelReturned idle
  | bondState index state =>
    rcases bondStateReturned_cases s index state with ⟨ticket, request, found, shown, same⟩ | dropped
    · have quiet := remembered request (by simp only [reshownBy, found, Option.bind_some, shown])
      show Exclusive (s.bondStateReturned index state)
      rw [same]
      have checked : Exclusive { s with checks := s.checks.eraseIdx index, pairingValidation := false } := { exclusive with }
      exact checked.present request (.inr (reshown_cached shown).1) rfl (fun some_ => absurd quiet.1 some_)
        fun member => absurd member quiet.2
    · exact exclusive.dropped dropped
  | expire index => exact exclusive.expire index
  | reset owner =>
    refine ⟨exclusive.calls, exclusive.cancelled, ?_, exclusive.single, nofun, nofun⟩
    exact fun prompt live => absurd live (not_live rfl rfl)

/-- A run in which no prompt comes back without what the backend knew of it. -/
inductive RememberedRun : Backend → Prop where
  | initial (exported : Bool) : RememberedRun { callbackExported := exported }
  | step {s : Backend} {event : Event} (ran : RememberedRun s) (remembered : Remembered s event) :
      RememberedRun (s.step event)

theorem RememberedRun.exclusive (ran : RememberedRun s) : Exclusive s := by
  induction ran with
  | initial exported =>
    refine ⟨nofun, nofun, ?_, fun _ => Nat.zero_le _, nofun, nofun⟩
    exact fun prompt live => absurd live (not_live rfl rfl)
  | step _ remembered ih => exact ih.step remembered

/-- In such a run at most one call for a prompt waits for its reply, and once a prompt is
to be cancelled no answer for it goes out. -/
theorem answers_exclude_cancellation (ran : RememberedRun s) : (∀ token, s.awaitingReply token ≤ 1) ∧
    ∀ event, ∀ call ∈ s.sentBy event, call.method.answers = true → call.token ∉ s.cancelled := by
  have exclusive := ran.exclusive
  refine ⟨exclusive.single, ?_⟩
  intro event call sent answers cancelled
  obtain ⟨shown, answering⟩ := sentBy_answer sent answers
  rw [answering.token] at cancelled
  have requested := exclusive.requested shown answering.pairing cancelled
  have free := answering.answerable
  simp [Prompt.answerable, requested] at free

theorem RememberedRun.plain {event : Event} (ran : RememberedRun s) (plain : s.reshownBy event = none) :
    RememberedRun (s.step event) := by
  apply ran.step
  intro request shown
  rw [plain] at shown
  cases shown

/-- A prompt waits, and the last view goes before there is an answer. -/
def taken : Backend :=
  ((((({} : Backend).step (.reset ":1.5")).step (.attach true)).step (.sspRequest "A" 0 123456)).step (.detach 0)).step
    (.attach true)

/-- The next view shows it again. An answer is under way there, and the user wants to cancel. -/
def cancelledEarly : Backend := ((taken.step (.bondState 0 (.ok 1))).step (.answer 0 true "")).step (.answer 0 false "")

theorem exclusion_of_early_cancel : cancelledEarly.awaitingReply 0 = 1 ∧
    (∀ token, cancelledEarly.awaitingReply token ≤ 1) ∧
    ∀ event, ∀ call ∈ cancelledEarly.sentBy event, call.method.answers = true → call.token ∉ cancelledEarly.cancelled := by
  have ran : RememberedRun taken :=
    (((((RememberedRun.initial true).plain rfl).plain rfl).plain rfl).plain rfl).plain rfl
  have free : taken.calls = [] ∧ taken.cancelled = [] := by decide +kernel
  have remembered : Remembered taken (.bondState 0 (.ok 1)) := by
    intro request _
    unfold awaitingReply
    rw [free.1, free.2]
    exact ⟨rfl, List.not_mem_nil⟩
  exact ⟨by decide +kernel, answers_exclude_cancellation (((ran.step remembered).plain rfl).plain rfl)⟩

/-- The last view goes while an answer is under way, and another comes. -/
def handedOver : List Event :=
  [.reset ":1.5", .attach true, .sspRequest "A" 0 123456, .answer 0 true "", .detach 0, .attach true, .bondState 0 (.ok 1)]

def cancelledTwice : List Event :=
  handedOver ++ [.answer 0 false "", .detach 1, .attach true, .bondState 0 (.ok 1), .replied 0 .rejected]

/-- After the hand-over the cancellation is sent beside the answer; after another one an
answer is sent although the prompt was to be cancelled. -/
theorem handover_sends_both : (run {} (handedOver ++ [.answer 0 false ""])).awaitingReply 0 = 2 ∧
    ∃ call ∈ (run {} cancelledTwice).sentBy (.answer 0 true ""), call.method.answers = true ∧
      call.token ∈ (run {} cancelledTwice).cancelled := by
  decide +kernel

end FlossDesktop.Pairing.Backend
