import FlossDesktop.Pairing
import Mathlib.Tactic

/-! What each handler of the pairing backend touches. Calls are only ever appended or
given their reply, and a prompt lives in two places at most: shown, and in the cache. -/

namespace FlossDesktop.Pairing.Backend

variable {s after : Backend}

/-- The prompt is shown or cached. -/
def Live (s : Backend) (prompt : Prompt) : Prop := s.pairing = some prompt ∨ prompt ∈ s.pairingCache

theorem not_live (hidden : s.pairing = none) (empty : s.pairingCache = []) {prompt : Prompt} : ¬ Live s prompt := by
  intro live
  rcases live with shown | cached
  · rw [hidden] at shown
    cases shown
  · rw [empty] at cached
    cases cached

/-- Everything the prompts and their answers leave alone. -/
structure SameRecord (s after : Backend) : Prop where
  calls : after.calls = s.calls
  epoch : after.epoch = s.epoch
  owner : after.owner = s.owner
  pairingOwner : after.pairingOwner = s.pairingOwner
  nextToken : after.nextToken = s.nextToken
  timers : after.timers = s.timers
  received : after.received = s.received
  fired : after.fired = s.fired
  cancelled : after.cancelled = s.cancelled

theorem SameRecord.refl (s : Backend) : SameRecord s s := by constructor <;> rfl

theorem SameRecord.trans {middle : Backend} (first : SameRecord s middle) (last : SameRecord middle after) :
    SameRecord s after where
  calls := last.calls.trans first.calls
  epoch := last.epoch.trans first.epoch
  owner := last.owner.trans first.owner
  pairingOwner := last.pairingOwner.trans first.pairingOwner
  nextToken := last.nextToken.trans first.nextToken
  timers := last.timers.trans first.timers
  received := last.received.trans first.received
  fired := last.fired.trans first.fired
  cancelled := last.cancelled.trans first.cancelled

/-- Prompts were dropped, and nothing else happened. -/
structure Dropped (s after : Backend) : Prop extends SameRecord s after where
  pairing : after.pairing = none ∨ after.pairing = s.pairing
  cache : ∀ prompt ∈ after.pairingCache, prompt ∈ s.pairingCache

theorem Dropped.refl (s : Backend) : Dropped s s := ⟨.refl s, .inr rfl, fun _ => id⟩

theorem Dropped.trans {middle : Backend} (first : Dropped s middle) (last : Dropped middle after) : Dropped s after where
  toSameRecord := first.toSameRecord.trans last.toSameRecord
  pairing := by
    rcases last.pairing with gone | kept
    · exact .inl gone
    · rw [kept]
      exact first.pairing
  cache prompt member := first.cache prompt (last.cache prompt member)

theorem Dropped.live (dropped : Dropped s after) {prompt : Prompt} (live : Live after prompt) : Live s prompt := by
  rcases live with shown | cached
  · rcases dropped.pairing with gone | kept
    · rw [gone] at shown
      cases shown
    · exact .inl (kept ▸ shown)
  · exact .inr (dropped.cache prompt cached)

theorem uncache_dropped (s : Backend) (address : String) : Dropped s (s.uncache address) :=
  ⟨by constructor <;> rfl, .inr rfl, fun _ member => List.mem_of_mem_filter member⟩

theorem expireCached_dropped (s : Backend) (timer : Ticket) : Dropped s (s.expireCached timer) := by
  unfold expireCached
  split
  · exact uncache_dropped s timer.address
  · exact .refl s

theorem showCachedPairing_dropped (s : Backend) : Dropped s s.showCachedPairing := by
  unfold showCachedPairing
  split
  · exact .refl s
  · split
    · exact .refl s
    · exact ⟨by constructor <;> rfl, .inr rfl, fun _ => id⟩

theorem present_none (s : Backend) : s.present none = { s with pairing := none } := rfl

theorem clearPairing_dropped (s : Backend) (address : String) : Dropped s (s.clearPairing address) := by
  unfold clearPairing
  dsimp only
  split
  · rw [present_none]
    have cleared : Dropped (s.uncache address) { s.uncache address with pairing := none } :=
      ⟨by constructor <;> rfl, .inl rfl, fun _ => id⟩
    exact ((uncache_dropped s address).trans cleared).trans (showCachedPairing_dropped _)
  · exact (uncache_dropped s address).trans (showCachedPairing_dropped _)

theorem mem_insertSorted {request other : Prompt} {prompts : List Prompt} :
    other ∈ insertSorted request prompts ↔ other = request ∨ other ∈ prompts := by
  induction prompts with
  | nil => simp [insertSorted]
  | cons cached rest ih =>
    unfold insertSorted
    split
    · simp only [List.mem_cons, ih]
      tauto
    · simp [List.mem_cons]

theorem mem_cache {request other : Prompt} :
    other ∈ (s.cache request).pairingCache ↔
      other = request ∨ (other ∈ s.pairingCache ∧ other.address ≠ request.address) := by
  unfold cache uncache
  dsimp only
  rw [mem_insertSorted, List.mem_filter, bne_iff_ne]

/-- The cached copy after the shown prompt has changed. -/
def synced (shown cached : Prompt) : Prompt :=
  if cached.address = shown.address ∧ cached.token = shown.token then
    { cached with answered := shown.answered, uncertain := shown.uncertain || shown.pending }
  else cached

theorem present_some (s : Backend) (shown : Prompt) : s.present (some shown) =
    { s with pairing := some shown, pairingCache := s.pairingCache.map (synced shown) } := rfl

@[simp] theorem synced_token (shown cached : Prompt) : (synced shown cached).token = cached.token := by
  unfold synced
  split <;> rfl

@[simp] theorem synced_address (shown cached : Prompt) : (synced shown cached).address = cached.address := by
  unfold synced
  split <;> rfl

@[simp] theorem synced_kind (shown cached : Prompt) : (synced shown cached).kind = cached.kind := by
  unfold synced
  split <;> rfl

theorem mem_present {shown other : Prompt} :
    other ∈ (s.present (some shown)).pairingCache ↔ ∃ cached ∈ s.pairingCache, synced shown cached = other := by
  rw [present_some]
  exact List.mem_map

theorem present_record (s : Backend) (shown : Option Prompt) : SameRecord s (s.present shown) := by
  cases shown <;> constructor <;> rfl

theorem call_cases (s : Backend) (address : String) (token : Nat) (method : Method) :
    s.call address token method = { s with error := "Floss is not running." } ∨
      s.call address token method = { s with calls := s.calls ++ [⟨s.epoch, address, token, method, none⟩] } := by
  unfold call fail
  split
  · exact .inl rfl
  · exact .inr rfl

theorem cached_mem {address : String} {request : Prompt} (found : s.cached address = some request) :
    request ∈ s.pairingCache ∧ request.address = address :=
  ⟨List.mem_of_find?_eq_some found, by simpa using List.find?_some found⟩

theorem pairingChanged_eq (s : Backend) : s.pairingChanged = s.present s.pairing := rfl

/-- Gaining the ownership shows nothing yet. -/
theorem acquirePairing_cases (s : Backend) (registered : Bool) :
    s.acquirePairing registered = s ∨ Dropped { s with pairingOwner := true } (s.acquirePairing registered) := by
  unfold acquirePairing
  split
  · exact .inl rfl
  next idle =>
    cases registered
    · have off : s.pairingOwner = false := by simpa using idle.comp fun owner => .inr (.inr owner)
      cases s
      dsimp only at off
      subst off
      exact .inl rfl
    · exact .inr (showCachedPairing_dropped _)

theorem acquirePairing_calls (s : Backend) (registered : Bool) : (s.acquirePairing registered).calls = s.calls := by
  rcases acquirePairing_cases s registered with same | dropped
  · rw [same]
  · exact dropped.calls

theorem attachPairingView_calls (s : Backend) (registered : Bool) : (s.attachPairingView registered).calls = s.calls := by
  unfold attachPairingView
  rw [pairingChanged_eq, (present_record _ _).calls]
  exact acquirePairing_calls _ registered

theorem detachPairingView_calls (s : Backend) (view : Nat) : (s.detachPairingView view).calls = s.calls := by
  unfold detachPairingView
  rw [pairingChanged_eq, (present_record _ _).calls]
  dsimp only
  split <;> rfl

/-- A reply that is an error leaves its message, and nothing else. -/
theorem reported_eq (s : Backend) (state : Except String Nat) : ∃ error, s.reported state = { s with error } := by
  cases state with
  | error message => exact ⟨message, rfl⟩
  | ok state => exact ⟨s.error, rfl⟩

theorem reshown_bonding {ticket : Ticket} {state : Except String Nat} {request : Prompt}
    (shown : s.reshown ticket state = some request) : state = .ok 1 := by
  unfold reshown at shown
  split at shown
  · cases shown
  · split at shown
    · cases shown
    · split at shown
      next both => exact both.2
      · cases shown

/-- What the reply to a bond state query does: it shows the cached prompt, or drops
prompts. -/
theorem bondStateReturned_cases (s : Backend) (index : Nat) (state : Except String Nat) :
    (∃ ticket request, s.checks[index]? = some ticket ∧ s.reshown ticket state = some request ∧
      s.bondStateReturned index state =
        { s with checks := s.checks.eraseIdx index, pairingValidation := false }.present (some request)) ∨
      Dropped s (s.bondStateReturned index state) := by
  unfold bondStateReturned
  cases found : s.checks[index]? with
  | none => exact .inr (.refl s)
  | some ticket =>
    have quiet : ∀ validation error, Dropped s { s with checks := s.checks.eraseIdx index, pairingValidation := validation, error } :=
      fun _ _ => ⟨by constructor <;> rfl, .inr rfl, fun _ => id⟩
    obtain ⟨error, told⟩ := reported_eq { s with checks := s.checks.eraseIdx index } state
    dsimp only
    split
    · exact .inr (quiet s.pairingValidation s.error)
    · rw [told]
      split
      · exact .inr (quiet false error)
      · split
        · exact .inr ((quiet false error).trans (showCachedPairing_dropped _))
        · have same : reshown { s with checks := s.checks.eraseIdx index, pairingValidation := false, error } ticket state =
              s.reshown ticket state := rfl
          rw [same]
          cases shown : s.reshown ticket state with
          | none =>
            exact .inr ((quiet false error).trans ((uncache_dropped _ ticket.address).trans (showCachedPairing_dropped _)))
          | some request =>
            have kept : s.error = error := by
              rw [reshown_bonding shown] at told
              exact congrArg Backend.error told
            exact .inl ⟨ticket, request, rfl, shown, by rw [← kept]⟩

/-- A prompt shown again was cached, under the ownership of this backend. -/
theorem reshown_cached {ticket : Ticket} {state : Except String Nat} {request : Prompt}
    (shown : s.reshown ticket state = some request) :
    request ∈ s.pairingCache ∧ s.pairingOwner = true ∧ s.pairing = none := by
  unfold reshown at shown
  split at shown
  · cases shown
  next idle =>
    simp only [not_or, Bool.not_eq_false, Bool.not_eq_true, Option.isSome_eq_false_iff, Option.isNone_iff_eq_none] at idle
    split at shown
    · cases shown
    next cached found =>
      split at shown
      · cases shown
        exact ⟨(cached_mem found).1, idle.2.1, idle.2.2⟩
      · cases shown

/-- The prompt an event shows again. -/
def reshownBy (s : Backend) : Event → Option Prompt
  | .bondState index state => (s.checks[index]?).bind fun ticket => s.reshown ticket state
  | _ => none

/-- The calls an event adds. -/
def sentBy (s : Backend) (event : Event) : List Call := (s.step event).calls.drop s.calls.length

/-- Nothing was sent but cancellations. -/
def OnlyCancels (s after : Backend) : Prop :=
  ∃ sent, after.calls = s.calls ++ sent ∧ ∀ call ∈ sent, call.method.answers = false

theorem OnlyCancels.same (same : after.calls = s.calls) : OnlyCancels s after :=
  ⟨[], by rw [same, List.append_nil], nofun⟩

theorem OnlyCancels.sent (cancels : OnlyCancels s after) {call : Call} (member : call ∈ after.calls.drop s.calls.length) :
    call.method.answers = false := by
  obtain ⟨sent, calls, quiet⟩ := cancels
  rw [calls, List.drop_left] at member
  exact quiet call member

theorem cancelPairing_calls (s : Backend) (token : Nat) : OnlyCancels s (s.cancelPairing token) := by
  unfold cancelPairing
  split
  · exact .same rfl
  next shown _ =>
    split
    · exact .same rfl
    · dsimp only
      split
      · exact .same (present_record _ _).calls
      · have same := (present_record { s with cancelled := s.cancelled ++ [token] }
          (some { shown with cancelRequested := true, pending := true })).calls
        generalize present { s with cancelled := s.cancelled ++ [token] }
          (some { shown with cancelRequested := true, pending := true }) = marked at same ⊢
        rcases call_cases marked shown.address token .cancelBondProcess with called | called <;> rw [called]
        · exact .same same
        · refine ⟨_, congrArg (· ++ _) same, ?_⟩
          intro call member
          rw [List.mem_singleton.mp member]
          rfl

theorem cancelReturned_calls (s : Backend) (address : String) (token : Nat) (outcome : Outcome) :
    OnlyCancels s (s.cancelReturned address token outcome) := by
  unfold cancelReturned
  split
  · exact .same rfl
  · split
    · exact .same rfl
    · split
      · exact .same (clearPairing_dropped s address).calls
      · exact .same (present_record _ _).calls

theorem answerReturned_calls (s : Backend) (token : Nat) (outcome : Outcome) :
    OnlyCancels s (s.answerReturned token outcome) := by
  unfold answerReturned
  split
  · exact .same rfl
  next shown _ =>
    split
    · exact .same rfl
    · have same : ((if outcome = .accepted then s else s.fail (answerFailure outcome)).present
          (some (returned shown outcome))).calls = s.calls := by
        rw [(present_record _ _).calls]
        split <;> rfl
      dsimp only
      split
      · obtain ⟨sent, calls, quiet⟩ := cancelPairing_calls ((if outcome = .accepted then s
          else s.fail (answerFailure outcome)).present (some (returned shown outcome))) token
        exact ⟨sent, calls.trans (congrArg (· ++ sent) same), quiet⟩
      · exact .same same

theorem expire_calls (s : Backend) (index : Nat) : OnlyCancels s (s.expire index) := by
  unfold expire
  split
  · exact .same rfl
  next timer _ =>
    dsimp only
    split
    · exact .same rfl
    · have same := (expireCached_dropped { s with timers := s.timers.eraseIdx index, fired := s.fired ++ [timer.token] }
        timer).calls
      generalize expireCached { s with timers := s.timers.eraseIdx index, fired := s.fired ++ [timer.token] } timer = left
        at same ⊢
      unfold expireShown
      split
      · exact .same same
      next shown _ =>
        split
        · exact .same same
        · obtain ⟨sent, calls, quiet⟩ := cancelPairing_calls { left with pairing := some { shown with expired := true } }
            timer.token
          exact ⟨sent, calls.trans (congrArg (· ++ sent) same), quiet⟩

theorem replied_calls (s : Backend) (index : Nat) (outcome : Outcome) {call : Call}
    (member : call ∈ (s.replied index outcome).calls.drop s.calls.length) : call.method.answers = false := by
  unfold replied at member
  split at member
  · rw [List.drop_length] at member
    cases member
  next before _ =>
    split at member
    · rw [List.drop_length] at member
      cases member
    · dsimp only at member
      have length : s.calls.length = (s.calls.set index { before with outcome := some outcome }).length :=
        List.length_set.symm
      rw [length] at member
      split at member
      · rw [List.drop_length] at member
        cases member
      · split at member
        · have cancels := answerReturned_calls { s with calls := s.calls.set index { before with outcome := some outcome } }
            before.token outcome
          exact cancels.sent member
        · have cancels := cancelReturned_calls { s with calls := s.calls.set index { before with outcome := some outcome } }
            before.address before.token outcome
          exact cancels.sent member

theorem prompt_calls (s : Backend) (address : String) (kind : Kind) (code : String) (minimum : Nat) :
    (s.prompt address kind code minimum).calls = s.calls := by
  unfold prompt
  split
  · rfl
  · dsimp only
    split
    · rfl
    · split
      · exact (present_record _ _).calls
      · rfl

/-- An answer goes out for the prompt shown, if nothing speaks against it. -/
structure Answering (s : Backend) (event : Event) (call : Call) (shown : Prompt) : Prop where
  pairing : s.pairing = some shown
  owner : s.pairingOwner = true
  answerable : shown.answerable = true
  token : call.token = shown.token
  kind : shown.kind ≠ .display
  event : ∃ pin, event = .answer shown.token true pin

theorem answerPairing_sent {token : Nat} {accept : Bool} {pin : String} {call : Call}
    (member : call ∈ (s.answerPairing token accept pin).calls.drop s.calls.length) (answers : call.method.answers = true) :
    ∃ shown, Answering s (.answer token accept pin) call shown := by
  have silent : ∀ after, OnlyCancels s after → call ∉ after.calls.drop s.calls.length := by
    intro after cancels sent
    have quiet := cancels.sent sent
    rw [answers] at quiet
    cases quiet
  unfold answerPairing at member
  split at member
  · exact absurd member (silent _ (.same rfl))
  next shown showing =>
    split at member
    · exact absurd member (silent _ (.same rfl))
    next ours =>
      rw [not_or, Bool.not_eq_false, not_not] at ours
      split at member
      · exact absurd member (silent _ (cancelPairing_calls s token))
      next accepted =>
        split at member
        · exact absurd member (silent _ (.same rfl))
        next free =>
          split at member
          · exact absurd member (silent _ (.same rfl))
          · exact absurd member (silent _ (.same (present_record _ _).calls))
          next method suited =>
            refine ⟨shown, showing, ours.1, by simpa using free, ?_, ?_, pin, ?_⟩
            · have same := (present_record s (some { shown with pending := true })).calls
              generalize s.present (some { shown with pending := true }) = marked at member same
              rcases call_cases marked shown.address token method with called | called <;> rw [called] at member
              · exact absurd member (silent _ (.same same))
              · dsimp only at member
                rw [same, List.drop_left, List.mem_singleton] at member
                rw [member]
                exact ours.2.symm
            · intro display
              unfold answerMethod at suited
              rw [display] at suited
              cases suited
            · rw [ours.2, Bool.not_eq_false _ |>.mp accepted]

theorem sentBy_answer {event : Event} {call : Call} (sent : call ∈ s.sentBy event) (answers : call.method.answers = true) :
    ∃ shown, Answering s event call shown := by
  have silent : ∀ after, OnlyCancels s after → call ∉ after.calls.drop s.calls.length := by
    intro after cancels sent
    have quiet := cancels.sent sent
    rw [answers] at quiet
    cases quiet
  have heard : ∀ handled, OnlyCancels s handled → call ∉ (s.callback handled).calls.drop s.calls.length := by
    intro handled cancels
    unfold callback
    split
    · exact silent _ (.same rfl)
    · exact silent _ cancels
  unfold sentBy at sent
  cases event with
  | sspRequest address variant passkey =>
    refine absurd sent (heard _ ?_)
    split
    · exact .same (prompt_calls ..)
    · exact .same (prompt_calls ..)
    · exact .same (prompt_calls ..)
    · exact .same rfl
  | pinRequest address min16 => exact absurd sent (heard _ (.same (prompt_calls ..)))
  | pinDisplay address code => exact absurd sent (heard _ (.same (prompt_calls ..)))
  | bondStateChanged address state =>
    refine absurd sent (heard _ ?_)
    split
    · exact .same rfl
    · exact .same (clearPairing_dropped s address).calls
  | deviceCleared address => exact absurd sent (heard _ (.same (clearPairing_dropped s address).calls))
  | attach registered => exact absurd sent (silent _ (.same (attachPairingView_calls s registered)))
  | detach view => exact absurd sent (silent _ (.same (detachPairingView_calls s view)))
  | unregistered registered => exact absurd sent (silent _ (.same (acquirePairing_calls s registered)))
  | answer token accept pin => exact answerPairing_sent sent answers
  | replied index outcome =>
    have quiet := replied_calls s index outcome sent
    rw [answers] at quiet
    cases quiet
  | bondState index state =>
    rcases bondStateReturned_cases s index state with ⟨_, _, _, _, same⟩ | dropped
    · refine absurd sent (silent _ (.same ?_))
      show (s.bondStateReturned index state).calls = s.calls
      rw [same]
      exact (present_record _ _).calls
    · exact absurd sent (silent _ (.same dropped.calls))
  | expire index => exact absurd sent (silent _ (expire_calls s index))
  | reset owner => exact absurd sent (silent _ (.same rfl))

end FlossDesktop.Pairing.Backend
