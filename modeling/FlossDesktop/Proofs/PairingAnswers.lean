import FlossDesktop.Proofs.PairingCases

/-! A prompt is answered once. While the result of an answer is not known to be a plain
rejection, every copy of the prompt carries a mark that keeps it from being answered
again. -/

namespace FlossDesktop.Pairing

/-- A prompt that must not be answered again. -/
def Prompt.Marked (prompt : Prompt) : Prop := prompt.answered = true ∨ prompt.uncertain = true

namespace Backend

variable {s after : Backend}

/-- The answers to a prompt that were not rejected, as far as their replies are in. -/
def unsettled (s : Backend) (token : Nat) : Nat :=
  s.calls.countP fun call => call.token == token && call.method.answers && call.outcome != some .rejected

/-- A cancellation of the prompt waits for its reply. -/
def Cancelling (s : Backend) (token : Nat) : Prop :=
  ∃ call ∈ s.calls, call.token = token ∧ call.method.answers = false ∧ call.outcome = none

/-- The prompt came in like this. -/
structure Origin (receipt : Receipt) (prompt : Prompt) : Prop where
  token : receipt.token = prompt.token
  address : receipt.address = prompt.address
  kind : receipt.kind = prompt.kind
  observed : receipt.owned = false → prompt.uncertain = true

structure Guarded (s : Backend) : Prop where
  held : s.pairingOwner = false → s.pairing = none
  calls : ∀ call ∈ s.calls, call.token < s.nextToken
  receipts : ∀ receipt ∈ s.received, receipt.token < s.nextToken
  unique : ∀ first ∈ s.received, ∀ second ∈ s.received, first.token = second.token → first = second
  known : ∀ prompt, Live s prompt → ∃ receipt ∈ s.received, Origin receipt prompt
  apart : ∀ first ∈ s.pairingCache, ∀ second ∈ s.pairingCache, first.address = second.address → first = second
  timers : ∀ timer ∈ s.timers, ∃ receipt ∈ s.received, receipt.token = timer.token ∧ receipt.address = timer.address
  stale : ∀ timer ∈ s.timers, timer.epoch ≠ s.epoch → ∀ prompt, Live s prompt → prompt.token ≠ timer.token
  fired : ∀ token ∈ s.fired, token < s.nextToken ∧ (∀ cached ∈ s.pairingCache, cached.token ≠ token) ∧
    ∀ shown, s.pairing = some shown → shown.token = token → shown.expired = true
  observed : ∀ receipt ∈ s.received, receipt.owned = false → ∀ call ∈ s.calls, call.token = receipt.token →
    call.method.answers = false
  single : ∀ token, s.unsettled token ≤ 1
  shown : ∀ shown, s.pairing = some shown → s.unsettled shown.token ≠ 0 → shown.pending = true ∨ shown.Marked
  cached : ∀ cached ∈ s.pairingCache, s.unsettled cached.token ≠ 0 → cached.Marked
  cancelling : ∀ shown, s.pairing = some shown → Cancelling s shown.token →
    shown.cancelRequested = true ∧ (s.unsettled shown.token ≠ 0 → shown.Marked)

theorem unsettled_congr (same : after.calls = s.calls) (token : Nat) : after.unsettled token = s.unsettled token := by
  unfold unsettled
  rw [same]

theorem cancelling_congr (same : after.calls = s.calls) (token : Nat) : Cancelling after token ↔ Cancelling s token := by
  unfold Cancelling
  rw [same]

theorem unsettled_fresh (bounded : ∀ call ∈ s.calls, call.token < s.nextToken) {token : Nat}
    (fresh : s.nextToken ≤ token) : s.unsettled token = 0 := by
  unfold unsettled
  rw [List.countP_eq_zero]
  intro call member
  have apart : call.token ≠ token := ((bounded call member).trans_le fresh).ne
  simp [apart]

/-- Without an unsettled answer every answer was rejected. -/
theorem unsettled_zero {token : Nat} (settled : s.unsettled token = 0) {call : Call} (member : call ∈ s.calls)
    (same : call.token = token) (answers : call.method.answers = true) : call.outcome = some .rejected := by
  have quiet := List.countP_eq_zero.mp settled call member
  simpa [same, answers] using quiet

namespace Guarded

theorem dropped (guarded : Guarded s) (dropped : Dropped s after) : Guarded after where
  held off := by
    rcases dropped.pairing with gone | kept
    · exact gone
    · rw [kept]
      exact guarded.held (dropped.pairingOwner ▸ off)
  calls := by
    rw [dropped.calls, dropped.nextToken]
    exact guarded.calls
  receipts := by
    rw [dropped.received, dropped.nextToken]
    exact guarded.receipts
  unique := by
    rw [dropped.received]
    exact guarded.unique
  known prompt live := by
    rw [dropped.received]
    exact guarded.known prompt (dropped.live live)
  apart first one second two := guarded.apart first (dropped.cache first one) second (dropped.cache second two)
  timers := by
    rw [dropped.timers, dropped.received]
    exact guarded.timers
  stale timer member old prompt live := by
    rw [dropped.timers] at member
    rw [dropped.epoch] at old
    exact guarded.stale timer member old prompt (dropped.live live)
  fired token member := by
    rw [dropped.fired] at member
    rw [dropped.nextToken]
    obtain ⟨bound, absent, expired⟩ := guarded.fired token member
    refine ⟨bound, fun cached member => absent cached (dropped.cache cached member), ?_⟩
    intro shown showing
    rcases dropped.pairing with gone | kept
    · rw [gone] at showing
      cases showing
    · exact expired shown (kept ▸ showing)
  observed := by
    rw [dropped.received, dropped.calls]
    exact guarded.observed
  single token := by
    rw [unsettled_congr dropped.calls]
    exact guarded.single token
  shown shown showing := by
    rw [unsettled_congr dropped.calls]
    rcases dropped.pairing with gone | kept
    · rw [gone] at showing
      cases showing
    · exact guarded.shown shown (kept ▸ showing)
  cached cached member := by
    rw [unsettled_congr dropped.calls]
    exact guarded.cached cached (dropped.cache cached member)
  cancelling shown showing := by
    rw [cancelling_congr dropped.calls, unsettled_congr dropped.calls]
    rcases dropped.pairing with gone | kept
    · rw [gone] at showing
      cases showing
    · exact guarded.cancelling shown (kept ▸ showing)

end Guarded

/-- What the shown prompt needs to take the place of a live one. -/
structure Replaces (s : Backend) (prompt shown : Prompt) : Prop where
  owner : s.pairingOwner = true
  live : Live s prompt
  token : shown.token = prompt.token
  address : shown.address = prompt.address
  kind : shown.kind = prompt.kind
  observed : prompt.uncertain = true → (∃ receipt ∈ s.received, receipt.token = prompt.token ∧ receipt.owned = false) →
    shown.uncertain = true
  expired : prompt.token ∈ s.fired → shown.expired = true
  marked : s.unsettled prompt.token ≠ 0 → shown.pending = true ∨ shown.Marked
  cancelling : Cancelling s prompt.token → shown.cancelRequested = true ∧ (s.unsettled prompt.token ≠ 0 → shown.Marked)

/-- The mark of the shown prompt reaches the cached copy. -/
theorem synced_marked {shown cached : Prompt} (same : cached.address = shown.address ∧ cached.token = shown.token)
    (marked : shown.pending = true ∨ shown.Marked) : (synced shown cached).Marked := by
  unfold Prompt.Marked synced
  rw [if_pos same]
  rcases marked with pending | answered | uncertain
  · exact .inr (by simp [pending])
  · exact .inl answered
  · exact .inr (by simp [uncertain])

theorem Replaces.origin {prompt shown : Prompt} (replaces : Replaces s prompt shown) {receipt : Receipt}
    (member : receipt ∈ s.received) (origin : Origin receipt prompt) : Origin receipt shown where
  token := origin.token.trans replaces.token.symm
  address := origin.address.trans replaces.address.symm
  kind := origin.kind.trans replaces.kind.symm
  observed unowned := replaces.observed (origin.observed unowned) ⟨receipt, member, origin.token, unowned⟩

theorem Guarded.present (guarded : Guarded s) {prompt shown : Prompt} (replaces : Replaces s prompt shown) :
    Guarded (s.present (some shown)) := by
  obtain ⟨receipt, received, origin⟩ := guarded.known prompt replaces.live
  have mine := replaces.origin received origin
  refine ⟨?_, guarded.calls, guarded.receipts, guarded.unique, ?_, ?_, guarded.timers, ?_, ?_, guarded.observed,
    guarded.single, ?_, ?_, ?_⟩
  · intro off
    have on := replaces.owner
    rw [show s.pairingOwner = false from off] at on
    cases on
  · intro other live
    rcases live with showing | cached
    · cases showing
      exact ⟨receipt, received, mine⟩
    · obtain ⟨before, member, rfl⟩ := mem_present.mp cached
      obtain ⟨old, found, source⟩ := guarded.known before (.inr member)
      refine ⟨old, found, by simpa using source.token, by simpa using source.address, by simpa using source.kind, ?_⟩
      intro unowned
      unfold synced
      split
      next same =>
        have again : old = receipt := by
          apply guarded.unique old found receipt received
          rw [source.token, same.2, mine.token]
        rw [again] at unowned
        simp [mine.observed unowned]
      · exact source.observed unowned
  · intro first one second two same
    obtain ⟨a, first_, rfl⟩ := mem_present.mp one
    obtain ⟨b, second_, rfl⟩ := mem_present.mp two
    rw [guarded.apart a first_ b second_ (by simpa using same)]
  · intro timer member old other live
    rcases live with showing | cached
    · cases showing
      rw [replaces.token]
      exact guarded.stale timer member old prompt replaces.live
    · obtain ⟨before, found, rfl⟩ := mem_present.mp cached
      rw [synced_token]
      exact guarded.stale timer member old before (.inr found)
  · intro token member
    obtain ⟨bound, absent, _⟩ := guarded.fired token member
    refine ⟨bound, ?_, ?_⟩
    · intro other cached
      obtain ⟨before, found, rfl⟩ := mem_present.mp cached
      rw [synced_token]
      exact absent before found
    · intro other showing same
      cases showing
      apply replaces.expired
      rw [← replaces.token, same]
      exact member
  · intro other showing open_
    cases showing
    apply replaces.marked
    rw [← replaces.token]
    exact open_
  · intro other cached open_
    obtain ⟨before, found, rfl⟩ := mem_present.mp cached
    by_cases same : before.address = shown.address ∧ before.token = shown.token
    · apply synced_marked same
      apply replaces.marked
      rw [← replaces.token, ← same.2]
      rw [synced_token] at open_
      exact open_
    · have kept : synced shown before = before := by
        unfold synced
        rw [if_neg same]
      rw [kept] at open_ ⊢
      exact guarded.cached before found open_
  · intro other showing waiting
    cases showing
    rw [replaces.token] at waiting ⊢
    exact replaces.cancelling waiting

/-- The reply to a call is written down. Its prompt is settled if an answer was
rejected. -/
theorem unsettled_replied {index : Nat} {call : Call} (found : s.calls[index]? = some call)
    (waiting : call.outcome = none) (outcome : Outcome) (token : Nat) :
    unsettled { s with calls := s.calls.set index { call with outcome := some outcome } } token =
      s.unsettled token -
        if call.token = token ∧ call.method.answers = true ∧ outcome = .rejected then 1 else 0 := by
  obtain ⟨bound, same⟩ := List.getElem?_eq_some_iff.mp found
  unfold unsettled
  dsimp only
  rw [List.countP_set bound, same]
  have counted : (if (call.token == token && call.method.answers && call.outcome != some .rejected) = true then 1 else 0) ≤
      s.calls.countP fun call => call.token == token && call.method.answers && call.outcome != some .rejected := by
    split
    next open_ => exact List.countP_pos_iff.mpr ⟨call, List.mem_of_getElem? found, open_⟩
    · exact Nat.zero_le _
  by_cases here : call.token = token
  · cases answers : call.method.answers with
    | false => simp [here]
    | true =>
      simp only [here, answers, waiting, beq_self_eq_true, Bool.true_and] at counted ⊢
      generalize s.calls.countP _ = count at counted ⊢
      have positive : 1 ≤ count := counted
      cases outcome
      · simp only [reduceCtorEq, and_false, if_false, Nat.sub_zero]
        exact Nat.sub_add_cancel positive
      · simp
      · simp only [reduceCtorEq, and_false, if_false, Nat.sub_zero]
        exact Nat.sub_add_cancel positive
  · simp [here]

namespace Guarded

theorem recorded {index : Nat} {call : Call} (guarded : Guarded s) (found : s.calls[index]? = some call)
    (waiting : call.outcome = none) (outcome : Outcome) :
    Guarded { s with calls := s.calls.set index { call with outcome := some outcome } } := by
  have less : ∀ token, unsettled { s with calls := s.calls.set index { call with outcome := some outcome } } token ≤
      s.unsettled token := by
    intro token
    rw [unsettled_replied found waiting]
    exact Nat.sub_le _ _
  have fewer : ∀ token, Cancelling { s with calls := s.calls.set index { call with outcome := some outcome } } token →
      Cancelling s token := by
    intro token waits
    obtain ⟨other, member, same⟩ := waits
    rcases List.mem_or_eq_of_mem_set member with old | rfl
    · exact ⟨other, old, same⟩
    · cases same.2.2
  refine ⟨guarded.held, ?_, guarded.receipts, guarded.unique, guarded.known, guarded.apart, guarded.timers, guarded.stale,
    guarded.fired, ?_, ?_, ?_, ?_, ?_⟩
  · intro other member
    rcases List.mem_or_eq_of_mem_set member with old | rfl
    · exact guarded.calls other old
    · exact guarded.calls call (List.mem_of_getElem? found)
  · intro receipt received unowned other member same
    rcases List.mem_or_eq_of_mem_set member with old | rfl
    · exact guarded.observed receipt received unowned other old same
    · exact guarded.observed receipt received unowned call (List.mem_of_getElem? found) same
  · exact fun token => (less token).trans (guarded.single token)
  · intro shown showing open_
    have bound := less shown.token
    exact guarded.shown shown showing (by omega)
  · intro cached member open_
    have bound := less cached.token
    exact guarded.cached cached member (by omega)
  · intro shown showing waits
    obtain ⟨requested, marked⟩ := guarded.cancelling shown showing (fewer _ waits)
    have bound := less shown.token
    exact ⟨requested, fun open_ => marked (by omega)⟩

theorem fail (guarded : Guarded s) (message : String) : Guarded (s.fail message) := { guarded with }

/-- A change of the shown prompt's marks. -/
theorem replaces (guarded : Guarded s) {prompt : Prompt} (showing : s.pairing = some prompt) {shown : Prompt}
    (token : shown.token = prompt.token) (address : shown.address = prompt.address) (kind : shown.kind = prompt.kind)
    (expired : shown.expired = prompt.expired) (observed : prompt.uncertain = true →
      (∃ receipt ∈ s.received, receipt.token = prompt.token ∧ receipt.owned = false) → shown.uncertain = true)
    (marked : s.unsettled prompt.token ≠ 0 → shown.pending = true ∨ shown.Marked)
    (cancelling : Cancelling s prompt.token →
      shown.cancelRequested = true ∧ (s.unsettled prompt.token ≠ 0 → shown.Marked)) : Replaces s prompt shown where
  owner := by
    by_contra off
    rw [guarded.held (by simpa using off)] at showing
    cases showing
  live := .inl showing
  token := token
  address := address
  kind := kind
  observed := observed
  expired member := by
    rw [expired]
    exact (guarded.fired _ member).2.2 prompt showing rfl
  marked := marked
  cancelling := cancelling

/-- A cancellation goes out for the prompt shown. -/
theorem cancelCall (guarded : Guarded s) {shown : Prompt} (showing : s.pairing = some shown)
    (requested : shown.cancelRequested = true) (marked : s.unsettled shown.token ≠ 0 → shown.Marked) (address : String) :
    Guarded (s.call address shown.token .cancelBondProcess) := by
  rcases call_cases s address shown.token .cancelBondProcess with same | same <;> rw [same]
  · exact { guarded with }
  · have quiet : ∀ token, unsettled { s with
        calls := s.calls ++ [⟨s.epoch, address, shown.token, .cancelBondProcess, none⟩] } token = s.unsettled token := by
      intro token
      simp [unsettled, Method.answers]
    refine ⟨guarded.held, ?_, guarded.receipts, guarded.unique, guarded.known, guarded.apart, guarded.timers,
      guarded.stale, guarded.fired, ?_, ?_, ?_, ?_, ?_⟩
    · intro call member
      rcases List.mem_append.mp member with old | new
      · exact guarded.calls call old
      · obtain rfl := List.mem_singleton.mp new
        obtain ⟨receipt, received, origin⟩ := guarded.known shown (.inl showing)
        rw [← origin.token]
        exact guarded.receipts receipt received
    · intro receipt received unowned call member mine
      rcases List.mem_append.mp member with old | new
      · exact guarded.observed receipt received unowned call old mine
      · obtain rfl := List.mem_singleton.mp new
        rfl
    · intro token
      rw [quiet]
      exact guarded.single token
    · intro other same open_
      rw [quiet] at open_
      exact guarded.shown other same open_
    · intro cached member open_
      rw [quiet] at open_
      exact guarded.cached cached member open_
    · intro other same _
      rw [showing] at same
      cases same
      rw [quiet]
      exact ⟨requested, marked⟩

theorem cancelPairing (guarded : Guarded s) (token : Nat) : Guarded (s.cancelPairing token) := by
  unfold Backend.cancelPairing
  split
  · exact guarded
  next shown showing =>
    split
    · exact guarded
    next ours =>
      obtain rfl : shown.token = token := not_not.mp (not_or.mp ours).2
      have noted : Guarded { s with cancelled := s.cancelled ++ [shown.token] } := { guarded with }
      dsimp only
      split
      next pending =>
        have replaces : Replaces { s with cancelled := s.cancelled ++ [shown.token] } shown
            { shown with cancelRequested := true } :=
          noted.replaces showing rfl rfl rfl rfl (fun uncertain _ => uncertain) (fun _ => .inl pending)
            fun waits => ⟨rfl, (guarded.cancelling shown showing waits).2⟩
        exact noted.present replaces
      next idle =>
        have marked : s.unsettled shown.token ≠ 0 → shown.Marked := by
          intro open_
          rcases guarded.shown shown showing open_ with pending | marked
          · exact absurd pending idle
          · exact marked
        have replaces : Replaces { s with cancelled := s.cancelled ++ [shown.token] } shown
            { shown with cancelRequested := true, pending := true } :=
          noted.replaces showing rfl rfl rfl rfl (fun uncertain _ => uncertain) (fun _ => .inl rfl) fun _ => ⟨rfl, marked⟩
        exact (noted.present replaces).cancelCall rfl rfl marked shown.address

theorem cancelReturned (guarded : Guarded s) {address : String} {token : Nat} {outcome : Outcome}
    (marked : ∀ shown, s.pairing = some shown → shown.token = token → s.unsettled token ≠ 0 → shown.Marked) :
    Guarded (s.cancelReturned address token outcome) := by
  unfold Backend.cancelReturned
  split
  · exact guarded
  next shown showing =>
    split
    · exact guarded
    next ours =>
      obtain rfl := not_not.mp ours
      split
      · exact guarded.dropped (clearPairing_dropped s address)
      · have failed := guarded.fail "Could not cancel pairing. Retry Cancel or wait for the device to finish."
        have kept : s.unsettled shown.token ≠ 0 → shown.Marked := marked shown showing rfl
        apply failed.present
        exact failed.replaces showing rfl rfl rfl rfl (fun uncertain _ => uncertain) (fun open_ => .inr (kept open_))
          fun waits => ⟨(guarded.cancelling shown showing waits).1, kept⟩

theorem answerReturned (guarded : Guarded s) {token : Nat} {outcome : Outcome}
    (settled : outcome = .rejected → s.unsettled token = 0)
    (sent : ∃ call ∈ s.calls, call.token = token ∧ call.method.answers = true) :
    Guarded (s.answerReturned token outcome) := by
  unfold Backend.answerReturned
  split
  · exact guarded
  next shown showing =>
    split
    · exact guarded
    next ours =>
      obtain rfl := not_not.mp ours
      have marked : s.unsettled shown.token ≠ 0 → (returned shown outcome).Marked := by
        intro open_
        cases outcome with
        | accepted => exact .inl rfl
        | rejected => exact absurd (settled rfl) open_
        | error => exact .inr rfl
      have owned : shown.uncertain = true → (∃ receipt ∈ s.received, receipt.token = shown.token ∧ receipt.owned = false) →
          (returned shown outcome).uncertain = true := by
        intro _ unowned
        obtain ⟨receipt, received, same, unowned⟩ := unowned
        obtain ⟨call, member, mine, answers⟩ := sent
        rw [guarded.observed receipt received unowned call member (mine.trans same.symm)] at answers
        cases answers
      have done : ∀ before, Guarded before → before.pairing = s.pairing → before.calls = s.calls →
          before.received = s.received → Guarded (before.present (some (returned shown outcome))) := by
        intro before kept same calls received
        have replaces : Replaces before shown (returned shown outcome) := by
          refine kept.replaces (same.trans showing) rfl rfl rfl rfl ?_ ?_ ?_
          · rw [received]
            exact owned
          · rw [unsettled_congr calls]
            exact fun open_ => .inr (marked open_)
          · rw [cancelling_congr calls, unsettled_congr calls]
            exact fun waits => ⟨(guarded.cancelling shown showing waits).1, marked⟩
        exact kept.present replaces
      have presented : Guarded ((if outcome = .accepted then s else s.fail (answerFailure outcome)).present
          (some (returned shown outcome))) := by
        split
        · exact done s guarded rfl rfl rfl
        · exact done _ (guarded.fail _) rfl rfl rfl
      dsimp only
      split
      · exact presented.cancelPairing _
      · exact presented

/-- An answer goes out for the prompt shown, of which every copy is marked. -/
theorem answerCall (guarded : Guarded s) {shown : Prompt} (showing : s.pairing = some shown)
    (pending : shown.pending = true) (settled : s.unsettled shown.token = 0) (idle : ¬ Cancelling s shown.token)
    (owned : ∀ receipt ∈ s.received, receipt.token = shown.token → receipt.owned = true)
    (copies : ∀ cached ∈ s.pairingCache, cached.token = shown.token → cached.Marked) (address : String) {method : Method}
    (answers : method.answers = true) : Guarded (s.call address shown.token method) := by
  rcases call_cases s address shown.token method with same | same <;> rw [same]
  · exact { guarded with }
  · have others : ∀ token, token ≠ shown.token → unsettled { s with
        calls := s.calls ++ [⟨s.epoch, address, shown.token, method, none⟩] } token = s.unsettled token := by
      intro token apart
      simp [unsettled, Ne.symm apart]
    have ours : unsettled { s with calls := s.calls ++ [⟨s.epoch, address, shown.token, method, none⟩] } shown.token = 1 := by
      unfold unsettled at settled ⊢
      rw [List.countP_append, settled]
      simp [answers]
    refine ⟨guarded.held, ?_, guarded.receipts, guarded.unique, guarded.known, guarded.apart, guarded.timers,
      guarded.stale, guarded.fired, ?_, ?_, ?_, ?_, ?_⟩
    · intro call member
      rcases List.mem_append.mp member with old | new
      · exact guarded.calls call old
      · obtain rfl := List.mem_singleton.mp new
        obtain ⟨receipt, received, origin⟩ := guarded.known shown (.inl showing)
        rw [← origin.token]
        exact guarded.receipts receipt received
    · intro receipt received unowned call member mine
      rcases List.mem_append.mp member with old | new
      · exact guarded.observed receipt received unowned call old mine
      · obtain rfl := List.mem_singleton.mp new
        rw [owned receipt received mine.symm] at unowned
        cases unowned
    · intro token
      by_cases here : token = shown.token
      · rw [here, ours]
      · rw [others token here]
        exact guarded.single token
    · intro other same _
      rw [showing] at same
      cases same
      exact .inl pending
    · intro cached member open_
      by_cases here : cached.token = shown.token
      · exact copies cached member here
      · rw [others cached.token here] at open_
        exact guarded.cached cached member open_
    · intro other same waits
      rw [showing] at same
      cases same
      obtain ⟨call, member, mine, cancels, waiting⟩ := waits
      rcases List.mem_append.mp member with old | new
      · exact absurd ⟨call, old, mine, cancels, waiting⟩ idle
      · obtain rfl := List.mem_singleton.mp new
        rw [answers] at cancels
        cases cancels

theorem answerMethod_answers {shown : Prompt} {pin : String} {method : Method}
    (suited : answerMethod shown pin = .ok (some method)) : method.answers = true := by
  unfold answerMethod at suited
  split at suited
  · dsimp only at suited
    split at suited <;> cases suited
    rfl
  · split at suited <;> cases suited
    rfl
  · cases suited
    rfl
  · cases suited

theorem answerPairing (guarded : Guarded s) (token : Nat) (accept : Bool) (pin : String) :
    Guarded (s.answerPairing token accept pin) := by
  unfold Backend.answerPairing
  split
  · exact guarded
  next shown showing =>
    split
    · exact guarded
    next ours =>
      obtain rfl : shown.token = token := not_not.mp (not_or.mp ours).2
      split
      · exact guarded.cancelPairing _
      · split
        · exact guarded
        next free =>
          obtain ⟨⟨⟨⟨pending, answered⟩, _⟩, requested⟩, certain⟩ : (((shown.pending = false ∧ shown.answered = false) ∧
              shown.expired = false) ∧ shown.cancelRequested = false) ∧ shown.uncertain = false := by
            simpa [Prompt.answerable, and_assoc] using free
          have unmarked : ¬ shown.Marked := by
            intro marked
            rcases marked with marked | marked
            · rw [answered] at marked
              cases marked
            · rw [certain] at marked
              cases marked
          have settled : s.unsettled shown.token = 0 := by
            by_contra open_
            rcases guarded.shown shown showing open_ with busy | marked
            · rw [pending] at busy
              cases busy
            · exact unmarked marked
          have idle : ¬ Cancelling s shown.token := by
            intro waits
            have asked := (guarded.cancelling shown showing waits).1
            rw [requested] at asked
            cases asked
          split
          · exact guarded.fail _
          · apply guarded.present
            exact guarded.replaces showing rfl rfl rfl rfl (fun uncertain _ => uncertain)
              (fun open_ => absurd settled open_) fun waits => absurd waits idle
          next method suited =>
            have replaces : Replaces s shown { shown with pending := true } :=
              guarded.replaces showing rfl rfl rfl rfl (fun uncertain _ => uncertain) (fun _ => .inl rfl)
                fun waits => absurd waits idle
            have presented := guarded.present replaces
            obtain ⟨receipt, received, origin⟩ := guarded.known shown (.inl showing)
            refine presented.answerCall rfl rfl settled idle ?_ ?_ shown.address (answerMethod_answers suited)
            · intro other member same
              obtain rfl := guarded.unique other member receipt received (same.trans origin.token.symm)
              by_contra unowned
              rw [origin.observed (by simpa using unowned)] at certain
              cases certain
            · intro cached member same
              obtain ⟨before, found, rfl⟩ := mem_present.mp member
              rw [synced_token] at same
              obtain ⟨other, member, source⟩ := guarded.known before (.inr found)
              obtain rfl := guarded.unique other member receipt received
                (source.token.trans (same.trans origin.token.symm))
              exact synced_marked ⟨source.address.symm.trans origin.address, same⟩ (.inl rfl)

/-- A prompt comes in under a new token and is cached. -/
theorem arrive (guarded : Guarded s) {request : Prompt} (token : request.token = s.nextToken)
    (uncertain : request.uncertain = !s.pairingOwner) : Guarded (cache { s with
      nextToken := s.nextToken + 1
      received := s.received ++ [⟨request.token, request.address, request.kind, s.pairingOwner⟩] } request) := by
  have fresh : s.unsettled request.token = 0 := unsettled_fresh guarded.calls token.ge
  have older : ∀ prompt, Live s prompt → prompt.token < s.nextToken := by
    intro prompt live
    obtain ⟨receipt, received, origin⟩ := guarded.known prompt live
    rw [← origin.token]
    exact guarded.receipts receipt received
  have cases_ : ∀ prompt, Live (cache { s with
      nextToken := s.nextToken + 1
      received := s.received ++ [⟨request.token, request.address, request.kind, s.pairingOwner⟩] } request) prompt →
      prompt = request ∨ Live s prompt := by
    intro prompt live
    rcases live with shown | cached
    · exact .inr (.inl shown)
    · rcases mem_cache.mp cached with same | ⟨old, _⟩
      · exact .inl same
      · exact .inr (.inr old)
  refine ⟨guarded.held, ?_, ?_, ?_, ?_, ?_, ?_, ?_, ?_, ?_, guarded.single, guarded.shown, ?_, guarded.cancelling⟩
  · exact fun call member => Nat.lt_succ_of_lt (guarded.calls call member)
  · intro receipt member
    rcases List.mem_append.mp member with old | new
    · exact Nat.lt_succ_of_lt (guarded.receipts receipt old)
    · rw [List.mem_singleton.mp new]
      exact token.le.trans_lt (Nat.lt_succ_self _)
  · intro first one second two same
    rcases List.mem_append.mp one with one | one <;> rcases List.mem_append.mp two with two | two
    · exact guarded.unique first one second two same
    · rw [List.mem_singleton.mp two] at same
      exact absurd (same.trans token) (guarded.receipts first one).ne
    · rw [List.mem_singleton.mp one] at same
      exact absurd (same.symm.trans token) (guarded.receipts second two).ne
    · rw [List.mem_singleton.mp one, List.mem_singleton.mp two]
  · intro prompt live
    rcases cases_ prompt live with rfl | old
    · refine ⟨_, List.mem_append_right _ (List.mem_singleton_self _), rfl, rfl, rfl, ?_⟩
      intro unowned
      rw [uncertain, show s.pairingOwner = false from unowned]
      rfl
    · obtain ⟨receipt, received, origin⟩ := guarded.known prompt old
      exact ⟨receipt, List.mem_append_left _ received, origin⟩
  · intro first one second two same
    rcases mem_cache.mp one with rfl | ⟨one, apart⟩ <;> rcases mem_cache.mp two with rfl | ⟨two, other⟩
    · rfl
    · exact absurd same.symm other
    · exact absurd same apart
    · exact guarded.apart first one second two same
  · intro timer member
    obtain ⟨receipt, received, same⟩ := guarded.timers timer member
    exact ⟨receipt, List.mem_append_left _ received, same⟩
  · intro timer member old prompt live
    rcases cases_ prompt live with rfl | live
    · obtain ⟨receipt, received, same, _⟩ := guarded.timers timer member
      rw [token, ← same]
      exact (guarded.receipts receipt received).ne'
    · exact guarded.stale timer member old prompt live
  · intro other member
    obtain ⟨bound, absent, expired⟩ := guarded.fired other member
    refine ⟨Nat.lt_succ_of_lt bound, ?_, expired⟩
    intro cached found
    rcases mem_cache.mp found with rfl | ⟨old, _⟩
    · rw [token]
      exact bound.ne'
    · exact absent cached old
  · intro receipt member unowned call sent same
    rcases List.mem_append.mp member with old | new
    · exact guarded.observed receipt old unowned call sent same
    · rw [List.mem_singleton.mp new] at same
      exact absurd (same.trans token) (guarded.calls call sent).ne
  · intro cached member open_
    rcases mem_cache.mp member with rfl | ⟨old, _⟩
    · exact absurd fresh open_
    · exact guarded.cached cached old open_

theorem timed (guarded : Guarded s) {receipt : Receipt} (received : receipt ∈ s.received) :
    Guarded { s with timers := s.timers ++ [⟨s.epoch, receipt.address, receipt.token⟩] } := by
  refine { guarded with timers := ?_, stale := ?_ }
  · intro timer member
    rcases List.mem_append.mp member with old | new
    · exact guarded.timers timer old
    · rw [List.mem_singleton.mp new]
      exact ⟨receipt, received, rfl, rfl⟩
  · intro timer member old
    rcases List.mem_append.mp member with earlier | new
    · exact guarded.stale timer earlier old
    · rw [List.mem_singleton.mp new] at old
      exact absurd rfl old

theorem prompt (guarded : Guarded s) (address : String) (kind : Kind) (code : String) (minimum : Nat) :
    Guarded (s.prompt address kind code minimum) := by
  unfold Backend.prompt
  split
  · exact guarded
  · dsimp only
    generalize built : ({ address, kind, code, minimum, token := s.nextToken, uncertain := !s.pairingOwner } : Prompt) =
      request
    have token : request.token = s.nextToken := by rw [← built]
    have arrived := guarded.arrive token (by rw [← built])
    have place : request.address = address := by rw [← built]
    have sort : request.kind = kind := by rw [← built]
    rw [token, place, sort] at arrived
    have received : (⟨s.nextToken, address, kind, s.pairingOwner⟩ : Receipt) ∈
        s.received ++ [⟨s.nextToken, address, kind, s.pairingOwner⟩] := List.mem_append_right _ (List.mem_singleton_self _)
    have live : Live (cache { s with
        nextToken := s.nextToken + 1
        received := s.received ++ [⟨s.nextToken, address, kind, s.pairingOwner⟩] } request) request :=
      .inr (mem_cache.mpr (.inl rfl))
    generalize come : cache { s with
        nextToken := s.nextToken + 1
        received := s.received ++ [⟨s.nextToken, address, kind, s.pairingOwner⟩] } request = cached at arrived live ⊢
    have receipts : (⟨s.nextToken, address, kind, s.pairingOwner⟩ : Receipt) ∈ cached.received := by
      rw [← come]
      exact received
    split
    · exact arrived.timed receipts
    next owning =>
      split
      · have replaces : Replaces cached request request := by
          have quiet : cached.unsettled request.token = 0 := by
            rw [← come, token]
            exact unsettled_fresh guarded.calls le_rfl
          refine ⟨by simpa using owning, live, rfl, rfl, rfl, fun uncertain _ => uncertain, ?_, ?_, ?_⟩
          · intro fired
            rw [← come, token] at fired
            exact absurd (guarded.fired _ fired).1 (Nat.lt_irrefl _)
          · exact fun open_ => absurd quiet open_
          · intro waits
            obtain ⟨call, member, same, _⟩ := waits
            rw [← come] at member
            exact absurd (same.trans token) (guarded.calls call member).ne
        exact (arrived.present replaces).timed receipts
      · have turned : Guarded { cached.fail "Another device is already pairing." with
            turnedAway := cached.turnedAway ++ [address] } := { arrived with }
        exact turned.timed receipts

/-- A timer has gone off for a prompt that is nowhere, or shown as expired. -/
theorem fire (guarded : Guarded s) {token : Nat} (bound : token < s.nextToken)
    (absent : ∀ cached ∈ s.pairingCache, cached.token ≠ token)
    (expired : ∀ shown, s.pairing = some shown → shown.token = token → shown.expired = true) :
    Guarded { s with fired := s.fired ++ [token] } := by
  refine { guarded with fired := ?_ }
  intro other member
  rcases List.mem_append.mp member with old | new
  · exact guarded.fired other old
  · rw [List.mem_singleton.mp new]
    exact ⟨bound, absent, expired⟩

theorem expiring (guarded : Guarded s) {shown : Prompt} (showing : s.pairing = some shown) :
    Guarded { s with pairing := some { shown with expired := true } } := by
  have live : ∀ prompt, Live { s with pairing := some { shown with expired := true } } prompt →
      ∃ before, Live s before ∧ prompt.token = before.token ∧ prompt.address = before.address ∧
        prompt.kind = before.kind ∧ prompt.uncertain = before.uncertain := by
    intro prompt live
    rcases live with same | cached
    · cases same
      exact ⟨shown, .inl showing, rfl, rfl, rfl, rfl⟩
    · exact ⟨prompt, .inr cached, rfl, rfl, rfl, rfl⟩
  refine ⟨?_, guarded.calls, guarded.receipts, guarded.unique, ?_, guarded.apart, guarded.timers, ?_, ?_,
    guarded.observed, guarded.single, ?_, guarded.cached, ?_⟩
  · intro off
    rw [guarded.held off] at showing
    cases showing
  · intro prompt alive
    obtain ⟨before, alive, token, address, kind, uncertain⟩ := live prompt alive
    obtain ⟨receipt, received, origin⟩ := guarded.known before alive
    refine ⟨receipt, received, origin.token.trans token.symm, origin.address.trans address.symm,
      origin.kind.trans kind.symm, ?_⟩
    rw [uncertain]
    exact origin.observed
  · intro timer member old prompt alive
    obtain ⟨before, alive, token, _⟩ := live prompt alive
    rw [token]
    exact guarded.stale timer member old before alive
  · intro token member
    obtain ⟨bound, absent, _⟩ := guarded.fired token member
    refine ⟨bound, absent, ?_⟩
    intro other same _
    cases same
    rfl
  · intro other same
    cases same
    exact guarded.shown shown showing
  · intro other same
    cases same
    exact guarded.cancelling shown showing

theorem expireShown (guarded : Guarded s) {timer : Ticket} (bound : timer.token < s.nextToken)
    (absent : ∀ cached ∈ s.pairingCache, cached.token ≠ timer.token) :
    Guarded (({ s with fired := s.fired ++ [timer.token] } : Backend).expireShown timer) := by
  unfold Backend.expireShown
  split
  next hidden =>
    apply guarded.fire bound absent
    intro shown showing
    rw [show s.pairing = none from hidden] at showing
    cases showing
  next shown showing =>
    split
    next other =>
      apply guarded.fire bound absent
      intro again same token
      rw [show s.pairing = some shown from showing] at same
      cases same
      rcases other with off | apart
      · rw [guarded.held off] at showing
        cases showing
      · exact absurd token apart
    · apply Guarded.cancelPairing
      have marked := @Guarded.expiring s guarded shown showing
      apply marked.fire bound absent
      intro again same _
      cases same
      rfl

/-- The cached copy of an expired prompt is the one under its address. -/
theorem expireCached_absent (guarded : Guarded s) {timer : Ticket} {receipt : Receipt} (received : receipt ∈ s.received)
    (token : receipt.token = timer.token) (address : receipt.address = timer.address) {copy : Prompt}
    (found : copy ∈ (s.expireCached timer).pairingCache) : copy.token ≠ timer.token := by
  intro mine
  have member := (expireCached_dropped s timer).cache copy found
  have place : copy.address = timer.address := by
    obtain ⟨other, known, origin⟩ := guarded.known copy (.inr member)
    obtain rfl := guarded.unique other known receipt received (origin.token.trans (mine.trans token.symm))
    exact origin.address.symm.trans address
  have first : s.cached timer.address = some copy := by
    cases search : s.cached timer.address with
    | none =>
      have none_ := List.find?_eq_none.mp search copy member
      simp [place] at none_
    | some other =>
      obtain ⟨there, same⟩ := cached_mem search
      rw [guarded.apart other there copy member (same.trans place.symm)]
  unfold expireCached uncache at found
  rw [first, Option.map_some, if_pos (congrArg some mine)] at found
  have apart := (List.mem_filter.mp found).2
  simp [place] at apart

theorem expire (guarded : Guarded s) (index : Nat) : Guarded (s.expire index) := by
  unfold Backend.expire
  split
  · exact guarded
  next timer found =>
    have member := List.mem_of_getElem? found
    obtain ⟨receipt, received, token, address⟩ := guarded.timers timer member
    have bound : timer.token < s.nextToken := by
      rw [← token]
      exact guarded.receipts receipt received
    have ended : Guarded { s with timers := s.timers.eraseIdx index } := by
      refine { guarded with timers := ?_, stale := ?_ }
      · exact fun other left => guarded.timers other (List.mem_of_mem_eraseIdx left)
      · exact fun other left => guarded.stale other (List.mem_of_mem_eraseIdx left)
    dsimp only
    split
    next old =>
      apply ended.fire bound
      · exact fun cached found => guarded.stale timer member old cached (.inr found)
      · exact fun shown showing same => absurd same (guarded.stale timer member old shown (.inl showing))
    · -- The cached copy goes, if it is the prompt of this timer.
      have same : ({ s with timers := s.timers.eraseIdx index, fired := s.fired ++ [timer.token] } : Backend).expireCached
          timer = { ({ s with timers := s.timers.eraseIdx index } : Backend).expireCached timer with
            fired := s.fired ++ [timer.token] } := by
        unfold expireCached
        by_cases mine : (Backend.cached { s with timers := s.timers.eraseIdx index } timer.address).map Prompt.token =
            some timer.token
        · rw [if_pos mine, if_pos (by exact mine)]
          rfl
        · rw [if_neg mine, if_neg (by exact mine)]
      have left := ended.dropped (expireCached_dropped _ timer)
      have absent : ∀ cached ∈ (({ s with timers := s.timers.eraseIdx index } : Backend).expireCached timer).pairingCache,
          cached.token ≠ timer.token := by
        intro copy found mine
        exact ended.expireCached_absent received token address found mine
      have record := (expireCached_dropped { s with timers := s.timers.eraseIdx index } timer)
      rw [same]
      have result := @Guarded.expireShown _ left timer (by rw [record.nextToken]; exact bound) absent
      rw [record.fired] at result
      exact result

theorem pairingChanged (guarded : Guarded s) : Guarded s.pairingChanged := by
  rw [pairingChanged_eq]
  cases showing : s.pairing with
  | none =>
    rw [present_none]
    exact guarded.dropped ⟨by constructor <;> rfl, .inl rfl, fun _ => id⟩
  | some shown =>
    exact guarded.present (guarded.replaces showing rfl rfl rfl rfl (fun uncertain _ => uncertain)
      (guarded.shown shown showing) (guarded.cancelling shown showing))

theorem acquirePairing (guarded : Guarded s) (registered : Bool) : Guarded (s.acquirePairing registered) := by
  rcases acquirePairing_cases s registered with same | dropped
  · rw [same]
    exact guarded
  · have owning : Guarded { s with pairingOwner := true } := { guarded with held := nofun }
    exact owning.dropped dropped

theorem replied (guarded : Guarded s) (index : Nat) (outcome : Outcome) : Guarded (s.replied index outcome) := by
  unfold Backend.replied
  split
  · exact guarded
  next call found =>
    split
    · exact guarded
    next waiting =>
      have unanswered : call.outcome = none := by simpa using waiting
      have recorded := guarded.recorded found unanswered outcome
      have member := List.mem_of_getElem? found
      dsimp only
      split
      · exact recorded
      · split
        next answers =>
          apply recorded.answerReturned
          · intro rejected
            rw [unsettled_replied found unanswered, if_pos ⟨rfl, answers, rejected⟩]
            have bound := guarded.single call.token
            omega
          · obtain ⟨bound, same⟩ := List.getElem?_eq_some_iff.mp found
            exact ⟨_, List.mem_set bound _, rfl, answers⟩
        next cancels =>
          apply recorded.cancelReturned
          intro shown showing mine open_
          have waits : Cancelling s shown.token := by
            rw [mine]
            exact ⟨call, member, rfl, by simpa using cancels, unanswered⟩
          apply (guarded.cancelling shown showing waits).2
          rw [unsettled_replied found unanswered] at open_
          rw [mine]
          omega

end Guarded

/-- No prompt is shown again while its cancellation waits for a reply. -/
def Undisturbed (s : Backend) (event : Event) : Prop :=
  ∀ request, s.reshownBy event = some request → ¬ Cancelling s request.token

theorem Guarded.step {event : Event} (guarded : Guarded s) (undisturbed : Undisturbed s event) : Guarded (s.step event) := by
  have heard : ∀ handled, Guarded handled → Guarded (s.callback handled) := by
    intro handled kept
    unfold callback
    split
    · exact guarded
    · exact kept
  cases event with
  | sspRequest address variant passkey =>
    apply heard
    split
    · exact guarded.prompt ..
    · exact guarded.prompt ..
    · exact guarded.prompt ..
    · exact guarded
  | pinRequest address min16 => exact heard _ (guarded.prompt ..)
  | pinDisplay address code => exact heard _ (guarded.prompt ..)
  | bondStateChanged address state =>
    apply heard
    split
    · exact guarded
    · exact guarded.dropped (clearPairing_dropped s address)
  | deviceCleared address => exact heard _ (guarded.dropped (clearPairing_dropped s address))
  | attach registered =>
    have attached : Guarded { s with pairingViews := s.pairingViews ++ [s.nextView], nextView := s.nextView + 1 } :=
      { guarded with }
    exact (attached.acquirePairing registered).pairingChanged
  | detach view =>
    show Guarded (s.detachPairingView view)
    unfold detachPairingView
    dsimp only
    split
    · have hidden : Guarded { s with pairing := none } :=
        guarded.dropped ⟨by constructor <;> rfl, .inl rfl, fun _ => id⟩
      exact { hidden with held := fun _ => rfl }
    · have detached : Guarded { s with pairingViews := s.pairingViews.filter (· != view) } := { guarded with }
      exact detached.pairingChanged
  | unregistered registered => exact guarded.acquirePairing registered
  | answer token accept pin => exact guarded.answerPairing token accept pin
  | replied index outcome => exact guarded.replied index outcome
  | bondState index state =>
    rcases bondStateReturned_cases s index state with ⟨ticket, request, found, shown, same⟩ | dropped
    · have quiet := undisturbed request (by simp only [reshownBy, found, Option.bind_some, shown])
      obtain ⟨member, owner, _⟩ := reshown_cached shown
      show Guarded (s.bondStateReturned index state)
      rw [same]
      have checked : Guarded { s with checks := s.checks.eraseIdx index, pairingValidation := false } := { guarded with }
      apply checked.present
      refine ⟨owner, .inr member, rfl, rfl, rfl, fun uncertain _ => uncertain, ?_, ?_, ?_⟩
      · exact fun fired => absurd rfl ((guarded.fired _ fired).2.1 request member)
      · exact fun open_ => .inr (guarded.cached request member open_)
      · exact fun waits => absurd waits quiet
    · exact guarded.dropped dropped
  | expire index => exact guarded.expire index
  | reset owner =>
    refine ⟨fun _ => rfl, guarded.calls, guarded.receipts, guarded.unique, ?_, nofun, guarded.timers, ?_, ?_,
      guarded.observed, guarded.single, nofun, nofun, nofun⟩
    · exact fun prompt live => absurd live (not_live rfl rfl)
    · exact fun timer _ _ prompt live => absurd live (not_live rfl rfl)
    · exact fun token member => ⟨(guarded.fired token member).1, nofun, nofun⟩

/-- A run in which no prompt comes back while it is being cancelled. -/
inductive UndisturbedRun : Backend → Prop where
  | initial (exported : Bool) : UndisturbedRun { callbackExported := exported }
  | step {s : Backend} {event : Event} (ran : UndisturbedRun s) (undisturbed : Undisturbed s event) :
      UndisturbedRun (s.step event)

theorem UndisturbedRun.guarded (ran : UndisturbedRun s) : Guarded s := by
  induction ran with
  | initial exported =>
    refine ⟨fun _ => rfl, nofun, nofun, nofun, ?_, nofun, nofun, nofun, nofun, nofun, fun _ => Nat.zero_le _, nofun,
      nofun, nofun⟩
    exact fun prompt live => absurd live (not_live rfl rfl)
  | step _ undisturbed ih => exact ih.step undisturbed

/-- In such a run an answer goes out only after every earlier one for its prompt was
rejected, before the prompt has expired, and for a prompt that came in to the pairing
owner and asks for an answer. -/
theorem answered_once (ran : UndisturbedRun s) (event : Event) : ∀ call ∈ s.sentBy event, call.method.answers = true →
    (∀ earlier ∈ s.calls, earlier.token = call.token → earlier.method.answers = true →
      earlier.outcome = some .rejected) ∧
    call.token ∉ s.fired ∧
    (∃ receipt ∈ s.received, receipt.token = call.token) ∧
    ∀ receipt ∈ s.received, receipt.token = call.token → receipt.owned = true ∧ receipt.kind ≠ .display := by
  intro call sent answers
  have guarded := ran.guarded
  obtain ⟨shown, answering⟩ := sentBy_answer sent answers
  obtain ⟨⟨⟨⟨pending, answered⟩, current⟩, _⟩, certain⟩ : (((shown.pending = false ∧ shown.answered = false) ∧
      shown.expired = false) ∧ shown.cancelRequested = false) ∧ shown.uncertain = false := by
    simpa [Prompt.answerable, and_assoc] using answering.answerable
  have settled : s.unsettled shown.token = 0 := by
    by_contra open_
    rcases guarded.shown shown answering.pairing open_ with busy | busy | busy
    · rw [pending] at busy
      cases busy
    · rw [answered] at busy
      cases busy
    · rw [certain] at busy
      cases busy
  obtain ⟨receipt, received, origin⟩ := guarded.known shown (.inl answering.pairing)
  rw [answering.token]
  refine ⟨?_, ?_, ⟨receipt, received, origin.token⟩, ?_⟩
  · exact fun earlier member same answers => unsettled_zero settled member same answers
  · intro fired
    have expired := (guarded.fired _ fired).2.2 shown answering.pairing rfl
    rw [current] at expired
    cases expired
  · intro other member same
    obtain rfl := guarded.unique other member receipt received (same.trans origin.token.symm)
    refine ⟨?_, ?_⟩
    · by_contra unowned
      rw [origin.observed (by simpa using unowned)] at certain
      cases certain
    · rw [origin.kind]
      exact answering.kind

theorem UndisturbedRun.plain {event : Event} (ran : UndisturbedRun s) (plain : s.reshownBy event = none) :
    UndisturbedRun (s.step event) := by
  apply ran.step
  intro request shown
  rw [plain] at shown
  cases shown

/-- The last view goes after the first answer was rejected, and another comes. -/
def rejected : Backend :=
  ((((((({} : Backend).step (.reset ":1.5")).step (.attach true)).step (.pinRequest "A" false)).step (.answer 0 true "12")).step
    (.replied 0 .rejected)).step (.detach 0)).step (.attach true)

def retrying : Backend := rejected.step (.bondState 0 (.ok 1))

theorem retry_after_rejection : (∃ request, rejected.reshownBy (.bondState 0 (.ok 1)) = some request) ∧
    ∃ call ∈ retrying.sentBy (.answer 0 true "1234"), call.method.answers = true ∧
      ∀ earlier ∈ retrying.calls, earlier.token = call.token → earlier.method.answers = true →
        earlier.outcome = some .rejected := by
  have ran : UndisturbedRun rejected :=
    (((((((UndisturbedRun.initial true).plain rfl).plain rfl).plain rfl).plain rfl).plain rfl).plain rfl).plain rfl
  have settled : ∀ call ∈ rejected.calls, call.outcome ≠ none := by decide +kernel
  have undisturbed : Undisturbed rejected (.bondState 0 (.ok 1)) := by
    rintro request - ⟨call, member, -, -, waiting⟩
    exact settled call member waiting
  obtain ⟨call, sent, answers⟩ : ∃ call ∈ retrying.sentBy (.answer 0 true "1234"), call.method.answers = true := by
    decide +kernel
  exact ⟨Option.isSome_iff_exists.mp (by decide +kernel), call, sent, answers,
    (answered_once (ran.step undisturbed) _ call sent answers).1⟩

/-- An answer and a cancellation are under way over two hand-overs. The rejection of the
answer clears its mark, and the failed cancellation that of the next answer. -/
def handedOverTwice : List Event :=
  [.reset ":1.5", .attach true, .sspRequest "A" 0 123456, .answer 0 true "", .detach 0, .attach true, .bondState 0 (.ok 1),
    .answer 0 false "", .detach 1, .attach true, .bondState 0 (.ok 1), .replied 0 .rejected, .answer 0 true "",
    .replied 1 .error]

theorem answered_twice : ∃ call ∈ (run {} handedOverTwice).sentBy (.answer 0 true ""), call.method.answers = true ∧
    ∃ earlier ∈ (run {} handedOverTwice).calls, earlier.token = call.token ∧ earlier.method.answers = true ∧
      earlier.outcome = none := by
  decide +kernel

end Backend
end FlossDesktop.Pairing
