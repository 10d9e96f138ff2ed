import FlossDesktop.Proofs.UsbReceivers

/-! Changing the voice setting again after a change that failed. The stream is torn down
before anything else can fail, but the setting is recorded late, so a request for the
setting still recorded is answered from the record alone. -/

namespace FlossDesktop.Usb

/-- Completions empty slots and fill none. A transfer still to be cancelled keeps its slot. -/
structure Narrowed (s after : Usb) : Prop where
  held : ∀ index entry, after.held index = some entry → s.held index = some entry
  cancelling : ∀ id ∈ after.cancelling, id ∈ s.cancelling
  kept : ∀ id ∈ after.cancelling, ∀ index entry, s.held index = some (id, entry) → after.held index = some (id, entry)

theorem Narrowed.refl (s : Usb) : Narrowed s s := ⟨fun _ _ => id, fun _ => id, fun _ _ _ _ => id⟩

theorem Narrowed.trans {s middle after : Usb} (first : Narrowed s middle) (last : Narrowed middle after) :
    Narrowed s after where
  held index entry occupied := first.held index entry (last.held index entry occupied)
  cancelling id member := first.cancelling id (last.cancelling id member)
  kept id member index entry occupied :=
    last.kept id member index entry (first.kept id (last.cancelling id member) index entry occupied)

theorem freeSlot_cancelling (s : Usb) (index : SlotIndex) : (s.freeSlot index).cancelling = s.cancelling := by
  unfold freeSlot
  split
  · rfl
  · split
    · rfl
    · split_ifs <;> rfl

theorem submit_cancelling (s : Usb) (id : Nat) (code : Int) : (s.submit id code).cancelling = s.cancelling := by
  unfold submit
  split_ifs <;> rfl

theorem completedInner_cancelling (s : Usb) (c : Completion) : (s.completedInner c).cancelling = s.cancelling := by
  unfold completedInner
  split
  · rfl
  · split
    · rfl
    · rename_i transfer _ _ index _
      have reported := (report_reported s (s.slots index) transfer c ((s.slots index).stopping s)
        ((s.slots index).isoLoss c.status)).cancelling
      dsimp only
      generalize s.report (s.slots index) transfer c ((s.slots index).stopping s)
        ((s.slots index).isoLoss c.status) = next at reported ⊢
      split_ifs
      · exact (submit_cancelling next c.transfer c.resubmit).trans reported
      · exact (freeSlot_cancelling _ index).trans ((submit_cancelling next c.transfer c.resubmit).trans reported)
      · exact (freeSlot_cancelling next index).trans reported

theorem complete_narrowed {s : Usb} (owned : Owned s none) (c : Completion) : Narrowed s (s.complete c) := by
  by_cases member : c.transfer ∈ s.inFlight
  · obtain ⟨place, occupied, _⟩ := (owned.flight c.transfer).mp member
    have held : s.held place = some (c.transfer, (s.slots place).kind, (s.slots place).receive) := by
      simp [held, occupied]
    have cancelling : (s.complete c).cancelling = s.cancelling.erase c.transfer := by
      rw [complete, if_pos member, completedInner_cancelling]
    have others : ∀ id ∈ (s.complete c).cancelling, id ≠ c.transfer ∧ id ∈ s.cancelling := fun id there =>
      Finset.mem_erase.mp (cancelling ▸ there)
    rcases (complete_held owned member held).2 with same | ⟨emptied, _⟩
    · exact ⟨fun index entry => by rw [same]; exact id, fun id there => (others id there).2,
        fun _ _ index entry => by rw [same]; exact id⟩
    · refine ⟨fun index entry still => ?_, fun id there => (others id there).2, fun id there index entry still => ?_⟩
      · by_cases here : index = place
        · rw [emptied, here, Function.update_self] at still
          cases still
        · rwa [emptied, Function.update_of_ne here] at still
      · by_cases here : index = place
        · rw [here, held] at still
          cases still
          exact absurd rfl (others _ there).1
        · rw [emptied, Function.update_of_ne here]
          exact still
  · rw [complete, if_neg member]
    exact .refl s

theorem pump_narrowed {s : Usb} (owned : Owned s none) (poll : Poll) : Narrowed s (s.pump poll).1 := by
  have completions : ∀ (cs : List Completion) (s : Usb), Owned s none → Narrowed s (cs.foldl complete s) := by
    intro cs
    induction cs with
    | nil => exact fun s _ => .refl s
    | cons c rest ih => exact fun s owned => (complete_narrowed owned c).trans (ih _ (owned.complete c))
  exact completions poll.completions s owned

theorem cancelLoop_narrowed {s : Usb} (owned : Owned s none) (isoOnly : Bool) (deadline : Int)
    (rounds : List (Option Int × Poll)) : Narrowed s (s.cancelLoop isoOnly deadline rounds).1 := by
  induction rounds generalizing s with
  | nil => exact .refl s
  | cons round rest ih =>
    obtain ⟨reading, poll⟩ := round
    unfold cancelLoop
    split_ifs
    · exact .refl s
    · cases reading with
      | none => exact .refl s
      | some now =>
        dsimp only
        split_ifs
        · exact .refl s
        · exact (pump_narrowed owned poll).trans (ih (owned.completions poll.completions))

/-- Every cancellation that was asked for is of a transfer of the voice stream, which still
has its slot. -/
def Cancelled (s : Usb) : Prop := ∀ id ∈ s.cancelling, ∃ index receive, s.held index = some (id, 3, receive)

theorem Cancelled.narrowed {s after : Usb} (cancelled : Cancelled s) (narrowed : Narrowed s after) : Cancelled after := by
  intro id member
  obtain ⟨index, receive, occupied⟩ := cancelled id (narrowed.cancelling id member)
  exact ⟨index, receive, narrowed.kept id member index _ occupied⟩

theorem requestCancel_cancelled {s : Usb} (cancelled : Cancelled s) (indices : List SlotIndex) :
    Cancelled (indices.foldl (requestCancel true) s) ∧ (indices.foldl (requestCancel true) s).held = s.held := by
  induction indices generalizing s with
  | nil => exact ⟨cancelled, rfl⟩
  | cons index rest ih =>
    have here : Cancelled (requestCancel true s index) ∧ (requestCancel true s index).held = s.held := by
      unfold requestCancel
      split
      · exact ⟨cancelled, rfl⟩
      · rename_i id occupied
        split_ifs with selected
        · refine ⟨fun other member => ?_, held_congr rfl⟩
          rcases Finset.mem_insert.mp member with rfl | earlier
          · have voice : (s.slots index).kind = 3 := by simpa [Slot.selected, occupied] using selected
            exact ⟨index, (s.slots index).receive, by simp [held, occupied, voice]⟩
          · exact cancelled other earlier
        · exact ⟨cancelled, rfl⟩
    obtain ⟨later, same⟩ := ih here.1
    exact ⟨later, same.trans here.2⟩

/-- What a cancellation of the voice stream leaves, whatever it returns. -/
theorem cancel_voice {s : Usb} (owned : Owned s none) (cancelled : Cancelled s) (cancellation : Cancellation) :
    Cancelled (s.cancel true cancellation).1 ∧
      ∀ index entry, (s.cancel true cancellation).1.held index = some entry → s.held index = some entry := by
  unfold cancel
  split
  · exact ⟨cancelled, fun _ _ => id⟩
  · rename_i start _
    obtain ⟨requested, same⟩ := requestCancel_cancelled cancelled (List.finRange 72)
    have narrowed := cancelLoop_narrowed (owned.requested true (List.finRange 72)) true (start + 2000) cancellation.rounds
    exact ⟨requested.narrowed narrowed, fun index entry occupied => same ▸ narrowed.held index entry occupied⟩

theorem submitSlot_cancelling (s : Usb) (index : SlotIndex) (code : Int) :
    (s.submitSlot index code).1.cancelling = s.cancelling := by
  unfold submitSlot
  cases (s.slots index).transfer with
  | none =>
    dsimp only
    split_ifs
    · exact freeSlot_cancelling s index
    · rfl
  | some id =>
    dsimp only
    split_ifs
    · exact (freeSlot_cancelling _ index).trans (submit_cancelling s id code)
    · exact submit_cancelling s id code

theorem launch_cancelling (s : Usb) (kind : UInt8) (receive : Bool) (packets : Nat) (request : Request) (supply : Supply) :
    (s.launch kind receive packets request supply).1.cancelling = s.cancelling := by
  unfold launch
  rcases allocate_cases s kind receive request.length packets supply with
    ⟨code, failed, same⟩ | ⟨transfer, same⟩ | ⟨index, transfer, free, same⟩ <;> rw [same]
  · refine (submitSlot_cancelling ..).trans ?_
    unfold prepare
    split
    · rfl
    · split <;> rfl

theorem launch_cancelled {s : Usb} (owned : Owned s none) (cancelled : Cancelled s) (kind : UInt8) (receive : Bool)
    (packets : Nat) (request : Request) (supply : Supply) :
    Cancelled (s.launch kind receive packets request supply).1 := by
  intro id member
  rw [launch_cancelling] at member
  obtain ⟨index, receives, occupied⟩ := cancelled id member
  refine ⟨index, receives, ?_⟩
  rcases launch_held owned kind receive packets request supply with ⟨_, same⟩ | ⟨_, place, new, free, same⟩
  · rw [same]
    exact occupied
  · have other : index ≠ place := by
      intro here
      rw [here, free] at occupied
      cases occupied
    rw [same, Function.update_of_ne other]
    exact occupied

theorem receiveAll_cancelled {s : Usb} (owned : Owned s none) (cancelled : Cancelled s) (kinds : List (UInt8 × Supply)) :
    Cancelled (s.receiveAll kinds).1 ∧ (s.receiveAll kinds).1.cancelling = s.cancelling := by
  induction kinds generalizing s with
  | nil => exact ⟨cancelled, rfl⟩
  | cons entry rest ih =>
    obtain ⟨kind, supply⟩ := entry
    have one : Cancelled (s.receive kind supply).1 := launch_cancelled owned cancelled _ _ _ _ _
    have same : (s.receive kind supply).1.cancelling = s.cancelling := launch_cancelling ..
    have next : Owned (s.receive kind supply).1 none := owned.launch ..
    simp only [receiveAll]
    split_ifs
    · exact ⟨one, same⟩
    · obtain ⟨later, kept⟩ := ih next one
      exact ⟨later, kept.trans same⟩

/-- Receivers of other kinds are none of the voice stream. -/
theorem receiveAll_others {s : Usb} (owned : Owned s none) (kinds : List (UInt8 × Supply)) {kind : UInt8}
    (others : ∀ entry ∈ kinds, kind ≠ entry.1) :
    receivers (s.receiveAll kinds).1 kind = receivers s kind ∧
      ∀ index id receive, (s.receiveAll kinds).1.held index = some (id, kind, receive) →
        s.held index = some (id, kind, receive) := by
  induction kinds generalizing s with
  | nil => exact ⟨rfl, fun _ _ _ => id⟩
  | cons entry rest ih =>
    obtain ⟨first, supply⟩ := entry
    have different := others (first, supply) List.mem_cons_self
    have next : Owned (s.receive first supply).1 none := owned.launch ..
    have same : receivers (s.receive first supply).1 kind = receivers s kind :=
      launch_receivers owned first true _ _ supply fun _ => different
    have here : ∀ index id receive, (s.receive first supply).1.held index = some (id, kind, receive) →
        s.held index = some (id, kind, receive) := by
      intro index id receive occupied
      rcases receive_held owned first supply with ⟨_, kept⟩ | ⟨_, place, new, free, grown⟩
      · rwa [kept] at occupied
      · by_cases at_ : index = place
        · rw [grown, at_, Function.update_self] at occupied
          cases occupied
          exact absurd rfl different
        · rwa [grown, Function.update_of_ne at_] at occupied
    simp only [receiveAll]
    split_ifs
    · exact ⟨same, here⟩
    · obtain ⟨later, further⟩ := ih next fun other member => others other (List.mem_cons_of_mem _ member)
      exact ⟨later.trans same, fun index id receive occupied => here index id receive (further index id receive occupied)⟩

/-- A start that fails leaves fewer receivers than were asked for. -/
theorem receiveAll_failed {s : Usb} (owned : Owned s none) (kinds : List (UInt8 × Supply)) (kind : UInt8)
    (failed : (s.receiveAll kinds).2 ≠ 0) :
    (receivers (s.receiveAll kinds).1 kind).card < (receivers s kind).card + kinds.length := by
  induction kinds generalizing s with
  | nil => exact absurd rfl failed
  | cons entry rest ih =>
    obtain ⟨first, supply⟩ := entry
    have next : Owned (s.receive first supply).1 none := owned.launch ..
    rw [List.length_cons]
    rcases receive_held owned first supply with ⟨broken, kept⟩ | ⟨started, place, new, free, grown⟩
    · simp only [receiveAll, broken, ne_eq, not_false_eq_true, if_true]
      rw [receivers_congr kept kind]
      omega
    · simp only [receiveAll, started, ne_eq, not_true_eq_false, if_false] at failed ⊢
      have more := ih next failed
      have one := receivers_fill free grown kind
      split_ifs at one <;> omega

/-- The mode is one the adapter has an alternate for, and not the current one. -/
def Switches (s : Usb) (mode : Int) : Prop :=
  (mode = 0 ∨ mode = 2 ∨ mode = 3) ∧ (mode = 0 ∨ s.alternate mode ≠ 0) ∧ s.alternate mode ≠ s.alt

instance (s : Usb) (mode : Int) : Decidable (Switches s mode) := by
  unfold Switches
  infer_instance

/-- How a change of mode ends that tears the stream down. -/
inductive Attempted (s : Usb) (mode : Int) (switch : Switch) : Usb → Int → Prop where
  | refused (quiet : Usb) (result code : Int) (failed : code ≠ 0)
      (cancelled : { s with stoppingSco := true }.cancel true switch.cancellation = (quiet, result)) :
      Attempted s mode switch quiet code
  | stopped (quiet : Usb) (cancelled : { s with stoppingSco := true }.cancel true switch.cancellation = (quiet, 0))
      (alt : s.alternate mode = 0) :
      Attempted s mode switch (quiet.selected 0 quiet.endpoints) 0
  | unset (quiet : Usb) (code : Int) (failed : code ≠ 0) (endpoints : Endpoints)
      (cancelled : { s with stoppingSco := true }.cancel true switch.cancellation = (quiet, 0)) :
      Attempted s mode switch { quiet with alt := 0, endpoints, isoRxErrors := 0, isoTxErrors := 0 } code
  | started (quiet : Usb) (endpoints : Endpoints)
      (cancelled : { s with stoppingSco := true }.cancel true switch.cancellation = (quiet, 0))
      (alt : s.alternate mode ≠ 0) (code : Int)
      (done : code = 0 ↔ ((quiet.selected (s.alternate mode) endpoints).receiveAll
        [(3, switch.first), (3, switch.second)]).2 = 0) :
      Attempted s mode switch
        ((quiet.selected (s.alternate mode) endpoints).receiveAll [(3, switch.first), (3, switch.second)]).1 code

theorem setSco_attempted {s : Usb} {mode : Int} (switch : Switch) (switches : Switches s mode) :
    Attempted s mode switch (s.setSco mode switch).1 (s.setSco mode switch).2 := by
  obtain ⟨known, supported, other⟩ := switches
  have valid : ¬ (mode ≠ 0 ∧ mode ≠ 2 ∧ mode ≠ 3) := by omega
  have available : ¬ (mode ≠ 0 ∧ s.alternate mode = 0) := fun none => supported.elim none.1 fun some_ => some_ none.2
  unfold setSco
  dsimp only
  rw [if_neg valid, if_neg available, if_neg other]
  generalize cancelled : { s with stoppingSco := true }.cancel true switch.cancellation = result
  obtain ⟨quiet, code⟩ := result
  split_ifs with failed fatal busy alt
  · exact .refused quiet code code failed cancelled
  · exact .refused quiet code _ fatal cancelled
  · exact .refused quiet code _ (show (-eio : Int) ≠ 0 by decide) cancelled
  · obtain rfl := not_not.mp failed
    exact .stopped quiet cancelled alt
  · obtain rfl := not_not.mp failed
    unfold selectAlt
    split
    · exact .unset quiet _ (show (-eio : Int) ≠ 0 by decide) quiet.endpoints cancelled
    · rename_i endpoints _
      dsimp only
      split_ifs with unselected broken
      · exact .unset quiet _ (show (-eio : Int) ≠ 0 by decide) endpoints cancelled
      · exact .started quiet endpoints cancelled alt (-eio) ⟨fun none => absurd none (by decide), fun done => absurd done broken⟩
      · exact .started quiet endpoints cancelled alt 0 ⟨fun _ => not_not.mp broken, fun _ => rfl⟩

theorem setSco_unswitched {s : Usb} {mode : Int} (switch : Switch) (same : ¬ Switches s mode) :
    (s.setSco mode switch).1 = s ∧ ((s.setSco mode switch).2 = 0 →
      s.alternate mode = s.alt ∧ (mode = 0 ∨ (mode = 2 ∨ mode = 3) ∧ s.alternate mode ≠ 0)) := by
  unfold setSco
  dsimp only
  split_ifs with unknown unsupported current
  · exact ⟨rfl, fun done => absurd (show -einval = 0 from done) (by decide)⟩
  · exact ⟨rfl, fun done => absurd (show -enotsup = 0 from done) (by decide)⟩
  · refine ⟨rfl, fun _ => ⟨current, ?_⟩⟩
    by_cases off : mode = 0
    · exact .inl off
    · exact .inr ⟨by omega, fun none => unsupported ⟨off, none⟩⟩
  all_goals
    refine absurd ⟨by omega, ?_, current⟩ same
    by_cases off : mode = 0
    · exact .inl off
    · exact .inr fun none => unsupported ⟨off, none⟩

/-- Every state of an adapter in use, whatever its calls returned. The mark says whether the
last change that tore the voice stream down has failed. -/
inductive Retried (endpoints : Endpoints) : Usb → Bool → Prop where
  | opened : Retried endpoints (opened endpoints) false
  | claim {s : Usb} {failed : Bool} (retried : Retried endpoints s failed) (claiming : Claiming) :
      Retried endpoints (s.claim claiming).1 failed
  | startReceivers {s : Usb} {failed : Bool} (retried : Retried endpoints s failed) (first second third : Supply) :
      Retried endpoints (s.startReceivers first second third).1 failed
  | send {s : Usb} {failed : Bool} (retried : Retried endpoints s failed) (kind : UInt8) (data : Bytes) (supply : Supply) :
      Retried endpoints (s.send kind data supply).1 failed
  | pump {s : Usb} {failed : Bool} (retried : Retried endpoints s failed) (poll : Poll) :
      Retried endpoints (s.pump poll).1 failed
  | setSco {s : Usb} {failed : Bool} (retried : Retried endpoints s failed) (mode : Int) (switch : Switch) :
      Retried endpoints (s.setSco mode switch).1
        (if Switches s mode then (s.setSco mode switch).2 != 0 else failed)

/-- What the record of the setting is worth. After a failed change the stream is still
stopping or misses a receiver. -/
structure Recorded (s : Usb) (failed : Bool) : Prop where
  owned : Owned s none
  cancelled : Cancelled s
  running : s.stopping = false
  silent : s.alt = 0 → ∀ index id receive, s.held index ≠ some (id, 3, receive)
  settled : failed = false → s.stoppingSco = false ∧ s.cancelling = ∅ ∧
    (s.fatal = 0 → s.alt ≠ 0 → (receivers s 3).card = 2)
  broken : failed = true → s.stoppingSco = true ∨ s.alt ≠ 0 ∧ (receivers s 3).card < 2

theorem recorded_opened (endpoints : Endpoints) : Recorded (opened endpoints) false where
  owned := owned_opened endpoints
  cancelled := fun id member => absurd member (Finset.notMem_empty id)
  running := rfl
  silent := fun _ _ _ _ occupied => nomatch occupied
  settled := fun _ => ⟨rfl, rfl, fun _ some_ => absurd rfl some_⟩
  broken := nofun

/-- Steps that change no setting and start no voice receiver keep the record. -/
theorem Recorded.step {s after : Usb} {failed : Bool} (recorded : Recorded s failed) (owned : Owned after none)
    (cancelled : Cancelled after) (alt : after.alt = s.alt) (stopping : after.stopping = s.stopping)
    (stoppingSco : after.stoppingSco = s.stoppingSco) (cancelling : s.cancelling = ∅ → after.cancelling = ∅)
    (voice : s.alt = 0 → ∀ index id receive, after.held index = some (id, 3, receive) → s.held index = some (id, 3, receive))
    (fewer : (receivers after 3).card ≤ (receivers s 3).card)
    (kept : s.stoppingSco = false → after.fatal = 0 → s.fatal = 0 ∧ receivers after 3 = receivers s 3) :
    Recorded after failed where
  owned := owned
  cancelled := cancelled
  running := stopping.trans recorded.running
  silent idle index id receive occupied :=
    recorded.silent (alt.symm.trans idle) index id receive (voice (alt.symm.trans idle) index id receive occupied)
  settled clean := by
    obtain ⟨sco, none, both⟩ := recorded.settled clean
    refine ⟨stoppingSco.trans sco, cancelling none, fun clear some_ => ?_⟩
    obtain ⟨before, same⟩ := kept sco clear
    rw [same]
    exact both before (alt ▸ some_)
  broken dirty := (recorded.broken dirty).imp stoppingSco.trans fun ⟨some_, missing⟩ =>
    ⟨alt.symm ▸ some_, Nat.lt_of_le_of_lt fewer missing⟩

theorem narrowed_receivers {s after : Usb} (narrowed : Narrowed s after) (kind : UInt8) :
    receivers after kind ⊆ receivers s kind := by
  intro index member
  obtain ⟨id, occupied⟩ := mem_receivers.mp member
  exact mem_receivers.mpr ⟨id, narrowed.held index _ occupied⟩

theorem Recorded.pump {s : Usb} {failed : Bool} (recorded : Recorded s failed) (poll : Poll) :
    Recorded (s.pump poll).1 failed := by
  have narrowed := pump_narrowed recorded.owned poll
  have kept := completions_kept recorded.owned poll.completions
  refine recorded.step (recorded.owned.completions poll.completions) (recorded.cancelled.narrowed narrowed) kept.alt
    kept.stopping kept.stoppingSco ?_ (fun _ index id receive => narrowed.held index _)
    (Finset.card_le_card (narrowed_receivers narrowed 3)) ?_
  · intro none
    rw [Finset.eq_empty_iff_forall_notMem]
    intro id member
    have earlier := narrowed.cancelling id member
    rw [none] at earlier
    exact Finset.notMem_empty id earlier
  · exact fun sco clear => ⟨kept.fatal clear, kept.receivers recorded.running clear 3 fun _ => sco⟩

theorem Recorded.receiveAll {s : Usb} {failed : Bool} (recorded : Recorded s failed) (kinds : List (UInt8 × Supply))
    (others : ∀ entry ∈ kinds, (3 : UInt8) ≠ entry.1) : Recorded (s.receiveAll kinds).1 failed := by
  have control := receiveAll_control s kinds
  obtain ⟨cancelled, cancelling⟩ := receiveAll_cancelled recorded.owned recorded.cancelled kinds
  obtain ⟨same, held⟩ := receiveAll_others recorded.owned kinds others
  exact recorded.step (recorded.owned.receiveAll kinds) cancelled control.alt control.stopping control.stoppingSco
    cancelling.trans (fun _ => held) (le_of_eq (congrArg Finset.card same)) fun _ clear => ⟨control.fatal ▸ clear, same⟩

theorem Recorded.startReceivers {s : Usb} {failed : Bool} (recorded : Recorded s failed) (first second third : Supply) :
    Recorded (s.startReceivers first second third).1 failed := by
  apply recorded.receiveAll
  intro entry member
  have kind : entry.1 = 4 ∨ entry.1 = 2 := by
    simp only [List.mem_cons, List.not_mem_nil, or_false] at member
    rcases member with rfl | rfl | rfl
    · exact .inl rfl
    · exact .inr rfl
    · exact .inr rfl
  rcases kind with kind | kind <;> rw [kind] <;> decide

theorem Recorded.claim {s : Usb} {failed : Bool} (recorded : Recorded s failed) (claiming : Claiming) :
    Recorded (s.claim claiming).1 failed := by
  have taken : ∀ detached claimed0 claimed1 : Bool, Recorded { s with detached, claimed0, claimed1 } failed :=
    fun detached claimed0 claimed1 => ⟨{ recorded.owned with }, recorded.cancelled, recorded.running, recorded.silent,
      recorded.settled, recorded.broken⟩
  unfold Usb.claim
  dsimp only
  split_ifs
  · exact recorded
  · exact taken true s.claimed0 s.claimed1
  · exact taken true true s.claimed1
  · exact taken true true true
  · exact (taken true true true).startReceivers claiming.first claiming.second claiming.third

/-- Voice is only sent while an alternate is selected, so an idle adapter stays idle. -/
theorem Recorded.send {s : Usb} {failed : Bool} (recorded : Recorded s failed) (kind : UInt8) (data : Bytes)
    (supply : Supply) : Recorded (s.send kind data supply).1 failed := by
  have launched : (kind = 3 → s.alt ≠ 0) →
      Recorded (s.launch kind false (s.sendPackets kind data.length) (s.sendRequest kind data) supply).1 failed := by
    intro voice
    have control := launch_control s kind false (s.sendPackets kind data.length) (s.sendRequest kind data) supply
    have same : (s.launch kind false (s.sendPackets kind data.length) (s.sendRequest kind data) supply).1.receivers 3 =
        s.receivers 3 :=
      launch_receivers recorded.owned kind false _ _ supply fun receive => absurd receive Bool.false_ne_true
    refine recorded.step (recorded.owned.launch ..) (launch_cancelled recorded.owned recorded.cancelled _ _ _ _ _)
      control.alt control.stopping control.stoppingSco (launch_cancelling ..).trans ?_
      (le_of_eq (congrArg Finset.card same)) fun _ clear => ⟨control.fatal ▸ clear, same⟩
    intro idle index id receive occupied
    rcases launch_held recorded.owned kind false (s.sendPackets kind data.length) (s.sendRequest kind data) supply with
      ⟨_, kept⟩ | ⟨_, place, new, free, grown⟩
    · rwa [kept] at occupied
    · by_cases here : index = place
      · rw [grown, here, Function.update_self] at occupied
        cases occupied
        exact absurd idle (voice rfl)
      · rwa [grown, Function.update_of_ne here] at occupied
  unfold Usb.send
  dsimp only
  split_ifs with empty idle large
  · exact recorded
  · exact recorded
  · exact recorded
  · have done := launched fun voice none => idle ⟨voice, none⟩
    exact ⟨{ done.owned with }, done.cancelled, done.running, done.silent, done.settled, done.broken⟩
  · exact launched fun voice none => idle ⟨voice, none⟩

/-- After a successful cancellation nothing of the voice stream is left. -/
theorem cancelled_clean {s quiet : Usb} (owned : Owned s none) (cancelled : Cancelled s) {cancellation : Cancellation}
    (done : s.cancel true cancellation = (quiet, 0)) :
    (∀ index id receive, quiet.held index ≠ some (id, 3, receive)) ∧ quiet.cancelling = ∅ ∧ (receivers quiet 3).card = 0 := by
  have silent := @cancel_iso s cancellation
  have left := (cancel_voice owned cancelled cancellation).1
  rw [done] at silent left
  have none : ∀ index id receive, quiet.held index ≠ some (id, 3, receive) := fun index id receive occupied =>
    silent rfl (held_transfer occupied) (held_kind occupied)
  refine ⟨none, ?_, ?_⟩
  · rw [Finset.eq_empty_iff_forall_notMem]
    intro id member
    obtain ⟨index, receive, occupied⟩ := left id member
    exact none index id receive occupied
  · rw [Finset.card_eq_zero, Finset.eq_empty_iff_forall_notMem]
    intro index member
    obtain ⟨id, occupied⟩ := mem_receivers.mp member
    exact none index id true occupied

theorem Recorded.attempted {s after : Usb} {failed : Bool} {mode code : Int} {switch : Switch} (recorded : Recorded s failed)
    (owned : Owned after none) (attempted : Attempted s mode switch after code) : Recorded after (code != 0) := by
  have halting : Owned { s with stoppingSco := true } none := { recorded.owned with }
  have pending : Cancelled { s with stoppingSco := true } := recorded.cancelled
  have settings := cancel_settings { s with stoppingSco := true } true switch.cancellation
  have voice := cancel_voice halting pending switch.cancellation
  cases attempted with
  | refused quiet result code nonzero cancelled =>
    rw [cancelled] at settings voice
    have dirty : (code != 0) = true := bne_iff_ne.mpr nonzero
    rw [dirty]
    refine ⟨owned, voice.1, settings.stopping.trans recorded.running, ?_, nofun, fun _ => .inl settings.stoppingSco⟩
    intro idle index id receive occupied
    exact recorded.silent (settings.alt.symm.trans idle) index id receive (voice.2 index _ occupied)
  | stopped quiet cancelled alt =>
    obtain ⟨none, clean, _⟩ := cancelled_clean halting pending cancelled
    rw [cancelled] at settings voice
    exact ⟨owned, voice.1, settings.stopping.trans recorded.running, fun _ => none,
      fun _ => ⟨rfl, clean, fun _ some_ => absurd rfl some_⟩, nofun⟩
  | unset quiet code nonzero endpoints cancelled =>
    obtain ⟨none, _, _⟩ := cancelled_clean halting pending cancelled
    rw [cancelled] at settings voice
    have dirty : (code != 0) = true := bne_iff_ne.mpr nonzero
    rw [dirty]
    exact ⟨owned, voice.1, settings.stopping.trans recorded.running, fun _ => none, nofun, fun _ => .inl settings.stoppingSco⟩
  | started quiet endpoints cancelled alt code done =>
    obtain ⟨_, clean, zero⟩ := cancelled_clean halting pending cancelled
    have kept := halting.cancel true switch.cancellation
    rw [cancelled] at settings voice kept
    have ready : Owned (quiet.selected (s.alternate mode) endpoints) none := { kept with }
    have control := receiveAll_control (quiet.selected (s.alternate mode) endpoints)
      [(3, switch.first), (3, switch.second)]
    obtain ⟨later, same⟩ := receiveAll_cancelled (s := quiet.selected (s.alternate mode) endpoints) ready voice.1
      [(3, switch.first), (3, switch.second)]
    have some_ : (quiet.selected (s.alternate mode) endpoints).alt ≠ 0 := alt
    have before : (receivers (quiet.selected (s.alternate mode) endpoints) 3).card = 0 := zero
    refine ⟨owned, later, control.stopping.trans (settings.stopping.trans recorded.running),
      fun idle => absurd (control.alt.symm.trans idle) some_, fun clean_ => ?_, fun dirty => .inr ?_⟩
    · have count := receiveAll_receivers ready _ (done.mp (by simpa using clean_)) 3
      rw [before] at count
      exact ⟨control.stoppingSco, same.trans clean, fun _ _ => count⟩
    · have failed := fun none => (bne_iff_ne.mp dirty) (done.mpr none)
      have count := receiveAll_failed ready _ 3 failed
      rw [before] at count
      exact ⟨fun none => some_ (control.alt.symm.trans none), count⟩

theorem Recorded.setSco {s : Usb} {failed : Bool} (recorded : Recorded s failed) (mode : Int) (switch : Switch) :
    Recorded (s.setSco mode switch).1 (if Switches s mode then (s.setSco mode switch).2 != 0 else failed) := by
  split_ifs with switches
  · exact recorded.attempted (recorded.owned.setSco mode switch) (setSco_attempted switch switches)
  · rw [(setSco_unswitched switch switches).1]
    exact recorded

theorem Retried.recorded {endpoints : Endpoints} {s : Usb} {failed : Bool} (retried : Retried endpoints s failed) :
    Recorded s failed := by
  induction retried with
  | opened => exact recorded_opened endpoints
  | claim _ claiming ih => exact ih.claim claiming
  | startReceivers _ first second third ih => exact ih.startReceivers first second third
  | send _ kind data supply ih => exact ih.send kind data supply
  | pump _ poll ih => exact ih.pump poll
  | setSco _ mode switch ih => exact ih.setSco mode switch

/-- The voice receivers in flight that nobody asked to cancel. -/
def uncancelled (s : Usb) : Finset Nat := (receiving s 3).filter (· ∉ s.cancelling)

/-- What a change of mode promises by returning success. -/
structure Honest (s : Usb) (mode : Int) (switch : Switch) : Prop where
  voice : mode = 2 ∨ mode = 3 → (s.setSco mode switch).2 = 0 → (s.setSco mode switch).1.fatal = 0 →
    (s.setSco mode switch).1.alt = s.alternate mode ∧ (s.setSco mode switch).1.stoppingSco = false ∧
      (uncancelled (s.setSco mode switch).1).card = 2
  off : mode = 0 → (s.setSco mode switch).2 = 0 →
    (s.setSco mode switch).1.alt = 0 ∧ (s.setSco mode switch).1.stoppingSco = false ∧
      ∀ id ∈ (s.setSco mode switch).1.inFlight, ∀ index receive, (s.setSco mode switch).1.held index ≠ some (id, 3, receive)

/-- The setting asked for is the recorded one, although the last change has failed. -/
def Stale (s : Usb) (failed : Bool) (mode : Int) : Prop :=
  failed = true ∧ s.alternate mode = s.alt ∧ (mode = 0 ∨ (mode = 2 ∨ mode = 3) ∧ s.alt ≠ 0 ∧ s.fatal = 0)

theorem Recorded.uncancelled {s : Usb} (recorded : Recorded s false) (clear : s.fatal = 0) (voice : s.alt ≠ 0) :
    (uncancelled s).card = 2 := by
  obtain ⟨_, none, both⟩ := recorded.settled rfl
  have all : Usb.uncancelled s = receiving s 3 := by
    unfold Usb.uncancelled
    rw [none]
    exact Finset.filter_true_of_mem fun id _ => Finset.notMem_empty id
  rw [all, receiving_card recorded.owned]
  exact both clear voice

/-- A change that tears the stream down keeps its promise. -/
theorem honest_switch {s : Usb} {failed : Bool} (recorded : Recorded s failed) {mode : Int} {switch : Switch}
    (switches : Switches s mode) : Honest s mode switch := by
  have after := recorded.setSco mode switch
  rw [if_pos switches] at after
  have settled : (s.setSco mode switch).2 = 0 → Recorded (s.setSco mode switch).1 false := fun done => by
    rwa [done] at after
  have chosen : (s.setSco mode switch).2 = 0 → (s.setSco mode switch).1.alt = s.alternate mode := by
    intro done
    have attempted := setSco_attempted switch switches
    rw [done] at attempted
    generalize (s.setSco mode switch).1 = next at attempted ⊢
    cases attempted with
    | refused _ _ _ nonzero => exact absurd rfl nonzero
    | stopped quiet _ alt => exact alt.symm
    | unset _ _ nonzero => exact absurd rfl nonzero
    | started quiet endpoints => exact (receiveAll_control _ [(3, switch.first), (3, switch.second)]).alt
  refine ⟨fun voice done clear => ?_, fun off done => ?_⟩
  · have alt := chosen done
    have supported : s.alternate mode ≠ 0 := switches.2.1.resolve_left (by omega)
    exact ⟨alt, ((settled done).settled rfl).1, (settled done).uncancelled clear (alt ▸ supported)⟩
  · have idle : (s.setSco mode switch).1.alt = 0 := (chosen done).trans (by rw [off]; rfl)
    exact ⟨idle, ((settled done).settled rfl).1, fun id _ index receive => (settled done).silent idle index id receive⟩

/-- In every state an adapter can be in, after any failures, a change of mode keeps what its
success promises, except exactly when it asks for the recorded setting after the last
change that tore the stream down has failed. -/
theorem retry_honest_iff {endpoints : Endpoints} {s : Usb} {failed : Bool} (retried : Retried endpoints s failed)
    (mode : Int) (switch : Switch) : Honest s mode switch ↔ ¬ Stale s failed mode := by
  have recorded := retried.recorded
  constructor
  · rintro honest ⟨rfl, current, kind⟩
    have unchanged : (s.setSco mode switch).1 = s ∧ (s.setSco mode switch).2 = 0 := by
      refine ⟨(setSco_unswitched _ fun switches => switches.2.2 current).1, ?_⟩
      unfold setSco
      dsimp only
      rw [if_neg (by omega), if_neg (by omega), if_pos current]
    obtain ⟨voice, off⟩ := honest
    rw [unchanged.1, unchanged.2] at voice off
    rcases kind with rfl | ⟨kind, some_, clear⟩
    · obtain ⟨idle, running, _⟩ := off rfl rfl
      rcases recorded.broken rfl with stopping | ⟨some_, _⟩
      · exact Bool.false_ne_true (running.symm.trans stopping)
      · exact some_ idle
    · obtain ⟨_, running, both⟩ := voice kind rfl clear
      rcases recorded.broken rfl with stopping | ⟨_, missing⟩
      · exact Bool.false_ne_true (running.symm.trans stopping)
      · have fewer : (uncancelled s).card ≤ (receiving s 3).card := Finset.card_filter_le ..
        rw [receiving_card recorded.owned] at fewer
        omega
  · intro fresh
    by_cases switches : Switches s mode
    · exact honest_switch recorded switches
    · obtain ⟨same, success⟩ := setSco_unswitched switch switches
      refine ⟨fun voice done clear => ?_, fun off done => ?_⟩
      · obtain ⟨current, supported⟩ := success done
        rw [same] at clear ⊢
        have some_ : s.alt ≠ 0 := by
          rw [← current]
          exact (supported.resolve_left (by omega)).2
        cases failed with
        | true => exact absurd ⟨rfl, current, .inr ⟨voice, some_, clear⟩⟩ fresh
        | false => exact ⟨current.symm, (recorded.settled rfl).1, recorded.uncancelled clear some_⟩
      · obtain ⟨current, _⟩ := success done
        rw [same]
        have idle : s.alt = 0 := current.symm.trans (by rw [off]; rfl)
        cases failed with
        | true => exact absurd ⟨rfl, current, .inl off⟩ fresh
        | false => exact ⟨idle, (recorded.settled rfl).1, fun id _ index receive => recorded.silent idle index id receive⟩

/-- Wideband voice runs, and stopping it takes longer than two seconds. -/
def timedOut : Usb :=
  let voice := ((opened { wbsAlt := 1 }).setSco 3 { descriptors := .ok { wbsAlt := 1 } }).1
  (voice.setSco 0 { cancellation := { rounds := [(some 2000, {})] } }).1

theorem timedOut_retried : Retried { wbsAlt := 1 } timedOut true := by
  have idle : Retried { wbsAlt := 1 } (opened { wbsAlt := 1 }) false := .opened
  have voice := idle.setSco 3 { descriptors := .ok { wbsAlt := 1 } }
  have stopped := voice.setSco 0 { cancellation := { rounds := [(some 2000, {})] } }
  have mark : ∀ failed, Retried { wbsAlt := 1 } timedOut failed → failed = true → Retried { wbsAlt := 1 } timedOut true :=
    fun _ retried same => same ▸ retried
  exact mark _ stopped (by decide +kernel)

/-- Asking for voice again succeeds at once, with both receivers cancelled. -/
theorem retry_reports_cancelled_receivers : Retried { wbsAlt := 1 } timedOut true ∧ ¬ Honest timedOut 3 {} ∧
    (timedOut.setSco 3 {}).2 = 0 ∧ (timedOut.setSco 3 {}).1.fatal = 0 ∧ (timedOut.setSco 3 {}).1.stoppingSco = true ∧
    (uncancelled (timedOut.setSco 3 {}).1).card = 0 := by
  have facts : (timedOut.setSco 3 {}).2 = 0 ∧ (timedOut.setSco 3 {}).1.fatal = 0 ∧
      (timedOut.setSco 3 {}).1.stoppingSco = true ∧ (uncancelled (timedOut.setSco 3 {}).1).card = 0 := by decide +kernel
  refine ⟨timedOut_retried, fun honest => ?_, facts⟩
  exact Bool.false_ne_true ((honest.voice (.inr rfl) facts.1 facts.2.1).2.1.symm.trans facts.2.2.1)

/-- Both callbacks are in at last. -/
def stopAgain : Switch :=
  { cancellation := { rounds := [(some 10, { completions := [{ transfer := 0, status := .cancelled }, { transfer := 1, status := .cancelled }] })] } }

/-- Stopping it again is no shortcut and keeps its promise. -/
theorem retry_of_stop_is_honest : Honest timedOut 0 stopAgain ∧ timedOut.inFlight = {0, 1} ∧
    (timedOut.setSco 0 stopAgain).2 = 0 ∧ (timedOut.setSco 0 stopAgain).1.alt = 0 ∧
    (timedOut.setSco 0 stopAgain).1.inFlight = ∅ := by
  have honest : Honest timedOut 0 stopAgain :=
    (retry_honest_iff timedOut_retried 0 stopAgain).mpr fun stale => absurd stale.2.1 (by decide +kernel)
  have done : (timedOut.setSco 0 stopAgain).2 = 0 := by decide +kernel
  exact ⟨honest, by decide +kernel, done, (honest.off rfl done).1, by decide +kernel⟩

end FlossDesktop.Usb
