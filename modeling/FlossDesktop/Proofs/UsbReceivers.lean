import FlossDesktop.Proofs.UsbOwnership

/-! The receivers that keep the adapter audible. Outside a stop a completion either
arms its receiver again in the same slot or records a fatal error. -/

namespace FlossDesktop.Usb

/-- The slots whose transfer receives packets of this kind. -/
def receivers (s : Usb) (kind : UInt8) : Finset SlotIndex :=
  Finset.univ.filter fun index => (s.held index).any fun entry => entry.2.1 == kind && entry.2.2

/-- The receive transfers of this kind that libusb holds. -/
def receiving (s : Usb) (kind : UInt8) : Finset Nat :=
  s.inFlight.filter fun id => ∃ index, s.held index = some (id, kind, true)

theorem mem_receivers {s : Usb} {kind : UInt8} {index : SlotIndex} :
    index ∈ receivers s kind ↔ ∃ id, s.held index = some (id, kind, true) := by
  simp only [receivers, Finset.mem_filter, Finset.mem_univ, true_and, Option.any_eq_true, Bool.and_eq_true, beq_iff_eq]
  constructor
  · rintro ⟨⟨id, same, receive⟩, occupied, rfl, rfl⟩
    exact ⟨id, occupied⟩
  · rintro ⟨id, occupied⟩
    exact ⟨_, occupied, rfl, rfl⟩

theorem receivers_congr {s after : Usb} (same : after.held = s.held) (kind : UInt8) :
    receivers after kind = receivers s kind := by
  simp only [receivers, same]

/-- Slots and transfers in flight count the same receivers. -/
theorem receiving_card {s : Usb} (owned : Owned s none) (kind : UInt8) :
    (receiving s kind).card = (receivers s kind).card := by
  refine (Finset.card_bij (fun index _ => (s.slots index).transfer.getD 0) ?_ ?_ ?_).symm
  · intro index member
    obtain ⟨id, occupied⟩ := mem_receivers.mp member
    have place := held_transfer occupied
    simp only [receiving, Finset.mem_filter, place, Option.getD_some]
    exact ⟨(owned.flight id).mpr ⟨index, place, by simp⟩, index, occupied⟩
  · intro first left second right same
    obtain ⟨id, one⟩ := mem_receivers.mp left
    obtain ⟨other, two⟩ := mem_receivers.mp right
    rw [held_transfer one, held_transfer two] at same
    cases same
    exact owned.injective (held_transfer one) (held_transfer two)
  · intro id member
    obtain ⟨_, index, occupied⟩ := Finset.mem_filter.mp member
    exact ⟨index, mem_receivers.mpr ⟨id, occupied⟩, by simp [held_transfer occupied]⟩

theorem receivers_fill {s after : Usb} {index : SlotIndex} {id : Nat} {kind : UInt8} {receive : Bool}
    (free : s.held index = none) (same : after.held = Function.update s.held index (some (id, kind, receive)))
    (other : UInt8) :
    (receivers after other).card = (receivers s other).card + if receive = true ∧ other = kind then 1 else 0 := by
  have absent : index ∉ receivers s other := by
    intro member
    obtain ⟨_, occupied⟩ := mem_receivers.mp member
    rw [free] at occupied
    cases occupied
  have elsewhere : ∀ place, place ≠ index → (place ∈ receivers after other ↔ place ∈ receivers s other) := by
    intro place different
    simp only [mem_receivers, same, Function.update_of_ne different]
  split_ifs with counted
  · obtain ⟨rfl, rfl⟩ := counted
    have grown : receivers after other = insert index (receivers s other) := by
      ext place
      by_cases here : place = index
      · subst here
        simp [mem_receivers, same]
      · simp [elsewhere place here, here]
    rw [grown, Finset.card_insert_of_notMem absent]
  · have kept : receivers after other = receivers s other := by
      ext place
      by_cases here : place = index
      · subst here
        refine ⟨fun member => ?_, fun member => absurd member absent⟩
        obtain ⟨_, occupied⟩ := mem_receivers.mp member
        rw [same, Function.update_self] at occupied
        cases occupied
        exact absurd ⟨rfl, rfl⟩ counted
      · exact elsewhere place here
    rw [kept, Nat.add_zero]

theorem filled_held (s : Usb) (index : SlotIndex) (kind : UInt8) (receive : Bool) (transfer : LibusbTransfer)
    (contents : Bytes) :
    (s.filled index kind receive transfer contents).held =
      Function.update s.held index (some (s.transfers.next, kind, receive)) := by
  funext place
  by_cases here : place = index
  · subst here
    simp [held, filled]
  · simp [held, filled, Function.update_of_ne here]

/-- Giving the loose slot up empties it. -/
theorem freeSlot_held {s : Usb} {index : SlotIndex} (owned : Owned s (some index)) {id : Nat}
    (occupied : (s.slots index).transfer = some id) :
    (s.freeSlot index).held = Function.update s.held index none := by
  obtain ⟨_, _, _, _, _, _, same⟩ := freeSlot_clean owned occupied
  rw [same]
  funext place
  by_cases here : place = index
  · subst here
    simp [held]
  · simp [held, Function.update_of_ne here]

/-- Submitting the loose slot keeps it or gives it up. -/
theorem submitSlot_held {s : Usb} {index : SlotIndex} (owned : Owned s (some index)) {id : Nat}
    (occupied : (s.slots index).transfer = some id) (code : Int) :
    (s.submitSlot index code).1.held = if code = 0 then s.held else Function.update s.held index none := by
  simp only [submitSlot, occupied, submit_clean owned occupied]
  by_cases accepted : code = 0
  · simp only [accepted, ne_eq, not_true_eq_false, if_false, if_true]
    exact held_congr rfl
  · simp only [accepted, ne_eq, not_false_eq_true, if_true, if_false]
    exact freeSlot_held owned occupied

/-- A launch fails with every slot as it was, or fills one free slot. -/
theorem launch_held {s : Usb} (owned : Owned s none) (kind : UInt8) (receive : Bool) (packets : Nat)
    (request : Request) (supply : Supply) :
    ((s.launch kind receive packets request supply).2 ≠ 0 ∧
      (s.launch kind receive packets request supply).1.held = s.held) ∨
    ((s.launch kind receive packets request supply).2 = 0 ∧ ∃ index id, s.held index = none ∧
      (s.launch kind receive packets request supply).1.held =
        Function.update s.held index (some (id, kind, receive))) := by
  unfold launch
  rcases allocate_cases s kind receive request.length packets supply with
    ⟨code, failed, same⟩ | ⟨transfer, same⟩ | ⟨index, transfer, free, same⟩ <;> rw [same]
  · exact .inl ⟨by rcases failed with rfl | rfl <;> exact Int.neg_ne_zero.mpr (by decide), rfl⟩
  · exact .inl ⟨show (-enomem : Int) ≠ 0 by decide, rfl⟩
  · have empty := held_eq_none.mpr free
    have ready := (owned.fill free kind receive transfer (List.replicate request.length 0)).prepare index request
    have fills := filled_held s index kind receive transfer (List.replicate request.length 0)
    rw [← held_congr (prepare_slots _ index request)] at fills
    simp only
    generalize prepare _ index request = next at ready fills ⊢
    have occupied : (next.slots index).transfer = some s.transfers.next :=
      held_transfer (by rw [fills, Function.update_self])
    have launched := submitSlot_held ready occupied supply.submit
    by_cases accepted : supply.submit = 0
    · refine .inr ⟨accepted, index, s.transfers.next, empty, ?_⟩
      rw [launched, if_pos accepted, fills]
    · refine .inl ⟨accepted, ?_⟩
      rw [launched, if_neg accepted, fills, Function.update_idem, ← empty, Function.update_eq_self]

/-- A receiver outside a stop that is not armed again has left a fatal error. -/
theorem unarmed_fatal {s : Usb} {slot : Slot} {transfer : LibusbTransfer} {c : Completion} {isoLoss : Bool}
    (receive : slot.receive = true)
    (unarmed : ¬ (slot.receive && !false && (s.report slot transfer c false isoLoss).fatal == 0 &&
      (c.status == .completed || isoLoss)) = true) : (s.report slot transfer c false isoLoss).fatal ≠ 0 := by
  intro clear
  simp only [receive, clear, Bool.true_and, Bool.not_false, beq_self_eq_true, Bool.or_eq_true, beq_iff_eq, not_or,
    Bool.not_eq_true] at unarmed
  obtain ⟨failed, rfl⟩ := unarmed
  exact report_fatal s slot transfer failed clear

/-- A completion keeps every slot, or gives up the slot of its own transfer. It
gives a receiver up only in a stop or with a fatal error. -/
theorem completedInner_held {s : Usb} {index : SlotIndex} (owned : Owned s (some index)) {c : Completion}
    {kind : UInt8} {receive : Bool} (occupied : s.held index = some (c.transfer, kind, receive)) :
    ((s.completedInner c).fatal = 0 → s.fatal = 0) ∧
    ((s.completedInner c).held = s.held ∨
      (s.completedInner c).held = Function.update s.held index none ∧
      (receive = true → s.stopping = false → (kind = 3 → s.stoppingSco = false) → (s.completedInner c).fatal ≠ 0)) := by
  have place := held_transfer occupied
  obtain ⟨transfer, _, _, stored, mine, _⟩ := owned.held index c.transfer place
  obtain ⟨rfl, rfl⟩ : (s.slots index).kind = kind ∧ (s.slots index).receive = receive := by
    simpa [held, place] using occupied
  have running : s.stopping = false → ((s.slots index).kind = 3 → s.stoppingSco = false) →
      (s.slots index).stopping s = false := by
    intro open_ sco
    by_cases voice : (s.slots index).kind = 3 <;> simp [Slot.stopping, open_, voice, sco]
  simp only [completedInner, stored, mine]
  have reported := report_reported s (s.slots index) transfer c ((s.slots index).stopping s)
    ((s.slots index).isoLoss c.status)
  have unarmed := @unarmed_fatal s (s.slots index) transfer c ((s.slots index).isoLoss c.status)
  generalize (s.slots index).stopping s = stopping at *
  generalize report_eq : s.report (s.slots index) transfer c stopping ((s.slots index).isoLoss c.status) = next at *
  have kept := owned.frame reported.toSameMemory
  have again : (next.slots index).transfer = some c.transfer := by rw [reported.slots]; exact place
  have same := held_congr reported.slots
  rw [submit_clean kept again]
  split_ifs with rearmed accepted
  · exact ⟨reported.fatal, .inl same⟩
  · have failed := kept.frame (reported_fatal next (show (-eio : Int) ≠ 0 by decide)).toSameMemory
    have fatal := (freeSlot_control { next with fatal := -eio } index).fatal
    refine ⟨fun clear => ?_, .inr ⟨?_, fun _ _ _ => ?_⟩⟩
    · rw [fatal] at clear
      cases clear
    · rw [freeSlot_held failed again]
      exact congrArg (Function.update · index none) same
    · rw [fatal]
      show (-eio : Int) ≠ 0
      decide
  · have fatal := (freeSlot_control next index).fatal
    refine ⟨fun clear => reported.fatal (fatal ▸ clear), .inr ⟨?_, fun receive open_ sco => ?_⟩⟩
    · rw [freeSlot_held kept again, same]
    · obtain rfl := running open_ sco
      rw [fatal, ← report_eq]
      exact unarmed receive (by rw [report_eq]; exact rearmed)

/-- What completions leave in place: the settings always, and outside a stop the
receivers too unless a fatal error was recorded. -/
structure Kept (s after : Usb) : Prop where
  endpoints : after.endpoints = s.endpoints
  alt : after.alt = s.alt
  stopping : after.stopping = s.stopping
  stoppingSco : after.stoppingSco = s.stoppingSco
  fatal : after.fatal = 0 → s.fatal = 0
  receivers : s.stopping = false → after.fatal = 0 → ∀ kind, (kind = 3 → s.stoppingSco = false) →
    receivers after kind = receivers s kind

theorem Kept.refl (s : Usb) : Kept s s := ⟨rfl, rfl, rfl, rfl, id, fun _ _ _ _ => rfl⟩

theorem Kept.trans {s middle after : Usb} (first : Kept s middle) (last : Kept middle after) : Kept s after where
  endpoints := last.endpoints.trans first.endpoints
  alt := last.alt.trans first.alt
  stopping := last.stopping.trans first.stopping
  stoppingSco := last.stoppingSco.trans first.stoppingSco
  fatal clear := first.fatal (last.fatal clear)
  receivers running clear kind voice := by
    have later := last.receivers (first.stopping.trans running) clear kind fun same =>
      first.stoppingSco.trans (voice same)
    exact later.trans (first.receivers running (last.fatal clear) kind voice)

/-- The same for the callback libusb makes. -/
theorem complete_held {s : Usb} (owned : Owned s none) {c : Completion} (member : c.transfer ∈ s.inFlight)
    {index : SlotIndex} {kind : UInt8} {receive : Bool} (occupied : s.held index = some (c.transfer, kind, receive)) :
    ((s.complete c).fatal = 0 → s.fatal = 0) ∧
    ((s.complete c).held = s.held ∨ (s.complete c).held = Function.update s.held index none ∧
      (receive = true → s.stopping = false → (kind = 3 → s.stoppingSco = false) → (s.complete c).fatal ≠ 0)) := by
  have loose := owned.returned (held_transfer occupied) (s.cancelling.erase c.transfer)
  rw [complete, if_pos member]
  exact completedInner_held loose occupied

theorem complete_kept {s : Usb} (owned : Owned s none) (c : Completion) : Kept s (s.complete c) := by
  by_cases member : c.transfer ∈ s.inFlight
  · obtain ⟨index, place, _⟩ := (owned.flight c.transfer).mp member
    have occupied : s.held index = some (c.transfer, (s.slots index).kind, (s.slots index).receive) := by
      simp [held, place]
    obtain ⟨fatal, slots⟩ := complete_held owned member occupied
    obtain ⟨endpoints, alt, stopping, stoppingSco, _⟩ := complete_settings s c
    refine ⟨endpoints, alt, stopping, stoppingSco, fatal, ?_⟩
    intro running clear kind voice
    rcases slots with same | ⟨same, given⟩
    · exact receivers_congr same kind
    · -- The slot given up did not hold a receiver of this kind.
      ext other
      by_cases here : other = index
      · subst here
        simp only [mem_receivers, same, Function.update_self]
        refine ⟨by rintro ⟨_, ⟨⟩⟩, ?_⟩
        rintro ⟨id, receiver⟩
        rw [occupied, Option.some.injEq, Prod.mk.injEq, Prod.mk.injEq] at receiver
        obtain ⟨_, rfl, receive⟩ := receiver
        exact absurd clear (given receive running voice)
      · simp only [mem_receivers, same, Function.update_of_ne here]
  · rw [complete, if_neg member]
    exact .refl s

theorem completions_kept {s : Usb} (owned : Owned s none) (completions : List Completion) :
    Kept s (completions.foldl complete s) := by
  induction completions generalizing s with
  | nil => exact .refl s
  | cons c rest ih => exact (complete_kept owned c).trans (ih (owned.complete c))

theorem cancelLoop_kept {s : Usb} (owned : Owned s none) (isoOnly : Bool) (deadline : Int)
    (rounds : List (Option Int × Poll)) : Kept s (s.cancelLoop isoOnly deadline rounds).1 := by
  induction rounds generalizing s with
  | nil => exact .refl s
  | cons round rest ih =>
    obtain ⟨reading, poll⟩ := round
    cases reading with
    | none =>
      simp only [cancelLoop]
      split_ifs <;> exact .refl s
    | some now =>
      simp only [cancelLoop]
      split_ifs
      · exact .refl s
      · exact .refl s
      · exact (completions_kept owned poll.completions).trans (ih (owned.completions poll.completions))

theorem requestCancel_kept (isoOnly : Bool) (s : Usb) (indices : List SlotIndex) :
    Kept s (indices.foldl (requestCancel isoOnly) s) := by
  induction indices generalizing s with
  | nil => exact .refl s
  | cons index rest ih =>
    refine Kept.trans ?_ (ih (requestCancel isoOnly s index))
    unfold requestCancel
    split
    · exact .refl s
    · split_ifs
      · exact ⟨rfl, rfl, rfl, rfl, id, fun _ _ kind _ => receivers_congr rfl kind⟩
      · exact .refl s

theorem cancel_kept {s : Usb} (owned : Owned s none) (isoOnly : Bool) (cancellation : Cancellation) :
    Kept s (s.cancel isoOnly cancellation).1 := by
  unfold cancel
  cases cancellation.start with
  | none => exact .refl s
  | some start =>
    exact (requestCancel_kept isoOnly s _).trans (cancelLoop_kept (owned.requested isoOnly _) isoOnly _ _)

theorem receive_held {s : Usb} (owned : Owned s none) (kind : UInt8) (supply : Supply) :
    ((s.receive kind supply).2 ≠ 0 ∧ (s.receive kind supply).1.held = s.held) ∨
    ((s.receive kind supply).2 = 0 ∧ ∃ index id, s.held index = none ∧
      (s.receive kind supply).1.held = Function.update s.held index (some (id, kind, true))) :=
  launch_held owned kind true _ _ supply

/-- Receivers started one after another are all there when the last one succeeds. -/
theorem receiveAll_receivers {s : Usb} (owned : Owned s none) (kinds : List (UInt8 × Supply))
    (done : (s.receiveAll kinds).2 = 0) (kind : UInt8) :
    (receivers (s.receiveAll kinds).1 kind).card = (receivers s kind).card + (kinds.map Prod.fst).count kind := by
  induction kinds generalizing s with
  | nil => rfl
  | cons entry rest ih =>
    obtain ⟨first, supply⟩ := entry
    rcases receive_held owned first supply with ⟨failed, _⟩ | ⟨started, index, id, free, same⟩
    · simp only [receiveAll, failed, ne_eq, not_false_eq_true, if_true] at done
    · have one := receivers_fill free same kind
      have next : Owned (s.receive first supply).1 none := owned.launch ..
      simp only [receiveAll, started, ne_eq, not_true_eq_false, if_false] at done ⊢
      rw [ih next done, one]
      by_cases mine : kind = first
      · subst mine
        simp
        omega
      · simp [mine, Ne.symm mine]

/-- A launch adds receivers of its own kind only, and none when it sends. -/
theorem launch_receivers {s : Usb} (owned : Owned s none) (kind : UInt8) (receive : Bool) (packets : Nat)
    (request : Request) (supply : Supply) {other : UInt8} (different : receive = true → other ≠ kind) :
    receivers (s.launch kind receive packets request supply).1 other = receivers s other := by
  rcases launch_held owned kind receive packets request supply with ⟨_, same⟩ | ⟨_, index, id, free, same⟩
  · exact receivers_congr same other
  · ext place
    by_cases here : place = index
    · subst here
      simp only [mem_receivers, same, Function.update_self, free, Option.some.injEq, Prod.mk.injEq, reduceCtorEq,
        exists_false, iff_false]
      rintro ⟨_, _, mine, receives⟩
      exact different receives mine.symm
    · simp only [mem_receivers, same, Function.update_of_ne here]

/-- A transmission changes no setting and no receiver. -/
theorem send_kept {s : Usb} (owned : Owned s none) (kind : UInt8) (data : Bytes) (supply : Supply) :
    Kept s (s.send kind data supply).1 := by
  have control := launch_control s kind false (s.sendPackets kind data.length) (s.sendRequest kind data) supply
  have slots : ∀ other : UInt8,
      (s.launch kind false (s.sendPackets kind data.length) (s.sendRequest kind data) supply).1.receivers other =
        s.receivers other := fun other =>
    launch_receivers owned kind false _ _ supply fun receive => absurd receive Bool.false_ne_true
  have launched : Kept s (s.launch kind false (s.sendPackets kind data.length) (s.sendRequest kind data) supply).1 :=
    ⟨control.endpoints, control.alt, control.stopping, control.stoppingSco, fun clear => control.fatal ▸ clear,
      fun _ _ other _ => slots other⟩
  unfold send
  simp only
  split_ifs
  · exact .refl s
  · exact .refl s
  · exact .refl s
  · exact ⟨launched.endpoints, launched.alt, launched.stopping, launched.stoppingSco, launched.fatal, launched.receivers⟩
  · exact launched

/-- The receivers an adapter in service has while no fatal error is recorded. -/
structure Armed (s : Usb) : Prop where
  owned : Owned s none
  stopping : s.stopping = false
  stoppingSco : s.stoppingSco = false
  listening : s.fatal = 0 → (receivers s 4).card = 1 ∧ (receivers s 2).card = 2 ∧
    (receivers s 3).card = if s.alt = 0 then 0 else 2

/-- Steps that keep the receivers keep the adapter in service. -/
theorem Armed.kept {s after : Usb} (armed : Armed s) (owned : Owned after none) (kept : Kept s after) : Armed after where
  owned := owned
  stopping := kept.stopping.trans armed.stopping
  stoppingSco := kept.stoppingSco.trans armed.stoppingSco
  listening clear := by
    have same := fun kind => kept.receivers armed.stopping clear kind fun _ => armed.stoppingSco
    rw [same 4, same 2, same 3, kept.alt]
    exact armed.listening (kept.fatal clear)

/-- Both start-up calls arm one interrupt and two bulk receivers. -/
theorem armed_start {s : Usb} (owned : Owned s none) (running : s.stopping = false) (voice : s.stoppingSco = false)
    (alt : s.alt = 0) (empty : ∀ kind, (receivers s kind).card = 0) (first second third : Supply)
    (done : (s.startReceivers first second third).2 = 0) : Armed (s.startReceivers first second third).1 := by
  have control := receiveAll_control s [(4, first), (2, second), (2, third)]
  have count := receiveAll_receivers owned _ done
  refine ⟨owned.receiveAll _, control.stopping.trans running, control.stoppingSco.trans voice, fun _ => ?_⟩
  have settled : (s.startReceivers first second third).1.alt = 0 := control.alt.trans alt
  refine ⟨?_, ?_, ?_⟩
  · rw [startReceivers, count 4, empty 4]; rfl
  · rw [startReceivers, count 2, empty 2]; rfl
  · rw [settled, startReceivers, count 3, empty 3]; rfl

theorem receivers_opened (endpoints : Endpoints) (kind : UInt8) : (receivers (opened endpoints) kind).card = 0 := by
  rw [Finset.card_eq_zero, Finset.eq_empty_iff_forall_notMem]
  intro index member
  obtain ⟨_, occupied⟩ := mem_receivers.mp member
  cases occupied

theorem held_kind {s : Usb} {index : SlotIndex} {id : Nat} {kind : UInt8} {receive : Bool}
    (occupied : s.held index = some (id, kind, receive)) : (s.slots index).kind = kind := by
  obtain ⟨_, _, same⟩ := Option.map_eq_some_iff.mp occupied
  cases same
  rfl

/-- A successful stop of the voice stream takes its receivers and no other. -/
theorem Armed.silenced {s quiet : Usb} (armed : Armed s) {cancellation : Cancellation}
    (cancelled : { s with stoppingSco := true }.cancel true cancellation = (quiet, 0)) (clear : quiet.fatal = 0) :
    quiet.stopping = false ∧ (receivers quiet 4).card = 1 ∧ (receivers quiet 2).card = 2 ∧
      (receivers quiet 3).card = 0 := by
  have halting : Owned { s with stoppingSco := true } none := { armed.owned with }
  have kept := cancel_kept halting true cancellation
  have silent := @cancel_iso { s with stoppingSco := true } cancellation
  rw [cancelled] at kept silent
  have same : ∀ kind, kind ≠ 3 → receivers quiet kind = receivers s kind := fun kind other =>
    (kept.receivers armed.stopping clear kind fun voice => absurd voice other).trans (receivers_congr rfl kind)
  obtain ⟨interrupt, bulk, _⟩ := armed.listening (kept.fatal clear)
  refine ⟨kept.stopping.trans armed.stopping, ?_, ?_, ?_⟩
  · rw [same 4 (by decide)]; exact interrupt
  · rw [same 2 (by decide)]; exact bulk
  · rw [Finset.card_eq_zero, Finset.eq_empty_iff_forall_notMem]
    intro index member
    obtain ⟨id, occupied⟩ := mem_receivers.mp member
    exact silent rfl (held_transfer occupied) (held_kind occupied)

theorem Armed.setSco {s : Usb} (armed : Armed s) {mode : Int} {switch : Switch}
    (done : (s.setSco mode switch).2 = 0) : Armed (s.setSco mode switch).1 := by
  have owned := armed.owned.setSco mode switch
  have switched := (setSco_switched done).1
  have stopped : Owned { s with stoppingSco := true } none := { armed.owned with }
  have settled := stopped.cancel true switch.cancellation
  generalize (s.setSco mode switch).1 = after at owned switched ⊢
  cases switched with
  | same => exact armed
  | stopped quiet cancelled clear =>
    obtain ⟨running, interrupt, bulk, voice⟩ := armed.silenced cancelled clear
    refine ⟨owned, running, rfl, fun _ => ?_⟩
    have same : ∀ kind, receivers (quiet.selected 0 quiet.endpoints) kind = receivers quiet kind := receivers_congr rfl
    rw [same 4, same 2, same 3]
    exact ⟨interrupt, bulk, voice⟩
  | started quiet endpoints cancelled clear chosen done =>
    obtain ⟨running, interrupt, bulk, voice⟩ := armed.silenced cancelled clear
    rw [cancelled] at settled
    have ready : Owned (quiet.selected (s.alternate mode) endpoints) none := { settled with }
    have control := receiveAll_control (quiet.selected (s.alternate mode) endpoints)
      [(3, switch.first), (3, switch.second)]
    have count := receiveAll_receivers ready _ done
    have same : ∀ kind, receivers (quiet.selected (s.alternate mode) endpoints) kind = receivers quiet kind :=
      receivers_congr rfl
    have alt : (quiet.selected (s.alternate mode) endpoints).alt ≠ 0 := chosen
    refine ⟨owned, control.stopping.trans running, control.stoppingSco, fun _ => ⟨?_, ?_, ?_⟩⟩
    · rw [count 4, same 4, interrupt]; rfl
    · rw [count 2, same 2, bulk]; rfl
    · rw [control.alt, if_neg alt, count 3, same 3, voice]; rfl

/-- An adapter in service: started successfully, then sending, pumping events and
changing its voice setting, with every change so far successful. -/
inductive Serving (endpoints : Endpoints) : Usb → Prop where
  | started (first second third : Supply) (done : ((opened endpoints).startReceivers first second third).2 = 0) :
      Serving endpoints ((opened endpoints).startReceivers first second third).1
  | claimed (claiming : Claiming) (done : ((opened endpoints).claim claiming).2 = 0) :
      Serving endpoints ((opened endpoints).claim claiming).1
  | send {s : Usb} (serving : Serving endpoints s) (kind : UInt8) (data : Bytes) (supply : Supply) :
      Serving endpoints (s.send kind data supply).1
  | pump {s : Usb} (serving : Serving endpoints s) (poll : Poll) : Serving endpoints (s.pump poll).1
  | setSco {s : Usb} (serving : Serving endpoints s) (mode : Int) (switch : Switch)
      (done : (s.setSco mode switch).2 = 0) : Serving endpoints (s.setSco mode switch).1

theorem armed_claim (endpoints : Endpoints) {claiming : Claiming} (done : ((opened endpoints).claim claiming).2 = 0) :
    Armed ((opened endpoints).claim claiming).1 := by
  unfold claim at done ⊢
  simp only at done ⊢
  split_ifs at done ⊢
  · cases done
  · cases done
  · cases done
  · cases done
  · have claimed : Owned { opened endpoints with detached := true, claimed0 := true, claimed1 := true } none :=
      { owned_opened endpoints with }
    refine armed_start claimed rfl rfl rfl ?_ _ _ _ done
    exact fun kind => (congrArg Finset.card (receivers_congr rfl kind)).trans (receivers_opened endpoints kind)

theorem Serving.armed {endpoints : Endpoints} {s : Usb} (serving : Serving endpoints s) : Armed s := by
  induction serving with
  | started first second third done =>
    exact armed_start (owned_opened endpoints) rfl rfl rfl (receivers_opened endpoints) first second third done
  | claimed claiming done => exact armed_claim endpoints done
  | send _ kind data supply ih => exact ih.kept (ih.owned.send kind data supply) (send_kept ih.owned kind data supply)
  | pump _ poll ih =>
    exact ih.kept (ih.owned.completions poll.completions) (completions_kept ih.owned poll.completions)
  | setSco _ mode switch done ih => exact ih.setSco done

theorem selectAlt_fatal (s : Usb) (alt : Nat) (switch : Switch) : (s.selectAlt alt switch).1.fatal = s.fatal := by
  unfold selectAlt
  cases switch.descriptors with
  | error code => rfl
  | ok endpoints =>
    simp only
    split_ifs
    · rfl
    · exact (receiveAll_control _ _).fatal
    · exact (receiveAll_control _ _).fatal

/-- A mode change clears no fatal error, wherever it stops. -/
theorem setSco_fatal {s : Usb} (owned : Owned s none) (mode : Int) (switch : Switch)
    (clear : (s.setSco mode switch).1.fatal = 0) : s.fatal = 0 := by
  have stopping : Owned { s with stoppingSco := true } none := { owned with }
  have kept := cancel_kept stopping true switch.cancellation
  unfold setSco at clear
  simp only at clear
  split_ifs at clear
  · exact clear
  · exact clear
  · exact clear
  · exact kept.fatal clear
  · exact kept.fatal clear
  · exact kept.fatal clear
  · exact kept.fatal clear
  · rw [selectAlt_fatal] at clear
    exact kept.fatal clear

theorem claim_fatal (s : Usb) (claiming : Claiming) : (s.claim claiming).1.fatal = s.fatal := by
  unfold claim
  simp only
  split_ifs
  · rfl
  · rfl
  · rfl
  · rfl
  · exact (receiveAll_control _ _).fatal

/-- No operation clears a fatal error. -/
theorem perform_fatal {s : Usb} (owned : Owned s none) (operation : Operation)
    (clear : (s.perform operation).1.fatal = 0) : s.fatal = 0 := by
  cases operation with
  | send kind data supply => exact (send_kept owned kind data supply).fatal clear
  | receive kind supply => exact (launch_control ..).fatal.symm.trans clear
  | startReceivers first second third => exact (receiveAll_control _ _).fatal.symm.trans clear
  | claim claiming => exact (claim_fatal s claiming).symm.trans clear
  | pump poll => exact (completions_kept owned poll.completions).fatal clear
  | cancel isoOnly cancellation => exact (cancel_kept owned isoOnly cancellation).fatal clear
  | setSco mode switch => exact setSco_fatal owned mode switch clear

/-- What may follow a callback: more callbacks of the operation it runs in, then any
operations, whatever each of them returns. -/
inductive Later (s : Usb) : Usb → Prop where
  | now : Later s s
  | complete {later : Usb} (run : Later s later) (c : Completion) : Later s (later.complete c)
  | perform {later : Usb} (run : Later s later) (operation : Operation) : Later s (later.perform operation).1

theorem Later.owned {s later : Usb} (run : Later s later) (owned : Owned s none) : Owned later none := by
  induction run with
  | now => exact owned
  | complete _ c ih => exact ih.complete c
  | perform _ operation ih => exact ih.perform operation

/-- A recorded fatal error is never cleared again. -/
theorem Later.failed {s later : Usb} (run : Later s later) (owned : Owned s none) (failed : s.fatal ≠ 0) :
    later.fatal ≠ 0 := by
  induction run with
  | now => exact failed
  | complete before c ih => exact fun clear => ih ((complete_kept (before.owned owned) c).fatal clear)
  | perform before operation ih => exact fun clear => ih (perform_fatal (before.owned owned) operation clear)

/-- With a fatal error recorded, a pump returns libusb's own error if there is one
and else the recorded error as the callbacks of this pump leave it. -/
theorem pump_reports {s : Usb} (owned : Owned s none) (failed : s.fatal ≠ 0) (poll : Poll) :
    (s.pump poll).2 ≠ 0 ∧ (s.pump poll).1.fatal ≠ 0 ∧
      (s.pump poll).2 = if poll.code ≠ 0 ∧ poll.code ≠ libusbErrorInterrupted then poll.code else (s.pump poll).1.fatal := by
  have stays : (poll.completions.foldl complete s).fatal ≠ 0 := fun clear =>
    failed ((completions_kept owned poll.completions).fatal clear)
  refine ⟨?_, stays, rfl⟩
  unfold pump
  simp only
  split_ifs with code
  · exact code.1
  · exact stays

/-- The completion of a receiver that is not submitted again, although neither the
owner nor the voice stream it belongs to is stopping. -/
def Lost (s : Usb) (c : Completion) : Prop :=
  ∃ index kind, s.held index = some (c.transfer, kind, true) ∧ s.stopping = false ∧ (kind = 3 → s.stoppingSco = false) ∧
    c.transfer ∈ s.inFlight ∧ c.transfer ∉ (s.complete c).inFlight

theorem lost_fatal {s : Usb} (owned : Owned s none) {c : Completion} (lost : Lost s c) : (s.complete c).fatal ≠ 0 := by
  obtain ⟨index, kind, occupied, running, voice, member, unarmed⟩ := lost
  rcases (complete_held owned member occupied).2 with same | ⟨_, given⟩
  · have place : ((s.complete c).slots index).transfer = some c.transfer := held_transfer (same ▸ occupied)
    exact absurd (((owned.complete c).flight c.transfer).mpr ⟨index, place, by simp⟩) unarmed
  · exact given rfl running voice

/-- The states in which a callback of an adapter in service runs: those between
operations, those inside a pump, and those inside the cancellation of a mode change. -/
inductive Within (endpoints : Endpoints) : Usb → Prop where
  | serving {s : Usb} (serving : Serving endpoints s) : Within endpoints s
  | changing {s : Usb} (serving : Serving endpoints s) (indices : List SlotIndex) :
      Within endpoints (indices.foldl (requestCancel true) { s with stoppingSco := true })
  | complete {s : Usb} (within : Within endpoints s) (c : Completion) : Within endpoints (s.complete c)

theorem Within.owned {endpoints : Endpoints} {s : Usb} (within : Within endpoints s) : Owned s none := by
  induction within with
  | serving serving => exact serving.armed.owned
  | changing serving indices =>
    refine Owned.requested ?_ true indices
    exact { serving.armed.owned with }
  | complete _ c ih => exact ih.complete c

/-- An adapter in service without a fatal error has one interrupt and two bulk
receivers in flight, and two isochronous ones exactly while an alternate is
selected. A receiver lost outside a stop leaves a fatal error. No later callback or
operation clears it, and from then on every pump returns an error: the one libusb
itself reported, or else the one recorded by then. -/
theorem receivers_stay_armed (endpoints : Endpoints) (s : Usb) (serving : Serving endpoints s) :
    (s.fatal = 0 → s.stopping = false → (receiving s 4).card = 1 ∧ (receiving s 2).card = 2 ∧
      (receiving s 3).card = if s.alt = 0 then 0 else 2) ∧
    ∀ middle c, Within endpoints middle → Lost middle c → ∀ later, Later (middle.complete c) later →
      later.fatal ≠ 0 ∧ ∀ poll : Poll, (later.pump poll).2 ≠ 0 ∧ (later.pump poll).1.fatal ≠ 0 ∧
        (later.pump poll).2 =
          if poll.code ≠ 0 ∧ poll.code ≠ libusbErrorInterrupted then poll.code else (later.pump poll).1.fatal := by
  have armed := serving.armed
  refine ⟨fun clear _ => ?_, fun middle c within lost later run => ?_⟩
  · rw [receiving_card armed.owned, receiving_card armed.owned, receiving_card armed.owned]
    exact armed.listening clear
  · have owned := within.owned.complete c
    have failed := run.failed owned (lost_fatal within.owned lost)
    exact ⟨failed, pump_reports (run.owned owned) failed⟩

/-- The adapter right after a successful start. -/
def started : Usb := ((opened {}).startReceivers {} {} {}).1

theorem stalled_lost : Lost started { transfer := 0, status := .stall } :=
  ⟨0, 4, by decide, rfl, by decide, by decide, by decide⟩

/-- All three receivers run after the start. The interrupt receiver stalls, then a
command is sent and a voice stream asked for: the change fails, and a pump without
any event still returns the error. -/
theorem started_receivers :
    ((receiving started 4).card = 1 ∧ (receiving started 2).card = 2 ∧ (receiving started 3).card = 0) ∧
    ((((started.complete { transfer := 0, status := .stall }).send 1 [3, 12, 0] {}).1.setSco 2 {}).1.pump {}).2 ≠ 0 := by
  have armed := receivers_stay_armed {} started (.started {} {} {} rfl)
  have later : Later (started.complete { transfer := 0, status := .stall })
      (((started.complete { transfer := 0, status := .stall }).send 1 [3, 12, 0] {}).1.setSco 2 {}).1 :=
    .perform (.perform .now (.send 1 [3, 12, 0] {})) (.setSco 2 {})
  exact ⟨armed.1 rfl rfl,
    ((armed.2 started _ (.serving (.started {} {} {} rfl)) stalled_lost _ later).2 {}).1⟩

/-- The interrupt receiver stalls. The next pump returns another value than the
one recorded for it: libusb's own error, or that of a bulk receiver cancelled since. -/
theorem pump_returns_other_error : Serving {} started ∧ Lost started { transfer := 0, status := .stall } ∧
    (started.complete { transfer := 0, status := .stall }).fatal = -5 ∧
    ((started.complete { transfer := 0, status := .stall }).pump { code := -1 }).2 = -1 ∧
    ((started.complete { transfer := 0, status := .stall }).pump
      { completions := [{ transfer := 1, status := .cancelled }] }).2 = -125 := by
  refine ⟨.started {} {} {} rfl, stalled_lost, by decide, by decide, by decide⟩

end FlossDesktop.Usb
