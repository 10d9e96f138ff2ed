import FlossDesktop.Proofs.UsbReceivers
import Mathlib.Logic.Relation

/-! What a transmission does. A failed one leaves everything that matters as it was, and a
good one is one more transfer, which is followed here through all later changes of the
owner until its callback runs. -/

namespace FlossDesktop.Usb

/-- One change of the owner while it is not being dropped: a launch, a callback, or a change
of settings around them. A callback inside an operation runs between two of these. -/
inductive Move : Usb → Usb → Prop where
  | launch {s} (kind : UInt8) (receive : Bool) (packets : Nat) (request : Request) (supply : Supply) :
      Move s (s.launch kind receive packets request supply).1
  | complete {s} (c : Completion) : Move s (s.complete c)
  | around {s after} (slots : after.slots = s.slots) (transfers : after.transfers = s.transfers) (buffers : after.buffers = s.buffers)
      (inFlight : after.inFlight = s.inFlight) (faults : after.faults = s.faults) (stopping : after.stopping = s.stopping) : Move s after

abbrev Moves := Relation.ReflTransGen Move

variable {s after : Usb} {id : Nat} {index : SlotIndex}

theorem moves_completions (s : Usb) (completions : List Completion) : Moves s (completions.foldl complete s) := by
  induction completions generalizing s with
  | nil => exact .refl
  | cons c rest ih => exact .head (.complete c) (ih _)

theorem moves_requested (s : Usb) (isoOnly : Bool) (indices : List SlotIndex) : Moves s (indices.foldl (requestCancel isoOnly) s) := by
  induction indices generalizing s with
  | nil => exact .refl
  | cons index rest ih =>
    refine .head ?_ (ih _)
    unfold requestCancel
    split
    · exact .around rfl rfl rfl rfl rfl rfl
    · split_ifs <;> exact .around rfl rfl rfl rfl rfl rfl

theorem moves_cancelLoop (s : Usb) (isoOnly : Bool) (deadline : Int) (rounds : List (Option Int × Poll)) :
    Moves s (s.cancelLoop isoOnly deadline rounds).1 := by
  induction rounds generalizing s with
  | nil => exact .refl
  | cons round rest ih =>
    obtain ⟨reading, poll⟩ := round
    cases reading with
    | none =>
      simp only [cancelLoop]
      split_ifs <;> exact .refl
    | some now =>
      simp only [cancelLoop]
      split_ifs
      · exact .refl
      · exact .refl
      · exact (moves_completions s poll.completions).trans (ih _)

theorem moves_cancel (s : Usb) (isoOnly : Bool) (cancellation : Cancellation) : Moves s (s.cancel isoOnly cancellation).1 := by
  unfold cancel
  cases cancellation.start with
  | none => exact .refl
  | some start => exact (moves_requested s isoOnly _).trans (moves_cancelLoop _ isoOnly _ _)

theorem moves_receiveAll (s : Usb) (kinds : List (UInt8 × Supply)) : Moves s (s.receiveAll kinds).1 := by
  induction kinds generalizing s with
  | nil => exact .refl
  | cons entry rest ih =>
    obtain ⟨kind, supply⟩ := entry
    have started : Moves s (s.receive kind supply).1 := .single (.launch ..)
    simp only [receiveAll]
    split_ifs
    · exact started
    · exact started.trans (ih _)

theorem moves_claim (s : Usb) (claiming : Claiming) : Moves s (s.claim claiming).1 := by
  unfold claim
  dsimp only
  split_ifs
  · exact .refl
  · exact .single (.around rfl rfl rfl rfl rfl rfl)
  · exact .single (.around rfl rfl rfl rfl rfl rfl)
  · exact .single (.around rfl rfl rfl rfl rfl rfl)
  · exact .head (b := { s with detached := true, claimed0 := true, claimed1 := true })
      (.around rfl rfl rfl rfl rfl rfl) (moves_receiveAll _ _)

theorem moves_selectAlt (s : Usb) (alt : Nat) (switch : Switch) : Moves s (s.selectAlt alt switch).1 := by
  unfold selectAlt
  cases switch.descriptors with
  | error code => exact .refl
  | ok endpoints =>
    dsimp only
    split_ifs
    · exact .single (.around rfl rfl rfl rfl rfl rfl)
    · exact .head (b := { s with endpoints, alt, stoppingSco := false })
        (.around rfl rfl rfl rfl rfl rfl) (moves_receiveAll _ _)
    · exact .head (b := { s with endpoints, alt, stoppingSco := false })
        (.around rfl rfl rfl rfl rfl rfl) (moves_receiveAll _ _)

theorem moves_setSco (s : Usb) (mode : Int) (switch : Switch) : Moves s (s.setSco mode switch).1 := by
  have stopped : Moves s ({ s with stoppingSco := true }.cancel true switch.cancellation).1 :=
    .head (b := { s with stoppingSco := true }) (.around rfl rfl rfl rfl rfl rfl) (moves_cancel _ true _)
  unfold setSco
  by_cases unknown : mode ≠ 0 ∧ mode ≠ 2 ∧ mode ≠ 3
  · rw [if_pos unknown]
  · rw [if_neg unknown]
    dsimp only
    by_cases unsupported : mode ≠ 0 ∧ s.alternate mode = 0
    · rw [if_pos unsupported]
    · rw [if_neg unsupported]
      by_cases current : s.alternate mode = s.alt
      · rw [if_pos current]
      · rw [if_neg current]
        split_ifs
        · exact stopped
        · exact stopped
        · exact stopped
        · exact stopped.tail (.around rfl rfl rfl rfl rfl rfl)
        · refine Relation.ReflTransGen.trans ?_ (moves_selectAlt _ _ switch)
          exact stopped.tail (.around rfl rfl rfl rfl rfl rfl)

theorem moves_send (s : Usb) (kind : UInt8) (data : Bytes) (supply : Supply) : Moves s (s.send kind data supply).1 := by
  unfold send
  dsimp only
  split_ifs
  · exact .refl
  · exact .refl
  · exact .refl
  · exact .tail (.single (.launch ..)) (.around rfl rfl rfl rfl rfl rfl)
  · exact .single (.launch ..)

theorem moves_perform (s : Usb) (operation : Operation) : Moves s (s.perform operation).1 := by
  cases operation with
  | send kind data supply => exact moves_send s kind data supply
  | receive kind supply => exact .single (.launch ..)
  | startReceivers first second third => exact moves_receiveAll s _
  | claim claiming => exact moves_claim s claiming
  | pump poll => exact moves_completions s poll.completions
  | cancel isoOnly cancellation => exact moves_cancel s isoOnly cancellation
  | setSco mode switch => exact moves_setSco s mode switch

theorem moves_performAll (s : Usb) (operations : List Operation) : Moves s (s.performAll operations) := by
  induction operations generalizing s with
  | nil => exact .refl
  | cons operation rest ih => exact (moves_perform s operation).trans (ih _)

theorem Owned.move (owned : Owned s none) (move : Move s after) : Owned after none := by
  cases move with
  | launch kind receive packets request supply => exact owned.launch kind receive packets request supply
  | complete c => exact owned.complete c
  | around slots transfers buffers inFlight faults stopping =>
    have same : SameMemory s { after with cancelling := s.cancelling } := ⟨slots, transfers, buffers, inFlight, rfl, faults⟩
    exact { owned.frame same with }

/-! The memory of one transfer, while others come and go. -/

/-- The memory of other transfers is as before, and numbers are not used again. -/
structure Others (s after : Usb) (id : Nat) : Prop where
  cells : after.transfers.cells id = s.transfers.cells id
  next : s.transfers.next ≤ after.transfers.next

theorem Others.refl (s : Usb) (id : Nat) : Others s s id := ⟨rfl, le_rfl⟩

theorem Others.trans {middle : Usb} (first : Others s middle id) (last : Others middle after id) : Others s after id :=
  ⟨last.cells.trans first.cells, first.next.trans last.next⟩

theorem Others.same (same : after.transfers = s.transfers) : Others s after id := ⟨by rw [same], by rw [same]⟩

theorem freeSlot_others {other : Nat} (occupied : (s.slots index).transfer = some other) (apart : id ≠ other) :
    Others s (s.freeSlot index) id := by
  unfold freeSlot
  simp only [occupied]
  cases s.transfers.cells other with
  | none => exact .same rfl
  | some transfer =>
    refine ⟨?_, ?_⟩
    · dsimp only
      rw [Ledger.free_cells, Function.update_of_ne apart]
      split_ifs <;> rfl
    · dsimp only
      rw [Ledger.free_next]
      split_ifs <;> exact le_rfl

theorem submit_transfers (s : Usb) (id : Nat) (code : Int) :
    (s.submit id code).transfers = s.transfers ∧ (s.submit id code).slots = s.slots := by
  unfold submit
  split_ifs <;> exact ⟨rfl, rfl⟩

theorem prepare_others {other : Nat} (occupied : (s.slots index).transfer = some other) (apart : id ≠ other) (request : Request) :
    Others s (s.prepare index request) id := by
  unfold prepare
  simp only [occupied]
  cases s.transfers.cells other with
  | none => exact .same rfl
  | some transfer =>
    refine ⟨?_, le_rfl⟩
    dsimp only
    rw [Ledger.write_cells, Function.update_of_ne apart]

theorem submitSlot_others {other : Nat} (occupied : (s.slots index).transfer = some other) (apart : id ≠ other) (code : Int) :
    Others s (s.submitSlot index code).1 id := by
  have submitted := submit_transfers s other code
  unfold submitSlot
  simp only [occupied]
  split_ifs
  · refine (Others.same submitted.1).trans (freeSlot_others ?_ apart)
    rw [submitted.2]
    exact occupied
  · exact .same submitted.1

theorem launch_others (issued : id < s.transfers.next) (kind : UInt8) (receive : Bool) (packets : Nat) (request : Request)
    (supply : Supply) : Others s (s.launch kind receive packets request supply).1 id := by
  have apart : id ≠ s.transfers.next := issued.ne
  unfold launch
  rcases allocate_cases s kind receive request.length packets supply with
    ⟨code, failed, same⟩ | ⟨transfer, same⟩ | ⟨index, transfer, free, same⟩ <;> rw [same]
  · exact .refl s id
  · exact ⟨by simp [Function.update_of_ne apart], by simp⟩
  · have filled : Others s (s.filled index kind receive transfer (List.replicate request.length 0)) id :=
      ⟨by simp [Usb.filled, Function.update_of_ne apart], by simp [Usb.filled]⟩
    have occupied : ((s.filled index kind receive transfer (List.replicate request.length 0)).slots index).transfer =
        some s.transfers.next := by simp [Usb.filled]
    refine (filled.trans (prepare_others occupied apart request)).trans (submitSlot_others ?_ apart supply.submit)
    rw [prepare_slots]
    exact occupied

theorem completedInner_others {c : Completion} (owned : Owned s (some index)) (occupied : (s.slots index).transfer = some c.transfer)
    (apart : id ≠ c.transfer) : Others s (s.completedInner c) id := by
  obtain ⟨transfer, _, _, stored, mine, _⟩ := owned.held index c.transfer occupied
  simp only [completedInner, stored, mine]
  have reported := report_reported s (s.slots index) transfer c ((s.slots index).stopping s) ((s.slots index).isoLoss c.status)
  generalize s.report (s.slots index) transfer c ((s.slots index).stopping s) ((s.slots index).isoLoss c.status) = next at reported ⊢
  have submitted := submit_transfers next c.transfer c.resubmit
  have again : (next.slots index).transfer = some c.transfer := by rw [reported.slots]; exact occupied
  have kept : Others s next id := .same reported.transfers
  split_ifs
  · exact kept.trans (.same submitted.1)
  · have place : (({ next.submit c.transfer c.resubmit with fatal := -eio } : Usb).slots index).transfer = some c.transfer := by
      rw [← again, ← submitted.2]
    have failed : Others next { next.submit c.transfer c.resubmit with fatal := -eio } id := .same submitted.1
    exact (kept.trans failed).trans (freeSlot_others place apart)
  · exact kept.trans (freeSlot_others again apart)

/-- A callback of another transfer. -/
theorem complete_others (owned : Owned s none) {c : Completion} (apart : id ≠ c.transfer) : Others s (s.complete c) id := by
  unfold complete
  split_ifs with member
  · obtain ⟨index, occupied, _⟩ := (owned.flight c.transfer).mp member
    have other := completedInner_others (owned.returned occupied (s.cancelling.erase c.transfer)) occupied apart
    exact ⟨other.cells, other.next⟩
  · exact .refl s id

/-! A transmission from its launch to its callback. -/

/-- A transmission under way: its slot, and how much it is to send. -/
structure Sending (s : Usb) (id : Nat) (index : SlotIndex) (kind : UInt8) (length : Nat) : Prop where
  held : s.held index = some (id, kind, false)
  stored : ∃ transfer, s.transfers.cells id = some transfer ∧ transfer.transferType ≠ .iso ∧
    transfer.length = length + if kind = 1 then 8 else 0

/-- A transfer that was given back, whose number is not used again. -/
structure Gone (s : Usb) (id : Nat) : Prop where
  empty : s.transfers.cells id = none
  issued : id < s.transfers.next

/-- Nothing of a transmission is lost: it is under way, or it was given back. -/
structure Followed (s : Usb) (id : Nat) (index : SlotIndex) (kind : UInt8) (length : Nat) : Prop where
  owned : Owned s none
  running : s.stopping = false
  place : Sending s id index kind length ∨ Gone s id

variable {kind : UInt8} {length : Nat}

theorem Sending.issued (owned : Owned s none) (sending : Sending s id index kind length) : id < s.transfers.next := by
  obtain ⟨transfer, stored, _⟩ := sending.stored
  exact owned.transfers.issued stored

theorem Sending.others (sending : Sending s id index kind length) (others : Others s after id) (same : after.held index = s.held index) :
    Sending after id index kind length where
  held := same.trans sending.held
  stored := by
    rw [others.cells]
    exact sending.stored

theorem Gone.others (gone : Gone s id) (others : Others s after id) : Gone after id :=
  ⟨others.cells.trans gone.empty, lt_of_lt_of_le gone.issued others.next⟩

theorem Gone.landed (owned : Owned s none) (gone : Gone s id) : id ∉ s.inFlight := by
  intro member
  obtain ⟨index, occupied, _⟩ := (owned.flight id).mp member
  obtain ⟨transfer, _, _, stored, _⟩ := owned.held index id occupied
  rw [gone.empty] at stored
  cases stored

/-- The callback of a transmission gives its slot back, and finds out whether all was sent. -/
theorem Sending.completes (owned : Owned s none) (sending : Sending s id index kind length) {c : Completion} (mine : c.transfer = id) :
    Gone (s.complete c) id ∧ (kind ≠ 3 → s.stopping = false → c.actualLength ≠ length → (s.complete c).fatal ≠ 0) := by
  subst mine
  have occupied := held_transfer sending.held
  have issued := sending.issued owned
  have member : c.transfer ∈ s.inFlight := (owned.flight c.transfer).mpr ⟨index, occupied, by simp⟩
  obtain ⟨transfer, stored, sort, size⟩ := sending.stored
  obtain ⟨found, _, _, again, points, _⟩ := owned.held index c.transfer occupied
  cases again.symm.trans stored
  obtain ⟨rfl, receives⟩ : (s.slots index).kind = kind ∧ (s.slots index).receive = false := by
    simpa [Usb.held, occupied] using sending.held
  have loose := owned.returned occupied (s.cancelling.erase c.transfer)
  rw [complete, if_pos member]
  generalize before : { s with inFlight := s.inFlight.erase c.transfer, cancelling := s.cancelling.erase c.transfer } = next at loose ⊢
  have slots : next.slots = s.slots := by rw [← before]
  have cells : next.transfers = s.transfers := by rw [← before]
  have stopping : next.stopping = s.stopping := by rw [← before]
  have inner : next.completedInner c =
      (next.report (s.slots index) transfer c ((s.slots index).stopping next) ((s.slots index).isoLoss c.status)).freeSlot index := by
    simp only [completedInner, cells, stored, points, slots, receives, Bool.false_and, Bool.false_eq_true, if_false]
  have reported := report_reported next (s.slots index) transfer c ((s.slots index).stopping next) ((s.slots index).isoLoss c.status)
  have kept := loose.frame reported.toSameMemory
  rw [inner]
  generalize result : next.report (s.slots index) transfer c ((s.slots index).stopping next) ((s.slots index).isoLoss c.status) = last
    at reported kept ⊢
  have place : (last.slots index).transfer = some c.transfer := by rw [reported.slots, slots]; exact occupied
  obtain ⟨_, _, _, _, _, _, freed⟩ := freeSlot_clean kept place
  refine ⟨⟨?_, ?_⟩, ?_⟩
  · rw [freed]
    exact Function.update_self ..
  · rw [freed]
    change c.transfer < last.transfers.next
    rw [reported.transfers, cells]
    exact issued
  · intro plain running short
    rw [(freeSlot_control last index).fatal, ← result]
    have open_ : (s.slots index).stopping next = false := by simp [Slot.stopping, stopping, running, plain]
    have lossless : (s.slots index).isoLoss c.status = false := by simp [Slot.isoLoss, plain]
    rw [open_, lossless]
    by_cases done : c.status = .completed
    · have sum : c.actualLength + (if (s.slots index).kind = 1 then 8 else 0) ≠ transfer.length := by
        rw [size]
        omega
      have settled : (next.noteStatus c.status false false) = next := by simp [noteStatus, done]
      simp only [report, done, Bool.false_and, Bool.false_eq_true, if_false, and_self, if_true]
      simp only [← done, settled, accept, receives, Bool.false_eq_true, if_false, if_neg sort, ne_eq, if_pos sum]
      decide
    · exact report_fatal next (s.slots index) transfer done

theorem Followed.move (followed : Followed s id index kind length) (move : Move s after) : Followed after id index kind length := by
  have owned := followed.owned
  refine ⟨owned.move move, ?_, ?_⟩
  · cases move with
    | launch kind receive packets request supply =>
      exact (launch_control s kind receive packets request supply).stopping.trans followed.running
    | complete c => exact (complete_settings s c).stopping.trans followed.running
    | around _ _ _ _ _ stopping => exact stopping.trans followed.running
  · cases move with
    | launch other receive packets request supply =>
      rcases followed.place with sending | gone
      · refine .inl (sending.others (launch_others (sending.issued owned) ..) ?_)
        rcases launch_held owned other receive packets request supply with ⟨_, same⟩ | ⟨_, place, _, empty, same⟩
        · rw [same]
        · have apart : index ≠ place := by
            rintro rfl
            rw [sending.held] at empty
            cases empty
          rw [same, Function.update_of_ne apart]
      · exact .inr (gone.others (launch_others gone.issued ..))
    | complete c =>
      rcases followed.place with sending | gone
      · by_cases mine : c.transfer = id
        · exact .inr (sending.completes owned mine).1
        · refine .inl (sending.others (complete_others owned (Ne.symm mine)) ?_)
          by_cases member : c.transfer ∈ s.inFlight
          · obtain ⟨place, occupied, _⟩ := (owned.flight c.transfer).mp member
            have apart : index ≠ place := by
              rintro rfl
              exact mine (Option.some.inj (occupied.symm.trans (held_transfer sending.held)))
            have here : s.held place = some (c.transfer, (s.slots place).kind, (s.slots place).receive) := by
              simp [Usb.held, occupied]
            rcases (complete_held owned member here).2 with same | ⟨same, _⟩
            · rw [same]
            · rw [same, Function.update_of_ne apart]
          · rw [complete, if_neg member]
      · by_cases mine : c.transfer = id
        · have landed := gone.landed owned
          rw [complete, if_neg (mine ▸ landed)]
          exact .inr gone
        · exact .inr (gone.others (complete_others owned (Ne.symm mine)))
    | around slots transfers _ _ _ _ =>
      have others : Others s after id := .same transfers
      rcases followed.place with sending | gone
      · exact .inl (sending.others others (congrFun (held_congr slots) index))
      · exact .inr (gone.others others)

theorem Followed.moves (followed : Followed s id index kind length) (moves : Moves s after) : Followed after id index kind length := by
  induction moves with
  | refl => exact followed
  | tail _ move ih => exact ih.move move

/-- Whatever happens in between, a transmission that comes back short is noticed. -/
theorem Followed.short (followed : Followed s id index kind length) (plain : kind ≠ 3) (member : id ∈ s.inFlight) {c : Completion}
    (mine : c.transfer = id) (short : c.actualLength ≠ length) : (s.complete c).fatal ≠ 0 := by
  rcases followed.place with sending | gone
  · exact (sending.completes followed.owned mine).2 plain followed.running short
  · exact absurd member (gone.landed followed.owned)

/-! The transmission itself. -/

/-- Between operations libusb has just the transfers of the slots. -/
theorem Owned.inFlight_iff (owned : Owned s none) :
    id ∈ s.inFlight ↔ ∃ index kind receive, s.held index = some (id, kind, receive) := by
  rw [owned.flight]
  constructor
  · rintro ⟨index, occupied, _⟩
    exact ⟨index, _, _, by rw [Usb.held, occupied]; rfl⟩
  · rintro ⟨index, kind, receive, occupied⟩
    exact ⟨index, held_transfer occupied, by simp⟩

theorem Owned.inFlight_same (owned : Owned s none) (later : Owned after none) (same : after.held = s.held) :
    after.inFlight = s.inFlight := by
  ext id
  rw [later.inFlight_iff, owned.inFlight_iff, same]

/-- A slot more is a transfer more. -/
theorem Owned.inFlight_insert (owned : Owned s none) (later : Owned after none) {receive : Bool} (free : s.held index = none)
    (filled : after.held = Function.update s.held index (some (id, kind, receive))) : after.inFlight = insert id s.inFlight := by
  ext other
  rw [later.inFlight_iff, Finset.mem_insert, owned.inFlight_iff, filled]
  constructor
  · rintro ⟨place, kind', receive', occupied⟩
    by_cases here : place = index
    · rw [here, Function.update_self] at occupied
      cases occupied
      exact .inl rfl
    · rw [Function.update_of_ne here] at occupied
      exact .inr ⟨place, kind', receive', occupied⟩
  · rintro (rfl | ⟨place, kind', receive', occupied⟩)
    · exact ⟨index, kind, receive, Function.update_self ..⟩
    · have apart : place ≠ index := by
        rintro rfl
        rw [free] at occupied
        cases occupied
      exact ⟨place, kind', receive', by rw [Function.update_of_ne apart, occupied]⟩

/-- A transfer in a slot, set up as requested. -/
structure Launched (s after : Usb) (index : SlotIndex) (kind : UInt8) (receive : Bool) (request : Request) : Prop where
  free : s.held index = none
  fresh : s.transfers.next ∉ s.inFlight
  slots : after.slots = Function.update s.slots index ⟨some s.transfers.next, kind, receive⟩
  stored : ∃ transfer buffer, after.transfers.cells s.transfers.next = some transfer ∧ transfer.buffer = some buffer ∧
    after.buffers.cells buffer = some request.contents ∧ transfer.transferType = request.transferType ∧ transfer.length = request.length

/-- A launch that succeeds has loaded the next transfer. -/
theorem launch_loaded (owned : Owned s none) {receive : Bool} {packets : Nat} {request : Request} {supply : Supply}
    (done : (s.launch kind receive packets request supply).2 = 0) :
    ∃ index, Launched s (s.launch kind receive packets request supply).1 index kind receive request := by
  unfold launch at done ⊢
  rcases allocate_cases s kind receive request.length packets supply with
    ⟨code, failed, same⟩ | ⟨transfer, same⟩ | ⟨index, transfer, free, same⟩ <;> rw [same] at done ⊢
  · rcases failed with rfl | rfl <;> exact absurd done (Int.neg_ne_zero.mpr (by decide))
  · exact absurd done (show (-enomem : Int) ≠ 0 by decide)
  · have accepted : supply.submit = 0 := done
    have filled := owned.fill free kind receive transfer (List.replicate request.length 0)
    have occupied : ((s.filled index kind receive transfer (List.replicate request.length 0)).slots index).transfer =
        some s.transfers.next := by simp [Usb.filled]
    have ready := filled.prepare index request
    have again : (((s.filled index kind receive transfer (List.replicate request.length 0)).prepare index request).slots index).transfer =
        some s.transfers.next := by rw [prepare_slots]; exact occupied
    refine ⟨index, held_eq_none.mpr free, ?_, ?_, ?_⟩
    · intro member
      obtain ⟨place, held, _⟩ := (owned.flight _).mp member
      exact owned.next_transfer held rfl
    · simp only [submitSlot, again, submit_clean ready again, accepted, ne_eq, not_true_eq_false, if_false, if_true]
      exact prepare_slots _ index request
    · simp only [submitSlot, again, submit_clean ready again, accepted, ne_eq, not_true_eq_false, if_false, if_true]
      simp [prepare, Usb.filled]

/-- What a transmission is to put on the bus. -/
def sentBytes (kind : UInt8) (data : Bytes) : Bytes :=
  (if kind = 1 then [0x20, 0, 0, 0, 0, 0, UInt8.ofNat (data.length &&& 0xff), UInt8.ofNat (data.length >>> 8)] else []) ++ data

theorem sendRequest_contents (s : Usb) (kind : UInt8) (data : Bytes) : (s.sendRequest kind data).contents = sentBytes kind data := by
  unfold sendRequest sentBytes
  dsimp only
  split_ifs <;> rfl

theorem sendRequest_length (s : Usb) (kind : UInt8) (data : Bytes) :
    (s.sendRequest kind data).length = data.length + if kind = 1 then 8 else 0 := by
  unfold sendRequest
  dsimp only
  split_ifs <;> rfl

theorem sendRequest_type (s : Usb) {kind : UInt8} (data : Bytes) (plain : kind = 1 ∨ kind = 2) :
    (s.sendRequest kind data).transferType ≠ .iso := by
  rcases plain with rfl | rfl <;> simp [sendRequest]

/-- A transmission is refused, or it is a launch that may turn the cadence round. -/
theorem send_cases (s : Usb) (kind : UInt8) (data : Bytes) (supply : Supply) :
    (∃ code, code ≠ 0 ∧ s.send kind data supply = (s, code)) ∨
    ∃ phase, s.send kind data supply =
        ({ (s.launch kind false (s.sendPackets kind data.length) (s.sendRequest kind data) supply).1 with alt6Phase := phase },
          (s.launch kind false (s.sendPackets kind data.length) (s.sendRequest kind data) supply).2) ∧
      phase = if (s.launch kind false (s.sendPackets kind data.length) (s.sendRequest kind data) supply).2 = 0 ∧ kind = 3 ∧ s.alt = 6
        then !s.alt6Phase else s.alt6Phase := by
  have control := launch_control s kind false (s.sendPackets kind data.length) (s.sendRequest kind data) supply
  by_cases invalid : data.isEmpty ∨ data.length > 4096 ∨ ¬ (kind = 1 ∨ kind = 2 ∨ kind = 3)
  · exact .inl ⟨-einval, by decide, by rw [send, if_pos invalid]⟩
  by_cases unconnected : kind = 3 ∧ s.alt = 0
  · exact .inl ⟨-enotconn, by decide, by rw [send, if_neg invalid, if_pos unconnected]⟩
  by_cases large : kind = 3 ∧ s.alt = 6 ∧ data.length > s.endpoints.isoSize
  · exact .inl ⟨-einval, by decide, by rw [send, if_neg invalid, if_neg unconnected, if_pos large]⟩
  refine .inr ⟨_, ?_, rfl⟩
  rw [send, if_neg invalid, if_neg unconnected, if_neg large]
  dsimp only
  split_ifs
  · rw [control.alt6Phase]
  · rw [← control.alt6Phase]

/-- What does not change in a transmission, whether it succeeds or not. -/
structure SameState (s after : Usb) : Prop where
  alt : after.alt = s.alt
  endpoints : after.endpoints = s.endpoints
  isoRxErrors : after.isoRxErrors = s.isoRxErrors
  isoTxErrors : after.isoTxErrors = s.isoTxErrors
  fatal : after.fatal = s.fatal

/-- A transmission that was accepted: one free slot holds a new transfer with the bytes, and a
short completion will be noticed whatever happens until then. -/
structure Sent (s after : Usb) (kind : UInt8) (data : Bytes) (index : SlotIndex) : Prop where
  free : s.held index = none
  fresh : s.transfers.next ∉ s.inFlight
  slots : after.slots = Function.update s.slots index ⟨some s.transfers.next, kind, false⟩
  inFlight : after.inFlight = insert s.transfers.next s.inFlight
  stored : ∃ transfer buffer, after.transfers.cells s.transfers.next = some transfer ∧ transfer.buffer = some buffer ∧
    after.buffers.cells buffer = some (sentBytes kind data)
  phase : after.alt6Phase = if s.alt = 6 ∧ kind = 3 then !s.alt6Phase else s.alt6Phase
  short : ∀ later c, Moves after later → s.transfers.next ∈ later.inFlight → c.transfer = s.transfers.next →
    kind = 1 ∨ kind = 2 → c.actualLength ≠ data.length → (later.complete c).fatal ≠ 0

theorem send_refused (owned : Owned s none) {data : Bytes} {supply : Supply} (failed : (s.send kind data supply).2 ≠ 0) :
    (s.send kind data supply).1.held = s.held ∧ (s.send kind data supply).1.alt6Phase = s.alt6Phase := by
  rcases send_cases s kind data supply with ⟨code, _, same⟩ | ⟨phase, same, turned⟩
  · rw [same]
    exact ⟨rfl, rfl⟩
  · rw [same] at failed ⊢
    rcases launch_held owned kind false (s.sendPackets kind data.length) (s.sendRequest kind data) supply with ⟨_, held⟩ | ⟨done, _⟩
    · refine ⟨held, ?_⟩
      rw [turned, if_neg fun all => failed all.1]
    · exact absurd done failed

theorem send_accepted (owned : Owned s none) (running : s.stopping = false) {data : Bytes} {supply : Supply}
    (done : (s.send kind data supply).2 = 0) : ∃ index, Sent s (s.send kind data supply).1 kind data index := by
  have later := owned.send kind data supply
  rcases send_cases s kind data supply with ⟨code, nonzero, same⟩ | ⟨phase, same, turned⟩
  · rw [same] at done
    exact absurd done nonzero
  · rw [same] at done later ⊢
    obtain ⟨index, free, fresh, slots, transfer, buffer, cell, points, contents, sort, size⟩ := launch_loaded owned done
    have control := launch_control s kind false (s.sendPackets kind data.length) (s.sendRequest kind data) supply
    have held : Usb.held { (s.launch kind false (s.sendPackets kind data.length) (s.sendRequest kind data) supply).1 with alt6Phase := phase } =
        Function.update s.held index (some (s.transfers.next, kind, false)) := by
      funext place
      rw [Usb.held, slots]
      by_cases here : place = index
      · simp [here]
      · simp [Function.update_of_ne here, Usb.held]
    refine ⟨index, free, fresh, slots, owned.inFlight_insert later free held, ⟨transfer, buffer, cell, points, ?_⟩, ?_, ?_⟩
    · rw [← sendRequest_contents s]
      exact contents
    · rw [turned]
      simp only [show (s.launch kind false (s.sendPackets kind data.length) (s.sendRequest kind data) supply).2 = 0 from done, true_and,
        and_comm]
    · intro last c moves member mine plain short
      have sending : Sending { (s.launch kind false (s.sendPackets kind data.length) (s.sendRequest kind data) supply).1 with alt6Phase := phase }
          s.transfers.next index kind data.length := by
        refine ⟨by rw [held, Function.update_self], transfer, cell, ?_, ?_⟩
        · rw [sort]
          exact sendRequest_type s data plain
        · rw [size, sendRequest_length]
      have followed : Followed _ s.transfers.next index kind data.length := ⟨later, control.stopping.trans running, .inl sending⟩
      have ordinary : kind ≠ 3 := by rcases plain with rfl | rfl <;> decide
      exact (followed.moves moves).short ordinary member mine short

theorem send_state (s : Usb) (kind : UInt8) (data : Bytes) (supply : Supply) : SameState s (s.send kind data supply).1 := by
  have control := launch_control s kind false (s.sendPackets kind data.length) (s.sendRequest kind data) supply
  rcases send_cases s kind data supply with ⟨code, _, same⟩ | ⟨phase, same, _⟩
  · rw [same]
    exact ⟨rfl, rfl, rfl, rfl, rfl⟩
  · rw [same]
    exact ⟨control.alt, control.endpoints, control.isoRxErrors, control.isoTxErrors, control.fatal⟩

/-- The owner stops only when it is dropped. -/
theorem performAll_running (endpoints : Endpoints) (operations : List Operation) :
    ((opened endpoints).performAll operations).stopping = false := by
  have kept : ∀ {s after : Usb}, Moves s after → after.stopping = s.stopping := by
    intro s after moves
    induction moves with
    | refl => rfl
    | tail _ move ih =>
      refine Eq.trans ?_ ih
      cases move with
      | launch kind receive packets request supply => exact (launch_control _ kind receive packets request supply).stopping
      | complete c => exact (complete_settings _ c).stopping
      | around _ _ _ _ _ stopping => exact stopping
  exact kept (moves_performAll _ operations)

/-- After any operations a transmission fails and leaves every transfer and setting alone, or
is accepted as one transfer more. -/
theorem send_all_or_nothing (endpoints : Endpoints) (operations : List Operation) (kind : UInt8) (data : Bytes) (supply : Supply) :
    let s := (opened endpoints).performAll operations
    let after := (s.send kind data supply).1
    SameState s after ∧
      ((s.send kind data supply).2 ≠ 0 → after.held = s.held ∧ after.inFlight = s.inFlight ∧ after.alt6Phase = s.alt6Phase) ∧
      ((s.send kind data supply).2 = 0 → ∃ index, Sent s after kind data index) := by
  intro s after
  have owned : Owned s none := (owned_opened endpoints).performAll operations
  refine ⟨send_state s kind data supply, ?_, send_accepted owned (performAll_running endpoints operations)⟩
  intro failed
  obtain ⟨held, phase⟩ := send_refused owned failed
  exact ⟨held, owned.inFlight_same (owned.send kind data supply) held, phase⟩

/-- A request that libusb refuses leaves its kind in the free slot, and a drop takes a short
completion for granted. -/
theorem refused_send_leaves_kind :
    (((opened {}).send 2 [0] { submit := -1 }).2 ≠ 0 ∧
      ((opened {}).send 2 [0] { submit := -1 }).1.slots 0 ≠ (opened {}).slots 0) ∧
    ((opened {}).send 2 [0, 0] {}).2 = 0 ∧
      (((opened {}).send 2 [0, 0] {}).1.drop
        { rounds := [(some 0, { completions := [{ transfer := 0, actualLength := 1 }] })] }).1.inFlight = ∅ ∧
      (((opened {}).send 2 [0, 0] {}).1.drop
        { rounds := [(some 0, { completions := [{ transfer := 0, actualLength := 1 }] })] }).1.fatal = 0 := by
  refine ⟨⟨by decide, by decide⟩, by decide, by decide +kernel, by decide +kernel⟩

end FlossDesktop.Usb
