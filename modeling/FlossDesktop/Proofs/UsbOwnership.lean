import FlossDesktop.Proofs.UsbCases

/-! Ownership of transfers and buffers. Between operations the occupied slots are
exactly the transfers libusb holds. Inside an operation one slot may be loose: it
is filled and not submitted yet, or its callback is running. -/

namespace FlossDesktop.Usb

structure Owned (s : Usb) (loose : Option SlotIndex) : Prop where
  held : ∀ index id, (s.slots index).transfer = some id → ∃ transfer buffer contents,
    s.transfers.cells id = some transfer ∧ transfer.userData = some index ∧
    transfer.buffer = some buffer ∧ s.buffers.cells buffer = some contents
  flight : ∀ id, id ∈ s.inFlight ↔ ∃ index, (s.slots index).transfer = some id ∧ loose ≠ some index
  used : ∀ id transfer, s.transfers.cells id = some transfer → ∃ index, (s.slots index).transfer = some id
  filled : ∀ buffer contents, s.buffers.cells buffer = some contents → ∃ id transfer,
    s.transfers.cells id = some transfer ∧ transfer.buffer = some buffer
  separate : ∀ first second one two buffer, s.transfers.cells first = some one → s.transfers.cells second = some two →
    one.buffer = some buffer → two.buffer = some buffer → first = second
  transfers : s.transfers.Sound
  buffers : s.buffers.Sound
  faults : s.faults = []

theorem owned_opened (endpoints : Endpoints) : Owned (opened endpoints) none where
  held := by rintro _ _ ⟨⟩
  flight := by simp [opened]
  used := by rintro _ _ ⟨⟩
  filled := by rintro _ _ ⟨⟩
  separate := by rintro _ _ _ _ _ ⟨⟩
  transfers := .empty
  buffers := .empty
  faults := rfl

theorem Owned.frame {s after : Usb} {loose : Option SlotIndex} (owned : Owned s loose) (same : SameMemory s after) :
    Owned after loose := by
  obtain ⟨slots, transfers, buffers, inFlight, _, faults⟩ := same
  constructor
  · rw [slots, transfers, buffers]; exact owned.held
  · rw [slots, inFlight]; exact owned.flight
  · rw [slots, transfers]; exact owned.used
  · rw [transfers, buffers]; exact owned.filled
  · rw [transfers]; exact owned.separate
  · rw [transfers]; exact owned.transfers
  · rw [buffers]; exact owned.buffers
  · rw [faults]; exact owned.faults

/-- A transfer sits in one slot only: its user data says which. -/
theorem Owned.injective {s : Usb} {loose : Option SlotIndex} (owned : Owned s loose) {first second : SlotIndex} {id : Nat}
    (left : (s.slots first).transfer = some id) (right : (s.slots second).transfer = some id) : first = second := by
  obtain ⟨_, _, _, stored, mine, _⟩ := owned.held first id left
  obtain ⟨_, _, _, again, yours, _⟩ := owned.held second id right
  rw [stored] at again
  cases again
  exact Option.some.inj (mine.symm.trans yours)

theorem Owned.idle {s : Usb} {index : SlotIndex} (owned : Owned s (some index)) {id : Nat}
    (occupied : (s.slots index).transfer = some id) : id ∉ s.inFlight := by
  intro member
  obtain ⟨other, same, different⟩ := (owned.flight id).mp member
  exact different (congrArg some (owned.injective occupied same))

/-- A failed buffer allocation gives the new transfer back at once. -/
theorem Owned.abandon {s : Usb} (owned : Owned s none) (transfer : LibusbTransfer) :
    Owned { s with transfers := (s.transfers.alloc transfer).free s.transfers.next } none := by
  have same : ((s.transfers.alloc transfer).free s.transfers.next).cells = s.transfers.cells := by
    funext id
    by_cases here : id = s.transfers.next
    · subst here; simp [owned.transfers.fresh _ le_rfl]
    · simp [Function.update_of_ne here]
  have stored : (s.transfers.alloc transfer).cells s.transfers.next = some transfer := by simp
  have sound := (owned.transfers.alloc transfer).free stored
  exact ⟨by rw [same]; exact owned.held, owned.flight, by rw [same]; exact owned.used,
    by rw [same]; exact owned.filled, by rw [same]; exact owned.separate, sound, owned.buffers, owned.faults⟩

/-- No slot holds the next transfer yet. -/
theorem Owned.next_transfer {s : Usb} {loose : Option SlotIndex} (owned : Owned s loose) {index : SlotIndex} {id : Nat}
    (occupied : (s.slots index).transfer = some id) : id ≠ s.transfers.next := by
  rintro rfl
  obtain ⟨_, _, _, stored, _⟩ := owned.held index _ occupied
  rw [owned.transfers.fresh _ le_rfl] at stored
  cases stored

/-- No transfer points to the next buffer yet. -/
theorem Owned.next_buffer {s : Usb} {loose : Option SlotIndex} (owned : Owned s loose) {id : Nat} {one : LibusbTransfer}
    (stored : s.transfers.cells id = some one) : one.buffer ≠ some s.buffers.next := by
  intro same
  obtain ⟨index, occupied⟩ := owned.used id one stored
  obtain ⟨_, buffer, contents, again, _, points, live⟩ := owned.held index id occupied
  rw [stored] at again
  cases again
  rw [points] at same
  cases same
  rw [owned.buffers.fresh _ le_rfl] at live
  cases live

/-- A successful allocation fills one free slot and leaves it loose. -/
theorem Owned.fill {s : Usb} (owned : Owned s none) {index : SlotIndex} (free : (s.slots index).transfer = none)
    (kind : UInt8) (receive : Bool) (transfer : LibusbTransfer) (contents : Bytes) :
    Owned (s.filled index kind receive transfer contents) (some index) := by
  have newTransfer := owned.transfers.fresh _ le_rfl
  have cells : ((s.transfers.alloc transfer).write s.transfers.next
      { transfer with buffer := some s.buffers.next, userData := some index }).cells =
      Function.update s.transfers.cells s.transfers.next
        (some { transfer with buffer := some s.buffers.next, userData := some index }) := by simp
  have stored : (s.transfers.alloc transfer).cells s.transfers.next = some transfer := by simp
  unfold Usb.filled
  constructor
  · intro other id occupied
    rw [cells]
    by_cases here : other = index
    · subst here
      simp only [Function.update_self, Option.some.injEq] at occupied
      subst occupied
      exact ⟨_, _, contents, Function.update_self .., rfl, rfl, by simp⟩
    · simp only [Function.update_of_ne here] at occupied
      obtain ⟨one, buffer, contents, known, mine, points, live⟩ := owned.held other id occupied
      refine ⟨one, buffer, contents, ?_, mine, points, ?_⟩
      · rw [Function.update_of_ne (owned.next_transfer occupied)]
        exact known
      · have different : buffer ≠ s.buffers.next := fun same => owned.next_buffer known (same ▸ points)
        simp [Function.update_of_ne different, live]
  · intro id
    simp only [owned.flight id]
    constructor
    · rintro ⟨other, occupied, _⟩
      have different : other ≠ index := by rintro rfl; rw [free] at occupied; cases occupied
      exact ⟨other, by simpa [Function.update_of_ne different] using occupied, by simpa using Ne.symm different⟩
    · rintro ⟨other, occupied, elsewhere⟩
      have different : other ≠ index := by rintro rfl; exact elsewhere rfl
      exact ⟨other, by simpa [Function.update_of_ne different] using occupied, by simp⟩
  · intro id one known
    rw [cells] at known
    by_cases here : id = s.transfers.next
    · exact ⟨index, by simp [here]⟩
    · rw [Function.update_of_ne here] at known
      obtain ⟨other, occupied⟩ := owned.used id one known
      have different : other ≠ index := by rintro rfl; rw [free] at occupied; cases occupied
      exact ⟨other, by simpa [Function.update_of_ne different] using occupied⟩
  · intro buffer bytes live
    rw [cells]
    by_cases here : buffer = s.buffers.next
    · exact ⟨s.transfers.next, _, Function.update_self .., by simp [here]⟩
    · simp only [Ledger.alloc_cells, Function.update_of_ne here] at live
      obtain ⟨id, one, known, points⟩ := owned.filled buffer bytes live
      have different : id ≠ s.transfers.next := by rintro rfl; rw [newTransfer] at known; cases known
      exact ⟨id, one, by rw [Function.update_of_ne different]; exact known, points⟩
  · intro first second one two buffer left right mine yours
    rw [cells] at left right
    by_cases here : first = s.transfers.next <;> by_cases there : second = s.transfers.next
    · exact here.trans there.symm
    · rw [here, Function.update_self] at left
      rw [Function.update_of_ne there] at right
      cases left
      cases mine
      exact absurd yours (owned.next_buffer right)
    · rw [there, Function.update_self] at right
      rw [Function.update_of_ne here] at left
      cases right
      cases yours
      exact absurd mine (owned.next_buffer left)
    · rw [Function.update_of_ne here] at left
      rw [Function.update_of_ne there] at right
      exact owned.separate first second one two buffer left right mine yours
  · exact (owned.transfers.alloc transfer).write stored _
  · exact owned.buffers.alloc contents
  · exact owned.faults

/-- A live transfer and its buffer may be overwritten if the pointers stay. -/
theorem Owned.write {s : Usb} {loose : Option SlotIndex} (owned : Owned s loose) {id buffer : Nat}
    {transfer fresh : LibusbTransfer} {contents : Bytes} (stored : s.transfers.cells id = some transfer)
    (live : s.buffers.cells buffer = some contents) (back : fresh.userData = transfer.userData)
    (points : fresh.buffer = transfer.buffer) (bytes : Bytes) :
    Owned { s with transfers := s.transfers.write id fresh, buffers := s.buffers.write buffer bytes } loose := by
  have cell : ∀ {other one}, Function.update s.transfers.cells id (some fresh) other = some one →
      ∃ old, s.transfers.cells other = some old ∧ one.userData = old.userData ∧ one.buffer = old.buffer := by
    intro other one known
    by_cases here : other = id
    · subst here
      rw [Function.update_self] at known
      cases known
      exact ⟨transfer, stored, back, points⟩
    · rw [Function.update_of_ne here] at known
      exact ⟨one, known, rfl, rfl⟩
  have kept : ∀ {other old}, s.transfers.cells other = some old → ∃ one,
      Function.update s.transfers.cells id (some fresh) other = some one ∧
      one.userData = old.userData ∧ one.buffer = old.buffer := by
    intro other old known
    by_cases here : other = id
    · subst here
      rw [stored] at known
      cases known
      exact ⟨fresh, Function.update_self .., back, points⟩
    · exact ⟨old, by rw [Function.update_of_ne here]; exact known, rfl, rfl⟩
  constructor
  · intro other another occupied
    obtain ⟨old, target, old_contents, known, mine, goes, alive⟩ := owned.held other another occupied
    obtain ⟨one, now, user, same⟩ := kept known
    by_cases here : target = buffer
    · exact ⟨one, target, bytes, now, user.trans mine, same.trans goes, by simp [here]⟩
    · exact ⟨one, target, old_contents, now, user.trans mine, same.trans goes,
        by simp [Function.update_of_ne here, alive]⟩
  · exact owned.flight
  · intro other one known
    obtain ⟨old, before, _⟩ := cell known
    exact owned.used other old before
  · intro target filled alive
    have before : ∃ old, s.buffers.cells target = some old := by
      by_cases here : target = buffer
      · exact ⟨contents, here ▸ live⟩
      · exact ⟨filled, by simpa [Function.update_of_ne here] using alive⟩
    obtain ⟨old, before⟩ := before
    obtain ⟨other, held, known, goes⟩ := owned.filled target old before
    obtain ⟨one, now, _, same⟩ := kept known
    exact ⟨other, one, now, same.trans goes⟩
  · intro first second one two target left right goes comes
    obtain ⟨oldOne, before, _, sameOne⟩ := cell left
    obtain ⟨oldTwo, again, _, sameTwo⟩ := cell right
    exact owned.separate first second oldOne oldTwo target before again (sameOne.symm.trans goes)
      (sameTwo.symm.trans comes)
  · exact owned.transfers.write stored _
  · exact owned.buffers.write live _
  · exact owned.faults

theorem Owned.prepare {s : Usb} {loose : Option SlotIndex} (owned : Owned s loose) (index : SlotIndex)
    (request : Request) : Owned (s.prepare index request) loose := by
  unfold Usb.prepare
  cases occupied : (s.slots index).transfer with
  | none => exact owned
  | some id =>
    obtain ⟨transfer, buffer, contents, stored, _, points, live⟩ := owned.held index id occupied
    simp only [stored, points]
    refine owned.write stored live ?_ ?_ _
    · rfl
    · exact points.symm

/-- libusb takes the loose transfer. -/
theorem Owned.submitted {s : Usb} {index : SlotIndex} (owned : Owned s (some index)) {id : Nat}
    (occupied : (s.slots index).transfer = some id) : Owned { s with inFlight := insert id s.inFlight } none := by
  refine { owned with flight := ?_ }
  intro other
  simp only [Finset.mem_insert, owned.flight other]
  constructor
  · rintro (rfl | ⟨place, holds, _⟩)
    · exact ⟨index, occupied, by simp⟩
    · exact ⟨place, holds, by simp⟩
  · rintro ⟨place, holds, _⟩
    by_cases here : place = index
    · subst here
      rw [occupied] at holds
      exact .inl (Option.some.inj holds).symm
    · exact .inr ⟨place, holds, by simpa using Ne.symm here⟩

theorem submit_clean {s : Usb} {index : SlotIndex} (owned : Owned s (some index)) {id : Nat}
    (occupied : (s.slots index).transfer = some id) (code : Int) :
    s.submit id code = if code = 0 then { s with inFlight := insert id s.inFlight } else s := by
  obtain ⟨transfer, _, _, stored, _⟩ := owned.held index id occupied
  simp [submit, stored, owned.idle occupied]

/-- libusb gives a transfer back before its callback runs. -/
theorem Owned.returned {s : Usb} (owned : Owned s none) {index : SlotIndex} {id : Nat}
    (occupied : (s.slots index).transfer = some id) (cancelling : Finset Nat) :
    Owned { s with inFlight := s.inFlight.erase id, cancelling } (some index) := by
  refine { owned with flight := ?_ }
  intro other
  simp only [Finset.mem_erase, owned.flight other]
  constructor
  · rintro ⟨different, place, holds, _⟩
    refine ⟨place, holds, ?_⟩
    rintro ⟨rfl⟩
    rw [occupied] at holds
    exact different (Option.some.inj holds).symm
  · rintro ⟨place, holds, elsewhere⟩
    refine ⟨?_, place, holds, by simp⟩
    rintro rfl
    exact elsewhere (congrArg some (owned.injective occupied holds))

/-- Freeing the loose slot frees its buffer, then its transfer. -/
theorem freeSlot_clean {s : Usb} {index : SlotIndex} (owned : Owned s (some index)) {id : Nat}
    (occupied : (s.slots index).transfer = some id) : ∃ transfer buffer contents,
      s.transfers.cells id = some transfer ∧ transfer.buffer = some buffer ∧ s.buffers.cells buffer = some contents ∧
      s.freeSlot index =
        { s with
          buffers := s.buffers.free buffer
          transfers := s.transfers.free id
          slots := Function.update s.slots index { s.slots index with transfer := none } } := by
  obtain ⟨transfer, buffer, contents, stored, _, points, live⟩ := owned.held index id occupied
  refine ⟨transfer, buffer, contents, stored, points, live, ?_⟩
  simp [freeSlot, occupied, stored, points, owned.idle occupied]

/-- An empty slot may as well be loose. -/
theorem Owned.vacant {s : Usb} {index : SlotIndex} (owned : Owned s (some index))
    (empty : (s.slots index).transfer = none) : Owned s none := by
  refine { owned with flight := ?_ }
  intro id
  rw [owned.flight id]
  constructor
  · rintro ⟨place, holds, _⟩
    exact ⟨place, holds, by simp⟩
  · rintro ⟨place, holds, _⟩
    refine ⟨place, holds, ?_⟩
    rintro ⟨rfl⟩
    rw [empty] at holds
    cases holds

theorem Owned.emptied {s : Usb} {index : SlotIndex} (owned : Owned s (some index)) {id : Nat}
    (occupied : (s.slots index).transfer = some id) : Owned (s.freeSlot index) none := by
  obtain ⟨transfer, buffer, contents, stored, points, live, same⟩ := freeSlot_clean owned occupied
  rw [same]
  -- Every other slot holds another transfer, and that one another buffer.
  have place : ∀ {other another}, (Function.update s.slots index { s.slots index with transfer := none } other).transfer =
      some another → other ≠ index ∧ (s.slots other).transfer = some another ∧ another ≠ id := by
    intro other another holds
    have elsewhere : other ≠ index := by rintro rfl; simp at holds
    rw [Function.update_of_ne elsewhere] at holds
    refine ⟨elsewhere, holds, ?_⟩
    rintro rfl
    exact elsewhere (owned.injective holds occupied)
  constructor
  · intro other another holds
    obtain ⟨_, before, different⟩ := place holds
    obtain ⟨one, target, bytes, known, mine, goes, alive⟩ := owned.held other another before
    have apart : target ≠ buffer := by
      rintro rfl
      exact different (owned.separate another id one transfer target known stored goes points)
    exact ⟨one, target, bytes, by simp [Function.update_of_ne different, known], mine, goes,
      by simp [Function.update_of_ne apart, alive]⟩
  · intro other
    rw [owned.flight other]
    constructor
    · rintro ⟨spot, holds, elsewhere⟩
      have apart : spot ≠ index := by rintro rfl; exact elsewhere rfl
      exact ⟨spot, by simpa [Function.update_of_ne apart] using holds, by simp⟩
    · rintro ⟨spot, holds, _⟩
      obtain ⟨elsewhere, before, _⟩ := place holds
      exact ⟨spot, before, by simpa using Ne.symm elsewhere⟩
  · intro other one known
    have different : other ≠ id := by rintro rfl; simp at known
    simp only [Ledger.free_cells, Function.update_of_ne different] at known
    obtain ⟨spot, holds⟩ := owned.used other one known
    have elsewhere : spot ≠ index := by
      rintro rfl
      rw [occupied] at holds
      exact different (Option.some.inj holds).symm
    exact ⟨spot, by simpa [Function.update_of_ne elsewhere] using holds⟩
  · intro target bytes alive
    have apart : target ≠ buffer := by rintro rfl; simp at alive
    simp only [Ledger.free_cells, Function.update_of_ne apart] at alive
    obtain ⟨other, one, known, goes⟩ := owned.filled target bytes alive
    have different : other ≠ id := by
      rintro rfl
      rw [stored] at known
      cases known
      exact apart (Option.some.inj (goes.symm.trans points))
    exact ⟨other, one, by simp [Function.update_of_ne different, known], goes⟩
  · intro first second one two target left right
    have apart : first ≠ id := by rintro rfl; simp at left
    have distinct : second ≠ id := by rintro rfl; simp at right
    simp only [Ledger.free_cells, Function.update_of_ne apart] at left
    simp only [Ledger.free_cells, Function.update_of_ne distinct] at right
    exact owned.separate first second one two target left right
  · exact owned.transfers.free stored
  · exact owned.buffers.free live
  · exact owned.faults

theorem Owned.freed {s : Usb} {index : SlotIndex} (owned : Owned s (some index)) :
    Owned (s.freeSlot index) none := by
  cases occupied : (s.slots index).transfer with
  | none =>
    have same : s.freeSlot index = s := by simp [freeSlot, occupied]
    rw [same]
    exact owned.vacant occupied
  | some id => exact owned.emptied occupied

theorem Owned.submitSlot {s : Usb} {index : SlotIndex} (owned : Owned s (some index)) (code : Int) :
    Owned (s.submitSlot index code).1 none := by
  unfold Usb.submitSlot
  cases occupied : (s.slots index).transfer with
  | none =>
    have same : s.freeSlot index = s := by simp [freeSlot, occupied]
    have settled := owned.freed
    rw [same] at settled
    simpa [same] using settled
  | some id =>
    simp only [submit_clean owned occupied code]
    by_cases accepted : code = 0
    · simpa [accepted] using owned.submitted occupied
    · simpa [accepted] using owned.freed

theorem Owned.launch {s : Usb} (owned : Owned s none) (kind : UInt8) (receive : Bool) (packets : Nat)
    (request : Request) (supply : Supply) : Owned (s.launch kind receive packets request supply).1 none := by
  unfold Usb.launch
  rcases allocate_cases s kind receive request.length packets supply with
    ⟨_, _, same⟩ | ⟨transfer, same⟩ | ⟨index, transfer, free, same⟩ <;> rw [same]
  · exact owned
  · exact owned.abandon transfer
  · exact ((owned.fill free kind receive transfer _).prepare index request).submitSlot supply.submit

theorem Owned.completedInner {s : Usb} {index : SlotIndex} (owned : Owned s (some index)) {c : Completion}
    (occupied : (s.slots index).transfer = some c.transfer) : Owned (s.completedInner c) none := by
  obtain ⟨transfer, _, _, stored, mine, _⟩ := owned.held index c.transfer occupied
  simp only [Usb.completedInner, stored, mine]
  have reported := report_reported s (s.slots index) transfer c ((s.slots index).stopping s)
    ((s.slots index).isoLoss c.status)
  have kept := owned.frame reported.toSameMemory
  have again : ((s.report (s.slots index) transfer c ((s.slots index).stopping s)
      ((s.slots index).isoLoss c.status)).slots index).transfer = some c.transfer := by
    rw [reported.slots]; exact occupied
  generalize s.report (s.slots index) transfer c ((s.slots index).stopping s)
    ((s.slots index).isoLoss c.status) = next at kept again ⊢
  rw [submit_clean kept again]
  split_ifs with rearmed accepted
  · exact kept.submitted again
  · exact (kept.frame (reported_fatal next (by decide)).toSameMemory).freed
  · exact kept.freed

theorem Owned.complete {s : Usb} (owned : Owned s none) (c : Completion) : Owned (s.complete c) none := by
  unfold Usb.complete
  split_ifs with member
  · obtain ⟨index, occupied, _⟩ := (owned.flight c.transfer).mp member
    exact (owned.returned occupied _).completedInner occupied
  · exact owned

theorem Owned.completions {s : Usb} (owned : Owned s none) (completions : List Completion) :
    Owned (completions.foldl Usb.complete s) none := by
  induction completions generalizing s with
  | nil => exact owned
  | cons c rest ih => exact ih (owned.complete c)

theorem Owned.requested {s : Usb} (owned : Owned s none) (isoOnly : Bool) (indices : List SlotIndex) :
    Owned (indices.foldl (requestCancel isoOnly) s) none := by
  induction indices generalizing s with
  | nil => exact owned
  | cons index rest ih =>
    refine ih ?_
    unfold requestCancel
    split
    · exact owned
    · split_ifs
      · exact { owned with }
      · exact owned

theorem Owned.cancelLoop {s : Usb} (owned : Owned s none) (isoOnly : Bool) (deadline : Int)
    (rounds : List (Option Int × Poll)) : Owned (s.cancelLoop isoOnly deadline rounds).1 none := by
  induction rounds generalizing s with
  | nil => exact owned
  | cons round rest ih =>
    obtain ⟨reading, poll⟩ := round
    cases reading with
    | none =>
      simp only [Usb.cancelLoop]
      split_ifs <;> exact owned
    | some now =>
      simp only [Usb.cancelLoop]
      split_ifs
      · exact owned
      · exact owned
      · exact ih (owned.completions poll.completions)

theorem Owned.cancel {s : Usb} (owned : Owned s none) (isoOnly : Bool) (cancellation : Cancellation) :
    Owned (s.cancel isoOnly cancellation).1 none := by
  unfold Usb.cancel
  cases cancellation.start with
  | none => exact owned
  | some start => exact (owned.requested isoOnly _).cancelLoop isoOnly _ _

theorem Owned.receiveAll {s : Usb} (owned : Owned s none) (kinds : List (UInt8 × Supply)) :
    Owned (s.receiveAll kinds).1 none := by
  induction kinds generalizing s with
  | nil => exact owned
  | cons entry rest ih =>
    obtain ⟨kind, supply⟩ := entry
    have armed : Owned (s.receive kind supply).1 none := owned.launch ..
    simp only [Usb.receiveAll]
    split_ifs
    · exact armed
    · exact ih armed

theorem Owned.selectAlt {s : Usb} (owned : Owned s none) (alt : Nat) (switch : Switch) :
    Owned (s.selectAlt alt switch).1 none := by
  unfold Usb.selectAlt
  cases switch.descriptors with
  | error code => exact owned
  | ok endpoints =>
    simp only
    split_ifs
    · exact { owned with }
    · refine Owned.receiveAll ?_ _
      exact { owned with }
    · refine Owned.receiveAll ?_ _
      exact { owned with }

theorem Owned.setSco {s : Usb} (owned : Owned s none) (mode : Int) (switch : Switch) :
    Owned (s.setSco mode switch).1 none := by
  unfold Usb.setSco
  have stopping : Owned { s with stoppingSco := true } none := { owned with }
  have quiet := stopping.cancel true switch.cancellation
  simp only
  split_ifs
  · exact owned
  · exact owned
  · exact owned
  · exact quiet
  · exact quiet
  · exact quiet
  · exact { quiet with }
  · refine Owned.selectAlt ?_ _ _
    exact { quiet with }

theorem Owned.send {s : Usb} (owned : Owned s none) (kind : UInt8) (data : Bytes) (supply : Supply) :
    Owned (s.send kind data supply).1 none := by
  unfold Usb.send
  simp only
  have launched : Owned (s.launch kind false (s.sendPackets kind data.length) (s.sendRequest kind data) supply).1 none :=
    owned.launch ..
  split_ifs
  · exact owned
  · exact owned
  · exact owned
  · exact { launched with }
  · exact launched

theorem Owned.claim {s : Usb} (owned : Owned s none) (claiming : Claiming) : Owned (s.claim claiming).1 none := by
  unfold Usb.claim
  simp only
  split_ifs
  · exact owned
  · exact { owned with }
  · exact { owned with }
  · exact { owned with }
  · refine Owned.receiveAll ?_ _
    exact { owned with }

/-- Every operation keeps the pool owned, whatever it returns. -/
theorem Owned.perform {s : Usb} (owned : Owned s none) (operation : Operation) :
    Owned (s.perform operation).1 none := by
  cases operation with
  | send kind data supply => exact owned.send kind data supply
  | receive kind supply => exact owned.launch ..
  | startReceivers first second third => exact owned.receiveAll _
  | claim claiming => exact owned.claim claiming
  | pump poll => exact owned.completions poll.completions
  | cancel isoOnly cancellation => exact owned.cancel isoOnly cancellation
  | setSco mode switch => exact owned.setSco mode switch

theorem active_zero {s : Usb} {isoOnly : Bool} (none_active : s.active isoOnly = 0) (index : SlotIndex) :
    (s.slots index).selected isoOnly = false := by
  have none_selected := List.countP_eq_zero.mp none_active index (List.mem_finRange index)
  simpa using none_selected

/-- The loop returns success only when nothing is left to wait for. -/
theorem cancelLoop_zero {s : Usb} {isoOnly : Bool} {deadline : Int} {rounds : List (Option Int × Poll)}
    (done : (s.cancelLoop isoOnly deadline rounds).2 = 0) : (s.cancelLoop isoOnly deadline rounds).1.active isoOnly = 0 := by
  induction rounds generalizing s with
  | nil =>
    simp only [cancelLoop] at done ⊢
    by_contra busy
    simp [busy] at done
  | cons round rest ih =>
    obtain ⟨reading, poll⟩ := round
    by_cases idle : s.active isoOnly = 0
    · simp only [cancelLoop, idle, if_true]
    · cases reading with
      | none => simp [cancelLoop, idle] at done
      | some now =>
        by_cases late : now ≥ deadline
        · simp [cancelLoop, idle, late] at done
        · simp only [cancelLoop, idle, late, if_false] at done ⊢
          exact ih done

theorem cancel_zero {s : Usb} {isoOnly : Bool} {cancellation : Cancellation}
    (done : (s.cancel isoOnly cancellation).2 = 0) (index : SlotIndex) :
    ((s.cancel isoOnly cancellation).1.slots index).selected isoOnly = false := by
  unfold cancel at done ⊢
  cases start : cancellation.start with
  | none => simp [start] at done
  | some start' =>
    simp only [start] at done ⊢
    exact active_zero (cancelLoop_zero done) index

theorem cancel_all {s : Usb} (owned : Owned s none) {cancellation : Cancellation}
    (done : (s.cancel false cancellation).2 = 0) : (s.cancel false cancellation).1.inFlight = ∅ := by
  rw [Finset.eq_empty_iff_forall_notMem]
  intro id member
  obtain ⟨index, occupied, _⟩ := ((owned.cancel false cancellation).flight id).mp member
  have free := cancel_zero done index
  simp [Slot.selected, occupied] at free

theorem cancel_iso {s : Usb} {cancellation : Cancellation} (done : (s.cancel true cancellation).2 = 0)
    {index : SlotIndex} {id : Nat} (occupied : ((s.cancel true cancellation).1.slots index).transfer = some id) :
    ((s.cancel true cancellation).1.slots index).kind ≠ 3 := by
  have free := cancel_zero done index
  simpa [Slot.selected, occupied] using free

theorem drop_released {s : Usb} (owned : Owned s none) {cancellation : Cancellation} {calls : List Teardown}
    (released : (s.drop cancellation).2 = .released calls) : (s.drop cancellation).1.inFlight = ∅ := by
  have stopping : Owned { s with stopping := true } none := { owned with }
  unfold drop at released ⊢
  by_cases done : ({ s with stopping := true }.cancel false cancellation).2 = 0
  · simpa [done] using cancel_all stopping done
  · simp [done] at released

/-- No two transfers share a slot, so the pool bounds what is in flight. -/
theorem Owned.bounded {s : Usb} (owned : Owned s none) : s.inFlight.card ≤ 72 := by
  have covered : s.inFlight ⊆ Finset.univ.biUnion fun index : SlotIndex => (s.slots index).transfer.toFinset := by
    intro id member
    obtain ⟨index, occupied, _⟩ := (owned.flight id).mp member
    exact Finset.mem_biUnion.mpr ⟨index, Finset.mem_univ index, by simp [occupied]⟩
  calc s.inFlight.card ≤ _ := Finset.card_le_card covered
    _ ≤ (Finset.univ : Finset SlotIndex).card * 1 := Finset.card_biUnion_le_card_mul _ _ 1 fun index _ => by
        cases (s.slots index).transfer <;> simp
    _ = 72 := by simp

theorem Owned.transfer_settled {s : Usb} (owned : Owned s none) {id : Nat} (issued : id < s.transfers.next) :
    (id ∈ s.inFlight ∧ s.transfers.freed.count id = 0) ∨ (id ∉ s.inFlight ∧ s.transfers.freed.count id = 1) := by
  rcases owned.transfers.settled issued with ⟨transfer, stored, unfreed⟩ | ⟨gone, freed⟩
  · obtain ⟨index, occupied⟩ := owned.used id transfer stored
    exact .inl ⟨(owned.flight id).mpr ⟨index, occupied, by simp⟩, unfreed⟩
  · refine .inr ⟨?_, freed⟩
    intro member
    obtain ⟨index, occupied, _⟩ := (owned.flight id).mp member
    obtain ⟨_, _, _, stored, _⟩ := owned.held index id occupied
    rw [gone] at stored
    cases stored

/-- The buffer belongs to a transfer in flight. -/
def Attached (s : Usb) (buffer : Nat) : Prop :=
  ∃ id ∈ s.inFlight, ∃ transfer, s.transfers.cells id = some transfer ∧ transfer.buffer = some buffer

theorem Owned.buffer_settled {s : Usb} (owned : Owned s none) {buffer : Nat} (issued : buffer < s.buffers.next) :
    (Attached s buffer ∧ s.buffers.freed.count buffer = 0) ∨ (¬ Attached s buffer ∧ s.buffers.freed.count buffer = 1) := by
  rcases owned.buffers.settled issued with ⟨contents, live, unfreed⟩ | ⟨gone, freed⟩
  · obtain ⟨id, transfer, stored, points⟩ := owned.filled buffer contents live
    obtain ⟨index, occupied⟩ := owned.used id transfer stored
    exact .inl ⟨⟨id, (owned.flight id).mpr ⟨index, occupied, by simp⟩, transfer, stored, points⟩, unfreed⟩
  · refine .inr ⟨?_, freed⟩
    rintro ⟨id, member, transfer, stored, points⟩
    obtain ⟨index, occupied, _⟩ := (owned.flight id).mp member
    obtain ⟨_, _, _, again, _, same, live⟩ := owned.held index id occupied
    rw [stored] at again
    cases again
    rw [points] at same
    cases same
    rw [gone] at live
    cases live

theorem Owned.performAll {s : Usb} (owned : Owned s none) (operations : List Operation) :
    Owned (s.performAll operations) none := by
  unfold Usb.performAll
  induction operations generalizing s with
  | nil => exact owned
  | cons operation rest ih => exact ih (owned.perform operation)

/-- After any operations with any outcomes the occupied slots are exactly the
transfers in flight, each pointing back at its own slot. Nothing was freed in
flight, and everything ever allocated was freed once or is in flight. A successful
cancellation leaves nothing to call back, so the memory of the callbacks is
released only then. -/
theorem transfers_have_one_owner (endpoints : Endpoints) (operations : List Operation) (s : Usb)
    (reached : s = (opened endpoints).performAll operations) :
    (∀ id, id ∈ s.inFlight ↔ ∃ index, (s.slots index).transfer = some id) ∧
    (∀ first second id, (s.slots first).transfer = some id → (s.slots second).transfer = some id → first = second) ∧
    (∀ index id, (s.slots index).transfer = some id →
      ∃ transfer, s.transfers.cells id = some transfer ∧ transfer.userData = some index) ∧
    s.inFlight.card ≤ 72 ∧ s.faults = [] ∧
    (∀ id < s.transfers.next, (id ∈ s.inFlight ∧ s.transfers.freed.count id = 0) ∨
      (id ∉ s.inFlight ∧ s.transfers.freed.count id = 1)) ∧
    (∀ buffer < s.buffers.next, (Attached s buffer ∧ s.buffers.freed.count buffer = 0) ∨
      (¬ Attached s buffer ∧ s.buffers.freed.count buffer = 1)) ∧
    ∀ cancellation,
      ((s.cancel false cancellation).2 = 0 → (s.cancel false cancellation).1.inFlight = ∅) ∧
      ((s.cancel true cancellation).2 = 0 → ∀ index id,
        ((s.cancel true cancellation).1.slots index).transfer = some id →
        ((s.cancel true cancellation).1.slots index).kind ≠ 3) ∧
      ∀ calls, (s.drop cancellation).2 = .released calls → (s.drop cancellation).1.inFlight = ∅ := by
  subst reached
  have owned := (owned_opened endpoints).performAll operations
  refine ⟨?_, fun _ _ _ => owned.injective, ?_, owned.bounded, owned.faults, fun _ => owned.transfer_settled,
    fun _ => owned.buffer_settled, ?_⟩
  · intro id
    rw [owned.flight id]
    simp
  · intro index id occupied
    obtain ⟨transfer, _, _, stored, mine, _⟩ := owned.held index id occupied
    exact ⟨transfer, stored, mine⟩
  · intro cancellation
    exact ⟨cancel_all owned, fun done _ _ => cancel_iso done, fun _ => drop_released owned⟩

/-- A receiver is started, its stream stalls and the slot is given up, and a
command is sent after that. -/
def stallOperations : List Operation :=
  [.receive 2 {}, .pump { completions := [{ transfer := 0, status := .stall }] }, .send 1 [3, 12, 0] {}]

theorem owner_after_stall : ((opened {}).performAll stallOperations).inFlight = {1} ∧
    ((opened {}).performAll stallOperations).transfers.freed = [0] ∧
    ((opened {}).performAll stallOperations).faults = [] := by
  refine ⟨by decide, by decide, ?_⟩
  exact (transfers_have_one_owner {} stallOperations _ rfl).2.2.2.2.1

end FlossDesktop.Usb
