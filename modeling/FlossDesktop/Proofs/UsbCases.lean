import FlossDesktop.Usb
import Mathlib.Tactic

/-! What the operations on the transfer pool touch. Memory operations leave the
control fields alone, reports leave the memory alone, and each operation changes
at most one slot. -/

namespace FlossDesktop.Usb

/-- Everything the owner decides by, as opposed to the memory it owns. -/
structure SameControl (s after : Usb) : Prop where
  endpoints : after.endpoints = s.endpoints
  alt : after.alt = s.alt
  fatal : after.fatal = s.fatal
  detached : after.detached = s.detached
  claimed0 : after.claimed0 = s.claimed0
  claimed1 : after.claimed1 = s.claimed1
  stopping : after.stopping = s.stopping
  stoppingSco : after.stoppingSco = s.stoppingSco
  alt6Phase : after.alt6Phase = s.alt6Phase
  isoRxErrors : after.isoRxErrors = s.isoRxErrors
  isoTxErrors : after.isoTxErrors = s.isoTxErrors
  received : after.received = s.received

theorem SameControl.refl (s : Usb) : SameControl s s := by constructor <;> rfl

theorem SameControl.trans {s middle after : Usb} (first : SameControl s middle) (last : SameControl middle after) :
    SameControl s after where
  endpoints := last.endpoints.trans first.endpoints
  alt := last.alt.trans first.alt
  fatal := last.fatal.trans first.fatal
  detached := last.detached.trans first.detached
  claimed0 := last.claimed0.trans first.claimed0
  claimed1 := last.claimed1.trans first.claimed1
  stopping := last.stopping.trans first.stopping
  stoppingSco := last.stoppingSco.trans first.stoppingSco
  alt6Phase := last.alt6Phase.trans first.alt6Phase
  isoRxErrors := last.isoRxErrors.trans first.isoRxErrors
  isoTxErrors := last.isoTxErrors.trans first.isoTxErrors
  received := last.received.trans first.received

/-- The pool, the heap and libusb's own bookkeeping. -/
structure SameMemory (s after : Usb) : Prop where
  slots : after.slots = s.slots
  transfers : after.transfers = s.transfers
  buffers : after.buffers = s.buffers
  inFlight : after.inFlight = s.inFlight
  cancelling : after.cancelling = s.cancelling
  faults : after.faults = s.faults

theorem SameMemory.refl (s : Usb) : SameMemory s s := by constructor <;> rfl

theorem SameMemory.trans {s middle after : Usb} (first : SameMemory s middle) (last : SameMemory middle after) :
    SameMemory s after where
  slots := last.slots.trans first.slots
  transfers := last.transfers.trans first.transfers
  buffers := last.buffers.trans first.buffers
  inFlight := last.inFlight.trans first.inFlight
  cancelling := last.cancelling.trans first.cancelling
  faults := last.faults.trans first.faults

/-- An occupied slot: its transfer, and what the transfer is for. -/
def held (s : Usb) (index : SlotIndex) : Option (Nat × UInt8 × Bool) :=
  (s.slots index).transfer.map fun id => (id, (s.slots index).kind, (s.slots index).receive)

theorem held_eq_none {s : Usb} {index : SlotIndex} : s.held index = none ↔ (s.slots index).transfer = none := by
  simp [held]

theorem held_transfer {s : Usb} {index : SlotIndex} {id : Nat} {kind : UInt8} {receive : Bool}
    (occupied : s.held index = some (id, kind, receive)) : (s.slots index).transfer = some id := by
  obtain ⟨_, held, same⟩ := Option.map_eq_some_iff.mp occupied
  cases same
  exact held

theorem held_congr {s after : Usb} (same : after.slots = s.slots) : after.held = s.held := by
  funext index
  simp [held, same]

theorem freeSlot_control (s : Usb) (index : SlotIndex) : SameControl s (s.freeSlot index) := by
  unfold freeSlot
  split
  · exact .refl s
  · split
    · constructor <;> rfl
    · split_ifs <;> constructor <;> rfl

theorem submit_control (s : Usb) (id : Nat) (code : Int) : SameControl s (s.submit id code) := by
  unfold submit
  split_ifs <;> constructor <;> rfl

theorem submitSlot_control (s : Usb) (index : SlotIndex) (code : Int) :
    SameControl s (s.submitSlot index code).1 := by
  unfold submitSlot
  cases (s.slots index).transfer with
  | none =>
    simp only
    split_ifs
    · exact freeSlot_control s index
    · exact .refl s
  | some id =>
    simp only
    split_ifs
    · exact (submit_control s id code).trans (freeSlot_control _ index)
    · exact submit_control s id code

theorem prepare_control (s : Usb) (index : SlotIndex) (request : Request) :
    SameControl s (s.prepare index request) := by
  unfold prepare
  split
  · exact .refl s
  · split <;> constructor <;> rfl

theorem prepare_slots (s : Usb) (index : SlotIndex) (request : Request) :
    (s.prepare index request).slots = s.slots := by
  unfold prepare
  split
  · rfl
  · split <;> rfl

theorem allocate_control (s : Usb) (kind : UInt8) (receive : Bool) (bytes packets : Nat) (supply : Supply) :
    SameControl s (s.allocate kind receive bytes packets supply).1 := by
  unfold allocate
  split
  · exact .refl s
  · simp only
    split_ifs <;> constructor <;> rfl

theorem launch_control (s : Usb) (kind : UInt8) (receive : Bool) (packets : Nat) (request : Request)
    (supply : Supply) : SameControl s (s.launch kind receive packets request supply).1 := by
  have first := allocate_control s kind receive request.length packets supply
  unfold launch
  rcases allocated : s.allocate kind receive request.length packets supply with ⟨next, code | index⟩ <;>
    rw [allocated] at first
  · exact first
  · exact (first.trans (prepare_control next index request)).trans (submitSlot_control _ index supply.submit)

/-- The pool after a successful allocation: a free slot holds a new transfer that
points back at it and owns a new buffer. -/
def filled (s : Usb) (index : SlotIndex) (kind : UInt8) (receive : Bool) (transfer : LibusbTransfer)
    (contents : Bytes) : Usb :=
  { s with
    buffers := s.buffers.alloc contents
    slots := Function.update s.slots index ⟨some s.transfers.next, kind, receive⟩
    transfers := (s.transfers.alloc transfer).write s.transfers.next
      { transfer with buffer := some s.buffers.next, userData := some index } }

/-- An allocation fails with the pool as it was, or fills a free slot. -/
theorem allocate_cases (s : Usb) (kind : UInt8) (receive : Bool) (bytes packets : Nat) (supply : Supply) :
    (∃ code, (code = -enobufs ∨ code = -enomem) ∧ s.allocate kind receive bytes packets supply = (s, .error code)) ∨
    (∃ transfer, s.allocate kind receive bytes packets supply =
      ({ s with transfers := (s.transfers.alloc transfer).free s.transfers.next }, .error (-enomem))) ∨
    ∃ index transfer, (s.slots index).transfer = none ∧
      s.allocate kind receive bytes packets supply =
        (s.filled index kind receive transfer (List.replicate bytes 0), .ok index) := by
  unfold allocate
  cases free : (List.finRange 72).find? fun index => (s.slots index).transfer.isNone with
  | none => exact .inl ⟨-enobufs, .inl rfl, rfl⟩
  | some index =>
    have empty : (s.slots index).transfer = none := by simpa using List.find?_some free
    simp only
    split_ifs
    · exact .inl ⟨-enomem, .inr rfl, rfl⟩
    · exact .inr (.inl ⟨_, rfl⟩)
    · exact .inr (.inr ⟨index, _, empty, rfl⟩)

/-- A launch returns the code of a failed allocation or that of its submission. -/
theorem launch_code (s : Usb) (kind : UInt8) (receive : Bool) (packets : Nat) (request : Request) (supply : Supply) :
    (s.launch kind receive packets request supply).2 = -enobufs ∨
    (s.launch kind receive packets request supply).2 = -enomem ∨
    (s.launch kind receive packets request supply).2 = supply.submit := by
  unfold launch
  rcases allocate_cases s kind receive request.length packets supply with
    ⟨code, failed, same⟩ | ⟨transfer, same⟩ | ⟨index, transfer, free, same⟩ <;> rw [same]
  · exact failed.imp_right .inl
  · exact .inr (.inl rfl)
  · exact .inr (.inr rfl)

/-- What a callback may change before it decides about its slot. A recorded
fatal error is never cleared. -/
structure Reported (s after : Usb) : Prop extends SameMemory s after where
  endpoints : after.endpoints = s.endpoints
  alt : after.alt = s.alt
  stopping : after.stopping = s.stopping
  stoppingSco : after.stoppingSco = s.stoppingSco
  alt6Phase : after.alt6Phase = s.alt6Phase
  fatal : after.fatal = 0 → s.fatal = 0

theorem Reported.refl (s : Usb) : Reported s s := ⟨.refl s, rfl, rfl, rfl, rfl, rfl, id⟩

theorem Reported.trans {s middle after : Usb} (first : Reported s middle) (last : Reported middle after) :
    Reported s after where
  toSameMemory := first.toSameMemory.trans last.toSameMemory
  endpoints := last.endpoints.trans first.endpoints
  alt := last.alt.trans first.alt
  stopping := last.stopping.trans first.stopping
  stoppingSco := last.stoppingSco.trans first.stoppingSco
  alt6Phase := last.alt6Phase.trans first.alt6Phase
  fatal clear := first.fatal (last.fatal clear)

theorem Reported.fold {step : Usb → Nat → Usb} (reported : ∀ s i, Reported s (step s i)) (s : Usb) (items : List Nat) :
    Reported s (items.foldl step s) := by
  induction items generalizing s with
  | nil => exact .refl s
  | cons i rest ih => exact (reported s i).trans (ih (step s i))

/-- The fatal error changes and nothing else does. -/
theorem reported_fatal (s : Usb) {code : Int} (nonzero : code ≠ 0) : Reported s { s with fatal := code } :=
  ⟨by constructor <;> rfl, rfl, rfl, rfl, rfl, rfl, fun clear => absurd clear nonzero⟩

theorem reported_rx (s : Usb) (count : Nat) : Reported s { s with isoRxErrors := count } :=
  ⟨by constructor <;> rfl, rfl, rfl, rfl, rfl, rfl, id⟩

theorem reported_tx (s : Usb) (count : Nat) : Reported s { s with isoTxErrors := count } :=
  ⟨by constructor <;> rfl, rfl, rfl, rfl, rfl, rfl, id⟩

theorem deliver_reported (s : Usb) (kind : UInt8) (bytes : Bytes) (panics : Bool) :
    Reported s (s.deliver kind bytes panics) := by
  have logged : Reported s { s with received := s.received ++ [(kind, bytes)] } :=
    ⟨by constructor <;> rfl, rfl, rfl, rfl, rfl, rfl, id⟩
  cases panics with
  | false => exact logged
  | true => exact logged.trans (reported_fatal _ (by decide))

theorem receivePacket_reported (transfer : LibusbTransfer) (c : Completion) (s : Usb) (i : Nat) :
    Reported s (receivePacket transfer c s i) := by
  unfold receivePacket
  simp only
  split_ifs
  · exact reported_rx s _
  · exact deliver_reported s ..
  · exact .refl s

theorem sentPacket_reported (transfer : LibusbTransfer) (c : Completion) (s : Usb) (i : Nat) :
    Reported s (sentPacket transfer c s i) := by
  unfold sentPacket
  simp only
  split_ifs
  · exact reported_tx s _
  · exact .refl s

theorem accept_reported (s : Usb) (slot : Slot) (transfer : LibusbTransfer) (c : Completion) :
    Reported s (s.accept slot transfer c) := by
  unfold accept
  simp only
  generalize (if slot.kind = 1 then 8 else 0) = setup
  split_ifs
  · exact .fold (receivePacket_reported transfer c) s _
  · exact deliver_reported s ..
  · exact .refl s
  · exact .fold (sentPacket_reported transfer c) s _
  · exact reported_fatal s (by decide)
  · exact .refl s

theorem countLoss_reported (s : Usb) (slot : Slot) : Reported s (s.countLoss slot) := by
  unfold countLoss
  split_ifs
  · exact reported_rx s _
  · exact reported_tx s _

theorem noteStatus_reported (s : Usb) (status : Status) (stopping isoLoss : Bool) :
    Reported s (s.noteStatus status stopping isoLoss) := by
  unfold noteStatus
  simp only
  split_ifs
  · exact reported_fatal s (by decide)
  · exact reported_fatal s (by decide)
  · exact reported_fatal s (by decide)
  · exact .refl s

theorem report_reported (s : Usb) (slot : Slot) (transfer : LibusbTransfer) (c : Completion) (stopping isoLoss : Bool) :
    Reported s (s.report slot transfer c stopping isoLoss) := by
  unfold report
  simp only
  have counted : Reported s (if (isoLoss && !stopping) = true then s.countLoss slot else s) := by
    split_ifs
    · exact countLoss_reported s slot
    · exact .refl s
  have noted := counted.trans (noteStatus_reported _ c.status stopping isoLoss)
  by_cases succeeded : c.status = .completed ∧ stopping = false
  · rw [if_pos succeeded]
    exact noted.trans (accept_reported _ slot transfer c)
  · rw [if_neg succeeded]
    exact noted

/-- Outside a stop every status but success and tolerated loss is fatal. -/
theorem report_fatal (s : Usb) (slot : Slot) (transfer : LibusbTransfer) {c : Completion}
    (failed : c.status ≠ .completed) : (s.report slot transfer c false false).fatal ≠ 0 := by
  have noted : ∀ s : Usb, (s.noteStatus c.status false false).fatal ≠ 0 := by
    intro s
    cases status : c.status <;> simp_all [noteStatus]
  simpa [report, failed] using noted s

/-- The settings of the owner, which no callback and no cancellation touches. -/
structure SameSettings (s after : Usb) : Prop where
  endpoints : after.endpoints = s.endpoints
  alt : after.alt = s.alt
  stopping : after.stopping = s.stopping
  stoppingSco : after.stoppingSco = s.stoppingSco
  alt6Phase : after.alt6Phase = s.alt6Phase

theorem SameSettings.refl (s : Usb) : SameSettings s s := ⟨rfl, rfl, rfl, rfl, rfl⟩

theorem SameSettings.trans {s middle after : Usb} (first : SameSettings s middle) (last : SameSettings middle after) :
    SameSettings s after where
  endpoints := last.endpoints.trans first.endpoints
  alt := last.alt.trans first.alt
  stopping := last.stopping.trans first.stopping
  stoppingSco := last.stoppingSco.trans first.stoppingSco
  alt6Phase := last.alt6Phase.trans first.alt6Phase

theorem SameControl.settings {s after : Usb} (same : SameControl s after) : SameSettings s after :=
  ⟨same.endpoints, same.alt, same.stopping, same.stoppingSco, same.alt6Phase⟩

theorem Reported.settings {s after : Usb} (reported : Reported s after) : SameSettings s after :=
  ⟨reported.endpoints, reported.alt, reported.stopping, reported.stoppingSco, reported.alt6Phase⟩

/-- After its report a completion only decides about its slot. -/
theorem completedInner_reported {s : Usb} {c : Completion} {transfer : LibusbTransfer} {index : SlotIndex}
    (stored : s.transfers.cells c.transfer = some transfer) (mine : transfer.userData = some index) :
    SameSettings s (s.completedInner c) ∧
    (s.completedInner c).received =
      (s.report (s.slots index) transfer c ((s.slots index).stopping s) ((s.slots index).isoLoss c.status)).received := by
  have reported := (report_reported s (s.slots index) transfer c ((s.slots index).stopping s)
    ((s.slots index).isoLoss c.status)).settings
  simp only [completedInner, stored, mine]
  generalize s.report (s.slots index) transfer c ((s.slots index).stopping s)
    ((s.slots index).isoLoss c.status) = next at reported ⊢
  have submitted := submit_control next c.transfer c.resubmit
  have freed := freeSlot_control next index
  have failed := freeSlot_control { next.submit c.transfer c.resubmit with fatal := -eio } index
  split_ifs
  · exact ⟨reported.trans submitted.settings, submitted.received⟩
  · have fatal : SameSettings (next.submit c.transfer c.resubmit) { next.submit c.transfer c.resubmit with fatal := -eio } :=
      ⟨rfl, rfl, rfl, rfl, rfl⟩
    exact ⟨reported.trans (submitted.settings.trans (fatal.trans failed.settings)), failed.received.trans submitted.received⟩
  · exact ⟨reported.trans freed.settings, freed.received⟩

theorem complete_settings (s : Usb) (c : Completion) : SameSettings s (s.complete c) := by
  unfold complete
  split_ifs
  · let returned : Usb := { s with
      inFlight := s.inFlight.erase c.transfer, cancelling := s.cancelling.erase c.transfer }
    have taken : SameSettings s returned := ⟨rfl, rfl, rfl, rfl, rfl⟩
    rcases stored : s.transfers.cells c.transfer with _ | transfer
    · simp only [completedInner, stored]
      exact ⟨rfl, rfl, rfl, rfl, rfl⟩
    · rcases mine : transfer.userData with _ | index
      · simp only [completedInner, stored, mine]
        exact taken
      · exact taken.trans (completedInner_reported (s := returned) stored mine).1
  · exact .refl s

theorem pump_settings (s : Usb) (poll : Poll) : SameSettings s (s.pump poll).1 := by
  have completions : ∀ (cs : List Completion) (s : Usb), SameSettings s (cs.foldl complete s) := by
    intro cs
    induction cs with
    | nil => exact .refl
    | cons c rest ih => exact fun s => (complete_settings s c).trans (ih (s.complete c))
  exact completions poll.completions s

theorem requestCancel_settings (isoOnly : Bool) (s : Usb) (indices : List SlotIndex) :
    SameSettings s (indices.foldl (requestCancel isoOnly) s) := by
  induction indices generalizing s with
  | nil => exact .refl s
  | cons index rest ih =>
    refine SameSettings.trans ?_ (ih _)
    unfold requestCancel
    split
    · exact .refl s
    · split_ifs <;> exact ⟨rfl, rfl, rfl, rfl, rfl⟩

theorem cancelLoop_settings (s : Usb) (isoOnly : Bool) (deadline : Int) (rounds : List (Option Int × Poll)) :
    SameSettings s (s.cancelLoop isoOnly deadline rounds).1 := by
  induction rounds generalizing s with
  | nil => exact .refl s
  | cons round rest ih =>
    obtain ⟨reading, poll⟩ := round
    unfold cancelLoop
    split_ifs
    · exact .refl s
    · cases reading with
      | none => exact .refl s
      | some now =>
        dsimp only
        split_ifs
        · exact .refl s
        · exact (pump_settings s poll).trans (ih _)

theorem cancel_settings (s : Usb) (isoOnly : Bool) (cancellation : Cancellation) :
    SameSettings s (s.cancel isoOnly cancellation).1 := by
  unfold cancel
  split
  · exact .refl s
  · exact (requestCancel_settings isoOnly s _).trans (cancelLoop_settings ..)

theorem receiveAll_control (s : Usb) (kinds : List (UInt8 × Supply)) : SameControl s (s.receiveAll kinds).1 := by
  induction kinds generalizing s with
  | nil => exact .refl s
  | cons entry rest ih =>
    obtain ⟨kind, supply⟩ := entry
    have started : SameControl s (s.receive kind supply).1 := launch_control ..
    simp only [receiveAll]
    split_ifs
    · exact started
    · exact started.trans (ih _)

theorem claim_settings (s : Usb) (claiming : Claiming) : SameSettings s (s.claim claiming).1 := by
  unfold claim
  dsimp only
  split_ifs
  · exact .refl s
  · exact ⟨rfl, rfl, rfl, rfl, rfl⟩
  · exact ⟨rfl, rfl, rfl, rfl, rfl⟩
  · exact ⟨rfl, rfl, rfl, rfl, rfl⟩
  · have taken : SameSettings s { s with detached := true, claimed0 := true, claimed1 := true } := ⟨rfl, rfl, rfl, rfl, rfl⟩
    exact taken.trans (receiveAll_control _ [(4, claiming.first), (2, claiming.second), (2, claiming.third)]).settings

/-- The owner once the isochronous transfers are gone and the new setting is made. -/
def selected (s : Usb) (alt : Nat) (endpoints : Endpoints) : Usb :=
  { s with alt, endpoints, stoppingSco := false, isoRxErrors := 0, isoTxErrors := 0 }

/-- The ways a mode change returns success. -/
inductive Switched (s : Usb) (mode : Int) (switch : Switch) : Usb → Prop where
  | same (alt : s.alternate mode = s.alt) : Switched s mode switch s
  | stopped (quiet : Usb) (cancelled : { s with stoppingSco := true }.cancel true switch.cancellation = (quiet, 0))
      (clear : quiet.fatal = 0) (alt : s.alternate mode = 0) :
      Switched s mode switch (quiet.selected 0 quiet.endpoints)
  | started (quiet : Usb) (endpoints : Endpoints)
      (cancelled : { s with stoppingSco := true }.cancel true switch.cancellation = (quiet, 0))
      (clear : quiet.fatal = 0) (alt : s.alternate mode ≠ 0)
      (done : ((quiet.selected (s.alternate mode) endpoints).receiveAll
        [(3, switch.first), (3, switch.second)]).2 = 0) :
      Switched s mode switch
        ((quiet.selected (s.alternate mode) endpoints).receiveAll [(3, switch.first), (3, switch.second)]).1

theorem selectAlt_zero {s : Usb} {alt : Nat} {switch : Switch} (done : (s.selectAlt alt switch).2 = 0) :
    ∃ endpoints, (({ s with alt, endpoints, stoppingSco := false }).receiveAll
        [(3, switch.first), (3, switch.second)]).2 = 0 ∧
      (s.selectAlt alt switch).1 = (({ s with alt, endpoints, stoppingSco := false }).receiveAll
        [(3, switch.first), (3, switch.second)]).1 := by
  unfold selectAlt at done ⊢
  cases descriptors : switch.descriptors with
  | error code => simp [descriptors] at done
  | ok endpoints =>
    by_cases chosen : switch.select = 0
    · simp only [descriptors, chosen, ne_eq, not_true_eq_false, if_false] at done ⊢
      refine ⟨endpoints, ?_, rfl⟩
      by_contra failed
      simp [failed] at done
    · simp [descriptors, chosen] at done

theorem setSco_switched {s : Usb} {mode : Int} {switch : Switch} (done : (s.setSco mode switch).2 = 0) :
    Switched s mode switch (s.setSco mode switch).1 ∧ (mode ≠ 0 → s.alternate mode ≠ 0) := by
  unfold setSco at done ⊢
  by_cases unknown : mode ≠ 0 ∧ mode ≠ 2 ∧ mode ≠ 3
  · simp [unknown] at done
  · rw [if_neg unknown] at done ⊢
    simp only at done ⊢
    by_cases unsupported : mode ≠ 0 ∧ s.alternate mode = 0
    · simp [unsupported] at done
    · rw [if_neg unsupported] at done ⊢
      refine ⟨?_, fun wanted none_ => unsupported ⟨wanted, none_⟩⟩
      by_cases current : s.alternate mode = s.alt
      · rw [if_pos current]
        exact .same current
      · rw [if_neg current] at done ⊢
        rcases cancelled : { s with stoppingSco := true }.cancel true switch.cancellation with ⟨quiet, code⟩
        simp only [cancelled] at done ⊢
        split_ifs at done ⊢ with failed fatal busy alt
        · exact absurd done failed
        · exact absurd done fatal
        · cases done
        · obtain rfl := not_not.mp failed
          exact .stopped quiet cancelled (not_not.mp fatal) alt
        · obtain rfl := not_not.mp failed
          obtain ⟨endpoints, started, same⟩ := selectAlt_zero done
          rw [same]
          exact .started quiet endpoints cancelled (not_not.mp fatal) alt started

end FlossDesktop.Usb
