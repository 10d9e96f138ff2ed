import FlossDesktop.Helper
import FlossDesktop.Proofs.UsbReceivers

/-! What a full transfer pool does to the helper. A transmission waits for a slot; a
change of the voice endpoints needs two slots at once and does not wait. -/

namespace FlossDesktop.Usb

def occupied (s : Usb) : Finset SlotIndex := Finset.univ.filter fun index => (s.held index).isSome

/-- The slots that carry something other than voice packets, and that the end of the
listed transfers does not give up. A receiver is armed again when it ends. -/
def lingering (s : Usb) (ended : List Nat) : Finset SlotIndex :=
  Finset.univ.filter fun index =>
    (s.held index).any fun entry => entry.2.1 != 3 && (entry.2.2 || !ended.contains entry.1)

variable {s after : Usb}

theorem mem_occupied {index : SlotIndex} : index ∈ occupied s ↔ s.held index ≠ none := by
  simp [occupied, Option.isSome_iff_ne_none]

theorem mem_lingering {ended : List Nat} {index : SlotIndex} :
    index ∈ lingering s ended ↔ ∃ id kind receive, s.held index = some (id, kind, receive) ∧ kind ≠ 3 ∧
      (receive = true ∨ id ∉ ended) := by
  simp only [lingering, Finset.mem_filter, Finset.mem_univ, true_and, Option.any_eq_true, Bool.and_eq_true, bne_iff_ne,
    Bool.or_eq_true, Bool.not_eq_true', List.contains_eq_mem, decide_eq_false_iff_not]
  constructor
  · intro found
    obtain ⟨⟨id, kind, receive⟩, same, other, left⟩ := found
    exact ⟨id, kind, receive, same, other, left⟩
  · intro found
    obtain ⟨id, kind, receive, same, other, left⟩ := found
    exact ⟨_, same, other, left⟩

theorem exists_free (room : (occupied s).card < 72) : ∃ index, s.held index = none := by
  by_contra full
  have all : occupied s = Finset.univ := by
    ext index
    simp only [mem_occupied, Finset.mem_univ, iff_true]
    intro free
    exact full ⟨index, free⟩
  rw [all, Finset.card_univ, Fintype.card_fin] at room
  omega

theorem occupied_fill {index : SlotIndex} {entry : Nat × UInt8 × Bool} (free : s.held index = none)
    (same : after.held = Function.update s.held index (some entry)) : (occupied after).card = (occupied s).card + 1 := by
  have absent : index ∉ occupied s := by
    rw [mem_occupied]
    exact not_not.mpr free
  have grown : occupied after = insert index (occupied s) := by
    ext place
    by_cases here : place = index
    · subst here
      simp [mem_occupied, same]
    · simp [mem_occupied, same, here]
  rw [grown, Finset.card_insert_of_notMem absent]

/-- With a free slot and libusb willing, a launch succeeds. -/
theorem launch_granted {index : SlotIndex} (free : s.held index = none) (kind : UInt8) (receive : Bool) (packets : Nat)
    (request : Request) : (s.launch kind receive packets request {}).2 = 0 := by
  have empty := held_eq_none.mp free
  unfold launch allocate
  cases found : (List.finRange 72).find? fun index => (s.slots index).transfer.isNone with
  | none =>
    have none_free := List.find?_eq_none.mp found index (List.mem_finRange index)
    simp [empty] at none_free
  | some place => simp [submitSlot]

theorem launch_exhausted (full : ∀ index, s.held index ≠ none) (kind : UInt8) (receive : Bool) (packets : Nat)
    (request : Request) (supply : Supply) : s.launch kind receive packets request supply = (s, -enobufs) := by
  have none_free : (List.finRange 72).find? (fun index => (s.slots index).transfer.isNone) = none := by
    apply List.find?_eq_none.mpr
    intro index _ free
    exact full index (held_eq_none.mpr (Option.isNone_iff_eq_none.mp free))
  unfold launch allocate
  rw [none_free]

/-- Two receivers start when two slots are free. -/
theorem receivePair_granted (owned : Owned s none) (room : (occupied s).card ≤ 70) :
    (s.receiveAll [(3, {}), (3, {})]).2 = 0 := by
  obtain ⟨index, free⟩ := exists_free (show (occupied s).card < 72 by omega)
  have first : (s.receive 3 {}).2 = 0 := launch_granted free _ _ _ _
  rcases receive_held owned 3 {} with ⟨failed, _⟩ | ⟨_, place, id, empty, same⟩
  · exact (failed first).elim
  · have filled := occupied_fill empty same
    obtain ⟨other, left⟩ := exists_free (show (occupied (s.receive 3 {}).1).card < 72 by omega)
    have second : ((s.receive 3 {}).1.receive 3 {}).2 = 0 := launch_granted left _ _ _ _
    simp [receiveAll, first, second]

/-- And fails otherwise. -/
theorem receivePair_refused (owned : Owned s none) (crowded : 70 < (occupied s).card) :
    (s.receiveAll [(3, {}), (3, {})]).2 ≠ 0 := by
  intro done
  have bounded : ∀ s : Usb, (occupied s).card ≤ 72 := fun s => by
    have bound := Finset.card_le_univ (occupied s)
    rwa [Fintype.card_fin] at bound
  rcases receive_held owned 3 {} with ⟨failed, _⟩ | ⟨first, place, id, empty, same⟩
  · simp [receiveAll, failed] at done
  · have filled := occupied_fill empty same
    have next : Owned (s.receive 3 {}).1 none := owned.launch ..
    rcases receive_held next 3 {} with ⟨failed, _⟩ | ⟨_, other, number, left, grown⟩
    · simp [receiveAll, first, failed] at done
    · have again := occupied_fill left grown
      have bound := bounded ((s.receive 3 {}).1.receive 3 {}).1
      omega

/-- How a slot's transfer ends when nothing is wrong: completed, with all bytes of a
command or ACL transmission taken, or cancelled in a stop. -/
def EndsWell (slot : Slot) (transfer : LibusbTransfer) (c : Completion) (stopping : Bool) : Prop :=
  (c.status = .completed ∧ (slot.receive = false → transfer.transferType ≠ .iso →
      c.actualLength + (if slot.kind = 1 then 8 else 0) = transfer.length)) ∨
    (c.status = .cancelled ∧ stopping = true)

/-- A completion with which libusb reports no failure. -/
structure Normal (s : Usb) (c : Completion) : Prop where
  resubmit : c.resubmit = 0
  panics : ∀ i, c.panics i = false
  ends : ∀ transfer index, s.transfers.cells c.transfer = some transfer → transfer.userData = some index →
    EndsWell (s.slots index) transfer c ((s.slots index).stopping s)

def NormalAll (s : Usb) : List Completion → Prop
  | [] => True
  | c :: rest => Normal s c ∧ NormalAll (s.complete c) rest

/-- The rounds of a cancellation, each of them waiting for something. -/
def NormalRounds (s : Usb) (isoOnly : Bool) : List (Option Int × Poll) → Prop
  | [] => True
  | (_, poll) :: rest =>
    s.active isoOnly ≠ 0 ∧ NormalAll s poll.completions ∧ NormalRounds (s.pump poll).1 isoOnly rest

theorem accept_normal {slot : Slot} {transfer : LibusbTransfer} {c : Completion} (panics : ∀ i, c.panics i = false)
    (whole : slot.receive = false → transfer.transferType ≠ .iso →
      c.actualLength + (if slot.kind = 1 then 8 else 0) = transfer.length) (s : Usb) :
    (s.accept slot transfer c).fatal = s.fatal := by
  have fold : ∀ (step : Usb → Nat → Usb) (items : List Nat) (s : Usb), (∀ s i, (step s i).fatal = s.fatal) →
      (items.foldl step s).fatal = s.fatal := by
    intro step items
    induction items with
    | nil => exact fun _ _ => rfl
    | cons i rest ih => exact fun s same => (ih (step s i) same).trans (same s i)
  unfold accept
  split
  · split
    · apply fold
      intro s i
      unfold receivePacket
      rw [panics]
      dsimp only
      split_ifs <;> rfl
    · rw [panics]
      split <;> rfl
  next sends =>
    split
    · apply fold
      intro s i
      unfold sentPacket
      simp only
      split_ifs <;> rfl
    next plain =>
      have right := whole (by simpa using sends) plain
      simp only
      rw [if_neg (not_not.mpr right)]

theorem report_normal {slot : Slot} {transfer : LibusbTransfer} {c : Completion} {stopping : Bool}
    (panics : ∀ i, c.panics i = false) (ends : EndsWell slot transfer c stopping) (s : Usb) :
    slot.isoLoss c.status = false ∧ (s.report slot transfer c stopping (slot.isoLoss c.status)).fatal = s.fatal := by
  rcases ends with ⟨completed, whole⟩ | ⟨cancelled, halting⟩
  · have lossless : slot.isoLoss c.status = false := by simp [Slot.isoLoss, completed]
    refine ⟨lossless, ?_⟩
    rw [lossless]
    simp only [report, noteStatus, completed, Bool.false_and, Bool.false_eq_true, if_false, reduceCtorEq, false_and,
      ne_eq, not_true_eq_false, true_and]
    split
    · exact accept_normal panics whole s
    · rfl
  · have lossless : slot.isoLoss c.status = false := by simp [Slot.isoLoss, cancelled]
    refine ⟨lossless, ?_⟩
    rw [lossless]
    simp [report, noteStatus, cancelled, halting]

theorem completedInner_normal {c : Completion} (normal : Normal s c) : (s.completedInner c).fatal = s.fatal := by
  unfold completedInner
  cases stored : s.transfers.cells c.transfer with
  | none => rfl
  | some transfer =>
    dsimp only
    cases mine : transfer.userData with
    | none => rfl
    | some index =>
      dsimp only
      have calm := report_normal normal.panics (normal.ends transfer index stored mine) s
      rw [normal.resubmit]
      generalize s.report (s.slots index) transfer c _ _ = next at calm ⊢
      split
      · rw [if_pos rfl]
        exact (submit_control next c.transfer 0).fatal.trans calm.2
      · exact (freeSlot_control next index).fatal.trans calm.2

/-- A normal completion records no fatal error. -/
theorem complete_normal {c : Completion} (normal : Normal s c) : (s.complete c).fatal = s.fatal := by
  unfold complete
  split
  · have same : Normal
        { s with inFlight := s.inFlight.erase c.transfer, cancelling := s.cancelling.erase c.transfer } c :=
      { normal with }
    exact completedInner_normal same
  · rfl

theorem completions_normal {completions : List Completion} (normal : NormalAll s completions) :
    (completions.foldl complete s).fatal = s.fatal := by
  induction completions generalizing s with
  | nil => rfl
  | cons c rest ih => exact (ih normal.2).trans (complete_normal normal.1)

/-- The end of a transmission gives its slot up. -/
theorem complete_transmission (owned : Owned s none) {c : Completion} (member : c.transfer ∈ s.inFlight)
    {index : SlotIndex} {kind : UInt8} (occupied : s.held index = some (c.transfer, kind, false)) :
    (s.complete c).held = Function.update s.held index none := by
  have place := held_transfer occupied
  have loose := owned.returned place (s.cancelling.erase c.transfer)
  obtain ⟨transfer, _, _, stored, mine, _⟩ := owned.held index c.transfer place
  have sends : (s.slots index).receive = false := by
    obtain ⟨_, _, same⟩ := Option.map_eq_some_iff.mp occupied
    simp only [Prod.mk.injEq] at same
    exact same.2.2
  rw [complete, if_pos member]
  simp only [completedInner, stored, mine, sends, Bool.false_and, Bool.false_eq_true, if_false]
  generalize erased : ({ s with inFlight := s.inFlight.erase c.transfer, cancelling := s.cancelling.erase c.transfer } :
    Usb) = left at loose
  have slots : left.slots = s.slots := by rw [← erased]
  have reported := report_reported left (s.slots index) transfer c ((s.slots index).stopping left)
    ((s.slots index).isoLoss c.status)
  have again : (left.report (s.slots index) transfer c ((s.slots index).stopping left)
      ((s.slots index).isoLoss c.status)).slots index = s.slots index := by
    rw [reported.slots, slots]
  rw [freeSlot_held (loose.frame reported.toSameMemory) (by rw [again]; exact place),
    held_congr (reported.slots.trans slots)]

/-- A normal completion takes its transmission off the pool and nothing else that
lingers. -/
theorem complete_lingering (owned : Owned s none) (running : s.stopping = false) (working : s.fatal = 0)
    {c : Completion} (normal : Normal s c) (ended : List Nat) :
    lingering (s.complete c) ended = lingering s (c.transfer :: ended) := by
  by_cases member : c.transfer ∈ s.inFlight
  · obtain ⟨index, place, _⟩ := (owned.flight c.transfer).mp member
    have taken : s.held index = some (c.transfer, (s.slots index).kind, (s.slots index).receive) := by
      simp [held, place]
    generalize (s.slots index).kind = kind at taken
    generalize (s.slots index).receive = receive at taken
    have elsewhere : ∀ other id kind receive, other ≠ index → s.held other = some (id, kind, receive) →
        id ≠ c.transfer := by
      intro other id kind receive apart entry same
      subst same
      exact apart (owned.injective (held_transfer entry) place)
    have others : ∀ other, other ≠ index → (s.complete c).held other = s.held other := by
      intro other apart
      rcases (complete_held owned member taken).2 with same | ⟨same, _⟩
      · rw [same]
      · rw [same, Function.update_of_ne apart]
    ext other
    rw [mem_lingering, mem_lingering]
    by_cases here : other = index
    · subst here
      rw [taken]
      cases receive with
      | false =>
        rw [complete_transmission owned member taken, Function.update_self]
        simp
      | true =>
        by_cases voice : kind = 3
        · rcases (complete_held owned member taken).2 with same | ⟨same, _⟩
          · rw [same, taken]
            simp [voice]
          · rw [same, Function.update_self]
            simp [voice]
        · rcases (complete_held owned member taken).2 with same | ⟨_, given⟩
          · rw [same, taken]
            simp
          · have failed := given rfl running fun is => absurd is voice
            rw [complete_normal normal] at failed
            exact absurd working failed
    · rw [others other here]
      constructor
      · intro found
        obtain ⟨id, kind, receive, entry, plain, left⟩ := found
        refine ⟨id, kind, receive, entry, plain, left.imp_right fun absent => ?_⟩
        exact List.not_mem_cons_of_ne_of_not_mem (elsewhere other id kind receive here entry) absent
      · intro found
        obtain ⟨id, kind, receive, entry, plain, left⟩ := found
        exact ⟨id, kind, receive, entry, plain, left.imp_right List.not_mem_of_not_mem_cons⟩
  · rw [complete, if_neg member]
    ext other
    rw [mem_lingering, mem_lingering]
    constructor
    · intro found
      obtain ⟨id, kind, receive, entry, plain, left⟩ := found
      refine ⟨id, kind, receive, entry, plain, left.imp_right fun absent => ?_⟩
      apply List.not_mem_cons_of_ne_of_not_mem _ absent
      intro same
      subst same
      exact member ((owned.flight c.transfer).mpr ⟨other, held_transfer entry, by simp⟩)
    · intro found
      obtain ⟨id, kind, receive, entry, plain, left⟩ := found
      exact ⟨id, kind, receive, entry, plain, left.imp_right List.not_mem_of_not_mem_cons⟩

theorem completions_lingering (owned : Owned s none) (running : s.stopping = false) (working : s.fatal = 0)
    {completions : List Completion} (normal : NormalAll s completions) (ended : List Nat) :
    lingering (completions.foldl complete s) ended = lingering s (completions.map Completion.transfer ++ ended) := by
  induction completions generalizing s with
  | nil => rfl
  | cons c rest ih =>
    have kept := complete_kept owned c
    have later := ih (owned.complete c) (kept.stopping.trans running) ((complete_normal normal.1).trans working) normal.2
    exact later.trans (complete_lingering owned running working normal.1 _)

/-- The transfers that end during a cancellation. -/
def ending (rounds : List (Option Int × Poll)) : List Nat :=
  rounds.flatMap fun round => round.2.completions.map Completion.transfer

theorem cancelLoop_normal {isoOnly : Bool} {deadline : Int} {rounds : List (Option Int × Poll)} (owned : Owned s none)
    (running : s.stopping = false) (working : s.fatal = 0) (normal : NormalRounds s isoOnly rounds)
    (done : (s.cancelLoop isoOnly deadline rounds).2 = 0) :
    (s.cancelLoop isoOnly deadline rounds).1.fatal = 0 ∧
      lingering (s.cancelLoop isoOnly deadline rounds).1 [] = lingering s (ending rounds) := by
  induction rounds generalizing s with
  | nil => exact ⟨working, rfl⟩
  | cons round rest ih =>
    obtain ⟨reading, poll⟩ := round
    obtain ⟨waiting, calm, later⟩ := normal
    simp only [cancelLoop, if_neg waiting] at done ⊢
    cases reading with
    | none => cases done
    | some now =>
      dsimp only at done ⊢
      split at done
      · cases done
      next early =>
        rw [if_neg early]
        have kept := completions_kept owned poll.completions
        have result := ih (owned.completions poll.completions) (kept.stopping.trans running)
          ((completions_normal calm).trans working) later done
        refine ⟨result.1, result.2.trans ?_⟩
        exact completions_lingering owned running working calm (ending rest)

theorem requested_same (isoOnly : Bool) (s : Usb) (indices : List SlotIndex) :
    (indices.foldl (requestCancel isoOnly) s).held = s.held ∧
      (indices.foldl (requestCancel isoOnly) s).fatal = s.fatal := by
  induction indices generalizing s with
  | nil => exact ⟨rfl, rfl⟩
  | cons index rest ih =>
    have later := ih (requestCancel isoOnly s index)
    rw [List.foldl_cons, later.1, later.2]
    unfold requestCancel
    split
    · exact ⟨rfl, rfl⟩
    · split
      · exact ⟨held_congr rfl, rfl⟩
      · exact ⟨rfl, rfl⟩

/-- A cancellation in which every transfer ends as it should, and in time. -/
structure Orderly (s : Usb) (isoOnly : Bool) (cancellation : Cancellation) : Prop where
  rounds : NormalRounds ((List.finRange 72).foldl (requestCancel isoOnly) s) isoOnly cancellation.rounds
  done : (s.cancel isoOnly cancellation).2 = 0

theorem Orderly.cancelled {isoOnly : Bool} {cancellation : Cancellation} (orderly : Orderly s isoOnly cancellation)
    (owned : Owned s none) (running : s.stopping = false) (working : s.fatal = 0) :
    (s.cancel isoOnly cancellation).1.fatal = 0 ∧
      lingering (s.cancel isoOnly cancellation).1 [] = lingering s (ending cancellation.rounds) := by
  have done := orderly.done
  unfold cancel at done ⊢
  cases started : cancellation.start with
  | none =>
    rw [started] at done
    cases done
  | some start =>
    rw [started] at done
    have asked := requested_same isoOnly s (List.finRange 72)
    have kept := requestCancel_kept isoOnly s (List.finRange 72)
    have result := cancelLoop_normal (owned.requested isoOnly (List.finRange 72)) (kept.stopping.trans running)
      (asked.2.trans working) orderly.rounds done
    refine ⟨result.1, result.2.trans ?_⟩
    unfold lingering
    rw [asked.1]

/-- After the voice transfers are cancelled the pool holds the others only. -/
theorem cancelled_occupied {cancellation : Cancellation} (done : (s.cancel true cancellation).2 = 0) :
    occupied (s.cancel true cancellation).1 = lingering (s.cancel true cancellation).1 [] := by
  ext index
  rw [mem_occupied, mem_lingering]
  constructor
  · intro taken
    obtain ⟨⟨id, kind, receive⟩, same⟩ := Option.ne_none_iff_exists'.mp taken
    have other := cancel_iso done (held_transfer same)
    rw [held_kind same] at other
    exact ⟨id, kind, receive, same, other, .inr List.not_mem_nil⟩
  · intro found free
    obtain ⟨id, kind, receive, same, _⟩ := found
    rw [free] at same
    cases same

/-- The modes an adapter has an alternate setting for. -/
def Supported (s : Usb) (mode : Int) : Prop := mode = 0 ∨ ((mode = 2 ∨ mode = 3) ∧ s.alternate mode ≠ 0)

theorem Supported.known {mode : Int} (supported : Supported s mode) : ¬ (mode ≠ 0 ∧ mode ≠ 2 ∧ mode ≠ 3) := by
  rcases supported with rfl | ⟨rfl | rfl, _⟩ <;> simp

theorem Supported.settable {mode : Int} (supported : Supported s mode) : ¬ (mode ≠ 0 ∧ s.alternate mode = 0) := by
  intro bad
  rcases supported with off | ⟨_, present⟩
  · exact bad.1 off
  · exact present bad.2

/-- A mode change in which every libusb call succeeds. -/
structure Smooth (s : Usb) (switch : Switch) : Prop where
  cancellation : Orderly { s with stoppingSco := true } true switch.cancellation
  release : switch.release = 0
  descriptors : ∃ endpoints, switch.descriptors = .ok endpoints
  select : switch.select = 0
  first : switch.first = {}
  second : switch.second = {}

/-- Two slots are free for the new receivers once the old voice transfers are gone. -/
def TwoFree (s : Usb) (switch : Switch) : Prop := (lingering s (ending switch.cancellation.rounds)).card ≤ 70

instance (s : Usb) (switch : Switch) : Decidable (TwoFree s switch) := inferInstanceAs (Decidable (_ ≤ _))

theorem setSco_supported {mode : Int} (supported : Supported s mode) (switch : Switch)
    (other : s.alternate mode ≠ s.alt) : s.setSco mode switch =
      match { s with stoppingSco := true }.cancel true switch.cancellation with
      | (s', code) =>
        if code ≠ 0 then (s', code)
        else if s'.fatal ≠ 0 then (s', s'.fatal)
        else if switch.release ≠ 0 then (s', -eio)
        else if s.alternate mode = 0 then (s'.selected 0 s'.endpoints, 0)
        else { s' with alt := 0, isoRxErrors := 0, isoTxErrors := 0 }.selectAlt (s.alternate mode) switch := by
  unfold setSco
  rw [if_neg supported.known]
  dsimp only
  rw [if_neg supported.settable, if_neg other]
  rfl

theorem selectAlt_smooth {switch : Switch} {endpoints : Endpoints} (described : switch.descriptors = .ok endpoints)
    (select : switch.select = 0) (first : switch.first = {}) (second : switch.second = {}) (alt : Nat) :
    { s with alt := 0, isoRxErrors := 0, isoTxErrors := 0 }.selectAlt alt switch =
      (((s.selected alt endpoints).receiveAll [(3, {}), (3, {})]).1,
        if ((s.selected alt endpoints).receiveAll [(3, {}), (3, {})]).2 ≠ 0 then -eio else 0) := by
  unfold selectAlt
  rw [described, first, second]
  dsimp only
  rw [if_neg (not_not.mpr select)]
  rfl

/-- A smooth change to another setting succeeds exactly if two slots are free. -/
theorem setSco_smooth (owned : Owned s none) (running : s.stopping = false) (working : s.fatal = 0) {mode : Int}
    {switch : Switch} (supported : Supported s mode) (other : s.alternate mode ≠ s.alt) (smooth : Smooth s switch) :
    (s.setSco mode switch).1.fatal = 0 ∧ (s.setSco mode switch).1.stopping = false ∧
      (s.setSco mode switch).2 = if s.alternate mode = 0 ∨ TwoFree s switch then 0 else -eio := by
  rw [setSco_supported supported switch other]
  have halted : Owned { s with stoppingSco := true } none := { owned with }
  have calm := smooth.cancellation.cancelled halted running working
  have kept := (cancel_kept halted true switch.cancellation).stopping.trans running
  have settled := halted.cancel true switch.cancellation
  have full := cancelled_occupied smooth.cancellation.done
  have returned := smooth.cancellation.done
  obtain ⟨endpoints, described⟩ := smooth.descriptors
  rcases cancelled : ({ s with stoppingSco := true } : Usb).cancel true switch.cancellation with ⟨quiet, code⟩
  rw [cancelled] at calm kept settled full returned
  dsimp only at calm kept settled full returned ⊢
  rw [if_neg (not_not.mpr returned), if_neg (not_not.mpr calm.1), if_neg (not_not.mpr smooth.release)]
  by_cases off : s.alternate mode = 0
  · rw [if_pos off, if_pos (.inl off)]
    exact ⟨calm.1, kept, rfl⟩
  · rw [if_neg off, selectAlt_smooth described smooth.select smooth.first smooth.second]
    have ready : Owned (quiet.selected (s.alternate mode) endpoints) none := { settled with }
    have count : (occupied (quiet.selected (s.alternate mode) endpoints)).card =
        (lingering s (ending switch.cancellation.rounds)).card := by
      have same : occupied (quiet.selected (s.alternate mode) endpoints) = occupied quiet := rfl
      rw [same, full, calm.2]
      rfl
    have control := receiveAll_control (quiet.selected (s.alternate mode) endpoints) [(3, {}), (3, {})]
    refine ⟨control.fatal.trans calm.1, control.stopping.trans kept, ?_⟩
    by_cases room : TwoFree s switch
    · have granted := receivePair_granted ready (count.le.trans room)
      rw [if_neg (not_not.mpr granted), if_pos (.inr room)]
    · have refused := receivePair_refused ready (count ▸ Nat.lt_of_not_le room)
      rw [if_pos refused, if_neg (not_or.mpr ⟨off, room⟩)]

/-- A change to the setting in use is none. -/
theorem setSco_current {mode : Int} (supported : Supported s mode) (switch : Switch)
    (current : s.alternate mode = s.alt) : s.setSco mode switch = (s, 0) := by
  unfold setSco
  rw [if_neg supported.known]
  dsimp only
  rw [if_neg supported.settable, if_pos current]

theorem setSco_unsupported {mode : Int} (unsupported : ¬ Supported s mode) (switch : Switch) :
    (s.setSco mode switch).1 = s := by
  unfold setSco
  split
  · rfl
  next known =>
    dsimp only
    split
    · rfl
    next settable =>
      refine absurd ?_ unsupported
      unfold Supported
      by_cases off : mode = 0
      · exact .inl off
      · refine .inr ⟨?_, fun missing => settable ⟨off, missing⟩⟩
        by_contra neither
        exact known ⟨off, not_or.mp neither⟩

/-- An adapter in service that has met no error. -/
structure Steady (s : Usb) : Prop where
  owned : Owned s none
  running : s.stopping = false
  working : s.fatal = 0

theorem steady_claimed (endpoints : Endpoints) : Steady ((opened endpoints).claim {}).1 where
  owned := (owned_opened endpoints).claim {}
  running := (receiveAll_control _ _).stopping
  working := (receiveAll_control _ _).fatal

namespace Steady

theorem completions (steady : Steady s) {completions : List Completion} (normal : NormalAll s completions) :
    Steady (completions.foldl complete s) where
  owned := steady.owned.completions completions
  running := (completions_kept steady.owned completions).stopping.trans steady.running
  working := (completions_normal normal).trans steady.working

theorem send (steady : Steady s) (kind : UInt8) (data : Bytes) (supply : Supply) :
    Steady (s.send kind data supply).1 where
  owned := steady.owned.send kind data supply
  running := (send_kept steady.owned kind data supply).stopping.trans steady.running
  working := by
    have control := launch_control s kind false (s.sendPackets kind data.length) (s.sendRequest kind data) supply
    unfold Usb.send
    dsimp only
    split_ifs
    · exact steady.working
    · exact steady.working
    · exact steady.working
    · exact control.fatal.trans steady.working
    · exact control.fatal.trans steady.working

theorem setSco (steady : Steady s) {mode : Int} {switch : Switch}
    (smooth : s.alternate mode ≠ s.alt → Smooth s switch) : Steady (s.setSco mode switch).1 := by
  by_cases supported : Supported s mode
  · by_cases current : s.alternate mode = s.alt
    · rw [setSco_current supported switch current]
      exact steady
    · have result := setSco_smooth steady.owned steady.running steady.working supported current (smooth current)
      exact ⟨steady.owned.setSco mode switch, result.2.1, result.1⟩
  · rw [setSco_unsupported supported switch]
    exact steady

end Steady

/-- A transmission that libusb would take fails for want of a slot only, and then
nothing has changed. -/
theorem send_exhausted {kind : UInt8} {data : Bytes} (full : (s.send kind data {}).2 = -enobufs) :
    s.send kind data {} = (s, -enobufs) := by
  by_cases room : ∃ index, s.held index = none
  · obtain ⟨index, free⟩ := room
    have granted := launch_granted free kind false (s.sendPackets kind data.length) (s.sendRequest kind data)
    unfold send at full
    dsimp only at full
    rw [granted] at full
    split_ifs at full <;> cases full
  · have taken : ∀ index, s.held index ≠ none := fun index free => room ⟨index, free⟩
    unfold send at full ⊢
    rw [launch_exhausted taken] at full ⊢
    dsimp only at full ⊢
    split_ifs at full ⊢ with empty silent long phase
    · cases full
    · cases full
    · cases full
    · cases phase.1
    · rfl

end FlossDesktop.Usb
