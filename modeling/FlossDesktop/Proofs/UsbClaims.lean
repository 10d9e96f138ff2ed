import FlossDesktop.Helper
import FlossDesktop.Proofs.UsbCases

/-! Who holds the radio. Only taking it over changes that, and no turn of the main loop does. -/

namespace FlossDesktop

namespace Usb

variable {s : Usb}

/-- The kernel's driver is off, and the two interfaces are claimed. -/
def claims (s : Usb) : Bool × Bool × Bool := (s.detached, s.claimed0, s.claimed1)

theorem SameControl.claims {after : Usb} (same : SameControl s after) : after.claims = s.claims := by
  unfold Usb.claims
  rw [same.detached, same.claimed0, same.claimed1]

theorem foldl_claims {β : Type} {step : Usb → β → Usb} (kept : ∀ s item, (step s item).claims = s.claims) (s : Usb) (items : List β) :
    (items.foldl step s).claims = s.claims := by
  induction items generalizing s with
  | nil => rfl
  | cons item rest ih => exact (ih (step s item)).trans (kept s item)

theorem deliver_claims (s : Usb) (kind : UInt8) (bytes : Bytes) (panics : Bool) : (s.deliver kind bytes panics).claims = s.claims := by
  cases panics <;> rfl

theorem receivePacket_claims (transfer : LibusbTransfer) (c : Completion) (s : Usb) (i : Nat) :
    (receivePacket transfer c s i).claims = s.claims := by
  unfold receivePacket
  dsimp only
  split_ifs
  · rfl
  · exact deliver_claims ..
  · rfl

theorem sentPacket_claims (transfer : LibusbTransfer) (c : Completion) (s : Usb) (i : Nat) :
    (sentPacket transfer c s i).claims = s.claims := by
  unfold sentPacket
  dsimp only
  split_ifs <;> rfl

theorem accept_claims (s : Usb) (slot : Slot) (transfer : LibusbTransfer) (c : Completion) :
    (s.accept slot transfer c).claims = s.claims := by
  unfold accept
  dsimp only
  split_ifs
  all_goals first
    | rfl
    | exact deliver_claims ..
    | exact foldl_claims (receivePacket_claims transfer c) s _
    | exact foldl_claims (sentPacket_claims transfer c) s _

theorem report_claims (s : Usb) (slot : Slot) (transfer : LibusbTransfer) (c : Completion) (stopping isoLoss : Bool) :
    (s.report slot transfer c stopping isoLoss).claims = s.claims := by
  have counted : (if (isoLoss && !stopping) = true then s.countLoss slot else s).claims = s.claims := by
    unfold countLoss
    split_ifs <;> rfl
  unfold report
  dsimp only
  generalize (if (isoLoss && !stopping) = true then s.countLoss slot else s) = next at counted
  have noted : (next.noteStatus c.status stopping isoLoss).claims = next.claims := by
    unfold noteStatus
    dsimp only
    split_ifs <;> rfl
  split_ifs
  · exact (accept_claims ..).trans (noted.trans counted)
  · exact noted.trans counted

theorem completedInner_claims (s : Usb) (c : Completion) : (s.completedInner c).claims = s.claims := by
  unfold completedInner
  split
  · rfl
  next transfer stored =>
    split
    · rfl
    next index mine =>
      have reported := report_claims s (s.slots index) transfer c ((s.slots index).stopping s) ((s.slots index).isoLoss c.status)
      dsimp only
      generalize s.report (s.slots index) transfer c _ _ = next at reported ⊢
      have submitted := (submit_control next c.transfer c.resubmit).claims.trans reported
      split_ifs
      · exact submitted
      · exact (freeSlot_control _ index).claims.trans submitted
      · exact (freeSlot_control next index).claims.trans reported

theorem complete_claims (s : Usb) (c : Completion) : (s.complete c).claims = s.claims := by
  unfold complete
  split_ifs
  · exact completedInner_claims _ c
  · rfl

theorem pump_claims (s : Usb) (poll : Poll) : (s.pump poll).1.claims = s.claims := foldl_claims complete_claims s _

theorem cancelLoop_claims (s : Usb) (isoOnly : Bool) (deadline : Int) (rounds : List (Option Int × Poll)) :
    (s.cancelLoop isoOnly deadline rounds).1.claims = s.claims := by
  induction rounds generalizing s with
  | nil => rfl
  | cons round rest ih =>
    obtain ⟨reading, poll⟩ := round
    unfold cancelLoop
    split_ifs
    · rfl
    · cases reading with
      | none => rfl
      | some now =>
        dsimp only
        split_ifs
        · rfl
        · exact (ih _).trans (pump_claims s poll)

theorem cancel_claims (s : Usb) (isoOnly : Bool) (cancellation : Cancellation) :
    (s.cancel isoOnly cancellation).1.claims = s.claims := by
  have requested : ∀ (s : Usb) (index : SlotIndex), (requestCancel isoOnly s index).claims = s.claims := by
    intro s index
    unfold requestCancel
    split
    · rfl
    · split_ifs <;> rfl
  unfold cancel
  split
  · rfl
  · exact (cancelLoop_claims ..).trans (foldl_claims requested s _)

theorem selectAlt_claims (s : Usb) (alt : Nat) (switch : Switch) : (s.selectAlt alt switch).1.claims = s.claims := by
  unfold selectAlt
  split
  · rfl
  · dsimp only
    split_ifs
    · rfl
    · exact (receiveAll_control _ _).claims
    · exact (receiveAll_control _ _).claims

theorem setSco_claims (s : Usb) (mode : Int) (switch : Switch) : (s.setSco mode switch).1.claims = s.claims := by
  have cancelled : (Usb.cancel { s with stoppingSco := true } true switch.cancellation).1.claims = s.claims :=
    cancel_claims { s with stoppingSco := true } true switch.cancellation
  unfold setSco
  generalize Usb.cancel { s with stoppingSco := true } true switch.cancellation = result at cancelled ⊢
  dsimp only
  split_ifs
  all_goals first
    | rfl
    | exact cancelled
    | exact (selectAlt_claims ..).trans cancelled

theorem send_claims (s : Usb) (kind : UInt8) (data : Bytes) (supply : Supply) : (s.send kind data supply).1.claims = s.claims := by
  have launched := (launch_control s kind false (s.sendPackets kind data.length) (s.sendRequest kind data) supply).claims
  unfold send
  split_ifs
  · rfl
  · rfl
  · rfl
  · dsimp only
    split_ifs
    · exact launched
    · exact launched

/-- A radio that was free is claimed as far as the calls succeed. -/
theorem claim_claims (free : s.claims = (false, false, false)) (claiming : Claiming) :
    (s.claim claiming).1.claims = (claiming.detach == 0, claiming.detach == 0 && claiming.claim0 == 0,
      claiming.detach == 0 && claiming.claim0 == 0 && claiming.claim1 == 0) ∧
    (0 ≤ (s.claim claiming).2 → claiming.detach = 0 ∧ claiming.claim0 = 0 ∧ claiming.claim1 = 0) := by
  have busy : ¬ (0 : Int) ≤ -ebusy := by decide
  have claimed0 : s.claimed0 = false := congrArg (·.2.1) free
  have claimed1 : s.claimed1 = false := congrArg (·.2.2) free
  unfold claim
  dsimp only
  split
  next failed => exact ⟨by rw [beq_false_of_ne failed]; exact free, fun good => absurd good busy⟩
  next detached =>
    rw [not_not.mp detached]
    split
    next failed =>
      rw [beq_false_of_ne failed]
      exact ⟨by simp [Usb.claims, claimed0, claimed1], fun good => absurd good busy⟩
    next first =>
      rw [not_not.mp first]
      split
      next failed =>
        rw [beq_false_of_ne failed]
        exact ⟨by simp [Usb.claims, claimed1], fun good => absurd good busy⟩
      next last =>
        rw [not_not.mp last]
        split
        · exact ⟨rfl, fun _ => ⟨rfl, rfl, rfl⟩⟩
        · exact ⟨(receiveAll_control _ _).claims, fun _ => ⟨rfl, rfl, rfl⟩⟩

end Usb

namespace Helper

theorem returned_usb {h after : Helper} {usb : Usb} {code : Int} (came : h.returned usb code = some after) : after.usb = usb := by
  obtain ⟨loop, -, rfl⟩ := Option.map_eq_some_iff.mp came
  rfl

theorem turn_claims {h after : Helper} {turn : Turn} (turned : h.turn turn = some after) : after.usb.claims = h.usb.claims := by
  unfold Helper.turn at turned
  cases turn with
  | loop event =>
    dsimp only at turned
    split at turned
    · cases turned
    · cases turned
    · cases turned
    · obtain ⟨loop, -, rfl⟩ := Option.map_eq_some_iff.mp turned
      rfl
  | send supply =>
    dsimp only at turned
    split at turned
    · obtain ⟨loop, -, rfl⟩ := Option.map_eq_some_iff.mp turned
      exact Usb.send_claims ..
    · cases turned
  | change switch =>
    dsimp only at turned
    split at turned
    · rw [returned_usb turned]
      exact Usb.setSco_claims ..
    · cases turned
  | pump poll =>
    dsimp only at turned
    split at turned
    · rw [returned_usb turned]
      exact Usb.pump_claims ..
    · cases turned

end Helper
end FlossDesktop
