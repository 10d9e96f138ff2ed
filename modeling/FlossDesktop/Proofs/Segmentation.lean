import FlossDesktop.Proofs.ScoFraming
import FlossDesktop.Proofs.UsbReceivers
import Mathlib.Data.List.SplitLengths

/-! SCO packets on their way through two isochronous endpoints. The sender decides where a
packet is cut, the receiver finds each piece by the declared lengths, and the framing joins
the pieces without knowing either. -/

namespace FlossDesktop.Usb

/-- A successful transmission on the SCO endpoint: the owner before it, the packet, and
what the submitted transfer declares and holds. -/
structure Transmission where
  usb : Usb
  data : Bytes
  lengths : List Nat
  contents : Bytes

/-- What goes over the bus. -/
def Transmission.pieces (sent : Transmission) : List Bytes := sent.lengths.splitLengths sent.contents

/-- The transmission of a packet, as its request lays it out. -/
def Transmission.requested (s : Usb) (data : Bytes) : Transmission :=
  ⟨s, data, (s.sendRequest 3 data).isoLengths, data⟩

/-- Each packet of a completion lies where the lengths declared before it end. -/
def Placed (declared : List Nat) (c : Completion) (packets : List Bytes) : Prop :=
  declared.length = packets.length ∧ ∀ i packet, packets[i]? = some packet →
    c.packets i = ⟨.completed, packet.length⟩ ∧ (c.data.drop (declared.take i).sum).take packet.length = packet

def nonempty (packets : List Bytes) : List Bytes := packets.filter (· ≠ [])

theorem receivePacket_placed {transfer : LibusbTransfer} {c : Completion} {packets : List Bytes}
    (placed : Placed transfer.isoLengths c packets) {i : Nat} {packet : Bytes} (there : packets[i]? = some packet) (s : Usb) :
    (receivePacket transfer c s i).received = s.received ++ (nonempty [packet]).map (3, ·) := by
  obtain ⟨outcome, bytes⟩ := placed.2 i packet there
  unfold receivePacket
  rw [outcome]
  cases packet with
  | nil => exact (List.append_nil _).symm
  | cons first rest =>
    dsimp only
    rw [if_neg (not_not.mpr rfl), if_pos (List.length_cons ▸ Nat.succ_ne_zero _), bytes]
    unfold deliver
    dsimp only
    split_ifs <;> rfl

theorem receivePackets_placed {transfer : LibusbTransfer} {c : Completion} {packets : List Bytes}
    (placed : Placed transfer.isoLengths c packets) (s : Usb) (count : Nat) (within : count ≤ packets.length) :
    ((List.range count).foldl (receivePacket transfer c) s).received =
      s.received ++ (nonempty (packets.take count)).map (3, ·) := by
  induction count with
  | zero => exact (List.append_nil _).symm
  | succ count ih =>
    have there : packets[count]? = some (packets[count]) := List.getElem?_eq_getElem within
    rw [List.range_succ, List.foldl_append, List.foldl_cons, List.foldl_nil, receivePacket_placed placed there,
      ih (Nat.le_of_succ_le within), ← List.take_append_getElem within, List.append_assoc, ← List.map_append]
    unfold nonempty
    rw [← List.filter_append]

/-- A completed isochronous reception outside a stop that carries these packets. -/
structure Carries (s : Usb) (c : Completion) (packets : List Bytes) : Prop where
  flying : c.transfer ∈ s.inFlight
  status : c.status = .completed
  receiver : ∃ transfer index, s.transfers.cells c.transfer = some transfer ∧ transfer.userData = some index ∧
    (s.slots index).receive = true ∧ (s.slots index).kind = 3 ∧ (s.slots index).stopping s = false ∧
    Placed transfer.isoLengths c packets

theorem report_accept {s : Usb} {slot : Slot} {transfer : LibusbTransfer} {c : Completion} (status : c.status = .completed)
    (receive : slot.receive = true) (kind : slot.kind = 3) :
    s.report slot transfer c false (slot.isoLoss c.status) =
      (List.range transfer.isoLengths.length).foldl (receivePacket transfer c) s := by
  have lost : slot.isoLoss c.status = false := by
    rw [status]
    exact Bool.and_false _
  have quiet : s.noteStatus c.status false false = s := by
    rw [status]
    rfl
  unfold report
  rw [lost]
  dsimp only
  rw [if_neg (show ¬ (false && !false) = true from nofun), quiet, if_pos ⟨status, rfl⟩, accept, if_pos receive, if_pos kind]

theorem Carries.received {s : Usb} {c : Completion} {packets : List Bytes} (carries : Carries s c packets) :
    (s.complete c).received = s.received ++ (nonempty packets).map (3, ·) := by
  obtain ⟨transfer, index, stored, mine, receive, kind, running, placed⟩ := carries.receiver
  let returned : Usb := { s with
    inFlight := s.inFlight.erase c.transfer, cancelling := s.cancelling.erase c.transfer }
  have running : (returned.slots index).stopping returned = false := running
  have settled := (completedInner_reported (s := returned) stored mine).2
  rw [running, report_accept carries.status receive kind, placed.1, receivePackets_placed placed returned _ le_rfl,
    List.take_length] at settled
  rw [complete, if_pos carries.flying]
  exact settled

/-- Receptions one after another, each with what it carries. -/
def Receives : Usb → List (Completion × List Bytes) → Prop
  | _, [] => True
  | s, (c, packets) :: rest => Carries s c packets ∧ Receives (s.complete c) rest

theorem Receives.received {s : Usb} {receptions : List (Completion × List Bytes)} (receives : Receives s receptions) :
    ((receptions.map (·.1)).foldl complete s).received =
      s.received ++ (nonempty (receptions.flatMap (·.2))).map (3, ·) := by
  induction receptions generalizing s with
  | nil => exact (List.append_nil _).symm
  | cons reception rest ih =>
    obtain ⟨carries, later⟩ := receives
    rw [List.map_cons, List.foldl_cons, ih later, carries.received, List.append_assoc, ← List.map_append,
      List.flatMap_cons]
    unfold nonempty
    rw [← List.filter_append]

namespace Transmission
open Proofs.ScoFraming

/-- The pieces of one packet are joined to that packet. -/
theorem joined {id : Nat} (front : Bytes) (pieces : List Bytes) (audio : IsSco id (front ++ pieces.flatten))
    (some : ∀ piece ∈ pieces, piece ≠ []) (more : pieces ≠ []) :
    audioAll id ⟨front⟩ pieces = (⟨[]⟩, .ok [3 :: (front ++ pieces.flatten)]) := by
  induction pieces generalizing front with
  | nil => exact absurd rfl more
  | cons piece rest ih =>
    have here := some piece List.mem_cons_self
    rw [List.flatten_cons] at audio ⊢
    cases rest with
    | nil =>
      rw [List.flatten_nil, List.append_nil] at audio ⊢
      exact Feed.feed_cons_ok.mpr ⟨_, _, [], push_audio_rest front piece audio here, rfl, rfl⟩
    | cons next others =>
      have unfinished : (next :: others).flatten ≠ [] := by
        rw [List.flatten_cons]
        exact fun none => some next (List.mem_cons_of_mem _ List.mem_cons_self) (List.append_eq_nil_iff.mp none).1
      rw [← List.append_assoc] at audio ⊢
      have later := ih (front ++ piece) audio (fun other member => some other (List.mem_cons_of_mem _ member)) nofun
      exact Feed.feed_cons_ok.mpr ⟨_, [], _, push_audio_inside front piece _ audio unfinished, later, rfl⟩

end Transmission

/-- An adapter that listens on the isochronous endpoint of alternate one. -/
def listening : Usb := (({ endpoints := { isoSize := 9 }, alt := 1 } : Usb).receive 3 {}).1

end FlossDesktop.Usb
