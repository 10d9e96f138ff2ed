import FlossDesktop.Proofs.Framing

/-! Reassembly of SCO packets. The buffer only ever grows behind a header of the link's
handle; a fragment that does not begin with one is dropped as a whole. -/

namespace FlossDesktop.Proofs.ScoFraming
open Framer Framing

/-- A SCO packet of the link, without its kind byte. -/
structure IsSco (id : Nat) (frame : Bytes) : Prop where
  handle : handle frame = id
  sized : frame.length = 3 + (byte frame 2).toNat

variable {id : Nat} {t : Transport}

theorem IsSco.wellFormed {frame : Bytes} (audio : IsSco id frame) : WellFormed 3 frame := by
  have small := (byte frame 2).toNat_lt
  have length := audio.sized
  refine ⟨⟨3, rfl, by omega, length⟩, ?_⟩
  unfold maxFrame
  omega

theorem IsSco.accepted {frame : Bytes} (audio : IsSco id frame) : Accepted 3 (some id) frame :=
  fun _ => congrArg some audio.handle.symm

theorem IsSco.nonempty {frame : Bytes} (audio : IsSco id frame) : frame ≠ [] := by
  intro empty
  have length := audio.sized
  rw [empty, List.length_nil] at length
  omega

/-- The start of a packet is buffered. -/
theorem push_audio_inside (front middle back : Bytes) (audio : IsSco id (front ++ middle ++ back)) (unfinished : back ≠ []) :
    Framer.push ⟨front⟩ 3 (some id) middle = (⟨front ++ middle⟩, .ok []) :=
  push_inside front middle back audio.wellFormed audio.accepted unfinished

/-- The rest of a packet completes it. -/
theorem push_audio_rest (front rest : Bytes) (audio : IsSco id (front ++ rest)) (remaining : rest ≠ []) :
    Framer.push ⟨front⟩ 3 (some id) rest = (⟨[]⟩, .ok [3 :: (front ++ rest)]) :=
  push_rest front rest audio.wellFormed audio.accepted remaining

/-- A continuation that arrives where a header is expected is dropped. -/
theorem push_foreign (fragment : Bytes) (long : 3 ≤ fragment.length) (foreign : handle fragment ≠ id) :
    Framer.push ⟨[]⟩ 3 (some id) fragment = (⟨[]⟩, .ok []) := by
  match fragment, long with
  | first :: second :: third :: rest, _ =>
    have other : some id ≠ some (handle [first, second, third]) := fun same => foreign (Option.some.inj same).symm
    simp [push, pushByte, headerSize, other]

/-- Every frame that leaves the receive loop is well formed. -/
theorem pushByte_frame {framer after : Framer} {kind : UInt8} {sco : Option Nat} {next : UInt8} {frame : Bytes}
    (pushed : framer.pushByte kind sco next = (after, .frame frame)) :
    ∃ body, frame = kind :: body ∧ WellFormed kind body := by
  unfold pushByte at pushed
  dsimp only at pushed
  split at pushed
  · cases pushed
  next header sized =>
    split at pushed
    · cases pushed
    next complete =>
      split at pushed
      · cases pushed
      · split at pushed
        · cases pushed
        next bounded =>
          split at pushed
          next last =>
            cases pushed
            exact ⟨_, rfl, ⟨⟨header, sized, by omega, last⟩, by omega⟩⟩
          · cases pushed

theorem push_frames_valid {framer after : Framer} {kind : UInt8} {sco : Option Nat} {bytes : Bytes} {frames : List Bytes}
    (pushed : framer.push kind sco bytes = (after, .ok frames)) :
    ∀ frame ∈ frames, ∃ body, frame = kind :: body ∧ WellFormed kind body := by
  induction bytes generalizing framer frames with
  | nil =>
    cases pushed
    exact nofun
  | cons next rest ih =>
    rw [push] at pushed
    rcases one : framer.pushByte kind sco next with ⟨middle, progress⟩
    rw [one] at pushed
    cases progress with
    | more => exact ih pushed
    | discard =>
      cases pushed
      exact nofun
    | error reason => cases pushed
    | frame first =>
      dsimp only at pushed
      rcases more : middle.push kind sco rest with ⟨last, reason | later⟩
      · rw [more] at pushed
        cases pushed
      · rw [more] at pushed
        cases pushed
        intro frame member
        rcases List.mem_cons.mp member with rfl | member
        · exact pushByte_frame one
        · exact ih more frame member

/-- Packets of the link go to the host, and are counted. -/
theorem packets_audio {mode : UInt8} (linked : t.link = some (id, mode)) (frames : List Bytes)
    (ours : ∀ frame ∈ frames, handle (frame.drop 1) = id) :
    t.packets 3 frames =
      ({ t with scoRxBytes := t.scoRxBytes + (frames.map (·.length - 4)).sum }, .ok (frames.map .host)) := by
  induction frames generalizing t with
  | nil => rfl
  | cons frame rest ih =>
    have here : t.link.map Prod.fst = some (handle (frame.drop 1)) := by
      rw [linked, ours frame List.mem_cons_self]
      rfl
    have one : Transport.packetStep 3 t frame =
        ({ t with scoRxBytes := t.scoRxBytes + (frame.length - 4) }, .ok [.host frame]) := by
      unfold Transport.packetStep Transport.packet
      rw [if_neg (by decide), if_pos rfl, if_neg (not_not.mpr here)]
    have later := @ih { t with scoRxBytes := t.scoRxBytes + (frame.length - 4) } linked
      (fun other member => ours other (List.mem_cons_of_mem frame member))
    unfold Transport.packets at later ⊢
    rw [Feed.feed, one]
    dsimp only
    rw [later]
    simp [Except.map, Nat.add_assoc]

theorem usb_audio {mode : UInt8} (linked : t.link = some (id, mode)) {fragment : Bytes} {framer : Framer} {frames : List Bytes}
    (pushed : t.sco.push 3 (some id) fragment = (framer, .ok frames))
    (ours : ∀ frame ∈ frames, handle (frame.drop 1) = id) :
    t.usb 3 fragment =
      ({ t with sco := framer, scoRxBytes := t.scoRxBytes + (frames.map (·.length - 4)).sum }, .ok (frames.map .host)) := by
  have framed : t.frame 3 fragment = ({ t with sco := framer }, .ok frames) := by
    have sco : t.frame 3 fragment = ({ t with sco := (t.sco.push 3 (t.link.map Prod.fst) fragment).1 },
        (t.sco.push 3 (t.link.map Prod.fst) fragment).2) := rfl
    rw [sco, linked, Option.map_some, pushed]
  unfold Transport.usb
  rw [if_neg (by rw [linked]; exact fun idle => absurd idle.2 nofun), framed]
  exact packets_audio (t := { t with sco := framer }) linked frames ours

/-- Fragments of the SCO endpoint, one call each. -/
def usbAll (t : Transport) (fragments : List Bytes) : Transport × Except String (List Action) :=
  Feed.feed (fun t fragment => t.usb 3 fragment) t fragments

/-- The same fragments, as the reassembly buffer sees them. -/
def audioAll (id : Nat) (framer : Framer) (fragments : List Bytes) : Framer × Except String (List Bytes) :=
  Feed.feed (fun framer fragment => framer.push 3 (some id) fragment) framer fragments

theorem usbAll_audio {mode : UInt8} (linked : t.link = some (id, mode)) {fragments : List Bytes} {framer : Framer}
    {frames : List Bytes} (pushed : audioAll id t.sco fragments = (framer, .ok frames))
    (ours : ∀ frame ∈ frames, handle (frame.drop 1) = id) :
    ∃ scoRxBytes, usbAll t fragments = ({ t with sco := framer, scoRxBytes }, .ok (frames.map .host)) := by
  induction fragments generalizing t frames with
  | nil =>
    cases pushed
    exact ⟨t.scoRxBytes, rfl⟩
  | cons fragment rest ih =>
    obtain ⟨middle, first, later, here, others, rfl⟩ := Feed.feed_cons_ok.mp pushed
    have one := usb_audio linked here fun frame member => ours frame (List.mem_append_left later member)
    obtain ⟨scoRxBytes, more⟩ := @ih { t with
        sco := middle, scoRxBytes := t.scoRxBytes + (first.map (·.length - 4)).sum } linked later others
      (fun frame member => ours frame (List.mem_append_right first member))
    refine ⟨scoRxBytes, ?_⟩
    apply Feed.feed_cons_ok.mpr
    exact ⟨_, _, _, one, more, by rw [List.map_append]⟩

end FlossDesktop.Proofs.ScoFraming
