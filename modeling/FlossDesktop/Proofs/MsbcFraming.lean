import FlossDesktop.Msbc
import Mathlib.Tactic

/-! Frames are found at every alignment. Once the bytes before the first frame are
skipped the buffer starts at a frame, and it stays that way because frames are taken
out whole. -/

namespace FlossDesktop.Msbc
open Decoder

/-- A frame as the other side sends it. -/
structure IsFrame (frame : Bytes) : Prop where
  length : frame.length = pktLen
  header : ∃ number payload, frame = h2Header0 :: number :: syncWord :: payload ∧ verifyH2HeaderSeqNum number = true

variable {d : Decoder} {frames : List Bytes}

/-- Any part of a stream of frames that starts at a frame looks like one. -/
theorem candidate_of_start (valid : ∀ frame ∈ frames, IsFrame frame) {data : Bytes} (some_ : data ≠ [])
    (start : data <+: frames.flatten) : candidate data = true := by
  cases frames with
  | nil =>
    rw [List.flatten_nil, List.prefix_nil] at start
    exact absurd start some_
  | cons frame rest =>
    obtain ⟨number, payload, rfl, known⟩ := (valid frame List.mem_cons_self).header
    rw [List.flatten_cons] at start
    match data, some_, start with
    | [first], _, start =>
      obtain ⟨rfl, _⟩ := List.cons_prefix_cons.mp start
      rfl
    | [first, second], _, start =>
      obtain ⟨rfl, later⟩ := List.cons_prefix_cons.mp start
      obtain ⟨rfl, _⟩ := List.cons_prefix_cons.mp later
      simp [candidate, known]
    | first :: second :: third :: more, _, start =>
      obtain ⟨rfl, later⟩ := List.cons_prefix_cons.mp start
      obtain ⟨rfl, last⟩ := List.cons_prefix_cons.mp later
      obtain ⟨rfl, _⟩ := List.cons_prefix_cons.mp last
      simp [candidate, known]

theorem candidate_head {first : UInt8} {rest : Bytes} (other : first ≠ h2Header0) :
    candidate (first :: rest) = false := by
  have apart : (first == h2Header0) = false := by simpa using other
  match rest with
  | [] => exact apart
  | [second] => simp [candidate, apart]
  | second :: third :: more => simp [candidate, apart]

/-- The search passes over bytes that cannot start a frame. -/
theorem scan_skip {skipped data : Bytes} (silent : h2Header0 ∉ skipped) (left : Nat) (room : skipped.length < left)
    (found : candidate data = true) : scan left (skipped ++ data) = some data := by
  induction skipped generalizing left with
  | nil =>
    obtain ⟨left, rfl⟩ := Nat.exists_eq_add_of_lt room
    cases data with
    | nil => cases found
    | cons first rest => simp [scan, found]
  | cons first rest ih =>
    rw [List.mem_cons, not_or] at silent
    cases left with
    | zero => cases room
    | succ left =>
      rw [List.cons_append, scan, candidate_head (Ne.symm silent.1)]
      exact ih silent.2 left (Nat.lt_of_succ_lt_succ room)

/-- One call with enough bytes, before or at a frame. -/
theorem decode_frame (valid : ∀ frame ∈ frames, IsFrame frame) (clean : d.readCorrupted = false)
    {skipped data : Bytes} (silent : h2Header0 ∉ skipped) (short : skipped.length < pktLen)
    (buffered : d.buf = skipped ++ data) (start : data <+: frames.flatten) (enough : ¬ d.buf.length < pktLen) :
    d.decode = if data.length < pktLen then ({ d with buf := data }, none)
      else ({ d with buf := data.drop pktLen }, some (.frame (data.take pktLen))) := by
  have some_ : data ≠ [] := by
    intro none_
    rw [buffered, none_, List.append_nil] at enough
    exact enough short
  have scanned : scan pktLen d.buf = some data := by
    rw [buffered]
    exact scan_skip silent pktLen short (candidate_of_start valid some_ start)
  unfold decode findMsbcPktHead
  rw [if_neg enough, clean, scanned]
  by_cases brief : data.length < pktLen
  · simp [brief]
  · simp [brief, markPktDecoded]

theorem decodeAll_none {after : Decoder} (ran : d.decode = (after, none)) : d.decodeAll = (after, []) := by
  rw [decodeAll]
  split
  next same =>
    rw [ran] at same
    cases same
    rfl
  next same =>
    rw [ran] at same
    cases same

theorem decodeAll_some {after : Decoder} {decoded : Decoded} (ran : d.decode = (after, some decoded)) :
    d.decodeAll = (after.decodeAll.1, decoded :: after.decodeAll.2) := by
  rw [decodeAll]
  split
  next same =>
    rw [ran] at same
    cases same
  next same =>
    rw [ran] at same
    cases same
    rfl

/-- The frames that are complete in the first bytes of a stream. -/
def complete (frames : List Bytes) (bytes : Nat) : List Bytes := frames.take (bytes / pktLen)

/-- From a frame on, the decoder returns the complete frames and keeps the rest. -/
theorem decodeAll_aligned (valid : ∀ frame ∈ frames, IsFrame frame) (clean : d.readCorrupted = false)
    (start : d.buf <+: frames.flatten) :
    d.decodeAll = ({ d with buf := d.buf.drop (pktLen * (d.buf.length / pktLen)) },
      (complete frames d.buf.length).map .frame) := by
  induction frames generalizing d with
  | nil =>
    rw [List.flatten_nil, List.prefix_nil] at start
    have idle : d.decode = (d, none) := by simp [decode, start]
    rw [decodeAll_none idle, start, List.drop_nil, ← start]
    simp [complete]
  | cons frame rest ih =>
    by_cases short : d.buf.length < pktLen
    · have idle : d.decode = (d, none) := by simp only [decode, if_pos short]
      rw [decodeAll_none idle, complete, Nat.div_eq_of_lt short]
      rfl
    · have size := (valid frame List.mem_cons_self).length
      -- The buffer is the first frame and the bytes after it.
      obtain ⟨data, buffered⟩ : frame <+: d.buf := by
        rw [List.flatten_cons] at start
        exact List.prefix_of_prefix_length_le (List.prefix_append _ _) start (by omega)
      have later : data <+: rest.flatten := by
        rw [← buffered, List.flatten_cons] at start
        exact (List.prefix_append_right_inj frame).mp start
      have ran := @decode_frame d _ valid clean [] d.buf List.not_mem_nil (by decide) rfl start short
      rw [if_neg short, ← buffered, List.take_left' size, List.drop_left' size] at ran
      have total : d.buf.length = data.length + pktLen := by
        rw [← buffered, List.length_append, size, Nat.add_comm]
      have more : d.buf.length / pktLen = data.length / pktLen + 1 := by
        rw [total, Nat.add_div_right _ (by decide)]
      have next := @ih { d with buf := data } (fun other member => valid other (List.mem_cons_of_mem _ member)) clean later
      rw [decodeAll_some ran, next]
      rw [complete, complete, more, List.take_succ_cons, List.map_cons, Nat.mul_add, Nat.mul_one, Nat.add_comm,
        ← List.drop_drop, ← buffered, List.drop_left' size]

/-- Before the first frame is complete nothing is returned; then its frames are. -/
theorem decodeAll_stream (valid : ∀ frame ∈ frames, IsFrame frame) (clean : d.readCorrupted = false)
    {skipped data : Bytes} (silent : h2Header0 ∉ skipped) (short : skipped.length < pktLen)
    (buffered : d.buf = skipped ++ data) (start : data <+: frames.flatten) :
    d.decodeAll = if d.buf.length < pktLen then (d, [])
      else ({ d with buf := data.drop (pktLen * (data.length / pktLen)) }, (complete frames data.length).map .frame) := by
  by_cases few : d.buf.length < pktLen
  · have idle : d.decode = (d, none) := by simp only [decode, if_pos few]
    rw [if_pos few, decodeAll_none idle]
  · rw [if_neg few]
    have ran := decode_frame valid clean silent short buffered start few
    by_cases brief : data.length < pktLen
    · rw [if_pos brief] at ran
      rw [decodeAll_none ran, complete, Nat.div_eq_of_lt brief]
      rfl
    · rw [if_neg brief] at ran
      -- From here on the buffer is the one a decoder at the frame would have.
      have aligned := @decodeAll_aligned { d with buf := data } frames valid clean start
      have same := @decode_frame { d with buf := data } frames valid clean [] data List.not_mem_nil (by decide) rfl start
        brief
      rw [if_neg brief] at same
      rw [decodeAll_some same] at aligned
      rw [decodeAll_some ran]
      exact aligned

theorem flatten_drop (valid : ∀ frame ∈ frames, IsFrame frame) (count : Nat) :
    frames.flatten.drop (pktLen * count) = (frames.drop count).flatten := by
  induction count generalizing frames with
  | zero => rfl
  | succ count ih =>
    cases frames with
    | nil => simp
    | cons frame rest =>
      have size := (valid frame List.mem_cons_self).length
      rw [Nat.mul_succ, Nat.add_comm, ← List.drop_drop, List.flatten_cons, List.drop_left' size, List.drop_succ_cons]
      exact ih fun other member => valid other (List.mem_cons_of_mem _ member)

theorem complete_drop (frames : List Bytes) (first later : Nat) :
    complete frames first ++ complete (frames.drop (first / pktLen)) (first % pktLen + later) =
      complete frames (first + later) := by
  have count : (first + later) / pktLen = first / pktLen + (first % pktLen + later) / pktLen := by
    dsimp only [pktLen]
    omega
  rw [complete, complete, complete, count, List.take_add]

/-- Feeding packets of one size, with bytes of the stream left over from before. -/
theorem feed_stream {packets : List Bytes} {size : Nat} (sizes : ∀ packet ∈ packets, packet.length = size)
    (valid : ∀ frame ∈ frames, IsFrame frame) (clean : d.readCorrupted = false) (room : pktLen + size ≤ d.bufSize + 1)
    (few : d.buf.length < pktLen) {skipped : Bytes} (silent : h2Header0 ∉ skipped) (short : skipped.length < pktLen)
    (start : d.buf ++ packets.flatten <+: skipped ++ frames.flatten) (outcome : Outcome) :
    (d.feed outcome packets).2 =
      { outcome with
        decoded := outcome.decoded ++
          (complete frames (d.buf.length + packets.flatten.length - skipped.length)).map .frame } := by
  induction packets generalizing d frames skipped outcome with
  | nil =>
    have none_ : (d.buf.length + ([] : List Bytes).flatten.length - skipped.length) / pktLen = 0 := by
      apply Nat.div_eq_of_lt
      simp only [List.flatten_nil, List.length_nil, Nat.add_zero]
      omega
    rw [complete, none_]
    simp [feed]
  | cons packet rest ih =>
    have length := sizes packet List.mem_cons_self
    have later : ∀ other ∈ rest, other.length = size := fun other member => sizes other (List.mem_cons_of_mem _ member)
    have fits : ¬ packet.length > d.bufSize - d.buf.length := by
      dsimp only [pktLen] at room few
      omega
    have taken : d.enqueuePacket packet false = ({ d with buf := d.buf ++ packet, readCorrupted := false }, true) := by
      simp only [enqueuePacket, clean, Bool.or_false, if_neg fits]
    rw [List.flatten_cons, ← List.append_assoc] at start
    rw [List.flatten_cons, List.length_append, feed, taken]
    dsimp only
    rw [if_pos rfl, Nat.add_zero]
    have total : (d.buf ++ packet).length = d.buf.length + packet.length := List.length_append
    generalize d.buf ++ packet = buf at start total
    rw [← Nat.add_assoc, ← total]
    by_cases quiet : buf.length < pktLen
    · have idle : ({ d with buf, readCorrupted := false } : Decoder).decodeAll =
          ({ d with buf, readCorrupted := false }, []) :=
        decodeAll_none (by simp only [decode, if_pos quiet])
      rw [idle]
      have next := @ih { d with buf, readCorrupted := false } frames later valid rfl room quiet skipped silent short start
        { outcome with decoded := outcome.decoded ++ [] }
      rw [List.append_nil] at next ⊢
      exact next
    · -- The bytes before the first frame are all in the buffer.
      obtain ⟨data, rfl⟩ : skipped <+: buf :=
        List.prefix_of_prefix_length_le (List.prefix_append _ _) ((List.prefix_append _ _).trans start) (by omega)
      rw [List.append_assoc] at start
      have stream := (List.prefix_append_right_inj skipped).mp start
      have decoded := @decodeAll_stream { d with buf := skipped ++ data, readCorrupted := false } frames valid rfl skipped
        data silent short rfl ((List.prefix_append _ _).trans stream)
      rw [if_neg quiet] at decoded
      rw [decoded]
      have rests := stream.drop (pktLen * (data.length / pktLen))
      rw [flatten_drop valid, List.drop_append_of_le_length (Nat.mul_div_le _ _)] at rests
      have left : (data.drop (pktLen * (data.length / pktLen))).length = data.length % pktLen := by
        rw [List.length_drop]
        dsimp only [pktLen]
        omega
      have next := @ih { d with buf := data.drop (pktLen * (data.length / pktLen)), readCorrupted := false }
        (frames.drop (data.length / pktLen)) later (fun frame member => valid frame (List.mem_of_mem_drop member)) rfl room
        (by rw [left]; exact Nat.mod_lt _ (by decide)) [] List.not_mem_nil (by decide) rests
        { outcome with decoded := outcome.decoded ++ (complete frames data.length).map .frame }
      dsimp only at next ⊢
      have count : (skipped ++ data).length + rest.flatten.length - skipped.length = data.length + rest.flatten.length := by
        rw [List.length_append]
        omega
      rw [next, left, count, ← complete_drop, List.map_append, List.append_assoc, List.length_nil, Nat.sub_zero]

/-- Whatever comes before the first frame and however packets cut the stream, no packet
is refused, nothing is lost, and the frames complete so far are returned in order. -/
theorem frames_found_at_every_alignment {size : Nat} (known : size = 24 ∨ size = 60 ∨ size = 72) {lead : Bytes}
    (short : lead.length < pktLen) (silent : h2Header0 ∉ lead) (valid : ∀ frame ∈ frames, IsFrame frame)
    {packets : List Bytes} (sizes : ∀ packet ∈ packets, packet.length = size)
    (start : packets.flatten <+: lead ++ frames.flatten) : ∃ d, Decoder.init size = some d ∧
      (d.feed {} packets).2 =
        { refused := 0
          decoded := (frames.take ((packets.flatten.length - lead.length) / pktLen)).map .frame } := by
  obtain ⟨d, made, empty, clean, room⟩ : ∃ d, Decoder.init size = some d ∧ d.buf = [] ∧ d.readCorrupted = false ∧
      pktLen + size ≤ d.bufSize + 1 := by
    rcases known with rfl | rfl | rfl
    · exact ⟨⟨120, [], false⟩, rfl, rfl, rfl, by decide⟩
    · exact ⟨⟨120, [], false⟩, rfl, rfl, rfl, by decide⟩
    · exact ⟨⟨360, [], false⟩, rfl, rfl, rfl, by decide⟩
  refine ⟨d, made, ?_⟩
  have few : d.buf.length < pktLen := by
    rw [empty]
    decide
  have fed := feed_stream sizes valid clean room few silent short (by rw [empty]; exact start) {}
  rw [fed, empty]
  simp [complete]

def silentFrame : Bytes := [0x01, 0x08, 0xad] ++ List.replicate 57 0x55

theorem frame_after_one_byte : ∃ d, Decoder.init 60 = some d ∧
    (d.feed {} [0x55 :: silentFrame.take 59, silentFrame.drop 59 ++ silentFrame.take 59]).2 =
      { refused := 0, decoded := [.frame silentFrame] } := by
  have valid : IsFrame silentFrame := ⟨rfl, 0x08, _, rfl, rfl⟩
  have found := @frames_found_at_every_alignment [silentFrame, silentFrame] 60 (.inr (.inl rfl)) [0x55] (by decide)
    (by decide) (by simpa using valid) [0x55 :: silentFrame.take 59, silentFrame.drop 59 ++ silentFrame.take 59]
    (by decide) (by decide)
  exact found

end FlossDesktop.Msbc
