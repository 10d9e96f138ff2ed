import FlossDesktop.Proofs.ScoFraming

/-! SCO reassembly after the loss of fragments. Between two fragments the buffer is empty or
holds some fragments behind the first one of a packet. Any fragment fills it up, and once
it is empty only the first fragment of a packet is taken. -/

namespace FlossDesktop.Proofs.ScoLoss
open Framer Framing ScoFraming

/-- A packet as the fragments it is cut into, each with whether it arrives. -/
abbrev Frame := List (Bytes × Bool)

def survivors (frame : Frame) : List Bytes := (frame.filter (·.2)).map (·.1)

def whole (frame : Frame) : Bytes := (frame.map (·.1)).flatten

/-- The packet as it is handed to the host, behind its kind. -/
def delivery (frame : Frame) : Bytes := 3 :: whole frame

def complete (frame : Frame) : Bool := frame.all (·.2)

/-- A packet of the link in equal fragments. No fragment but the first looks like its start. -/
structure Cut (id size count length : Nat) (frame : Frame) : Prop where
  counted : frame.length = count
  sizes : ∀ fragment ∈ frame, fragment.1.length = size
  handle : FlossDesktop.handle (whole frame) = id
  length : (byte (whole frame) 2).toNat = length
  continuation : ∀ fragment ∈ frame.tail, FlossDesktop.handle fragment.1 ≠ id

variable {id size count length : Nat}

/-- The buffer holds some fragments of a packet that is not complete. -/
structure Holding (id size count length : Nat) (held : Nat) (buffer : Bytes) : Prop where
  some : 0 < held
  open_ : held < count
  sized : buffer.length = held * size
  handle : FlossDesktop.handle buffer = id
  length : (byte buffer 2).toNat = length

theorem Holding.long {held : Nat} {buffer : Bytes} (holding : Holding id size count length held buffer) (long : 3 ≤ size) :
    3 ≤ buffer.length := by
  have fits : 1 * size ≤ held * size := Nat.mul_le_mul_right size holding.some
  have sized := holding.sized
  omega

/-- More bytes behind the header leave it as it is. -/
theorem Holding.audio {held : Nat} {buffer : Bytes} (holding : Holding id size count length held buffer) (long : 3 ≤ size)
    (more : Bytes) (filled : (buffer ++ more).length = 3 + length) : IsSco id (buffer ++ more) := by
  have there := holding.long long
  refine ⟨?_, ?_⟩
  · rw [handle_append more (by omega)]
    exact holding.handle
  · rw [byte_append (by omega : 2 < buffer.length), holding.length]
    exact filled

theorem Holding.extend {held : Nat} {buffer : Bytes} (holding : Holding id size count length held buffer) (long : 3 ≤ size)
    {more : Bytes} {fragments : Nat} (sized : more.length = fragments * size) (below : held + fragments < count) :
    Holding id size count length (held + fragments) (buffer ++ more) := by
  have there := holding.long long
  refine ⟨Nat.add_pos_left holding.some _, below, ?_, ?_, ?_⟩
  · rw [List.length_append, holding.sized, sized, Nat.add_mul]
  · rw [handle_append more (by omega)]
    exact holding.handle
  · rw [byte_append (by omega : 2 < buffer.length)]
    exact holding.length

/-- A fragment that leaves the packet open is buffered, whatever it is. -/
theorem push_open {held : Nat} {buffer : Bytes} (holding : Holding id size count length held buffer) (long : 3 ≤ size)
    (cut : count * size = 3 + length) {fragment : Bytes} (sized : fragment.length = size) (below : held + 1 < count) :
    Framer.push ⟨buffer⟩ 3 (some id) fragment = (⟨buffer ++ fragment⟩, .ok []) := by
  -- Any bytes may stand for the rest of the packet.
  let rest : Bytes := List.replicate ((count - (held + 1)) * size) 0
  have missing : (held + 1) * size + (count - (held + 1)) * size = 3 + length := by
    rw [← Nat.add_mul, Nat.add_sub_cancel' below.le, cut]
  have remaining : 0 < (count - (held + 1)) * size := Nat.mul_pos (by omega) (by omega)
  apply push_audio_inside buffer fragment rest
  · rw [List.append_assoc]
    apply holding.audio long
    rw [List.length_append, List.length_append, holding.sized, sized, List.length_replicate, ← missing, Nat.add_mul]
    omega
  · intro none
    have zero := congrArg List.length none
    rw [List.length_replicate, List.length_nil] at zero
    omega

/-- The first fragment is buffered, unless it is the only one. -/
theorem push_first {bytes : Bytes} (holding : Holding id size count length 1 bytes) (long : 3 ≤ size)
    (cut : count * size = 3 + length) : Framer.push ⟨[]⟩ 3 (some id) bytes = (⟨bytes⟩, .ok []) := by
  let rest : Bytes := List.replicate ((count - 1) * size) 0
  have below := holding.open_
  have remaining : 0 < (count - 1) * size := Nat.mul_pos (by omega) (by omega)
  have all : 1 * size + (count - 1) * size = 3 + length := by
    rw [← Nat.add_mul, Nat.add_sub_cancel' below.le, cut]
  apply push_audio_inside [] bytes rest
  · apply holding.audio long
    rw [List.length_append, holding.sized, List.length_replicate, all]
  · intro none
    have zero := congrArg List.length none
    rw [List.length_replicate, List.length_nil] at zero
    omega

/-- The last fragment that fits completes the packet. -/
theorem push_last {held : Nat} {buffer : Bytes} (holding : Holding id size count length held buffer) (long : 3 ≤ size)
    (cut : count * size = 3 + length) {fragment : Bytes} (sized : fragment.length = size) (last : held + 1 = count) :
    Framer.push ⟨buffer⟩ 3 (some id) fragment = (⟨[]⟩, .ok [3 :: (buffer ++ fragment)]) := by
  apply push_audio_rest
  · apply holding.audio long
    rw [List.length_append, holding.sized, sized, ← cut, ← last, Nat.add_mul]
    omega
  · intro none
    rw [none, List.length_nil] at sized
    omega

/-- Without a header, continuations are dropped. -/
theorem drop_foreign (fragments : List Bytes) (long : ∀ fragment ∈ fragments, 3 ≤ fragment.length)
    (foreign : ∀ fragment ∈ fragments, handle fragment ≠ id) : audioAll id ⟨[]⟩ fragments = (⟨[]⟩, .ok []) := by
  induction fragments with
  | nil => rfl
  | cons fragment rest ih =>
    have here := push_foreign fragment (long fragment List.mem_cons_self) (foreign fragment List.mem_cons_self)
    have later := ih (fun other member => long other (List.mem_cons_of_mem fragment member))
      (fun other member => foreign other (List.mem_cons_of_mem fragment member))
    exact Feed.feed_cons_ok.mpr ⟨_, [], [], here, later, rfl⟩

/-- Fragments fill an open packet up. What comes after it is complete is dropped. -/
theorem collect (long : 3 ≤ size) (cut : count * size = 3 + length) (fragments : List Bytes)
    (sizes : ∀ fragment ∈ fragments, fragment.length = size) (foreign : ∀ fragment ∈ fragments.tail, handle fragment ≠ id)
    {held : Nat} {buffer : Bytes} (holding : Holding id size count length held buffer) :
    audioAll id ⟨buffer⟩ fragments =
      if fragments.length < count - held then (⟨buffer ++ fragments.flatten⟩, .ok [])
      else (⟨[]⟩, .ok [3 :: (buffer ++ (fragments.take (count - held)).flatten)]) := by
  induction fragments generalizing held buffer with
  | nil =>
    have below := holding.open_
    rw [if_pos (by rw [List.length_nil]; omega), List.flatten_nil, List.append_nil]
    rfl
  | cons fragment rest ih =>
    have sized := sizes fragment List.mem_cons_self
    have others : ∀ other ∈ rest, other.length = size := fun other member => sizes other (List.mem_cons_of_mem fragment member)
    have below := holding.open_
    by_cases last : held + 1 = count
    · have here := push_last holding long cut sized last
      have later := drop_foreign rest (fun other member => (others other member).symm ▸ long) foreign
      have one : count - held = 1 := by omega
      rw [one, if_neg (by rw [List.length_cons]; omega)]
      refine Feed.feed_cons_ok.mpr ⟨_, _, [], here, later, ?_⟩
      simp
    · have open_ : held + 1 < count := by omega
      have here := push_open holding long cut sized open_
      have extended := holding.extend long (by rw [sized, Nat.one_mul]) open_
      have later := ih others (fun other member => foreign other (List.mem_of_mem_tail member)) extended
      have rest_ : count - held = count - (held + 1) + 1 := by omega
      rw [rest_, List.length_cons, List.take_succ_cons, List.flatten_cons, List.flatten_cons]
      split at later
      next short =>
        rw [if_pos (by omega)]
        refine Feed.feed_cons_ok.mpr ⟨_, [], [], here, ?_, rfl⟩
        rw [← List.append_assoc]
        exact later
      next full =>
        rw [if_neg (by omega)]
        refine Feed.feed_cons_ok.mpr ⟨_, [], _, here, later, ?_⟩
        rw [List.nil_append, List.append_assoc]

theorem mem_survivors {frame : Frame} {bytes : Bytes} (member : bytes ∈ survivors frame) :
    ∃ fragment ∈ frame, fragment.1 = bytes := by
  obtain ⟨fragment, inside, same⟩ := List.mem_map.mp member
  exact ⟨fragment, List.mem_of_mem_filter inside, same⟩

theorem survivors_tail {first : Bytes × Bool} {rest : Frame} {bytes : Bytes}
    (member : bytes ∈ (survivors (first :: rest)).tail) : ∃ fragment ∈ rest, fragment.1 = bytes := by
  unfold survivors at member
  rw [List.filter_cons] at member
  split at member
  · exact mem_survivors member
  · exact mem_survivors (List.mem_of_mem_tail member)

theorem complete_iff (frame : Frame) : complete frame = true ↔ (survivors frame).length = frame.length := by
  unfold complete survivors
  rw [List.length_map, List.length_filter_eq_length_iff, List.all_eq_true]

theorem survivors_complete {frame : Frame} (done : complete frame = true) : survivors frame = frame.map (·.1) := by
  unfold survivors
  rw [List.filter_eq_self.mpr (List.all_eq_true.mp done)]

theorem survivors_length (frame : Frame) : (survivors frame).length ≤ frame.length := by
  unfold survivors
  rw [List.length_map]
  exact List.length_filter_le _ frame

/-- The state of the buffer between two fragments. -/
def Between (id size count length : Nat) (buffer : Bytes) : Prop :=
  buffer = [] ∨ ∃ held, Holding id size count length held buffer

/-- One for a packet that is open. -/
def opened (buffer : Bytes) : Nat := if buffer = [] then 0 else 1

theorem Holding.opened {held : Nat} {buffer : Bytes} (holding : Holding id size count length held buffer) (long : 3 ≤ size) :
    opened buffer = 1 := by
  apply if_neg
  intro none
  have there := holding.long long
  rw [none, List.length_nil] at there
  omega

/-- What the surviving fragments of one packet do: the packet is delivered, or every packet
that is delivered was open before, or is lost. -/
structure Effect (id size count length : Nat) (frame : Frame) (buffer after : Bytes) (out : List Bytes) : Prop where
  between : Between id size count length after
  ours : ∀ packet ∈ out, handle (packet.drop 1) = id
  settled : complete frame = true → after = []
  delivered : complete frame = true → buffer = [] → out = [3 :: whole frame]
  balance : out = [3 :: whole frame] ∧ after = [] ∨
    out.length + opened after ≤ opened buffer + if complete frame then 0 else 1

/-- The first fragment carries the header. -/
theorem Cut.first {bytes : Bytes} {arrives : Bool} {rest : Frame} (cut : Cut id size count length ((bytes, arrives) :: rest))
    (long : 3 ≤ size) : FlossDesktop.handle bytes = id ∧ (byte bytes 2).toNat = length := by
  have sized : bytes.length = size := cut.sizes _ List.mem_cons_self
  have split : whole ((bytes, arrives) :: rest) = bytes ++ whole rest := rfl
  have handled := cut.handle
  have counted := cut.length
  rw [split, handle_append _ (by omega)] at handled
  rw [split, byte_append (by omega : 2 < bytes.length)] at counted
  exact ⟨handled, counted⟩

theorem Cut.survivor_sizes {frame : Frame} (cut : Cut id size count length frame) :
    ∀ bytes ∈ survivors frame, bytes.length = size := by
  intro bytes member
  obtain ⟨fragment, inside, rfl⟩ := mem_survivors member
  exact cut.sizes fragment inside

/-- After the first fragment come continuations of full size. -/
theorem Cut.rest {first : Bytes × Bool} {rest : Frame} (cut : Cut id size count length (first :: rest)) :
    ∀ bytes ∈ survivors rest, bytes.length = size ∧ FlossDesktop.handle bytes ≠ id := by
  intro bytes member
  obtain ⟨fragment, inside, rfl⟩ := mem_survivors member
  exact ⟨cut.sizes fragment (List.mem_cons_of_mem first inside), cut.continuation fragment inside⟩

theorem flatten_sized {fragments : List Bytes} (sizes : ∀ fragment ∈ fragments, fragment.length = size) :
    fragments.flatten.length = fragments.length * size := by
  rw [List.length_flatten, List.map_congr_left sizes]
  simp

/-- A packet that comes while another one is open. -/
theorem effect_open {held : Nat} {buffer : Bytes} {frame : Frame} (valid : Cut id size count length frame) (long : 3 ≤ size)
    (cut : count * size = 3 + length) (holding : Holding id size count length held buffer) :
    ∃ after out, audioAll id ⟨buffer⟩ (survivors frame) = (⟨after⟩, .ok out) ∧
      Effect id size count length frame buffer after out := by
  have foreign : ∀ bytes ∈ (survivors frame).tail, handle bytes ≠ id := by
    intro bytes member
    cases frame with
    | nil => cases member
    | cons first rest =>
      obtain ⟨fragment, inside, rfl⟩ := survivors_tail member
      exact valid.continuation fragment inside
  have collected := collect long cut (survivors frame) valid.survivor_sizes foreign holding
  have one := holding.opened long
  have some_ := holding.some
  have below := holding.open_
  split at collected
  next short =>
    have extended := holding.extend long (flatten_sized valid.survivor_sizes) (by omega)
    have incomplete : complete frame = false := by
      by_contra done
      have all := (complete_iff frame).mp (by simpa using done)
      rw [all, valid.counted] at short
      omega
    refine ⟨_, [], collected, .inr ⟨_, extended⟩, nofun, ?_, ?_, .inr ?_⟩
    · exact fun done => absurd (incomplete.symm.trans done) nofun
    · exact fun done => absurd (incomplete.symm.trans done) nofun
    · rw [extended.opened long, one, List.length_nil]
      omega
  next full =>
    refine ⟨[], _, collected, .inl rfl, ?_, fun _ => rfl, ?_, .inr ?_⟩
    · intro packet member
      have there := holding.long long
      rw [List.mem_singleton.mp member, List.drop_one, List.tail_cons, handle_append _ (by omega)]
      exact holding.handle
    · intro _ none
      rw [none] at one
      cases one
    · rw [one, List.length_singleton]
      exact Nat.le_add_right 1 _

/-- A packet whose header is lost is lost. -/
theorem effect_lost {bytes : Bytes} {rest : Frame} (valid : Cut id size count length ((bytes, false) :: rest))
    (long : 3 ≤ size) :
    ∃ after out, audioAll id ⟨[]⟩ (survivors ((bytes, false) :: rest)) = (⟨after⟩, .ok out) ∧
      Effect id size count length ((bytes, false) :: rest) [] after out := by
  have dropped : audioAll id ⟨[]⟩ (survivors rest) = (⟨[]⟩, .ok []) := by
    apply drop_foreign
    · intro other member
      rw [(valid.rest other member).1]
      exact long
    · exact fun other member => (valid.rest other member).2
  exact ⟨[], [], dropped, .inl rfl, nofun, fun _ => rfl, nofun, .inr (Nat.zero_le _)⟩

/-- A packet of one fragment is delivered at once. -/
theorem effect_single {bytes : Bytes} (valid : Cut id size 1 length [(bytes, true)]) (long : 3 ≤ size)
    (cut : 1 * size = 3 + length) :
    ∃ after out, audioAll id ⟨[]⟩ (survivors [(bytes, true)]) = (⟨after⟩, .ok out) ∧
      Effect id size 1 length [(bytes, true)] [] after out := by
  obtain ⟨handled, counted⟩ := valid.first long
  have sized : bytes.length = size := valid.sizes _ List.mem_cons_self
  have audio : IsSco id ([] ++ bytes) := by
    refine ⟨handled, ?_⟩
    rw [List.nil_append, sized, counted, ← cut, Nat.one_mul]
  have here := push_audio_rest [] bytes audio audio.nonempty
  have pushed : audioAll id ⟨[]⟩ (survivors [(bytes, true)]) = (⟨[]⟩, .ok [3 :: bytes]) :=
    Feed.feed_cons_ok.mpr ⟨_, _, [], here, rfl, rfl⟩
  have all : whole [(bytes, true)] = bytes := List.append_nil bytes
  refine ⟨[], _, pushed, .inl rfl, ?_, fun _ => rfl, fun _ _ => by rw [all], .inl ⟨by rw [all], rfl⟩⟩
  intro packet member
  rw [List.mem_singleton.mp member]
  exact handled

/-- A packet of several fragments stays open until the last of them has come. -/
theorem effect_begun {bytes : Bytes} {rest : Frame} (valid : Cut id size count length ((bytes, true) :: rest))
    (long : 3 ≤ size) (cut : count * size = 3 + length) (several : 1 < count) :
    ∃ after out, audioAll id ⟨[]⟩ (survivors ((bytes, true) :: rest)) = (⟨after⟩, .ok out) ∧
      Effect id size count length ((bytes, true) :: rest) [] after out := by
  obtain ⟨handled, counted⟩ := valid.first long
  have sized : bytes.length = size := valid.sizes _ List.mem_cons_self
  have lengths : rest.length + 1 = count := valid.counted
  have sizes : ∀ other ∈ survivors rest, other.length = size := fun other member => (valid.rest other member).1
  have holding : Holding id size count length 1 bytes :=
    ⟨Nat.one_pos, several, by rw [sized, Nat.one_mul], handled, counted⟩
  have here := push_first holding long cut
  have collected := collect long cut (survivors rest) sizes
    (fun other member => (valid.rest other (List.mem_of_mem_tail member)).2) holding
  split at collected
  next short =>
    have extended := holding.extend long (flatten_sized sizes) (by omega)
    have incomplete : complete ((bytes, true) :: rest) = false := by
      by_contra done
      have all := (complete_iff _).mp (by simpa using done)
      have first : survivors ((bytes, true) :: rest) = bytes :: survivors rest := rfl
      rw [first, List.length_cons, List.length_cons] at all
      omega
    refine ⟨_, [], Feed.feed_cons_ok.mpr ⟨_, [], [], here, collected, rfl⟩, .inr ⟨_, extended⟩, nofun, ?_, ?_, .inr ?_⟩
    · exact fun done => absurd (incomplete.symm.trans done) nofun
    · exact fun done => absurd (incomplete.symm.trans done) nofun
    · rw [extended.opened long, incomplete]
      exact le_of_eq rfl
  next full =>
    have bounded := survivors_length rest
    have done : complete rest = true := (complete_iff rest).mpr (by omega)
    have all : bytes ++ ((survivors rest).take (count - 1)).flatten = whole ((bytes, true) :: rest) := by
      rw [survivors_complete done, List.take_of_length_le (by rw [List.length_map]; omega)]
      rfl
    rw [all] at collected
    refine ⟨[], _, Feed.feed_cons_ok.mpr ⟨_, [], _, here, collected, rfl⟩, .inl rfl, ?_, fun _ => rfl, fun _ _ => rfl,
      .inl ⟨rfl, rfl⟩⟩
    intro packet member
    rw [List.nil_append] at member
    rw [List.mem_singleton.mp member]
    exact valid.handle

/-- A packet that comes while none is open. -/
theorem effect_empty {frame : Frame} (valid : Cut id size count length frame) (long : 3 ≤ size)
    (cut : count * size = 3 + length) :
    ∃ after out, audioAll id ⟨[]⟩ (survivors frame) = (⟨after⟩, .ok out) ∧
      Effect id size count length frame [] after out := by
  match frame with
  | [] =>
    have none : 0 = count := valid.counted
    rw [← none, Nat.zero_mul] at cut
    omega
  | (bytes, false) :: rest => exact effect_lost valid long
  | (bytes, true) :: rest =>
    have lengths : rest.length + 1 = count := valid.counted
    by_cases single : count = 1
    · have none : rest = [] := List.length_eq_zero_iff.mp (by omega)
      subst none single
      exact effect_single valid long cut
    · exact effect_begun valid long cut (by omega)

theorem frame_effect {frame : Frame} {buffer : Bytes} (valid : Cut id size count length frame) (long : 3 ≤ size)
    (cut : count * size = 3 + length) (between : Between id size count length buffer) :
    ∃ after out, audioAll id ⟨buffer⟩ (survivors frame) = (⟨after⟩, .ok out) ∧
      Effect id size count length frame buffer after out := by
  rcases between with rfl | ⟨held, holding⟩
  · exact effect_empty valid long cut
  · exact effect_open valid long cut holding

/-- What the surviving fragments of several packets do. -/
structure Run (id size count length : Nat) (frames : List Frame) (buffer after : Bytes) (out : List Bytes) : Prop where
  between : Between id size count length after
  ours : ∀ packet ∈ out, handle (packet.drop 1) = id
  settled : (∀ last ∈ frames.getLast?, complete last = true) → frames ≠ [] → after = []
  balance : ∀ originals : List Bytes, (∀ frame ∈ frames, 3 :: whole frame ∈ originals) →
    out.countP (· ∉ originals) + opened after ≤ opened buffer + frames.countP (! complete ·)

theorem frames_run (long : 3 ≤ size) (cut : count * size = 3 + length) (frames : List Frame)
    (valid : ∀ frame ∈ frames, Cut id size count length frame) {buffer : Bytes} (between : Between id size count length buffer) :
    ∃ after out, audioAll id ⟨buffer⟩ (frames.flatMap survivors) = (⟨after⟩, .ok out) ∧
      Run id size count length frames buffer after out := by
  induction frames generalizing buffer with
  | nil => exact ⟨buffer, [], rfl, between, nofun, fun _ none => absurd rfl none, fun _ _ => le_of_eq (Nat.zero_add _)⟩
  | cons frame rest ih =>
    obtain ⟨middle, first, here, effect⟩ := frame_effect (valid frame List.mem_cons_self) long cut between
    obtain ⟨after, later, more, run⟩ :=
      ih (fun other member => valid other (List.mem_cons_of_mem frame member)) effect.between
    refine ⟨after, first ++ later, ?_, run.between, ?_, ?_, ?_⟩
    · rw [List.flatMap_cons]
      exact Feed.feed_append_ok.mpr ⟨_, first, later, here, more, rfl⟩
    · intro packet member
      rcases List.mem_append.mp member with inside | inside
      · exact effect.ours packet inside
      · exact run.ours packet inside
    · intro last _
      cases rest with
      | nil =>
        cases more
        exact effect.settled (last frame rfl)
      | cons next others => exact run.settled last (List.cons_ne_nil next others)
    · intro originals known
      have later_ := run.balance originals fun other member => known other (List.mem_cons_of_mem frame member)
      rw [List.countP_append, List.countP_cons]
      have lost : (if (! complete frame) = true then 1 else 0) = if complete frame = true then 0 else 1 := by
        cases complete frame <;> rfl
      rw [lost]
      rcases effect.balance with ⟨delivered, settled⟩ | bounded
      · have original : first.countP (· ∉ originals) = 0 := by
          rw [delivered]
          simpa using known frame List.mem_cons_self
        rw [settled] at later_
        have none : opened [] = 0 := rfl
        omega
      · have damaged : first.countP (· ∉ originals) ≤ first.length := List.countP_le_length
        omega

/-- Reassembly recovers from any loss. A packet that arrives whole after one that arrived
whole is delivered, exactly and alone. At most one damaged packet is delivered for each
that lost a fragment. No call fails, and the link stays. -/
theorem sco_recovers_from_loss (t : Transport) (id : Nat) (mode : UInt8) (linked : t.link = some (id, mode))
    (empty : t.sco.bytes = []) (size count length : Nat) (long : 3 ≤ size) (cut : count * size = 3 + length)
    (frames : List Frame) (valid : ∀ frame ∈ frames, Cut id size count length frame) :
    ∃ (after : Transport) (packets : List Bytes), usbAll t (frames.flatMap survivors) = (after, .ok (packets.map .host)) ∧
      after.link = t.link ∧
      packets.countP (· ∉ frames.map delivery) ≤ frames.countP (! complete ·) ∧
      ∀ front frame back, frames = front ++ frame :: back → complete frame = true →
        (∀ last ∈ front.getLast?, complete last = true) →
        ∃ middle next early later, usbAll t (front.flatMap survivors) = (middle, .ok early) ∧
          usbAll middle (survivors frame) = (next, .ok [.host (delivery frame)]) ∧
          usbAll next (back.flatMap survivors) = (after, .ok later) ∧
          packets.map Action.host = early ++ .host (delivery frame) :: later := by
  have fresh : t.sco = ⟨[]⟩ := congrArg Framer.mk empty
  obtain ⟨after, packets, pushed, run⟩ := frames_run long cut frames valid (.inl rfl : Between id size count length [])
  rw [← fresh] at pushed
  obtain ⟨received, delivered⟩ := usbAll_audio linked pushed run.ours
  refine ⟨_, packets, delivered, rfl, ?_, ?_⟩
  · have balance := run.balance (frames.map delivery) fun frame member => List.mem_map.mpr ⟨frame, member, rfl⟩
    have none : opened [] = 0 := rfl
    omega
  · rintro front frame back rfl done before
    have here : frame ∈ front ++ frame :: back := List.mem_append_right front List.mem_cons_self
    obtain ⟨held, early, first, start⟩ := frames_run long cut front
      (fun other member => valid other (List.mem_append_left _ member)) (.inl rfl : Between id size count length [])
    -- Nothing is open when the packet comes.
    have none : held = [] := by
      cases front with
      | nil =>
        cases first
        rfl
      | cons other others => exact start.settled before (List.cons_ne_nil other others)
    rw [none, ← fresh] at first
    obtain ⟨scoRxBytes, first⟩ := usbAll_audio linked first start.ours
    obtain ⟨left, out, second, effect⟩ := frame_effect (valid frame here) long cut (.inl rfl : Between id size count length [])
    rw [effect.settled done, effect.delivered done rfl] at second
    obtain ⟨more, second⟩ := usbAll_audio (t := { t with sco := ⟨[]⟩, scoRxBytes }) linked second fun packet member => by
      rw [List.mem_singleton.mp member]
      exact (valid frame here).handle
    rw [List.flatMap_append, List.flatMap_cons] at delivered
    obtain ⟨middle, one, others, again, rest, all⟩ := Feed.feed_append_ok.mp delivered
    have start_ : usbAll t (front.flatMap survivors) = (middle, .ok one) := again
    rw [first] at start_
    cases start_
    obtain ⟨next, two, later, whole_, last, split⟩ := Feed.feed_append_ok.mp rest
    rw [← fresh] at second
    have second_ : usbAll { t with scoRxBytes } (survivors frame) = (next, .ok two) := whole_
    rw [second] at second_
    cases second_
    exact ⟨_, _, _, later, first, second, last, by rw [all, split]; rfl⟩

/-- A packet of 24 bytes in three fragments, of which the given one may be missing. -/
def voiceFrame (missing : Option Nat) : Frame :=
  [42 :: 0 :: 24 :: List.replicate 6 0x55, List.replicate 9 0x55, List.replicate 9 0x55].zipIdx.map
    fun (fragment, part) => (fragment, some part != missing)

theorem voice_recovers :
    ∃ (after : Transport) (packets : List Bytes),
      usbAll { link := some (42, 3) } ([voiceFrame (some 1), voiceFrame none, voiceFrame none].flatMap survivors) =
        (after, .ok (packets.map .host)) ∧
      after.link = some (42, 3) ∧
      packets.countP (· ∉ [voiceFrame (some 1), voiceFrame none, voiceFrame none].map delivery) ≤ 1 ∧
      Action.host (delivery (voiceFrame none)) ∈ packets.map Action.host := by
  have valid : ∀ missing ∈ [some 1, none], Cut 42 9 3 24 (voiceFrame missing) := by
    intro missing member
    have sound : ∀ missing ∈ [some 1, none], (voiceFrame missing).length = 3 ∧
        (∀ fragment ∈ voiceFrame missing, fragment.1.length = 9) ∧ handle (whole (voiceFrame missing)) = 42 ∧
        (byte (whole (voiceFrame missing)) 2).toNat = 24 ∧
        ∀ fragment ∈ (voiceFrame missing).tail, handle fragment.1 ≠ 42 := by decide +kernel
    obtain ⟨counted, sizes, handled, length, continuation⟩ := sound missing member
    exact ⟨counted, sizes, handled, length, continuation⟩
  obtain ⟨after, packets, delivered, link, damaged, recovered⟩ :=
    sco_recovers_from_loss { link := some (42, 3) } 42 3 rfl rfl 9 3 24 (by decide) (by decide)
      [voiceFrame (some 1), voiceFrame none, voiceFrame none] fun frame member => by
        simp only [List.mem_cons, List.not_mem_nil, or_false] at member
        obtain rfl | rfl | rfl := member
        · exact valid (some 1) List.mem_cons_self
        · exact valid none (List.mem_cons_of_mem _ List.mem_cons_self)
        · exact valid none (List.mem_cons_of_mem _ List.mem_cons_self)
  refine ⟨after, packets, delivered, link, damaged, ?_⟩
  have clean : complete (voiceFrame none) = true := by decide
  obtain ⟨middle, next, early, later, -, -, -, all⟩ :=
    recovered [voiceFrame (some 1), voiceFrame none] (voiceFrame none) [] rfl clean fun last same => by
      cases same
      exact clean
  rw [all]
  exact List.mem_append_right early List.mem_cons_self

end FlossDesktop.Proofs.ScoLoss
