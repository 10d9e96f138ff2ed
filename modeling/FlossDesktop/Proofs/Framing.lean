import FlossDesktop.Proofs.TransportCases
import Mathlib.Data.List.GetD
import Mathlib.Tactic

/-! Reassembly of ACL and event packets does not depend on how USB divides the
byte stream. The receive loop compares lengths with equality, so the proofs carry
the fact that its buffer is always a proper prefix of one bounded frame. -/

namespace FlossDesktop.Proofs.Framing
open Framer

/-- A frame as the radio sends it: a complete header whose length field counts
exactly the bytes that follow, within the reassembly limit. -/
structure WellFormed (kind : UInt8) (frame : Bytes) : Prop where
  sized : ∃ header, headerSize kind = some header ∧ header ≤ frame.length ∧
    frame.length = header + payloadSize kind frame
  bounded : frame.length ≤ maxFrame

instance (kind : UInt8) (frame : Bytes) : Decidable (WellFormed kind frame) :=
  decidable_of_iff ((∃ header ∈ headerSize kind, header ≤ frame.length ∧
      frame.length = header + payloadSize kind frame) ∧ frame.length ≤ maxFrame)
    ⟨fun ⟨⟨header, sized, rest⟩, bounded⟩ => ⟨⟨header, sized, rest⟩, bounded⟩,
      fun valid => ⟨by obtain ⟨header, sized, rest⟩ := valid.sized; exact ⟨header, sized, rest⟩, valid.bounded⟩⟩

/-- The bytes of a frame that has started but not finished. -/
def Partial (kind : UInt8) (buffer : Bytes) : Prop :=
  ∃ frame, WellFormed kind frame ∧ buffer <+: frame ∧ buffer ≠ frame

/-- The kinds whose framing never resynchronizes on a connection handle. -/
def Reliable (kind : UInt8) : Prop := kind = 2 ∨ kind = 4

theorem Reliable.ne_sco {kind : UInt8} (reliable : Reliable kind) : kind ≠ 3 := by
  rcases reliable with rfl | rfl <;> decide

theorem Reliable.header {kind : UInt8} (reliable : Reliable kind) :
    ∃ header, headerSize kind = some header ∧ 0 < header := by
  rcases reliable with rfl | rfl
  · exact ⟨4, rfl, by decide⟩
  · exact ⟨2, rfl, by decide⟩

theorem byte_append {front back : Bytes} {index : Nat} (inside : index < front.length) :
    byte (front ++ back) index = byte front index :=
  List.getD_append front back 0 index inside

@[simp] theorem payloadSize_acl (bytes : Bytes) :
    payloadSize 2 bytes = u16FromLeBytes (byte bytes 2) (byte bytes 3) := rfl

@[simp] theorem payloadSize_sco (bytes : Bytes) : payloadSize 3 bytes = (byte bytes 2).toNat := rfl

@[simp] theorem payloadSize_event (bytes : Bytes) : payloadSize 4 bytes = (byte bytes 1).toNat := rfl

/-- The length field lies inside the header, so later bytes cannot change it. -/
theorem payloadSize_append {kind : UInt8} {header : Nat} (sized : headerSize kind = some header)
    (front back : Bytes) (complete : header ≤ front.length) :
    payloadSize kind (front ++ back) = payloadSize kind front := by
  unfold headerSize at sized
  split at sized <;> cases sized
  · simp only [payloadSize_acl, byte_append (show 2 < front.length by omega), byte_append (show 3 < front.length by omega)]
  · simp only [payloadSize_sco, byte_append (show 2 < front.length by omega)]
  · simp only [payloadSize_event, byte_append (show 1 < front.length by omega)]

/-- What one byte does outside SCO, with the header size resolved. -/
theorem pushByte_reliable {kind : UInt8} (reliable : Reliable kind) {header : Nat}
    (sized : headerSize kind = some header) (framer : Framer) (sco : Option Nat) (next : UInt8) :
    framer.pushByte kind sco next =
      if framer.bytes.length + 1 < header then (⟨framer.bytes ++ [next]⟩, .more)
      else if header + payloadSize kind (framer.bytes ++ [next]) > maxFrame then
        (⟨[]⟩, .error "oversized HCI frame")
      else if framer.bytes.length + 1 = header + payloadSize kind (framer.bytes ++ [next]) then
        (⟨[]⟩, .frame (kind :: (framer.bytes ++ [next])))
      else (⟨framer.bytes ++ [next]⟩, .more) := by
  simp only [pushByte, sized, List.length_append, List.length_cons, List.length_nil, reliable.ne_sco,
    false_and, if_false, Nat.zero_add]

/-- One byte as a step that either fails or completes at most one frame. -/
def pushStep (kind : UInt8) (sco : Option Nat) (framer : Framer) (next : UInt8) :
    Framer × Except String (List Bytes) :=
  match framer.pushByte kind sco next with
  | (framer, .error reason) => (framer, .error reason)
  | (framer, .frame frame) => (framer, .ok [frame])
  | (framer, _) => (framer, .ok [])

theorem pushByte_never_discards {kind : UInt8} (reliable : Reliable kind) (framer : Framer)
    (sco : Option Nat) (next : UInt8) : (framer.pushByte kind sco next).2 ≠ .discard := by
  obtain ⟨header, sized, _⟩ := reliable.header
  rw [pushByte_reliable reliable sized]
  split_ifs <;> simp

/-- Without the SCO resynchronization the receive loop is a plain feed. -/
theorem push_eq_feed {kind : UInt8} (reliable : Reliable kind) (sco : Option Nat) (framer : Framer)
    (bytes : Bytes) : framer.push kind sco bytes = Feed.feed (pushStep kind sco) framer bytes := by
  induction bytes generalizing framer with
  | nil => rfl
  | cons next rest ih =>
    have kept := pushByte_never_discards reliable framer sco next
    rw [push, Feed.feed, pushStep]
    rcases pushed : framer.pushByte kind sco next with ⟨after, progress⟩
    cases progress with
    | more =>
      simp only [ih after]
      rcases Feed.feed (pushStep kind sco) after rest with ⟨last, reason | frames⟩ <;> rfl
    | discard => simp [pushed] at kept
    | error reason => rfl
    | frame frame => simp only [ih after]; rfl

/-- The fragments of one endpoint, in arrival order. -/
def pushAll (framer : Framer) (kind : UInt8) (sco : Option Nat) (fragments : List Bytes) :
    Framer × Except String (List Bytes) :=
  Feed.feed (fun framer bytes => framer.push kind sco bytes) framer fragments

theorem pushAll_eq_push {kind : UInt8} (reliable : Reliable kind) (sco : Option Nat) (framer : Framer)
    (fragments : List Bytes) : pushAll framer kind sco fragments = framer.push kind sco fragments.flatten := by
  rw [push_eq_feed reliable, ← Feed.feed_flatten, pushAll]
  congr
  funext framer bytes
  exact push_eq_feed reliable sco framer bytes

theorem handle_append {front : Bytes} (back : Bytes) (complete : 2 ≤ front.length) :
    handle (front ++ back) = handle front := by
  unfold handle
  rw [byte_append (by omega : 0 < front.length), byte_append (by omega : 1 < front.length)]

/-- Only SCO frames have to carry the handle of the link. -/
def Accepted (kind : UInt8) (sco : Option Nat) (frame : Bytes) : Prop := kind = 3 → sco = some (handle frame)

theorem Reliable.accepted {kind : UInt8} (reliable : Reliable kind) (sco : Option Nat) (frame : Bytes) :
    Accepted kind sco frame := fun audio => absurd audio reliable.ne_sco

/-- Inside a well-formed frame a byte is either the last one or extends the buffer. -/
theorem pushByte_within {kind : UInt8} {sco : Option Nat} (front back : Bytes) (next : UInt8)
    (valid : WellFormed kind (front ++ next :: back)) (accepted : Accepted kind sco (front ++ next :: back)) :
    Framer.pushByte ⟨front⟩ kind sco next =
      if back = [] then (⟨[]⟩, .frame (kind :: (front ++ [next]))) else (⟨front ++ [next]⟩, .more) := by
  obtain ⟨header, sized, complete, exactLength⟩ := valid.sized
  have bounded := valid.bounded
  have split : front ++ next :: back = (front ++ [next]) ++ back := by simp
  have length : (front ++ next :: back).length = front.length + 1 + back.length := by simp; omega
  simp only [pushByte, sized, List.length_append, List.length_singleton]
  by_cases short : front.length + 1 < header
  · have unfinished : back ≠ [] := by
      rintro rfl
      simp only [List.length_nil] at length
      omega
    simp [short, unfinished]
  · have resynchronized : ¬ (kind = 3 ∧ front.length + 1 = header ∧ sco ≠ some (handle (front ++ [next]))) := by
      rintro ⟨rfl, whole, foreign⟩
      cases sized
      apply foreign
      rw [accepted rfl, split, handle_append back (by simp; omega)]
    have payload : payloadSize kind (front ++ [next]) = payloadSize kind (front ++ next :: back) := by
      rw [split, payloadSize_append sized _ back (by simp; omega)]
    have last : front.length + 1 = header + payloadSize kind (front ++ [next]) ↔ back = [] := by
      rw [payload, ← List.length_eq_zero_iff]
      omega
    rw [if_neg short, if_neg resynchronized,
      if_neg (by rw [payload]; omega : ¬ header + payloadSize kind (front ++ [next]) > maxFrame)]
    by_cases finished : back = [] <;> simp [last, finished]

/-- Bytes that stay inside one frame are only buffered. -/
theorem push_inside {kind : UInt8} {sco : Option Nat} (front middle back : Bytes)
    (valid : WellFormed kind (front ++ middle ++ back)) (accepted : Accepted kind sco (front ++ middle ++ back))
    (unfinished : back ≠ []) : Framer.push ⟨front⟩ kind sco middle = (⟨front ++ middle⟩, .ok []) := by
  induction middle generalizing front with
  | nil => simp [push]
  | cons next rest ih =>
    have within := pushByte_within front (rest ++ back) next (by simpa using valid) (by simpa using accepted)
    rw [push, within, if_neg (by simp [unfinished])]
    simpa using ih (front ++ [next]) (by simpa using valid) (by simpa using accepted)

/-- The remainder of a frame completes it and empties the buffer. -/
theorem push_rest {kind : UInt8} {sco : Option Nat} (front rest : Bytes) (valid : WellFormed kind (front ++ rest))
    (accepted : Accepted kind sco (front ++ rest)) (remaining : rest ≠ []) :
    Framer.push ⟨front⟩ kind sco rest = (⟨[]⟩, .ok [kind :: (front ++ rest)]) := by
  induction rest generalizing front with
  | nil => exact absurd rfl remaining
  | cons next rest ih =>
    have within := pushByte_within front rest next valid accepted
    by_cases last : rest = []
    · subst last
      rw [push, within, if_pos rfl]
      simp [push, Except.map]
    · rw [push, within, if_neg last]
      simpa using ih (front ++ [next]) (by simpa using valid) (by simpa using accepted) last

theorem WellFormed.nonempty {kind : UInt8} {frame : Bytes} (valid : WellFormed kind frame)
    (reliable : Reliable kind) : frame ≠ [] := by
  obtain ⟨header, sized, complete, _⟩ := valid.sized
  obtain ⟨other, same, positive⟩ := reliable.header
  rw [sized] at same
  cases same
  rintro rfl
  simp at complete
  omega

/-- A stream of whole frames and an unfinished one is cut exactly at the frames. -/
theorem push_frames {kind : UInt8} (reliable : Reliable kind) (sco : Option Nat) (frames : List Bytes)
    (valid : ∀ frame ∈ frames, WellFormed kind frame) (tail : Bytes) (unfinished : Partial kind tail) :
    Framer.push ⟨[]⟩ kind sco (frames.flatten ++ tail) = (⟨tail⟩, .ok (frames.map (kind :: ·))) := by
  induction frames with
  | nil =>
    obtain ⟨frame, whole, ⟨back, rfl⟩, proper⟩ := unfinished
    simpa using push_inside [] tail back (by simpa using whole) (reliable.accepted sco _) (by rintro rfl; simp at proper)
  | cons frame rest ih =>
    have first := valid frame (by simp)
    have taken := push_rest [] frame (by simpa using first) (reliable.accepted sco _) (first.nonempty reliable)
    have later := ih (fun other member => valid other (by simp [member]))
    rw [push_eq_feed reliable] at taken later ⊢
    rw [List.flatten_cons, List.append_assoc, Feed.feed_append, taken]
    simp [later, Except.map]

/-- Any unfinished header, or an unfinished payload, extends to a whole frame. -/
theorem partial_of_header {kind : UInt8} {header : Nat} (sized : headerSize kind = some header)
    (buffer : Bytes) (complete : header ≤ buffer.length)
    (bounded : header + payloadSize kind buffer ≤ maxFrame)
    (short : buffer.length < header + payloadSize kind buffer) : Partial kind buffer := by
  let missing := header + payloadSize kind buffer - buffer.length
  have same := payloadSize_append sized buffer (List.replicate missing 0) complete
  refine ⟨buffer ++ List.replicate missing 0, ⟨⟨header, sized, ?_, ?_⟩, ?_⟩, ⟨_, rfl⟩, ?_⟩
  · simp; omega
  · rw [same]; simp [missing]; omega
  · simp [missing]; omega
  · intro equal
    have lengths := congrArg List.length equal
    simp [missing] at lengths
    omega

theorem byte_replicate (front : Bytes) (count index : Nat) (beyond : front.length ≤ index) :
    byte (front ++ List.replicate count 0) index = 0 := by
  rw [byte, List.getD_append_right _ _ _ _ beyond]
  by_cases inside : index - front.length < count <;> simp [List.getD, inside]

/-- A header still to be completed may announce an empty payload. -/
theorem partial_of_short {kind : UInt8} (reliable : Reliable kind) {header : Nat}
    (sized : headerSize kind = some header) (buffer : Bytes) (short : buffer.length < header) :
    Partial kind buffer := by
  let padded := buffer ++ List.replicate (header - buffer.length) 0
  have complete : padded.length = header := by simp [padded]; omega
  have small : payloadSize kind padded ≤ 255 := by
    rcases reliable with rfl | rfl <;> cases sized
    · have high : byte padded 3 = 0 := byte_replicate _ _ _ (by omega)
      have low := (byte padded 2).toNat_lt
      simp only [payloadSize_acl, u16FromLeBytes, high, UInt8.toNat_zero]
      omega
    · have size := (byte padded 1).toNat_lt
      simp only [payloadSize_event]
      omega
  have limit : header ≤ 4 := by rcases reliable with rfl | rfl <;> cases sized <;> omega
  let frame := padded ++ List.replicate (payloadSize kind padded) 0
  have same : payloadSize kind frame = payloadSize kind padded :=
    payloadSize_append sized padded _ complete.ge
  refine ⟨frame, ⟨⟨header, sized, ?_, ?_⟩, ?_⟩, ?_, ?_⟩
  · simp [frame]; omega
  · rw [same]; simp only [frame, List.length_append, List.length_replicate]; omega
  · simp only [frame, List.length_append, List.length_replicate, maxFrame]; omega
  · exact ((List.prefix_append ..).trans (List.prefix_append ..))
  · intro equal
    have lengths := congrArg List.length equal
    simp only [frame, List.length_append, List.length_replicate] at lengths
    omega

theorem partial_nil {kind : UInt8} (reliable : Reliable kind) : Partial kind [] := by
  obtain ⟨header, sized, positive⟩ := reliable.header
  exact partial_of_short reliable sized [] (by simpa using positive)

/-- With a partial frame buffered, the next byte never passes the announced end.
This is why the equality test of the loop finds every frame boundary. -/
theorem never_passes_end {kind : UInt8} {header : Nat} (sized : headerSize kind = some header)
    {buffer : Bytes} (unfinished : Partial kind buffer) (next : UInt8)
    (complete : header ≤ buffer.length + 1) :
    buffer.length + 1 ≤ header + payloadSize kind (buffer ++ [next]) := by
  obtain ⟨frame, valid, ⟨back, rfl⟩, proper⟩ := unfinished
  obtain ⟨other, same, _, exactLength⟩ := valid.sized
  rw [sized] at same
  cases same
  have remaining : back ≠ [] := by rintro rfl; simp at proper
  have positive := List.length_pos_of_ne_nil remaining
  by_cases short : buffer.length < header
  · omega
  · rw [payloadSize_append sized buffer _ (by omega)]
    rw [payloadSize_append sized buffer back (by omega), List.length_append] at exactLength
    omega

theorem pushByte_keeps_unfinished {kind : UInt8} (reliable : Reliable kind) (sco : Option Nat) (framer : Framer)
    (next : UInt8) (unfinished : Partial kind framer.bytes) :
    Partial kind (framer.pushByte kind sco next).1.bytes := by
  obtain ⟨header, sized, _⟩ := reliable.header
  rw [pushByte_reliable reliable sized]
  split_ifs with short oversized last
  · exact partial_of_short reliable sized _ (by simpa using short)
  · exact partial_nil reliable
  · exact partial_nil reliable
  · have reached := never_passes_end sized unfinished next (by omega)
    refine partial_of_header sized (framer.bytes ++ [next]) ?_ (by omega) ?_ <;>
      simp only [List.length_append, List.length_cons, List.length_nil] <;> omega

theorem push_keeps_unfinished {kind : UInt8} (reliable : Reliable kind) (sco : Option Nat) (framer : Framer)
    (bytes : Bytes) (unfinished : Partial kind framer.bytes) :
    Partial kind (framer.push kind sco bytes).1.bytes := by
  rw [push_eq_feed reliable]
  refine Feed.feed_keeps (fun framer => Partial kind framer.bytes) ?_ framer bytes unfinished
  intro framer next unfinished
  have kept := pushByte_keeps_unfinished reliable sco framer next unfinished
  unfold pushStep
  rcases pushed : framer.pushByte kind sco next with ⟨after, progress⟩
  rw [pushed] at kept
  cases progress <;> exact kept

/-- The two reassembly buffers that must never lose synchronization. -/
def Framed (t : Transport) : Prop := Partial 2 t.acl.bytes ∧ Partial 4 t.event.bytes

theorem packet_framers {t after : Transport} {kind : UInt8} {packet : Bytes} {actions : List Action}
    (done : t.packet kind packet = .ok (after, actions)) : after.acl = t.acl ∧ after.event = t.event := by
  rcases Transport.packet_cases done with ⟨_, _, _, _, _, _, rfl, _⟩ | ⟨_, _, _, _, rfl, _⟩ |
    ⟨_, _, _, rfl, _⟩ | ⟨_, _, rfl, _⟩ | ⟨_, _, rfl, _⟩ | ⟨_, _, rfl, _⟩
  all_goals exact ⟨rfl, rfl⟩

theorem packets_keep_framed (t : Transport) (kind : UInt8) (frames : List Bytes) (framed : Framed t) :
    Framed (t.packets kind frames).1 := by
  refine Feed.feed_keeps Framed ?_ t frames framed
  intro t packet framed
  unfold Transport.packetStep
  cases done : t.packet kind packet with
  | error reason => exact framed
  | ok result =>
    obtain ⟨acl, event⟩ := packet_framers done
    simpa only [Framed, acl, event] using framed

theorem frame_keeps_framed (t : Transport) (kind : UInt8) (bytes : Bytes) (framed : Framed t) :
    Framed (t.frame kind bytes).1 := by
  unfold Transport.frame
  split
  · exact ⟨push_keeps_unfinished (.inl rfl) none t.acl bytes framed.1, framed.2⟩
  · exact framed
  · exact ⟨framed.1, push_keeps_unfinished (.inr rfl) none t.event bytes framed.2⟩
  · exact framed

theorem usb_keeps_framed (t : Transport) (kind : UInt8) (bytes : Bytes) (framed : Framed t) :
    Framed (t.usb kind bytes).1 := by
  unfold Transport.usb
  split
  · exact framed
  · have kept := frame_keeps_framed t kind bytes framed
    rcases pushed : t.frame kind bytes with ⟨after, reason | frames⟩ <;> rw [pushed] at kept
    · exact kept
    · exact packets_keep_framed after kind frames kept

theorem host_keeps_framed (t : Transport) (packet : Bytes) (framed : Framed t) : Framed (t.host packet).1 := by
  rcases Transport.host_cases t packet with ⟨reason, failed⟩ | ⟨kind, payload, valid, accepted⟩
  · simpa only [failed] using framed
  · rw [accepted]
    rcases Transport.hostPacket_cases t valid with ⟨_, _, done⟩ | ⟨_, _, _, done⟩ | ⟨_, _, _, done⟩ |
      ⟨_, _, done⟩ <;> rw [done]
    -- Reset clears the ACL buffer, which is the start of a frame again.
    · exact ⟨partial_nil (.inl rfl), framed.2⟩
    all_goals exact framed

theorem call_keeps_framed (t : Transport) (input : Transport.Input) (framed : Framed t) :
    Framed (t.call input).1 := by
  cases input with
  | usb kind bytes => exact usb_keeps_framed t kind bytes framed
  | host packet => exact host_keeps_framed t packet framed

/-- Calls in any order, going on after those that fail. -/
def afterCalls (t : Transport) (inputs : List Transport.Input) : Transport :=
  inputs.foldl (fun t input => (t.call input).1) t

theorem afterCalls_framed (t : Transport) (inputs : List Transport.Input) (framed : Framed t) :
    Framed (afterCalls t inputs) := by
  induction inputs generalizing t with
  | nil => exact framed
  | cons input rest ih => exact ih _ (call_keeps_framed t input framed)

/-- Framing inverts the wire format under every division of the stream. Frames
come out whole and in order, an unfinished one stays buffered, and dividing an
arbitrary stream changes neither the outcome nor the result. In every reachable
transport both buffers are unfinished frames that the next byte cannot overrun. -/
theorem framing_independent_of_fragmentation (kind : UInt8) (reliable : kind = 2 ∨ kind = 4) :
    (∀ (frames : List Bytes) (tail : Bytes) (fragments : List Bytes),
      (∀ frame ∈ frames, WellFormed kind frame) → Partial kind tail →
      fragments.flatten = frames.flatten ++ tail →
      pushAll {} kind none fragments = (⟨tail⟩, .ok (frames.map (kind :: ·)))) ∧
    (∀ (framer : Framer) (fragments : List Bytes),
      pushAll framer kind none fragments = framer.push kind none fragments.flatten) ∧
    (∀ fragments : List Bytes, Partial kind (pushAll {} kind none fragments).1.bytes) ∧
    (∀ inputs : List Transport.Input, ∀ buffer,
      buffer = (if kind = 2 then (afterCalls {} inputs).acl.bytes else (afterCalls {} inputs).event.bytes) →
      Partial kind buffer ∧ buffer.length < maxFrame ∧
      ∀ next header, headerSize kind = some header → header ≤ (buffer ++ [next]).length →
        (buffer ++ [next]).length ≤ header + payloadSize kind (buffer ++ [next])) := by
  refine ⟨?_, ?_, ?_, ?_⟩
  · intro frames tail fragments valid unfinished divided
    rw [pushAll_eq_push reliable, divided]
    exact push_frames reliable none frames valid tail unfinished
  · exact fun framer fragments => pushAll_eq_push reliable none framer fragments
  · intro fragments
    rw [pushAll_eq_push reliable]
    exact push_keeps_unfinished reliable none {} _ (partial_nil reliable)
  · intro inputs buffer same
    have framed := afterCalls_framed {} inputs ⟨partial_nil (.inl rfl), partial_nil (.inr rfl)⟩
    have unfinished : Partial kind buffer := by
      rcases reliable with rfl | rfl
      · rw [same]; exact framed.1
      · rw [same]; exact framed.2
    refine ⟨unfinished, ?_, ?_⟩
    · obtain ⟨frame, valid, ⟨back, rfl⟩, proper⟩ := unfinished
      have bounded := valid.bounded
      have remaining : back ≠ [] := by rintro rfl; simp at proper
      have positive := List.length_pos_of_ne_nil remaining
      rw [List.length_append] at bounded
      omega
    · intro next header sized complete
      rw [List.length_append, List.length_singleton] at complete ⊢
      exact never_passes_end sized unfinished next complete

/-- An event split inside its header, followed by one byte of the next. -/
theorem framing_of_split_event :
    pushAll {} 4 none [[0x0e, 4, 1], [], [3, 12, 0, 0x0e]] = (⟨[0x0e]⟩, .ok [[4, 0x0e, 4, 1, 3, 12, 0]]) := by
  refine (framing_independent_of_fragmentation 4 (.inr rfl)).1 [[0x0e, 4, 1, 3, 12, 0]] [0x0e] _ ?_ ?_ rfl
  · decide
  · exact ⟨[0x0e, 0], by decide, by decide, by decide⟩

end FlossDesktop.Proofs.Framing
