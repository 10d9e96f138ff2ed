import FlossDesktop.Proofs.ScoFraming
import FlossDesktop.Proofs.UsbCases

/-! The two directions of the helper accept the same packets. What the host may send in
one piece is what the radio may send in any number of pieces, and is a valid argument of
the transmission that follows. -/

namespace FlossDesktop.Proofs.Directions
open Framer Framing ScoFraming

variable {t : Transport} {body : Bytes}

/-- Indexing of a host packet, where `none` is a panic. -/
def hostChecked (t : Transport) (packet : Bytes) : Option (Transport × Except String (List Action)) :=
  match packet with
  | [] => some (t, .error "empty host packet")
  | kind :: _ =>
    match Transport.hostHeader kind with
    | none => some (t, .error "unsupported host packet type (LE ISO is not implemented)")
    | some header =>
      if packet.length < header + 1 then some (t, .error "short host header")
      else do
        let payload ← if kind = 2 then do
            let low ← packet[3]?
            let high ← packet[4]?
            pure (u16FromLeBytes low high)
          else do
            let size ← packet[3]?
            pure size.toNat
        if packet.length ≠ 1 + header + payload ∨ packet.length > maxFrame + 1 then
          some (t, .error "invalid host HCI packet length")
        else do
          let reset ← if kind = 1 then do
              let low ← packet[1]?
              let high ← packet[2]?
              pure (low == 3 && high == 12 && payload == 0)
            else some false
          let (t, actions) : Transport × List Action :=
            if reset then ({ t with link := none, sco := {}, acl := {} }, [.sco 0]) else (t, [])
          if kind = 3 then do
            let low ← packet[1]?
            let high ← packet[2]?
            if t.link.map Prod.fst ≠ some (u16FromLeBytes low high &&& 0x0fff) then some (t, .ok actions)
            else some ({ t with scoTxBytes := t.scoTxBytes + payload }, .ok (actions ++ [.usb packet]))
          else some (t, .ok (actions ++ [.usb packet]))

/-- No index of `host` is out of bounds. -/
theorem hostChecked_eq (t : Transport) (packet : Bytes) : hostChecked t packet = some (t.host packet) := by
  match packet with
  | [] => rfl
  | kind :: rest =>
    unfold hostChecked Transport.host
    dsimp only
    cases known : Transport.hostHeader kind with
    | none => rfl
    | some header =>
      dsimp only
      split
      · rfl
      next long =>
        have kinds := (Transport.hostHeader_kinds known).1
        rcases kinds with rfl | rfl | rfl <;> cases known
        · obtain _ | ⟨low, _ | ⟨high, _ | ⟨size, rest⟩⟩⟩ := rest
          · simp at long
          · simp at long
          · simp at long
          · have zero : size.toNat = 0 ↔ size = 0 := UInt8.toNat_inj (b := 0)
            simp [Transport.hostPacket, isReset, byte, zero]
            split <;> rfl
        · obtain _ | ⟨first, _ | ⟨second, _ | ⟨low, _ | ⟨high, rest⟩⟩⟩⟩ := rest
          · simp at long
          · simp at long
          · simp at long
          · simp at long
          · simp [Transport.hostPacket, isReset, byte]
            split <;> rfl
        · obtain _ | ⟨low, _ | ⟨high, _ | ⟨size, rest⟩⟩⟩ := rest
          · simp at long
          · simp at long
          · simp at long
          · have ours : handle ((3 :: low :: high :: size :: rest).drop 1) = u16FromLeBytes low high &&& 0x0fff := rfl
            simp only [Transport.hostPacket, ours]
            simp [isReset, byte, -Option.map_eq_some_iff]
            split
            · rfl
            · by_cases active : t.link.map Prod.fst = some (u16FromLeBytes low high &&& 0x0fff)
              · simp only [if_pos active]
              · simp only [if_neg active]

/-- The checks of a packet of a known kind. -/
theorem host_known {kind : UInt8} {header : Nat} (known : Transport.hostHeader kind = some header) (t : Transport)
    (body : Bytes) :
    t.host (kind :: body) =
      if body.length + 1 < header + 1 then (t, .error "short host header")
      else
        let payload := if kind = 2 then u16FromLeBytes (byte body 2) (byte body 3) else (byte body 2).toNat
        if body.length + 1 ≠ 1 + header + payload ∨ body.length + 1 > maxFrame + 1 then
          (t, .error "invalid host HCI packet length")
        else
          ((t.hostPacket kind (kind :: body) payload).1, .ok (t.hostPacket kind (kind :: body) payload).2) := by
  unfold Transport.host
  dsimp only
  rw [known]
  rfl

/-- An ACL packet is accepted if and only if it is a whole frame. -/
theorem host_acl (t : Transport) (body : Bytes) :
    (t.host (2 :: body)).2 = .ok [.usb (2 :: body)] ↔ WellFormed 2 body := by
  have decided : (t.host (2 :: body)).2 =
      if body.length < 4 then .error "short host header"
      else if body.length ≠ 4 + payloadSize 2 body ∨ body.length > maxFrame then .error "invalid host HCI packet length"
      else .ok [.usb (2 :: body)] := by
    rw [host_known rfl, payloadSize_acl]
    dsimp only
    rw [if_pos rfl]
    split_ifs <;> first | rfl | omega
  rw [decided]
  constructor
  · intro accepted
    split_ifs at accepted with short invalid
    obtain ⟨sized, bounded⟩ := not_or.mp invalid
    exact ⟨⟨4, rfl, not_lt.mp short, not_not.mp sized⟩, not_lt.mp bounded⟩
  · intro valid
    obtain ⟨header, sized, complete, length⟩ := valid.sized
    cases sized
    rw [if_neg (not_lt.mpr complete), if_neg (not_or.mpr ⟨not_not.mpr length, not_lt.mpr valid.bounded⟩)]

/-- A SCO packet is accepted and forwarded if and only if it is one of the link. -/
theorem host_audio {id : Nat} {mode : UInt8} (linked : t.link = some (id, mode)) (body : Bytes) :
    (t.host (3 :: body)).2 = .ok [.usb (3 :: body)] ↔ IsSco id body := by
  have ours : t.link.map Prod.fst = some (handle ((3 :: body).drop 1)) ↔ handle body = id := by
    rw [linked, Option.map_some, Option.some_inj]
    exact eq_comm
  have decided : (t.host (3 :: body)).2 =
      if body.length < 3 then .error "short host header"
      else if body.length ≠ 3 + (byte body 2).toNat then .error "invalid host HCI packet length"
      else if handle body = id then .ok [.usb (3 :: body)] else .ok [] := by
    have small := (byte body 2).toNat_lt
    rw [host_known rfl]
    dsimp only
    rw [if_neg (by decide : ¬ (3 : UInt8) = 2)]
    unfold maxFrame
    by_cases short : body.length < 3
    · rw [if_pos (by omega), if_pos short]
    · rw [if_neg (by omega), if_neg short]
      by_cases wrong : body.length ≠ 3 + (byte body 2).toNat
      · rw [if_pos (by omega), if_pos wrong]
      · rw [if_neg (by omega), if_neg wrong]
        unfold Transport.hostPacket
        have command : isReset (3 :: body) = false := rfl
        dsimp only
        rw [command, if_pos rfl]
        simp only [ours, Bool.false_eq_true, if_false, ne_eq, ite_not]
        split <;> rfl
  rw [decided]
  constructor
  · intro accepted
    split_ifs at accepted with short wrong same
    · exact ⟨same, not_not.mp wrong⟩
    · cases accepted
  · intro audio
    rw [if_neg (by rw [audio.sized]; omega), if_neg (not_not.mpr audio.sized), if_pos audio.handle]

theorem packets_acl (t : Transport) (frames : List Bytes) : t.packets 2 frames = (t, .ok (frames.map .host)) := by
  unfold Transport.packets
  induction frames with
  | nil => rfl
  | cons frame rest ih =>
    have one : Transport.packetStep 2 t frame = (t, .ok [.host frame]) := rfl
    rw [Feed.feed, one]
    dsimp only
    rw [ih]
    rfl

/-- An ACL fragment goes through the reassembly buffer of its endpoint. -/
theorem usb_two (t : Transport) (body : Bytes) :
    t.usb 2 body = match t.acl.push 2 none body with
      | (acl, .error reason) => ({ t with acl }, .error reason)
      | (acl, .ok frames) => ({ t with acl }, .ok (frames.map .host)) := by
  have framed : t.frame 2 body = ({ t with acl := (t.acl.push 2 none body).1 }, (t.acl.push 2 none body).2) := rfl
  unfold Transport.usb
  rw [if_neg (fun both => absurd both.1 (by decide)), framed]
  rcases t.acl.push 2 none body with ⟨acl, reason | frames⟩
  · rfl
  · exact packets_acl _ frames

/-- The same language, read from the radio. -/
theorem usb_acl (empty : t.acl.bytes = []) (body : Bytes) :
    (t.usb 2 body).2 = .ok [.host (2 :: body)] ∧ (t.usb 2 body).1.acl.bytes = [] ↔ WellFormed 2 body := by
  have fresh : t.acl = ⟨[]⟩ := congrArg Framer.mk empty
  constructor
  · rintro ⟨received, _⟩
    rw [usb_two] at received
    rcases pushed : t.acl.push 2 none body with ⟨framer, reason | frames⟩
    · rw [pushed] at received
      cases received
    · rw [pushed] at received
      have member : Action.host (2 :: body) ∈ frames.map .host := by
        rw [Except.ok.inj received]
        exact List.mem_cons_self
      obtain ⟨frame, inside, same⟩ := List.mem_map.mp member
      obtain ⟨whole, cut, valid⟩ := push_frames_valid pushed frame inside
      rw [cut] at same
      have equal : whole = body := (List.cons.inj (Action.host.inj same)).2
      exact equal ▸ valid
  · intro valid
    have pushed : t.acl.push 2 none body = (⟨[]⟩, .ok [2 :: body]) := by
      rw [fresh]
      exact push_rest [] body valid (Reliable.accepted (.inl rfl) none _) (valid.nonempty (.inl rfl))
    rw [usb_two, pushed]
    exact ⟨rfl, rfl⟩

/-- What is delivered from the SCO endpoint came out of the reassembly, and is one of the
link. -/
theorem packets_delivered {after : Transport} {frames : List Bytes} {actions : List Action} {packet : Bytes}
    (done : t.packets 3 frames = (after, .ok actions)) (delivered : .host packet ∈ actions) :
    packet ∈ frames ∧ t.link.map Prod.fst = some (handle (packet.drop 1)) := by
  unfold Transport.packets at done
  induction frames generalizing t actions with
  | nil =>
    cases done
    cases delivered
  | cons frame rest ih =>
    obtain ⟨middle, first, later, stepped, remaining, rfl⟩ := Feed.feed_cons_ok.mp done
    have one : t.packet 3 frame = .ok (middle, first) := by
      unfold Transport.packetStep at stepped
      cases handled : t.packet 3 frame with
      | error reason =>
        rw [handled] at stepped
        cases stepped
      | ok result =>
        rw [handled] at stepped
        cases stepped
        rfl
    unfold Transport.packet at one
    rw [if_neg (by decide), if_pos rfl] at one
    split at one
    · cases one
      obtain ⟨inside, ours⟩ := ih remaining delivered
      exact ⟨List.mem_cons_of_mem frame inside, ours⟩
    next ours =>
      cases one
      rcases List.mem_cons.mp delivered with same | delivered
      · cases same
        exact ⟨List.mem_cons_self, not_not.mp ours⟩
      · obtain ⟨inside, ours⟩ := ih remaining delivered
        exact ⟨List.mem_cons_of_mem frame inside, ours⟩

theorem usb_sco {id : Nat} {mode : UInt8} (linked : t.link = some (id, mode)) (empty : t.sco.bytes = []) (body : Bytes) :
    (t.usb 3 body).2 = .ok [.host (3 :: body)] ∧ (t.usb 3 body).1.sco.bytes = [] ↔ IsSco id body := by
  have fresh : t.sco = ⟨[]⟩ := congrArg Framer.mk empty
  constructor
  · rintro ⟨received, _⟩
    rcases result : t.usb 3 body with ⟨after, reason | actions⟩
    · rw [result] at received
      cases received
    · rw [result] at received
      rcases Transport.usb_ok result with ⟨_, unlinked, _⟩ | ⟨framed, frames, pushed, handled⟩
      · exact absurd (linked.symm.trans unlinked) nofun
      · have member : Action.host (3 :: body) ∈ actions := by
          rw [Except.ok.inj received]
          exact List.mem_cons_self
        obtain ⟨inside, ours⟩ := packets_delivered handled member
        have link : framed.link = t.link := by
          rw [← Transport.frame_link t 3 body, pushed]
        have reassembled : t.sco.push 3 (t.link.map Prod.fst) body = (framed.sco, .ok frames) := by
          have sco : t.frame 3 body = ({ t with sco := (t.sco.push 3 (t.link.map Prod.fst) body).1 },
              (t.sco.push 3 (t.link.map Prod.fst) body).2) := rfl
          rw [sco] at pushed
          obtain ⟨same, result⟩ := Prod.mk.inj pushed
          rw [← same, ← result]
        obtain ⟨whole, cut, valid⟩ := push_frames_valid reassembled _ inside
        have equal : whole = body := (List.cons.inj cut).2.symm
        rw [equal] at valid
        obtain ⟨header, sized, _, length⟩ := valid.sized
        cases sized
        rw [link, linked] at ours
        exact ⟨(Option.some.inj ours).symm, length⟩
  · intro audio
    have pushed : t.sco.push 3 (some id) body = (⟨[]⟩, .ok [3 :: body]) := by
      rw [fresh]
      exact push_audio_rest [] body audio audio.nonempty
    have received := usb_audio linked pushed fun frame member => by
      rw [List.mem_singleton.mp member]
      exact audio.handle
    rw [received]
    exact ⟨rfl, rfl⟩

/-- What the host side emits for the radio is its own packet, with arguments that the
transmission accepts. -/
theorem host_emits {packet emitted : Bytes} {actions : List Action} (done : (t.host packet).2 = .ok actions)
    (member : .usb emitted ∈ actions) :
    emitted = packet ∧ packet.drop 1 ≠ [] ∧ (packet.drop 1).length ≤ 4096 ∧
      (byte packet 0 = 1 ∨ byte packet 0 = 2 ∨ byte packet 0 = 3) := by
  rcases Transport.host_cases t packet with ⟨reason, failed⟩ | ⟨kind, payload, valid, accepted⟩
  · rw [failed] at done
    cases done
  · rw [accepted] at done
    have length := valid.sized
    have bounded := valid.bounded
    unfold maxFrame at bounded
    have long : 4 ≤ packet.length := by
      split at length <;> omega
    refine ⟨?_, ?_, ?_, valid.first ▸ valid.kinds⟩
    · have emits := Except.ok.inj done
      rcases Transport.hostPacket_cases t valid with ⟨_, _, sent⟩ | ⟨_, _, _, sent⟩ | ⟨_, _, _, sent⟩ | ⟨_, _, sent⟩ <;>
        rw [sent] at emits <;> rw [← emits] at member
      · simpa using member
      · cases member
      · simpa using member
      · simpa using member
    · intro none
      have dropped := congrArg List.length none
      rw [List.length_drop, List.length_nil] at dropped
      omega
    · rw [List.length_drop]
      omega

/-- The arguments that a transmission of any kind refuses. -/
theorem send_refuses {s : Usb} {kind : UInt8} {data : Bytes} {supply : Usb.Supply} (some_ : data ≠ [])
    (bounded : data.length ≤ 4096) (kinds : kind = 1 ∨ kind = 2 ∨ kind = 3) (submitted : supply.submit ≠ -Usb.einval)
    (refused : (s.send kind data supply).2 = -Usb.einval) :
    kind = 3 ∧ s.alt = 6 ∧ s.endpoints.isoSize < data.length := by
  have valid : ¬ (data.isEmpty = true ∨ data.length > 4096 ∨ ¬ (kind = 1 ∨ kind = 2 ∨ kind = 3)) := by
    rintro (empty | long | other)
    · exact some_ (List.isEmpty_iff.mp empty)
    · omega
    · exact other kinds
  unfold Usb.send at refused
  rw [if_neg valid] at refused
  split at refused
  · exact absurd (show -Usb.enotconn = -Usb.einval from refused) (by decide)
  · split at refused
    next large => exact large
    · exfalso
      dsimp only at refused
      rcases Usb.launch_code s kind false (s.sendPackets kind data.length) (s.sendRequest kind data) supply with
        code | code | code <;> rw [code] at refused
      · exact absurd refused (by decide)
      · exact absurd refused (by decide)
      · exact submitted refused

/-- Both directions accept the same ACL packets and the same SCO packets of the link. The
host side never panics, and the transmission of what it emits is refused for its arguments
only if it is larger than the endpoint of alternate six. -/
theorem directions_agree :
    (∀ (t u : Transport) (p : Bytes), p.head? = some 2 → u.acl.bytes = [] →
      ((t.host p).2 = .ok [.usb p] ↔ (u.usb 2 (p.drop 1)).2 = .ok [.host p] ∧ (u.usb 2 (p.drop 1)).1.acl.bytes = [])) ∧
    (∀ (t : Transport) (id : Nat) (mode : UInt8) (p : Bytes), t.link = some (id, mode) → t.sco.bytes = [] →
      p.head? = some 3 →
      ((t.host p).2 = .ok [.usb p] ↔ (t.usb 3 (p.drop 1)).2 = .ok [.host p] ∧ (t.usb 3 (p.drop 1)).1.sco.bytes = [])) ∧
    ∀ (t : Transport) (p : Bytes), hostChecked t p = some (t.host p) ∧
      ∀ actions emitted, (t.host p).2 = .ok actions → .usb emitted ∈ actions →
        emitted = p ∧ p.drop 1 ≠ [] ∧ (p.drop 1).length ≤ 4096 ∧ (byte p 0 = 1 ∨ byte p 0 = 2 ∨ byte p 0 = 3) ∧
        ∀ (s : Usb) (supply : Usb.Supply), supply.submit ≠ -Usb.einval →
          (s.send (byte p 0) (p.drop 1) supply).2 = -Usb.einval →
            byte p 0 = 3 ∧ s.alt = 6 ∧ s.endpoints.isoSize < (p.drop 1).length := by
  refine ⟨?_, ?_, ?_⟩
  · intro t u p first empty
    obtain ⟨body, rfl⟩ := List.head?_eq_some_iff.mp first
    exact (host_acl t body).trans (usb_acl empty body).symm
  · intro t id mode p linked empty first
    obtain ⟨body, rfl⟩ := List.head?_eq_some_iff.mp first
    exact (host_audio linked body).trans (usb_sco linked empty body).symm
  · intro t p
    refine ⟨hostChecked_eq t p, fun actions emitted done member => ?_⟩
    obtain ⟨same, some_, bounded, kinds⟩ := host_emits done member
    exact ⟨same, some_, bounded, kinds, fun s supply submitted refused => send_refuses some_ bounded kinds submitted refused⟩

/-- A packet with two bytes of data, in both directions. -/
example : ((({} : Transport).host (2 :: 1 :: 0 :: 2 :: 0 :: [7, 8])).2 = .ok [.usb [2, 1, 0, 2, 0, 7, 8]]) ∧
    ((({} : Transport).usb 2 [1, 0, 2, 0, 7, 8]).2 = .ok [.host [2, 1, 0, 2, 0, 7, 8]]) := by
  decide

end FlossDesktop.Proofs.Directions
