import FlossDesktop.Transport
import Mathlib.Tactic

/-! What each call on the transport can do, stated once. Later proofs take their
case analysis from here and never unfold the calls again. -/

namespace FlossDesktop.Transport

/-- A host packet that passed every length check. -/
structure HostValid (packet : Bytes) (kind : UInt8) (payload : Nat) : Prop where
  first : byte packet 0 = kind
  kinds : kind = 1 ∨ kind = 2 ∨ kind = 3
  sized : packet.length = (if kind = 2 then 5 else 4) + payload
  bounded : packet.length ≤ maxFrame + 1

theorem hostHeader_kinds {kind : UInt8} {header : Nat} (known : hostHeader kind = some header) :
    (kind = 1 ∨ kind = 2 ∨ kind = 3) ∧ 1 + header = if kind = 2 then 5 else 4 := by
  unfold hostHeader at known
  split at known <;> cases known <;> decide

/-- A host call fails without touching the transport, or accepts its packet. -/
theorem host_cases (t : Transport) (packet : Bytes) :
    (∃ reason, t.host packet = (t, .error reason)) ∨
    ∃ kind payload, HostValid packet kind payload ∧
      t.host packet = ((t.hostPacket kind packet payload).1, .ok (t.hostPacket kind packet payload).2) := by
  cases packet with
  | nil => exact .inl ⟨_, rfl⟩
  | cons kind rest =>
    cases known : hostHeader kind with
    | none =>
      exact .inl ⟨"unsupported host packet type (LE ISO is not implemented)", by simp only [host, known]⟩
    | some header =>
      obtain ⟨kinds, size⟩ := hostHeader_kinds known
      by_cases short : (kind :: rest).length < header + 1
      · exact .inl ⟨"short host header", by simp only [host, known, short, if_true]⟩
      · by_cases invalid : (kind :: rest).length ≠ 1 + header +
            (if kind = 2 then u16FromLeBytes (byte (kind :: rest) 3) (byte (kind :: rest) 4)
              else (byte (kind :: rest) 3).toNat) ∨ (kind :: rest).length > maxFrame + 1
        · exact .inl ⟨"invalid host HCI packet length",
            by simp only [host, known, short, invalid, if_true, if_false]⟩
        · rw [size] at invalid
          refine .inr ⟨kind, _, ⟨rfl, kinds, not_not.mp (not_or.mp invalid).1, not_lt.mp (not_or.mp invalid).2⟩, ?_⟩
          simp only [host, known, short, size, invalid, if_false]

theorem host_ok {t after : Transport} {packet : Bytes} {actions : List Action}
    (done : t.host packet = (after, .ok actions)) :
    ∃ kind payload, HostValid packet kind payload ∧ t.hostPacket kind packet payload = (after, actions) := by
  rcases host_cases t packet with ⟨reason, failed⟩ | ⟨kind, payload, valid, accepted⟩
  · rw [failed] at done
    cases done
  · rw [accepted] at done
    cases done
    exact ⟨kind, payload, valid, rfl⟩

/-- The transport a reset leaves behind. -/
def afterReset (t : Transport) : Transport := { t with link := none, sco := {}, acl := {} }

/-- The three ways an accepted host packet is treated: reset clears the SCO
state ahead of the command, audio follows the active link, and anything else is
forwarded. -/
theorem hostPacket_cases (t : Transport) {kind : UInt8} {packet : Bytes} {payload : Nat}
    (valid : HostValid packet kind payload) :
    (isReset packet = true ∧ kind = 1 ∧
      t.hostPacket kind packet payload = (t.afterReset, [.sco 0, .usb packet])) ∨
    (isReset packet = false ∧ kind = 3 ∧ t.link.map Prod.fst ≠ some (handle (packet.drop 1)) ∧
      t.hostPacket kind packet payload = (t, [])) ∨
    (isReset packet = false ∧ kind = 3 ∧ t.link.map Prod.fst = some (handle (packet.drop 1)) ∧
      t.hostPacket kind packet payload =
        ({ t with scoTxBytes := t.scoTxBytes + payload }, [.usb packet])) ∨
    (isReset packet = false ∧ kind ≠ 3 ∧ t.hostPacket kind packet payload = (t, [.usb packet])) := by
  cases reset : isReset packet with
  | true =>
    have command : kind = 1 := by
      simp only [isReset, Bool.and_eq_true, beq_iff_eq] at reset
      exact valid.first.symm.trans reset.1.1.1
    subst command
    exact .inl ⟨rfl, rfl, by simp [hostPacket, reset, afterReset]⟩
  | false =>
    by_cases audio : kind = 3
    · by_cases active : t.link.map Prod.fst = some (handle (packet.drop 1))
      · exact .inr (.inr (.inl ⟨rfl, audio, active, by simp [hostPacket, reset, audio, active]⟩))
      · have ignored : t.hostPacket kind packet payload = (t, []) := by
          simp only [hostPacket, reset, audio, active, Bool.false_eq_true, if_false, if_true, ne_eq, not_false_eq_true]
        exact .inr (.inl ⟨rfl, audio, active, ignored⟩)
    · exact .inr (.inr (.inr ⟨rfl, audio, by simp [hostPacket, reset, audio]⟩))

/-- The receiving side of a framed packet: a connection opens the link, a
disconnection of its handle closes it, audio follows the active link, and every
other packet is forwarded with the link unchanged. -/
theorem packet_cases {t after : Transport} {kind : UInt8} {packet : Bytes} {actions : List Action}
    (done : t.packet kind packet = .ok (after, actions)) :
    (∃ id mode, kind = 4 ∧ connection packet = some (id, mode) ∧ (mode = 2 ∨ mode = 3) ∧ t.link = none ∧
      after = { t with link := some (id, mode), sco := {}, scoRxBytes := 0, scoTxBytes := 0 } ∧
      actions = [.sco mode, .host packet]) ∨
    (∃ id, kind = 4 ∧ disconnection packet = some id ∧ t.link.map Prod.fst = some id ∧
      after = { t with link := none, sco := {} } ∧ actions = [.sco 0, .host packet]) ∨
    (kind = 4 ∧ (∀ link, connection packet = some link → t.link = some link) ∧
      (∀ id, disconnection packet = some id → t.link.map Prod.fst ≠ some id) ∧
      after = t ∧ actions = [.host packet]) ∨
    (kind = 3 ∧ t.link.map Prod.fst ≠ some (handle (packet.drop 1)) ∧ after = t ∧ actions = []) ∨
    (kind = 3 ∧ t.link.map Prod.fst = some (handle (packet.drop 1)) ∧
      after = { t with scoRxBytes := t.scoRxBytes + (packet.length - 4) } ∧ actions = [.host packet]) ∨
    (kind ≠ 3 ∧ kind ≠ 4 ∧ after = t ∧ actions = [.host packet]) := by
  unfold Transport.packet at done
  by_cases event : kind = 4
  · simp only [event, if_true] at done
    cases reported : connection packet with
    | none =>
      simp only [connected, reported, disconnected] at done
      cases lost : disconnection packet with
      | none =>
        simp only [lost, Except.ok.injEq, Prod.mk.injEq] at done
        exact .inr (.inr (.inl ⟨event, by simp, by simp, done.1.symm, by simpa using done.2.symm⟩))
      | some id =>
        by_cases active : t.link.map Prod.fst = some id
        · simp only [lost, active, if_true, Except.ok.injEq, Prod.mk.injEq] at done
          exact .inr (.inl ⟨id, event, rfl, active, done.1.symm, by simpa using done.2.symm⟩)
        · simp only [lost, active, if_false, Except.ok.injEq, Prod.mk.injEq] at done
          refine .inr (.inr (.inl ⟨event, by simp, ?_, done.1.symm, by simpa using done.2.symm⟩))
          rintro _ ⟨rfl⟩
          exact active
    | some link =>
      obtain ⟨id, mode⟩ := link
      -- Connection and disconnection events have different event codes.
      have kept : disconnection packet = none := by
        simp only [connection] at reported
        split_ifs at reported with synchronous legacy
        · simp [disconnection, synchronous.1]
        · simp [disconnection, legacy.1]
      simp only [connected, reported] at done
      split_ifs at done with unsupported multiple fresh
      · simp only [disconnected, kept, Except.ok.injEq, Prod.mk.injEq] at done
        refine .inl ⟨id, mode, event, rfl, ?_, by simpa using fresh, done.1.symm, by simpa using done.2.symm⟩
        by_contra other
        exact unsupported (.inr (by tauto))
      · simp only [disconnected, kept, Except.ok.injEq, Prod.mk.injEq] at done
        refine .inr (.inr (.inl ⟨event, ?_, by simp [kept], done.1.symm, by simpa using done.2.symm⟩))
        rintro _ ⟨rfl⟩
        by_contra other
        exact multiple ⟨by cases held : t.link <;> simp_all, other⟩
  · simp only [event, if_false] at done
    by_cases audio : kind = 3
    · simp only [audio, if_true] at done
      by_cases active : t.link.map Prod.fst = some (handle (packet.drop 1))
      · simp only [active, ne_eq, not_true_eq_false, if_false, Except.ok.injEq, Prod.mk.injEq] at done
        exact .inr (.inr (.inr (.inr (.inl ⟨audio, active, done.1.symm, done.2.symm⟩))))
      · simp only [active, ne_eq, not_false_eq_true, if_true, Except.ok.injEq, Prod.mk.injEq] at done
        exact .inr (.inr (.inr (.inl ⟨audio, active, done.1.symm, done.2.symm⟩)))
    · simp only [audio, if_false, Except.ok.injEq, Prod.mk.injEq] at done
      exact .inr (.inr (.inr (.inr (.inr ⟨audio, event, done.1.symm, done.2.symm⟩))))

/-- A receive call ignores audio without a link, or frames its chunk and then
handles the completed packets in order. -/
theorem usb_ok {t after : Transport} {kind : UInt8} {bytes : Bytes} {actions : List Action}
    (done : t.usb kind bytes = (after, .ok actions)) :
    (kind = 3 ∧ t.link = none ∧ after = { t with sco := {} } ∧ actions = []) ∨
    ∃ framed frames, t.frame kind bytes = (framed, .ok frames) ∧
      framed.packets kind frames = (after, .ok actions) := by
  unfold usb at done
  split_ifs at done with idle
  · cases done
    exact .inl ⟨idle.1, by simpa using idle.2, rfl, rfl⟩
  · rcases pushed : t.frame kind bytes with ⟨framed, reason | frames⟩
    · simp [pushed] at done
    · exact .inr ⟨framed, frames, rfl, by simpa [pushed] using done⟩

/-- Reassembly changes buffers only. -/
@[simp] theorem frame_link (t : Transport) (kind : UInt8) (bytes : Bytes) :
    (t.frame kind bytes).1.link = t.link := by
  unfold frame
  split <;> rfl

end FlossDesktop.Transport
