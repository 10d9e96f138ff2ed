import FlossDesktop.Controller
import FlossDesktop.Proofs.ScoOrder

/-! A reset against events that are still in flight. The link after a reset is
decided by the event packets handled since, in the order of their arrival. -/

namespace FlossDesktop.Proofs.ResetOrder
open Transport ScoOrder

/-- What one event packet does to the link. -/
inductive Handles : Option Link → Bytes → Option Link → Prop where
  | opened (frame : Bytes) (link : Link) (reported : connection frame = some link) : Handles none frame (some link)
  | closed (frame : Bytes) (link : Link) (reported : disconnection frame = some link.1) : Handles (some link) frame none
  | kept (frame : Bytes) (link : Option Link) (known : ∀ active, connection frame = some active → link = some active)
      (other : ∀ id, disconnection frame = some id → link.map Prod.fst ≠ some id) : Handles link frame link

inductive Trace : Option Link → List Bytes → Option Link → Prop where
  | nil (link : Option Link) : Trace link [] link
  | cons {link middle after : Option Link} {frame : Bytes} {rest : List Bytes} (first : Handles link frame middle)
      (later : Trace middle rest after) : Trace link (frame :: rest) after

theorem Trace.append {link middle after : Option Link} {first second : List Bytes} (early : Trace link first middle)
    (late : Trace middle second after) : Trace link (first ++ second) after := by
  induction early with
  | nil => exact late
  | cons handled _ ih => exact .cons handled (ih late)

theorem packet_handles {t after : Transport} {frame : Bytes} {actions : List Action}
    (done : t.packet 4 frame = .ok (after, actions)) : Handles t.link frame after.link := by
  rcases packet_cases done with ⟨id, mode, _, reported, _, free, rfl, _⟩ | ⟨id, _, reported, active, rfl, _⟩ |
    ⟨_, known, other, rfl, _⟩ | ⟨three, _⟩ | ⟨three, _⟩ | ⟨_, other, _⟩
  · rw [free]
    exact .opened frame (id, mode) reported
  · obtain ⟨link, held, rfl⟩ := Option.map_eq_some_iff.mp active
    rw [held]
    exact .closed frame link reported
  · exact .kept frame after.link known other
  · cases three
  · cases three
  · exact absurd rfl other

theorem packets_trace {t after : Transport} {frames : List Bytes} {actions : List Action}
    (done : t.packets 4 frames = (after, .ok actions)) : Trace t.link frames after.link := by
  induction frames generalizing t actions with
  | nil =>
    cases done
    exact .nil _
  | cons frame rest ih =>
    obtain ⟨middle, first, later, stepped, remaining, _⟩ := Feed.feed_cons_ok.mp done
    unfold packetStep at stepped
    cases handled : t.packet 4 frame with
    | error reason => simp [handled] at stepped
    | ok result =>
      simp only [handled, Prod.mk.injEq] at stepped
      obtain ⟨rfl, _⟩ := stepped
      exact .cons (packet_handles handled) (ih remaining)

/-- Every voice connection reported in these packets is reported closed in them. -/
def Settled (frames : List Bytes) : Prop :=
  ∀ early frame late, frames = early ++ frame :: late → ∀ link, connection frame = some link →
    ∃ other ∈ late, disconnection other = some link.1

theorem settled_cons {frame : Bytes} {rest : List Bytes} :
    Settled (frame :: rest) ↔
      (∀ link, connection frame = some link → ∃ other ∈ rest, disconnection other = some link.1) ∧ Settled rest := by
  constructor
  · intro settled
    refine ⟨settled [] frame rest rfl, ?_⟩
    intro early other late divided
    exact settled (frame :: early) other late (by rw [divided]; rfl)
  · rintro ⟨first, settled⟩ early other late divided
    cases early with
    | nil =>
      cases divided
      exact first
    | cons head early =>
      cases divided
      exact settled early other late rfl

/-- An event reports a connection or a disconnection, not both. -/
theorem disconnection_only {frame : Bytes} {id : Nat} (reported : disconnection frame = some id) :
    connection frame = none := by
  simp only [disconnection] at reported
  split_ifs at reported with event
  simp [connection, event.1]

/-- The link is gone exactly if every connection was closed again, the one held
at the start included. -/
theorem trace_none {link after : Option Link} {frames : List Bytes} (trace : Trace link frames after) :
    after = none ↔ Settled frames ∧ ∀ active, link = some active →
      ∃ frame ∈ frames, disconnection frame = some active.1 := by
  induction trace with
  | nil link =>
    constructor
    · rintro rfl
      exact ⟨by intro early frame late impossible; simp at impossible, by rintro _ ⟨⟩⟩
    · rintro ⟨_, closed⟩
      cases link with
      | none => rfl
      | some active =>
        obtain ⟨_, member, _⟩ := closed active rfl
        cases member
  | cons first _ ih =>
    rw [ih, settled_cons]
    cases first with
    | opened frame link reported =>
      constructor
      · rintro ⟨settled, closed⟩
        refine ⟨⟨?_, settled⟩, by rintro _ ⟨⟩⟩
        intro other same
        rw [reported] at same
        cases same
        exact closed link rfl
      · rintro ⟨⟨first, settled⟩, _⟩
        refine ⟨settled, ?_⟩
        rintro _ ⟨rfl⟩
        exact first link reported
    | closed frame link reported =>
      constructor
      · rintro ⟨settled, _⟩
        refine ⟨⟨?_, settled⟩, ?_⟩
        · intro other same
          rw [disconnection_only reported] at same
          cases same
        · rintro _ ⟨rfl⟩
          exact ⟨_, List.mem_cons_self, reported⟩
      · rintro ⟨⟨_, settled⟩, _⟩
        exact ⟨settled, by rintro _ ⟨⟩⟩
    | kept frame link known other =>
      constructor
      · rintro ⟨settled, closed⟩
        refine ⟨⟨fun active same => closed active (known active same), settled⟩, ?_⟩
        intro active held
        obtain ⟨later, member, same⟩ := closed active held
        exact ⟨later, by simp [member], same⟩
      · rintro ⟨⟨_, settled⟩, closed⟩
        refine ⟨settled, ?_⟩
        intro active held
        obtain ⟨later, member, same⟩ := closed active held
        rcases List.mem_cons.mp member with rfl | member
        · exact absurd (by rw [held]; rfl) (other active.1 same)
        · exact ⟨later, member, same⟩

theorem packetStep_link {kind : UInt8} (data : kind ≠ 4) (t : Transport) (frame : Bytes) :
    (packetStep kind t frame).1.link = t.link := by
  unfold packetStep
  cases handled : t.packet kind frame with
  | error reason => rfl
  | ok result =>
    rcases packet_cases handled with ⟨_, _, four, _⟩ | ⟨_, four, _⟩ | ⟨four, _⟩ | ⟨_, _, same, _⟩ | ⟨_, _, same, _⟩ |
      ⟨_, _, same, _⟩
    · exact absurd four data
    · exact absurd four data
    · exact absurd four data
    all_goals simp only [same]

/-- Audio and data do not touch the link. -/
theorem data_link {t after : Transport} {kind : UInt8} {bytes : Bytes} {actions : List Action} (data : kind ≠ 4)
    (done : t.usb kind bytes = (after, .ok actions)) : after.link = t.link := by
  rcases usb_ok done with ⟨_, _, rfl, _⟩ | ⟨framed, frames, pushed, handled⟩
  · rfl
  · have same : framed.link = t.link := by rw [← frame_link t kind bytes, pushed]
    have kept := Feed.feed_keeps (fun next => next.link = framed.link)
      (fun state frame held => (packetStep_link data state frame).trans held) framed frames rfl
    rw [← same]
    exact (congrArg (fun result => result.1.link) handled).symm.trans kept

/-- A host packet clears the link if it is a reset, and keeps it otherwise. -/
theorem host_link {t after : Transport} {packet : Bytes} {actions : List Action}
    (done : t.host packet = (after, .ok actions)) : after.link = if isReset packet then none else t.link := by
  obtain ⟨kind, payload, valid, handled⟩ := host_ok done
  rcases hostPacket_cases t valid with ⟨reset, _, same⟩ | ⟨plain, _, _, same⟩ | ⟨plain, _, _, same⟩ |
    ⟨plain, _, same⟩ <;> rw [handled] at same <;> cases same
  · rw [if_pos reset]; rfl
  all_goals rw [plain]; rfl

/-- The transport has run on calls only, and the packets since the last reset
explain its link. -/
structure Explained (s : System) : Prop where
  ran : ∃ inputs, Transport.run {} inputs = (s.transport, .ok s.actions)
  traced : ∀ frames, s.sinceReset = some frames → Trace none frames s.transport.link

theorem Explained.call {s : System} (explained : Explained s) (input : Input) {after : Transport}
    {actions : List Action} (called : s.transport.call input = (after, .ok actions)) :
    ∃ inputs, Transport.run {} inputs = (after, .ok (s.actions ++ actions)) := by
  obtain ⟨inputs, ran⟩ := explained.ran
  refine ⟨inputs ++ [input], Feed.feed_append_ok.mpr ⟨_, _, actions, ran, ?_, rfl⟩⟩
  exact Feed.feed_cons_ok.mpr ⟨after, actions, [], called, rfl, (List.append_nil _).symm⟩

theorem Explained.step {s after : System} {move : System.Move} (explained : Explained s)
    (stepped : s.step move = some after) : Explained after := by
  cases move with
  | host packet =>
    simp only [System.step, System.host] at stepped
    rcases called : s.transport.host packet with ⟨transport, reason | actions⟩ <;> simp only [called] at stepped <;>
      cases stepped
    refine ⟨explained.call (.host packet) called, ?_⟩
    intro frames since
    have link := host_link called
    cases reset : isReset packet with
    | true =>
      simp only [reset, if_true, Option.some.injEq] at since link
      subst since
      rw [link]
      exact .nil none
    | false =>
      simp only [reset, Bool.false_eq_true, if_false] at since link
      rw [link]
      exact explained.traced frames since
  | receive kind bytes =>
    simp only [System.step, System.receive] at stepped
    split_ifs at stepped with data
    rcases called : s.transport.usb kind bytes with ⟨transport, reason | actions⟩ <;> simp only [called] at stepped <;>
      cases stepped
    have link := data_link (by rcases data with rfl | rfl <;> decide) called
    exact ⟨explained.call (.usb kind bytes) called, fun frames since => link ▸ explained.traced frames since⟩
  | command credits =>
    simp only [System.step, System.command] at stepped
    split at stepped
    · cases stepped
    · split_ifs at stepped <;> cases stepped <;> exact ⟨explained.ran, explained.traced⟩
  | emit event =>
    simp only [System.step, System.emit] at stepped
    split_ifs at stepped
    cases stepped
    exact ⟨explained.ran, explained.traced⟩
  | deliver length =>
    simp only [System.step, System.deliver] at stepped
    rcases framed : s.transport.frame 4 (s.wire.take length) with ⟨buffered, reason | frames⟩ <;>
      rcases called : s.transport.usb 4 (s.wire.take length) with ⟨transport, reason | actions⟩ <;>
      simp only [framed, called] at stepped <;> cases stepped
    refine ⟨explained.call (.usb 4 (s.wire.take length)) called, ?_⟩
    intro all since
    obtain ⟨past, before, rfl⟩ := Option.map_eq_some_iff.mp since
    rcases usb_ok called with ⟨three, _⟩ | ⟨again, packets, pushed, handled⟩
    · cases three
    · rw [framed] at pushed
      cases pushed
      have same : buffered.link = s.transport.link := by rw [← frame_link s.transport 4 (s.wire.take length), framed]
      exact (explained.traced past before).append (same ▸ packets_trace handled)

theorem explained_run {s after : System} {moves : List System.Move} (explained : Explained s)
    (ran : s.run moves = some after) : Explained after := by
  induction moves generalizing s with
  | nil =>
    cases ran
    exact explained
  | cons move rest ih =>
    obtain ⟨next, stepped, later⟩ := Option.bind_eq_some_iff.mp ran
    exact ih (explained.step stepped) later

/-- No link, no voice setting, and room for the next connection. -/
structure Clear (s : System) : Prop where
  link : s.transport.link = none
  mode : lastMode s.actions = 0
  accepts : ∀ frame id mode, connection frame = some (id, mode) → id ≤ 0x0eff → mode = 2 ∨ mode = 3 →
    ∃ after, s.transport.packet 4 frame = .ok (after, [.sco mode, .host frame]) ∧ after.link = some (id, mode)

theorem connection_only {frame : Bytes} {link : Link} (reported : connection frame = some link) :
    disconnection frame = none := by
  cases other : disconnection frame with
  | none => rfl
  | some id => rw [disconnection_only other] at reported; cases reported

theorem accepts_without_link {t : Transport} (free : t.link = none) {frame : Bytes} {id : Nat} {mode : UInt8}
    (reported : connection frame = some (id, mode)) (small : id ≤ 0x0eff) (voice : mode = 2 ∨ mode = 3) :
    ∃ after, t.packet 4 frame = .ok (after, [.sco mode, .host frame]) ∧ after.link = some (id, mode) := by
  have supported : ¬ (id > 0x0eff ∨ (mode ≠ 2 ∧ mode ≠ 3)) := by
    rintro (large | ⟨two, three⟩)
    · exact absurd small (not_le.mpr large)
    · exact voice.elim two three
  refine ⟨{ t with link := some (id, mode), sco := {}, scoRxBytes := 0, scoTxBytes := 0 }, ?_, rfl⟩
  simp [packet, connected, disconnected, reported, supported, free, connection_only reported]

theorem clear_iff {s : System} (explained : Explained s) : Clear s ↔ s.transport.link = none := by
  refine ⟨Clear.link, fun free => ⟨free, ?_, ?_⟩⟩
  · obtain ⟨inputs, ran⟩ := explained.ran
    obtain ⟨history, observed, same⟩ := observeRun_follows ran
    rw [← same]
    exact (observeRun_ordered observed).silent free
  · intro frame id mode
    exact accepts_without_link free

/-- Packets that report neither a connection nor a disconnection do not matter. -/
theorem settled_drop {early late : List Bytes} {frame : Bytes} (plain : connection frame = none)
    (quiet : disconnection frame = none) : Settled (early ++ frame :: late) ↔ Settled (early ++ late) := by
  induction early with
  | nil => simp [settled_cons, plain]
  | cons first rest ih =>
    simp only [List.cons_append, settled_cons, ih, List.mem_append, List.mem_cons]
    refine and_congr_left fun _ => forall_congr' fun link => forall_congr' fun _ => ?_
    constructor
    · rintro ⟨other, member | rfl | member, same⟩
      · exact ⟨other, .inl member, same⟩
      · rw [quiet] at same; cases same
      · exact ⟨other, .inr member, same⟩
    · rintro ⟨other, member | member, same⟩
      · exact ⟨other, .inl member, same⟩
      · exact ⟨other, .inr (.inr member), same⟩

/-- Once the completion of a reset is handled, the transport is clear exactly if
every voice connection it was told about behind the reset has been reported closed. -/
theorem reset_clears_link (moves : List System.Move) (s : System) (ran : System.run {} moves = some s)
    (between quiet : List Bytes) (credits : UInt8)
    (handled : s.sinceReset = some (between ++ (4 :: resetComplete credits) :: quiet)) :
    Clear s ↔ Settled (between ++ quiet) := by
  have start : Explained {} := ⟨⟨[], rfl⟩, by intro frames since; cases since⟩
  have explained := explained_run start ran
  have trace := trace_none (explained.traced _ handled)
  rw [clear_iff explained, trace, settled_drop rfl rfl]
  exact and_iff_left (by intro active impossible; cases impossible)

/-- The Synchronous Connection Complete event for a handle, CVSD over eSCO. -/
def voiceConnected (id : UInt8) : Bytes := [0x2c, 17, 0, id, 0, 0, 0, 0, 0, 0, 0, 2, 0, 0, 0, 0, 0, 0, 2]

/-- The Disconnection Complete event for a handle, ended by the other side. -/
def voiceDisconnected (id : UInt8) : Bytes := [0x05, 4, 0, id, 0, 0x13]

/-- A connection and its end cross a reset, and the next connection has ended when
the transport reads the completion. -/
def settledReset : List System.Move :=
  [.emit (voiceConnected 5), .host [1, 3, 12, 0], .deliver 19, .emit (voiceDisconnected 5), .command 1, .deliver 12,
    .emit (voiceConnected 6), .emit (voiceDisconnected 6), .deliver 25]

theorem settled_of_pairs {id : UInt8} {rest : List Bytes} (settled : Settled rest) :
    Settled ((4 :: voiceConnected id) :: (4 :: voiceDisconnected id) :: rest) := by
  have opened : connection (4 :: voiceConnected id) = some (id.toNat &&& 0x0fff, 2) := rfl
  have closed : disconnection (4 :: voiceDisconnected id) = some (id.toNat &&& 0x0fff) := rfl
  refine settled_cons.mpr ⟨?_, settled_cons.mpr ⟨?_, settled⟩⟩
  · intro link reported
    cases opened.symm.trans reported
    exact ⟨_, List.mem_cons_self, closed⟩
  · intro link reported
    rw [disconnection_only closed] at reported
    cases reported

theorem settled_reset_clears : ∃ s, System.run {} settledReset = some s ∧ Clear s ∧
    ∃ crossed, System.run {} (settledReset.take 3) = some crossed ∧ crossed.transport.link = some (5, 2) := by
  refine ⟨_, rfl, (reset_clears_link settledReset _ rfl [4 :: voiceConnected 5, 4 :: voiceDisconnected 5]
    [4 :: voiceConnected 6, 4 :: voiceDisconnected 6] 1 rfl).mpr ?_, _, rfl, rfl⟩
  have none_left : Settled [] := by
    intro early frame late impossible
    simp at impossible
  exact settled_of_pairs (settled_of_pairs none_left)

/-- The connection is on its way when the host resets the radio, which has not
taken the reset yet. -/
def crossedReset : List System.Move :=
  [.emit (voiceConnected 5), .host [1, 3, 12, 0], .deliver 19, .command 1, .deliver 6]

/-- Once the completion of the reset is handled the radio has no connection, yet
the transport has a link and refuses the next one. -/
theorem crossed_reset_keeps_link : ∃ s, System.run {} crossedReset = some s ∧
    s.sinceReset = some [4 :: voiceConnected 5, 4 :: resetComplete 1] ∧ s.connections = [] ∧ s.wire = [] ∧
    s.transport.link = some (5, 2) ∧ lastMode s.actions = 2 ∧ ¬ Clear s ∧
    (s.transport.usb 4 (voiceConnected 6)).2 = .error "multiple SCO connections are unsupported" := by
  refine ⟨_, rfl, rfl, rfl, rfl, rfl, rfl, ?_, rfl⟩
  intro clear
  exact absurd clear.link (by decide)

end FlossDesktop.Proofs.ResetOrder
