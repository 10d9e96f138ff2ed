import FlossDesktop.Proofs.LoopOrder
import FlossDesktop.Proofs.PoolPressure

/-! The helper under pressure. In a run where libusb refuses nothing, a transmission
that finds the pool full stays in front of the queue and is tried again. Two things
are not held back that way: a change of the voice setting, and the packets from the
radio that queue up behind a transmission that waits. -/

namespace FlossDesktop.Helper
open MainLoop Usb

variable {h next : Helper} {waiting : Option Bytes}

/-- Nothing libusb does in this turn is a failure. -/
def Healthy (h : Helper) : Turn → Prop
  | .loop _ => True
  | .send supply => supply = {}
  | .change switch => ∀ mode, h.loop.phase = .changing mode → h.usb.alternate mode.toNat ≠ h.usb.alt →
      h.usb.Smooth switch
  | .pump poll => h.usb.NormalAll poll.completions ∧ (poll.code = 0 ∨ poll.code = libusbErrorInterrupted)

/-- The transmission that waits for a slot after this turn. -/
def waitingAfter (h : Helper) (waiting : Option Bytes) : Turn → Option Bytes
  | .send supply =>
    match h.loop.pending with
    | .usb packet :: _ => if (h.usb.send (packet.headD 0) packet.tail supply).2 = -enobufs then some packet else none
    | _ => waiting
  | _ => waiting

/-- What a run of healthy turns reaches, with the transmission that waits there. -/
inductive Reached (endpoints : Endpoints) : Helper → Option Bytes → Prop where
  | started : Reached endpoints (started endpoints) none
  | turn {h next : Helper} {waiting : Option Bytes} {turn : Turn} (reached : Reached endpoints h waiting)
      (healthy : Healthy h turn) (taken : h.turn turn = some next) : Reached endpoints next (waitingAfter h waiting turn)

def queueOverflow : String := "bounded HCI action queue overflow"

/-- The pool did no harm in this turn: a transmission without a slot is left in front
of the queue, a supported voice setting is made, and the loop goes on. -/
def Unharmed (h : Helper) (waiting : Option Bytes) (next : Helper) : Turn → Prop
  | .loop _ => waiting.isSome → next.loop.phase ≠ .finished (.error queueOverflow)
  | .send supply => ∀ packet rest, h.loop.pending = .usb packet :: rest →
      (h.usb.send (packet.headD 0) packet.tail supply).2 = -enobufs →
      next = { h with loop := { h.loop with phase := .pumping 1 } }
  | .change _ => ∀ mode, h.loop.phase = .changing mode → h.usb.Supported mode.toNat → next.loop.phase = .executing
  | .pump _ => next.loop.phase = .top

/-- There is room for what the turn does not hold back. -/
def Roomy (h : Helper) (waiting : Option Bytes) : Turn → Prop
  | .loop _ => waiting.isSome → h.loop.phase = .draining → ∀ kind data queue,
      h.loop.incoming.queue = (kind, data) :: queue → ∀ transport actions,
      h.loop.transport.call (.usb kind data) = (transport, .ok actions) → h.loop.pending.length + actions.length ≤ 256
  | .change switch => ∀ mode, h.loop.phase = .changing mode → h.usb.Supported mode.toNat →
      h.usb.alternate mode.toNat ≠ 0 → h.usb.alternate mode.toNat ≠ h.usb.alt → h.usb.TwoFree switch
  | _ => True

/-- Callbacks inside a call only fill the incoming queue. -/
theorem run_callbacks {s : MainLoop.State} (inside : (∃ mode, s.phase = .changing mode) ∨ ∃ waitMs, s.phase = .pumping waitMs)
    (chunks : List (UInt8 × Bytes)) (events : List Event) : ∃ within : MainLoop.State,
      s.run (chunks.map (fun chunk => .callback chunk.1 chunk.2) ++ events) = within.run events ∧
      within.phase = s.phase ∧ within.pending = s.pending := by
  induction chunks generalizing s with
  | nil => exact ⟨s, rfl, rfl, rfl⟩
  | cons chunk rest ih =>
    have stepped : s.step (.callback chunk.1 chunk.2) = some (s.receive chunk.1 chunk.2) := by
      rcases inside with ⟨mode, phase⟩ | ⟨waitMs, phase⟩ <;> simp only [MainLoop.State.step, phase]
    obtain ⟨within, ran, phase, pending⟩ := @ih (s.receive chunk.1 chunk.2) inside
    refine ⟨within, ?_, phase, pending⟩
    simp only [List.map_cons, List.cons_append, MainLoop.State.run, stepped, Option.bind_some]
    exact ran

theorem returned_changing {usb : Usb} {code : Int} {mode : UInt8} (phase : h.loop.phase = .changing mode)
    (taken : h.returned usb code = some next) :
    next.usb = usb ∧ (code < 0 → ∃ reason, next.loop.phase = .finished (.error reason)) ∧
      (¬ code < 0 → next.loop.phase = .executing) := by
  obtain ⟨within, ran, kept, _⟩ := run_callbacks (.inl ⟨mode, phase⟩)
    (usb.received.drop h.usb.received.length) [.returned code]
  rw [phase] at kept
  unfold returned callbacks at taken
  rw [ran, Option.map_eq_some_iff] at taken
  obtain ⟨loop, ended, same⟩ := taken
  simp only [MainLoop.State.run, MainLoop.State.step, kept, Option.bind_some, Option.some.injEq] at ended
  subst same ended
  dsimp only
  refine ⟨rfl, fun failed => ?_, fun done => ?_⟩
  · rw [if_pos failed]
    exact ⟨_, rfl⟩
  · rw [if_neg done]
    rfl

theorem returned_pumping {usb : Usb} {code : Int} {waitMs : Nat} (phase : h.loop.phase = .pumping waitMs)
    (succeeded : ¬ code < 0) (taken : h.returned usb code = some next) :
    next.usb = usb ∧ next.loop.phase = .top ∧ next.loop.pending = h.loop.pending := by
  obtain ⟨within, ran, kept, pending⟩ := run_callbacks (.inr ⟨waitMs, phase⟩)
    (usb.received.drop h.usb.received.length) [.returned code]
  rw [phase] at kept
  unfold returned callbacks at taken
  rw [ran, Option.map_eq_some_iff] at taken
  obtain ⟨loop, ended, same⟩ := taken
  simp only [MainLoop.State.run, MainLoop.State.step, kept, Option.bind_some, Option.some.injEq, if_neg succeeded] at ended
  subst same ended
  exact ⟨rfl, rfl, pending⟩

theorem pushByte_reason {framer after : Framer} {kind : UInt8} {sco : Option Nat} {next : UInt8} {reason : String}
    (failed : framer.pushByte kind sco next = (after, .error reason)) : reason ≠ queueOverflow := by
  unfold Framer.pushByte at failed
  dsimp only at failed
  split at failed
  · cases failed
    decide
  · split_ifs at failed <;> cases failed
    decide

theorem push_reason {framer after : Framer} {kind : UInt8} {sco : Option Nat} {bytes : Bytes} {reason : String}
    (failed : framer.push kind sco bytes = (after, .error reason)) : reason ≠ queueOverflow := by
  induction bytes generalizing framer after with
  | nil => cases failed
  | cons next rest ih =>
    unfold Framer.push at failed
    rcases pushed : framer.pushByte kind sco next with ⟨middle, result⟩
    rw [pushed] at failed
    cases result with
    | more => exact ih failed
    | discard => cases failed
    | error reason =>
      cases failed
      exact pushByte_reason pushed
    | frame frame =>
      rcases later : middle.push kind sco rest with ⟨last, result⟩
      dsimp only at failed
      rw [later] at failed
      cases result with
      | ok frames => cases failed
      | error reason =>
        cases failed
        exact ih later

theorem frame_reason {t after : Transport} {kind : UInt8} {bytes : Bytes} {reason : String}
    (failed : t.frame kind bytes = (after, .error reason)) : reason ≠ queueOverflow := by
  unfold Transport.frame at failed
  split at failed
  · cases pushed : t.acl.push 2 none bytes
    rw [pushed] at failed
    cases failed
    exact push_reason pushed
  · cases pushed : t.sco.push 3 (t.link.map Prod.fst) bytes
    rw [pushed] at failed
    cases failed
    exact push_reason pushed
  · cases pushed : t.event.push 4 none bytes
    rw [pushed] at failed
    cases failed
    exact push_reason pushed
  · cases failed
    decide

theorem connected_reason {t : Transport} {frame : Bytes} {reason : String} (failed : t.connected frame = .error reason) :
    reason ≠ queueOverflow := by
  unfold Transport.connected at failed
  split at failed
  · cases failed
  · split_ifs at failed
    · cases failed
      decide
    · cases failed
      decide

theorem packetStep_reason {t after : Transport} {kind : UInt8} {frame : Bytes} {reason : String}
    (failed : Transport.packetStep kind t frame = (after, .error reason)) : reason ≠ queueOverflow := by
  unfold Transport.packetStep Transport.packet at failed
  by_cases event : kind = 4
  · cases opened : t.connected frame with
    | error cause =>
      simp only [event, if_true, opened, Prod.mk.injEq, Except.error.injEq] at failed
      rw [← failed.2]
      exact connected_reason opened
    | ok result => simp [event, opened] at failed
  · rw [if_neg event] at failed
    split_ifs at failed <;> cases failed

theorem usb_reason {t after : Transport} {kind : UInt8} {bytes : Bytes} {reason : String}
    (failed : t.usb kind bytes = (after, .error reason)) : reason ≠ queueOverflow := by
  unfold Transport.usb at failed
  split at failed
  · cases failed
  · rcases framed : t.frame kind bytes with ⟨middle, result⟩
    rw [framed] at failed
    cases result with
    | error reason =>
      cases failed
      exact frame_reason framed
    | ok frames =>
      obtain ⟨state, input, after, stepped⟩ := Feed.feed_error failed
      exact packetStep_reason stepped

/-- One instruction of the drain loop. -/
theorem drain_cases (s : MainLoop.State) :
    (s.incoming.queue = [] ∧ s.drain = { s with phase := .executing }) ∨
    ∃ kind data queue, s.incoming.queue = (kind, data) :: queue ∧
      ((∃ transport reason, s.transport.call (.usb kind data) = (transport, .error reason) ∧
          s.drain.phase = .finished (.error reason) ∧ s.drain.pending = s.pending) ∨
        ∃ transport actions, s.transport.call (.usb kind data) = (transport, .ok actions) ∧
          s.drain.pending = s.pending ++ actions ∧
          s.drain.phase = if s.pending.length + actions.length > 256 then .finished (.error queueOverflow) else .draining) := by
  unfold MainLoop.State.drain
  cases front : s.incoming.queue with
  | nil => exact .inl ⟨rfl, rfl⟩
  | cons chunk queue =>
    obtain ⟨kind, data⟩ := chunk
    refine .inr ⟨kind, data, queue, rfl, ?_⟩
    dsimp only
    rcases call_cases (s.popped data queue) (.usb kind data) .draining with
      ⟨transport, reason, called, same⟩ | ⟨transport, actions, called, same⟩
    · refine .inl ⟨transport, reason, called, ?_, ?_⟩
      · unfold MainLoop.State.popped at same
        rw [same]
      · unfold MainLoop.State.popped at same
        rw [same]
    · refine .inr ⟨transport, actions, called, ?_⟩
      unfold MainLoop.State.popped at same
      rw [same]
      dsimp only
      rw [List.length_append]
      split
      · exact ⟨rfl, rfl⟩
      · exact ⟨rfl, rfl⟩

/-- What holds between turns. A transmission that waits stays in front, and the loop
neither reads from the host nor changes the voice setting past it. -/
structure Sound (h : Helper) (waiting : Option Bytes) : Prop where
  usb : h.usb.Steady
  front : ∀ packet, waiting = some packet → h.loop.pending.head? = some (.usb packet)
  place : waiting.isSome → (∃ waitMs, h.loop.phase = .pumping waitMs) ∨ h.loop.phase = .top ∨
    h.loop.phase = .draining ∨ h.loop.phase = .executing ∨ ∃ result, h.loop.phase = .finished result

theorem head_append {action : Action} {pending : List Action} (front : pending.head? = some action)
    (actions : List Action) : (pending ++ actions).head? = some action := by
  rw [List.head?_append, front]
  rfl

theorem loop_taken {event : Event} (taken : h.turn (.loop event) = some next) :
    next.usb = h.usb ∧ h.loop.step event = some next.loop ∧
      (∀ code, event ≠ .sent code) ∧ (∀ code, event ≠ .returned code) ∧ ∀ kind buffer, event ≠ .callback kind buffer := by
  cases event with
  | sent code => cases taken
  | returned code => cases taken
  | callback kind buffer => cases taken
  | _ =>
    obtain ⟨loop, stepped, same⟩ := Option.map_eq_some_iff.mp taken
    subst same
    exact ⟨rfl, stepped, by simp⟩

/-- While a transmission waits, the loop by itself only gets back to it. -/
theorem Sound.loop_step {event : Event} (sound : Sound h waiting) {packet : Bytes} (waits : waiting = some packet)
    (taken : h.turn (.loop event) = some next) :
    (next.loop.pending = h.loop.pending ∧ (next.loop.phase = .draining ∨ next.loop.phase = .finished (.ok ()) ∨
        next.loop.phase = .finished (.error "bounded USB receive queue overflow")) ∧ h.loop.phase = .top) ∨
      (h.loop.phase = .draining ∧ next.loop = h.loop.drain) := by
  obtain ⟨_, stepped, unsent, inside, uncalled⟩ := loop_taken taken
  have front := sound.front packet waits
  rcases sound.place (by rw [waits]; rfl) with ⟨waitMs, phase⟩ | phase | phase | phase | ⟨result, phase⟩
  · cases event <;> simp only [MainLoop.State.step, phase, reduceCtorEq] at stepped
    · exact absurd rfl (uncalled _ _)
    · exact absurd rfl (inside _)
  · cases event <;> simp only [MainLoop.State.step, phase, reduceCtorEq] at stepped
    next requested =>
      left
      cases requested
      · rw [Option.some.injEq] at stepped
        rw [← stepped]
        split
        · exact ⟨rfl, .inr (.inr rfl), phase⟩
        · exact ⟨rfl, .inl rfl, phase⟩
      · rw [Option.some.injEq] at stepped
        rw [← stepped]
        exact ⟨rfl, .inr (.inl rfl), phase⟩
  · cases event <;> simp only [MainLoop.State.step, phase, reduceCtorEq, Option.some.injEq] at stepped
    exact .inr ⟨phase, stepped.symm⟩
  · obtain ⟨rest, queued⟩ : ∃ rest, h.loop.pending = .usb packet :: rest := List.head?_eq_some_iff.mp front
    cases event <;> simp only [MainLoop.State.step, phase, queued, reduceCtorEq] at stepped
    exact absurd rfl (unsent _)
  · cases event <;> simp [MainLoop.State.step, phase] at stepped

theorem send_taken {supply : Supply} (taken : h.turn (.send supply) = some next) : ∃ packet rest,
    h.loop.phase = .executing ∧ h.loop.pending = .usb packet :: rest ∧
      next.usb = (h.usb.send (packet.headD 0) packet.tail supply).1 ∧
      next.loop = h.loop.sent packet rest (h.usb.send (packet.headD 0) packet.tail supply).2 := by
  simp only [Helper.turn] at taken
  split at taken
  next packet rest phase front =>
    obtain ⟨loop, stepped, same⟩ := Option.map_eq_some_iff.mp taken
    simp only [MainLoop.State.step, phase, front, Option.some.injEq] at stepped
    subst same
    exact ⟨packet, rest, phase, front, rfl, stepped.symm⟩
  · cases taken

theorem change_taken {switch : Switch} (taken : h.turn (.change switch) = some next) : ∃ mode : UInt8,
    h.loop.phase = .changing mode ∧
      h.returned (h.usb.setSco mode.toNat switch).1 (h.usb.setSco mode.toNat switch).2 = some next := by
  simp only [Helper.turn] at taken
  split at taken
  next mode phase => exact ⟨mode, phase, taken⟩
  · cases taken

theorem pump_taken {poll : Poll} (steady : h.usb.Steady) (healthy : Healthy h (.pump poll))
    (taken : h.turn (.pump poll) = some next) :
    (∃ waitMs, h.loop.phase = .pumping waitMs) ∧ next.usb.Steady ∧ next.loop.phase = .top ∧
      next.loop.pending = h.loop.pending := by
  have after := steady.completions healthy.1
  have code : (h.usb.pump poll).2 = 0 := by
    unfold pump
    rcases healthy.2 with none | interrupted
    · simpa [none] using after.working
    · simpa [interrupted] using after.working
  simp only [Helper.turn] at taken
  split at taken
  next waitMs phase =>
    obtain ⟨usb, top, pending⟩ := returned_pumping phase (by rw [code]; decide) taken
    refine ⟨⟨waitMs, phase⟩, ?_, top, pending⟩
    rw [usb]
    exact after
  · cases taken

namespace Sound

theorem turn {turn : Turn} (sound : Sound h waiting) (healthy : Healthy h turn) (taken : h.turn turn = some next) :
    Sound next (waitingAfter h waiting turn) := by
  cases turn with
  | loop event =>
    have usb := (loop_taken taken).1
    refine ⟨usb ▸ sound.usb, ?_, ?_⟩
    · intro packet waits
      have front := sound.front packet waits
      rcases sound.loop_step waits taken with ⟨pending, _⟩ | ⟨_, drained⟩
      · rw [pending]
        exact front
      · rw [drained]
        rcases drain_cases h.loop with ⟨_, same⟩ | ⟨_, _, _, _, ⟨_, _, _, _, same⟩ | ⟨_, actions, _, same, _⟩⟩
        · rw [same]
          exact front
        · rw [same]
          exact front
        · rw [same]
          exact head_append front actions
    · intro waits
      obtain ⟨packet, same⟩ := Option.isSome_iff_exists.mp waits
      rcases sound.loop_step same taken with ⟨_, phase, _⟩ | ⟨_, drained⟩
      · rcases phase with phase | phase | phase
        · exact .inr (.inr (.inl phase))
        · exact .inr (.inr (.inr (.inr ⟨_, phase⟩)))
        · exact .inr (.inr (.inr (.inr ⟨_, phase⟩)))
      · rw [drained]
        rcases drain_cases h.loop with ⟨_, same⟩ | ⟨_, _, _, _, ⟨_, _, _, phase, _⟩ | ⟨_, _, _, _, phase⟩⟩
        · rw [same]
          exact .inr (.inr (.inr (.inl rfl)))
        · exact .inr (.inr (.inr (.inr ⟨_, phase⟩)))
        · split at phase
          · exact .inr (.inr (.inr (.inr ⟨_, phase⟩)))
          · exact .inr (.inr (.inl phase))
  | send supply =>
    obtain ⟨packet, rest, phase, front, usb, loop⟩ := send_taken taken
    have steady := sound.usb.send (packet.headD 0) packet.tail supply
    rw [← usb] at steady
    unfold waitingAfter
    simp only [front]
    by_cases full : (h.usb.send (packet.headD 0) packet.tail supply).2 = -enobufs
    · have pumped : next.loop = h.loop.pump true := by
        rw [loop, full]
        rfl
      rw [if_pos full]
      refine ⟨steady, ?_, fun _ => .inl ⟨1, ?_⟩⟩
      · intro other same
        rw [pumped, ← Option.some.inj same]
        show h.loop.pending.head? = _
        rw [front]
        rfl
      · rw [pumped]
        rfl
    · rw [if_neg full]
      exact ⟨steady, nofun, nofun⟩
  | change switch =>
    obtain ⟨mode, phase, ended⟩ := change_taken taken
    have usb := (returned_changing phase ended).1
    have idle : waiting = none := by
      rw [← Option.not_isSome_iff_eq_none]
      intro waits
      rcases sound.place waits with ⟨_, other⟩ | other | other | other | ⟨_, other⟩ <;> rw [phase] at other <;> cases other
    subst idle
    refine ⟨?_, nofun, nofun⟩
    rw [usb]
    exact sound.usb.setSco (healthy mode phase)
  | pump poll =>
    obtain ⟨_, steady, top, pending⟩ := pump_taken sound.usb healthy taken
    refine ⟨steady, ?_, fun _ => .inr (.inl top)⟩
    intro packet waits
    rw [pending]
    exact sound.front packet waits

theorem reached {endpoints : Endpoints} (reached : Reached endpoints h waiting) : Sound h waiting := by
  induction reached with
  | started => exact ⟨steady_claimed endpoints, nofun, nofun⟩
  | turn _ healthy taken ih => exact ih.turn healthy taken

/-- A change of the voice setting goes through exactly if it finds two free slots. -/
theorem change {switch : Switch} (sound : Sound h waiting) (healthy : Healthy h (.change switch))
    (taken : h.turn (.change switch) = some next) :
    Unharmed h waiting next (.change switch) ↔ Roomy h waiting (.change switch) := by
  obtain ⟨mode, phase, ended⟩ := change_taken taken
  obtain ⟨_, failed, done⟩ := returned_changing phase ended
  have code : h.usb.Supported mode.toNat → h.usb.alternate mode.toNat ≠ h.usb.alt →
      (h.usb.setSco mode.toNat switch).2 =
        if h.usb.alternate mode.toNat = 0 ∨ h.usb.TwoFree switch then 0 else -eio := fun supported other =>
    (setSco_smooth sound.usb.owned sound.usb.running sound.usb.working supported other (healthy mode phase other)).2.2
  constructor
  · intro unharmed other same supported on apart
    obtain rfl : mode = other := by
      rw [phase] at same
      exact Phase.changing.inj same
    have executing := unharmed mode phase supported
    by_contra crowded
    rw [code supported apart, if_neg (not_or.mpr ⟨on, crowded⟩)] at failed
    obtain ⟨reason, ended⟩ := failed (by decide)
    rw [executing] at ended
    cases ended
  · intro roomy other same supported
    obtain rfl : mode = other := by
      rw [phase] at same
      exact Phase.changing.inj same
    apply done
    by_cases current : h.usb.alternate mode.toNat = h.usb.alt
    · rw [setSco_current supported switch current]
      exact Int.lt_irrefl 0
    · have room : h.usb.alternate mode.toNat = 0 ∨ h.usb.TwoFree switch := by
        by_cases off : h.usb.alternate mode.toNat = 0
        · exact .inl off
        · exact .inr (roomy mode phase supported off current)
      rw [code supported current, if_pos room]
      decide

/-- The queue behind a transmission that waits overflows exactly if a chunk from the
radio brings too many actions. -/
theorem loop {event : Event} (sound : Sound h waiting) (taken : h.turn (.loop event) = some next) :
    Unharmed h waiting next (.loop event) ↔ Roomy h waiting (.loop event) := by
  constructor
  · intro unharmed waits phase kind data queue front transport actions called
    obtain ⟨packet, same⟩ := Option.isSome_iff_exists.mp waits
    rcases sound.loop_step same taken with ⟨_, _, top⟩ | ⟨_, drained⟩
    · rw [phase] at top
      cases top
    · by_contra crowded
      rcases drain_cases h.loop with ⟨empty, _⟩ | ⟨_, _, _, again, split⟩
      · rw [front] at empty
        cases empty
      · rw [front] at again
        cases again
        rcases split with ⟨_, _, refused, _⟩ | ⟨_, _, accepted, _, ended⟩
        · rw [called] at refused
          cases refused
        · rw [called] at accepted
          cases accepted
          rw [if_pos (Nat.lt_of_not_le crowded)] at ended
          exact unharmed waits (drained ▸ ended)
  · intro roomy waits overflowed
    obtain ⟨packet, same⟩ := Option.isSome_iff_exists.mp waits
    rcases sound.loop_step same taken with ⟨_, phase, _⟩ | ⟨phase, drained⟩
    · rw [overflowed] at phase
      rcases phase with phase | phase | phase
      · cases phase
      · cases phase
      · simp [queueOverflow] at phase
    · rw [drained] at overflowed
      rcases drain_cases h.loop with ⟨_, ended⟩ | ⟨kind, data, queue, front, split⟩
      · rw [ended] at overflowed
        cases overflowed
      · rcases split with ⟨_, _, refused, ended, _⟩ | ⟨_, actions, accepted, _, ended⟩
        · rw [ended] at overflowed
          cases overflowed
          exact usb_reason refused rfl
        · rw [if_neg (Nat.not_lt.mpr (roomy waits phase kind data queue front _ actions accepted))] at ended
          rw [ended] at overflowed
          cases overflowed

end Sound

/-- In a run where libusb refuses nothing, a transmission that finds no free slot stays
in front of the queue, and a turn is harmed by the full pool exactly if it changes the
voice setting with fewer than two slots left, or brings more actions than fit behind a
transmission that waits. -/
theorem pool_pressure_harmless_iff {endpoints : Endpoints} (reached : Reached endpoints h waiting) :
    (∀ packet, waiting = some packet → h.loop.pending.head? = some (.usb packet)) ∧
      ∀ turn next, Healthy h turn → h.turn turn = some next → (Unharmed h waiting next turn ↔ Roomy h waiting turn) := by
  have sound := Sound.reached reached
  refine ⟨sound.front, ?_⟩
  intro turn next healthy taken
  cases turn with
  | loop event => exact sound.loop taken
  | send supply =>
    refine iff_of_true ?_ trivial
    intro packet rest front full
    obtain ⟨other, _, _, again, usb, loop⟩ := send_taken taken
    rw [front] at again
    cases again
    obtain rfl : supply = {} := healthy
    have same := send_exhausted full
    rw [full] at loop
    rw [same] at usb
    obtain ⟨last, owner⟩ := next
    dsimp only at usb loop
    rw [usb, loop]
    rfl
  | change switch => exact sound.change healthy taken
  | pump poll => exact iff_of_true (pump_taken sound.usb healthy taken).2.2.1 trivial

/-- Turns in which libusb reports nothing at all. -/
def Quiet : Turn → Bool
  | .loop _ => true
  | .send supply => supply == {}
  | .change _ => false
  | .pump poll => poll.completions.isEmpty && poll.code == 0

theorem Reached.quiet {endpoints : Endpoints} {turns : List Turn} (reached : Reached endpoints h waiting)
    (quiet : turns.all Quiet = true) (ran : h.run turns = some next) : ∃ waiting, Reached endpoints next waiting := by
  induction turns generalizing h waiting with
  | nil =>
    cases ran
    exact ⟨waiting, reached⟩
  | cons turn rest ih =>
    rw [List.all_cons, Bool.and_eq_true] at quiet
    obtain ⟨middle, taken, later⟩ := Option.bind_eq_some_iff.mp ran
    have healthy : Healthy h turn := by
      cases turn with
      | loop event => trivial
      | send supply => exact beq_iff_eq.mp quiet.1
      | change switch => cases quiet.1
      | pump poll =>
        obtain ⟨none, code⟩ := Bool.and_eq_true_iff.mp quiet.1
        refine ⟨?_, .inl (beq_iff_eq.mp code)⟩
        rw [List.isEmpty_iff.mp none]
        trivial
    exact ih (.turn reached healthy taken) quiet.2 later

def demoEndpoints : Endpoints :=
  { interruptIn := 0x81, bulkIn := 0x82, bulkOut := 0x02, isoIn := 0x83, isoOut := 0x03, isoSize := 17, wbsAlt := 6
    wbsSize := 63 }

def voiceConnected : Bytes := [0x2c, 17, 0, 5, 0, 0, 0, 0, 0, 0, 0, 2, 0, 0, 0, 0, 0, 0, 2]

/-- The start of a pass, with nothing received. -/
def passTop : List Turn := [.loop (.stopping false), .loop .proceed]

/-- The host sends ACL packets, and the next pass hands them to libusb. -/
def hostBurst (packets : Nat) : List Turn :=
  [.loop .proceed] ++ List.replicate packets (.loop (.read (.packet [2, 1, 0, 1, 0, 7]))) ++
    [.loop (.read .wouldBlock), .pump {}] ++ passTop ++ List.replicate packets (.send {})

/-- Sixty-nine transmissions are under way beside the three receivers. -/
def fill : List Turn := passTop ++ hostBurst 30 ++ hostBurst 30 ++ hostBurst 9

def crowd : List Turn := fill ++ [.loop .proceed, .loop (.read .wouldBlock)]

def voiceEvent : Completion := { transfer := 0, actualLength := 19, data := voiceConnected }

def voicePass : List Turn := [.loop (.stopping false), .loop .proceed, .loop .proceed, .loop .proceed]

def voiceSwitch : Switch := { descriptors := .ok demoEndpoints }

def crowded : Option Helper := (started demoEndpoints).run crowd

def crowdedVoice : Option Helper := (crowded.bind (·.turn (.pump { completions := [voiceEvent] }))).bind (·.run voicePass)

/-- The event receiver is the transfer that completes. -/
def listens (h : Helper) : Bool :=
  (h.usb.transfers.cells 0).all fun transfer => transfer.userData.all fun index => (h.usb.slots index).receive

def endsWith (h : Helper) (reason : String) : Bool :=
  match h.loop.phase with
  | .finished (.error other) => other == reason
  | _ => false

def changesTo (h : Helper) (mode : UInt8) : Bool :=
  match h.loop.phase with
  | .changing other => other == mode
  | _ => false

set_option maxRecDepth 100000 in
theorem crowded_listens : crowded.any listens = true := by decide +kernel

set_option maxRecDepth 100000 in
theorem crowdedVoice_fails : crowdedVoice.any (fun h => changesTo h 2 &&
    ((({ h.usb with stoppingSco := true } : Usb).cancel true {}).2 == 0) &&
    (h.turn (.change voiceSwitch)).any (endsWith · "USB SCO endpoint change failed (-5)")) = true := by decide +kernel

/-- With all slots taken, the connection of a voice link ends the helper. -/
theorem crowded_voice_change_fails : ∃ h waiting next, Reached demoEndpoints h waiting ∧
    Healthy h (.change voiceSwitch) ∧ h.turn (.change voiceSwitch) = some next ∧ h.loop.phase = .changing 2 ∧
    h.usb.Supported 2 ∧ next.loop.phase = .finished (.error "USB SCO endpoint change failed (-5)") := by
  obtain ⟨busy, filled, listening⟩ := (Option.any_eq_true _ _).mp crowded_listens
  obtain ⟨h, connected, facts⟩ := (Option.any_eq_true _ _).mp crowdedVoice_fails
  obtain ⟨middle, pumped, passed⟩ := Option.bind_eq_some_iff.mp connected
  rw [filled, Option.bind_some] at pumped
  obtain ⟨early, crowd⟩ := (Reached.started : Reached demoEndpoints (started demoEndpoints) none).quiet (by decide) filled
  have normal : busy.usb.Normal voiceEvent := by
    refine ⟨rfl, fun _ => rfl, ?_⟩
    intro transfer index stored mine
    refine .inl ⟨rfl, fun sends => ?_⟩
    have receives : (busy.usb.slots index).receive = true := by
      have held : busy.usb.transfers.cells 0 = some transfer := stored
      simpa [listens, held, mine] using listening
    rw [receives] at sends
    cases sends
  have healthy : Healthy busy (.pump { completions := [voiceEvent] }) := ⟨⟨normal, trivial⟩, .inl rfl⟩
  have delivered := Reached.turn crowd healthy pumped
  obtain ⟨waiting, reached⟩ := delivered.quiet (by decide) passed
  simp only [Bool.and_eq_true, beq_iff_eq] at facts
  obtain ⟨⟨changing, cancelled⟩, ended⟩ := facts
  obtain ⟨next, taken, failed⟩ := (Option.any_eq_true _ _).mp ended
  refine ⟨h, waiting, next, reached, ?_, taken, ?_, .inr ⟨.inl rfl, by simp [alternate]⟩, ?_⟩
  · intro mode _ _
    exact ⟨⟨trivial, cancelled⟩, rfl, ⟨demoEndpoints, rfl⟩, rfl, rfl, rfl⟩
  · unfold changesTo at changing
    split at changing
    next other phase => rw [phase, beq_iff_eq.mp changing]
    · cases changing
  · unfold endsWith at failed
    split at failed
    next other phase => rw [phase, beq_iff_eq.mp failed]
    · cases failed

/-- The host sends one packet more, and the next pass comes to it. -/
def starved : Option Helper :=
  (started demoEndpoints).run (fill ++ [.loop .proceed, .loop (.read (.packet [2, 1, 0, 1, 0, 7])),
    .loop (.read .wouldBlock), .pump {}] ++ passTop)

set_option maxRecDepth 100000 in
theorem starved_refuses : starved.any (fun h => h.loop.pending == [.usb [2, 1, 0, 1, 0, 7]] &&
    (h.usb.send 2 [1, 0, 1, 0, 7] {}).2 == -enobufs && (h.turn (.send {})).isSome) = true := by decide +kernel

/-- The seventieth transmission finds no slot. It does no harm: the packet is still in
front of the queue when the helper goes on to pump, and libusb has not been touched. -/
theorem pool_harmless_when_starved : ∃ h waiting next, Reached demoEndpoints h waiting ∧
    (h.usb.send 2 [1, 0, 1, 0, 7] {}).2 = -enobufs ∧ h.turn (.send {}) = some next ∧
    next = { h with loop := { h.loop with phase := .pumping 1 } } ∧
    next.loop.pending.head? = some (.usb [2, 1, 0, 1, 0, 7]) := by
  obtain ⟨h, ran, facts⟩ := (Option.any_eq_true _ _).mp starved_refuses
  simp only [Bool.and_eq_true, beq_iff_eq] at facts
  obtain ⟨⟨front, full⟩, possible⟩ := facts
  obtain ⟨next, taken⟩ := Option.isSome_iff_exists.mp possible
  obtain ⟨waiting, reached⟩ :=
    (Reached.started : Reached demoEndpoints (started demoEndpoints) none).quiet (by decide) ran
  have unharmed := ((pool_pressure_harmless_iff reached).2 (.send {}) next (by rfl) taken).mpr (by trivial)
  have kept := unharmed _ [] front full
  refine ⟨h, waiting, next, reached, full, taken, kept, ?_⟩
  have waits : waitingAfter h waiting (.send {}) = some [2, 1, 0, 1, 0, 7] := by
    simp only [waitingAfter, front]
    exact if_pos full
  exact (pool_pressure_harmless_iff (.turn reached (by rfl) taken)).1 _ waits

end FlossDesktop.Helper
