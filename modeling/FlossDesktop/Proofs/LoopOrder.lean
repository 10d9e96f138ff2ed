import FlossDesktop.Library.History
import FlossDesktop.MainLoop
import Mathlib.Tactic

/-! The main loop neither loses, repeats nor reorders actions. Two queues feed
it: chunks that callbacks append while a USB call is running, and actions that a
full transfer pool sends back to the front. The invariant ties both to the calls
made on the transport. -/

namespace FlossDesktop.MainLoop
open State

/-- The loop after taking the front chunk from the incoming queue. -/
def State.popped (s : State) (data : Bytes) (queue : List (UInt8 × Bytes)) : State :=
  { s with incoming := { s.incoming with queue, bytes := s.incoming.bytes - data.length } }

/-- What an event hands to the receive callback. -/
def Event.chunk : Event → Option (UInt8 × Bytes)
  | .callback kind buffer => some (kind, buffer)
  | _ => none

/-- The host packet that an event reads. -/
def Event.packet : Event → Option Bytes
  | .read (.packet bytes) => if bytes.isEmpty then none else some (bytes.take 4097)
  | _ => none

def Event.Silent (event : Event) : Prop := event.chunk = none ∧ event.packet = none

/-- Everything one instruction of the loop can do. -/
inductive Instruction (s : State) : Event → State → Prop where
  | stop (phase : s.phase = .top) :
      Instruction s (.stopping true) { s with phase := .finished (.ok ()) }
  | enter (phase : s.phase = .top) (room : s.incoming.overflow = false) :
      Instruction s (.stopping false) { s with phase := .draining }
  | drained (phase : s.phase = .draining) : Instruction s .proceed { s with phase := .executing }
  | drain (phase : s.phase = .draining) (kind : UInt8) (data : Bytes) (queue : List (UInt8 × Bytes))
      (front : s.incoming.queue = (kind, data) :: queue) :
      Instruction s .proceed ((s.popped data queue).call (.usb kind data) .draining)
  | flood (phase : s.phase = .draining) (kind : UInt8) (data : Bytes) (queue : List (UInt8 × Bytes))
      (front : s.incoming.queue = (kind, data) :: queue) (reason : String) :
      Instruction s .proceed (((s.popped data queue).call (.usb kind data) .draining).finish reason)
  | poll (phase : s.phase = .executing) (empty : s.pending = []) :
      Instruction s .proceed { s with phase := .reading 32 }
  | execute (event : Event) (silent : event.Silent) (phase : s.phase = .executing) (action : Action) (rest : List Action)
      (front : s.pending = action :: rest) : Instruction s event ({ s with pending := rest }.executed action)
  | change (phase : s.phase = .executing) (mode : UInt8) (rest : List Action) (front : s.pending = .sco mode :: rest) :
      Instruction s .proceed { s with phase := .changing mode, pending := rest }
  | changed (event : Event) (silent : event.Silent) (mode : UInt8) (phase : s.phase = .changing mode) :
      Instruction s event (s.executed (.sco mode))
  | receive (mode : UInt8) (waitMs : Nat) (phase : s.phase = .changing mode ∨ s.phase = .pumping waitMs)
      (kind : UInt8) (buffer : Bytes) : Instruction s (.callback kind buffer) (s.receive kind buffer)
  | read (left : Nat) (phase : s.phase = .reading (left + 1)) (bytes : Bytes) (content : bytes.isEmpty = false) :
      Instruction s (.read (.packet bytes)) (s.call (.host (bytes.take 4097)) (.reading left))
  | skip (left : Nat) (phase : s.phase = .reading (left + 1)) : Instruction s (.read .interrupted) { s with phase := .reading left }
  | pump (event : Event) (silent : event.Silent) (left : Nat) (phase : s.phase = .executing ∨ s.phase = .reading left) (waitMs : Nat) :
      Instruction s event { s with phase := .pumping waitMs }
  | pumped (waitMs : Nat) (phase : s.phase = .pumping waitMs) (code : Int) :
      Instruction s (.returned code) { s with phase := .top }
  | retry (event : Event) (silent : event.Silent) : Instruction s event s
  | fail (event : Event) (silent : event.Silent) (rest : List Action) (reason : String) :
      Instruction s event ({ s with pending := rest }.finish reason)

theorem drain_instruction {s : State} (phase : s.phase = .draining) : Instruction s .proceed s.drain := by
  unfold State.drain
  split
  · exact .drained phase
  next kind data queue front =>
    dsimp only
    split
    · split
      · exact .flood phase kind data queue front _
      · exact .drain phase kind data queue front
    · exact .drain phase kind data queue front

theorem execute_instruction {s next : State} {event : Event} (phase : s.phase = .executing)
    (stepped : s.step event = some next) : Instruction s event next := by
  rcases front : s.pending with _ | ⟨action, rest⟩
  · cases event <;> simp only [step, phase, front, reduceCtorEq, Option.some.injEq] at stepped
    subst stepped
    simpa only [front] using Instruction.poll phase front
  · cases action with
    | host packet =>
      cases event <;> simp only [step, phase, front, reduceCtorEq, Option.some.injEq] at stepped
      next outcome =>
        subst stepped
        cases outcome with
        | complete => exact .execute _ ⟨rfl, rfl⟩ phase (.host packet) rest front
        | short => exact .fail _ ⟨rfl, rfl⟩ rest _
        | interrupted => exact .retry _ ⟨rfl, rfl⟩
        | failed reason => exact .fail _ ⟨rfl, rfl⟩ rest reason
    | usb packet =>
      cases event <;> simp only [step, phase, front, reduceCtorEq, Option.some.injEq] at stepped
      next code =>
        subst stepped
        unfold State.sent
        split
        · exact .pump _ ⟨rfl, rfl⟩ 0 (.inl phase) _
        · split
          · exact .fail _ ⟨rfl, rfl⟩ rest _
          · exact .execute _ ⟨rfl, rfl⟩ phase (.usb packet) rest front
    | sco mode =>
      cases event <;> simp only [step, phase, front, reduceCtorEq, Option.some.injEq] at stepped
      subst stepped
      exact .change phase mode rest front

theorem read_instruction {s : State} {left : Nat} (phase : s.phase = .reading (left + 1)) (outcome : ReadOutcome) :
    Instruction s (.read outcome) (s.readHost left outcome) := by
  cases outcome with
  | packet bytes =>
    simp only [readHost]
    split
    next empty =>
      have nothing : Event.packet (.read (.packet bytes)) = none := if_pos empty
      exact .fail _ ⟨rfl, nothing⟩ s.pending _
    next content => exact .read left phase bytes (Bool.eq_false_iff.mpr content)
  | wouldBlock => exact .pump _ ⟨rfl, rfl⟩ (left + 1) (.inr phase) _
  | interrupted => exact .skip left phase
  | failed reason => exact .fail _ ⟨rfl, rfl⟩ s.pending reason

theorem step_instruction {s next : State} {event : Event} (stepped : s.step event = some next) :
    Instruction s event next := by
  cases phase : s.phase with
  | top =>
    cases event <;> simp only [step, phase, reduceCtorEq] at stepped
    next requested =>
      cases requested <;> simp only [Option.some.injEq] at stepped <;> subst stepped
      · by_cases full : s.incoming.overflow = true
        · rw [if_pos full]
          exact .fail _ ⟨rfl, rfl⟩ s.pending _
        · rw [if_neg full]
          exact .enter phase (by simpa using full)
      · exact .stop phase
  | draining =>
    cases event <;> simp only [step, phase, reduceCtorEq, Option.some.injEq] at stepped
    subst stepped
    exact drain_instruction phase
  | executing => exact execute_instruction phase stepped
  | changing mode =>
    cases event <;> simp only [step, phase, reduceCtorEq, Option.some.injEq] at stepped <;> subst stepped
    · exact .receive mode 0 (.inl phase) _ _
    · split
      · exact .fail _ ⟨rfl, rfl⟩ s.pending _
      · exact .changed _ ⟨rfl, rfl⟩ mode phase
  | reading left =>
    cases left with
    | zero =>
      cases event <;> simp only [step, phase, reduceCtorEq, Option.some.injEq] at stepped
      subst stepped
      exact .pump _ ⟨rfl, rfl⟩ 0 (.inr phase) _
    | succ left =>
      cases event <;> simp only [step, phase, reduceCtorEq, Option.some.injEq] at stepped
      subst stepped
      exact read_instruction phase _
  | pumping waitMs =>
    cases event <;> simp only [step, phase, reduceCtorEq, Option.some.injEq] at stepped <;> subst stepped
    · exact .receive 0 waitMs (.inr phase) _ _
    · split
      · exact .fail _ ⟨rfl, rfl⟩ s.pending _
      · exact .pumped waitMs phase _
  | finished result => cases event <;> simp [step, phase] at stepped

/-- The action taken from the queue whose effect is still under way. -/
def Phase.inHand : Phase → List Action
  | .changing mode => [.sco mode]
  | _ => []

def Phase.Running (phase : Phase) : Prop := ∀ result, phase ≠ .finished result

/-- The last calls are the host packets read since the burst began, with all earlier actions executed. They added what
is in the queue. -/
def Burst (s : State) (left : Nat) : Prop :=
  ∃ (earlier : List Transport.Input) (start : Transport) (packets : List Bytes), packets.length + left ≤ 32 ∧
    s.record.calls = earlier ++ packets.map .host ∧ Transport.run {} earlier = (start, .ok s.record.executed) ∧
      start.run (packets.map .host) = (s.transport, .ok s.pending)

/-- The actions executed, under way and queued are those of the calls so far. A
failing call is the last one, and it emits nothing. -/
structure Accounted (s : State) : Prop where
  current : s.phase.Running → Transport.run {} s.record.calls = (s.transport, .ok s.record.emitted)
  answered : ∃ answered t, answered <+: s.record.calls ∧ s.record.calls.length ≤ answered.length + 1 ∧
    Transport.run {} answered = (t, .ok s.record.emitted)
  complete : s.phase.Running → s.record.emitted = s.record.executed ++ s.phase.inHand ++ s.pending
  executed : s.record.executed <+: s.record.emitted
  burst : ∀ left, s.phase = .reading left → Burst s left

theorem run_snoc {t middle after : Transport} {calls : List Transport.Input} {input : Transport.Input}
    {early later : List Action} (ran : t.run calls = (middle, .ok early))
    (called : middle.call input = (after, .ok later)) :
    t.run (calls ++ [input]) = (after, .ok (early ++ later)) :=
  Feed.feed_append_ok.mpr ⟨middle, early, later, ran,
    Feed.feed_cons_ok.mpr ⟨after, later, [], called, rfl, by simp⟩, rfl⟩

/-- A call fails and ends the loop, or moves it on with more actions queued. -/
theorem call_cases (s : State) (input : Transport.Input) (next : Phase) :
    (∃ after reason, s.transport.call input = (after, .error reason) ∧
      s.call input next =
        { s with
          phase := .finished (.error reason), transport := after
          record := { s.record with calls := s.record.calls ++ [input] } }) ∨
    ∃ after actions, s.transport.call input = (after, .ok actions) ∧
      s.call input next =
        { s with
          phase := next, transport := after, pending := s.pending ++ actions
          record :=
            { s.record with
              calls := s.record.calls ++ [input], emitted := s.record.emitted ++ actions } } := by
  rcases called : s.transport.call input with ⟨after, reason | actions⟩
  · exact .inl ⟨after, reason, rfl, by simp [State.call, called, finish]⟩
  · exact .inr ⟨after, actions, rfl, by simp [State.call, called]⟩

namespace Accounted
variable {s : State}

theorem finish (sound : Accounted s) (rest : List Action) (reason : String) :
    Accounted ({ s with pending := rest }.finish reason) where
  current running := absurd rfl (running (.error reason))
  answered := sound.answered
  complete running := absurd rfl (running (.error reason))
  executed := sound.executed
  burst := by rintro _ ⟨⟩

/-- Moves between phases that touch neither queue keep the account. -/
theorem move (sound : Accounted s) (running : s.phase.Running) (idle : s.phase.inHand = [])
    (next : Phase) (nothing : next.inHand = [])
    (burst : ∀ left, next = .reading left → Burst s left) :
    Accounted { s with phase := next } where
  current _ := sound.current running
  answered := sound.answered
  complete _ := by rw [sound.complete running, idle, nothing]
  executed := sound.executed
  burst := burst

theorem call (sound : Accounted s) (running : s.phase.Running) (idle : s.phase.inHand = [])
    (input : Transport.Input) (next : Phase) (nothing : next.inHand = [])
    (burst : ∀ left, next = .reading left →
      ∃ packet, input = .host packet ∧ Burst s (left + 1)) :
    Accounted (s.call input next) := by
  have ran := sound.current running
  rcases call_cases s input next with ⟨after, reason, called, same⟩ | ⟨after, actions, called, same⟩ <;> rw [same]
  · exact
      { current := fun still => absurd rfl (still (.error reason))
        answered := ⟨s.record.calls, s.transport, ⟨[input], rfl⟩, by simp, ran⟩
        complete := fun still => absurd rfl (still (.error reason))
        executed := sound.executed
        burst := by rintro _ ⟨⟩ }
  · have grown := run_snoc ran called
    have complete := sound.complete running
    rw [idle, List.append_nil] at complete
    refine ⟨fun _ => grown, ⟨_, after, List.prefix_refl _, by simp, grown⟩, fun _ => ?_, ?_, ?_⟩
    · simp [complete, nothing]
    · exact sound.executed.trans (List.prefix_append _ _)
    · intro left entered
      obtain ⟨packet, rfl, earlier, start, packets, bounded, calls, before, read⟩ := burst left entered
      refine ⟨earlier, start, packets ++ [packet], by simp; omega, ?_, before, ?_⟩
      · rw [List.map_append, ← List.append_assoc, ← calls]
        rfl
      · rw [List.map_append]
        exact run_snoc read called

/-- The effect at the head of the account has happened. -/
theorem effect (sound : Accounted s) (running : s.phase.Running) (action : Action) (rest : List Action)
    (front : s.phase.inHand ++ s.pending = action :: rest) :
    Accounted ({ s with pending := rest }.executed action) := by
  have complete := sound.complete running
  rw [List.append_assoc, front] at complete
  exact
    { current := fun _ => sound.current running
      answered := sound.answered
      complete := fun _ => by simpa [State.executed, Phase.inHand] using complete
      executed := ⟨rest, by simpa [State.executed] using complete.symm⟩
      burst := by rintro _ ⟨⟩ }

/-- Callbacks and the byte counter are no part of the account. -/
theorem incoming (sound : Accounted s) (incoming : Incoming) (arrived : List Arrival) :
    Accounted { s with incoming, record := { s.record with arrived } } :=
  ⟨sound.current, sound.answered, sound.complete, sound.executed, sound.burst⟩

theorem step {next : State} {event : Event} (sound : Accounted s) (instruction : Instruction s event next) :
    Accounted next := by
  cases instruction with
  | stop phase =>
    exact
      { current := fun still => absurd rfl (still (.ok ()))
        answered := sound.answered
        complete := fun still => absurd rfl (still (.ok ()))
        executed := sound.executed
        burst := by rintro _ ⟨⟩ }
  | enter phase _ =>
    exact sound.move (by rw [phase]; rintro _ ⟨⟩) (by rw [phase]; rfl) .draining rfl (by rintro _ ⟨⟩)
  | drained phase =>
    exact sound.move (by rw [phase]; rintro _ ⟨⟩) (by rw [phase]; rfl) .executing rfl (by rintro _ ⟨⟩)
  | drain phase kind data queue front =>
    have popped : Accounted (s.popped data queue) := sound.incoming _ s.record.arrived
    exact popped.call (by simp only [State.popped, phase]; rintro _ ⟨⟩) (by simp only [State.popped, phase]; rfl)
      (.usb kind data) .draining rfl (by rintro _ ⟨⟩)
  | flood phase kind data queue front reason =>
    have popped : Accounted (s.popped data queue) := sound.incoming _ s.record.arrived
    have called := popped.call (by simp only [State.popped, phase]; rintro _ ⟨⟩) (by simp only [State.popped, phase]; rfl)
      (.usb kind data) .draining rfl (by rintro _ ⟨⟩)
    exact called.finish _ reason
  | poll phase empty =>
    refine sound.move (by rw [phase]; rintro _ ⟨⟩) (by rw [phase]; rfl) (.reading 32) rfl ?_
    rintro _ ⟨⟩
    have running : s.phase.Running := by rw [phase]; rintro _ ⟨⟩
    have complete := sound.complete running
    rw [phase, empty] at complete
    have executed : s.record.emitted = s.record.executed := by simpa [Phase.inHand] using complete
    exact ⟨s.record.calls, s.transport, [], by simp, by simp, executed ▸ sound.current running, by rw [empty]; rfl⟩
  | execute _ _ phase action rest front =>
    exact sound.effect (by rw [phase]; rintro _ ⟨⟩) action rest (by rw [phase, front]; rfl)
  | change phase mode rest front =>
    have running : s.phase.Running := by rw [phase]; rintro _ ⟨⟩
    have complete := sound.complete running
    rw [phase, front] at complete
    exact
      { current := fun _ => sound.current running
        answered := sound.answered
        complete := fun _ => by simpa [Phase.inHand] using complete
        executed := sound.executed
        burst := by rintro _ ⟨⟩ }
  | changed _ _ mode phase =>
    exact sound.effect (by rw [phase]; rintro _ ⟨⟩) (.sco mode) s.pending (by rw [phase]; rfl)
  | receive mode waitMs phase kind buffer => exact sound.incoming _ _
  | read left phase bytes content =>
    refine sound.call (by rw [phase]; rintro _ ⟨⟩) (by rw [phase]; rfl) (.host (bytes.take 4097)) (.reading left) rfl ?_
    rintro _ ⟨⟩
    exact ⟨_, rfl, sound.burst _ phase⟩
  | skip left phase =>
    refine sound.move (by rw [phase]; rintro _ ⟨⟩) (by rw [phase]; rfl) (.reading left) rfl ?_
    rintro _ ⟨⟩
    obtain ⟨earlier, start, packets, bounded, read⟩ := sound.burst _ phase
    exact ⟨earlier, start, packets, by omega, read⟩
  | pump _ _ left phase waitMs =>
    rcases phase with phase | phase
    all_goals exact sound.move (by rw [phase]; rintro _ ⟨⟩) (by rw [phase]; rfl) (.pumping waitMs) rfl (by rintro _ ⟨⟩)
  | pumped waitMs phase code =>
    exact sound.move (by rw [phase]; rintro _ ⟨⟩) (by rw [phase]; rfl) .top rfl (by rintro _ ⟨⟩)
  | retry => exact sound
  | fail _ _ rest reason => exact sound.finish rest reason

end Accounted

/-- The chunks given to the transport, in order. -/
def Record.given (record : Record) : List (UInt8 × Bytes) :=
  record.calls.filterMap fun input =>
    match input with
    | .usb kind bytes => some (kind, bytes)
    | .host _ => none

/-- The nonempty chunks among some arrivals, dropped ones included. -/
def chunks (arrived : List Arrival) : List (UInt8 × Bytes) :=
  arrived.filterMap fun arrival => if arrival.buffer = [] then none else some (arrival.kind, arrival.buffer)

/-- The incoming queue holds exactly what arrived and was not yet given on,
unless a chunk was dropped; from then on nothing more is given. -/
structure Received (s : State) : Prop where
  bytes : s.incoming.bytes = (s.incoming.queue.map fun chunk => chunk.2.length).sum
  flagged : ∀ arrival ∈ s.record.arrived, arrival.disposition = .dropped → s.incoming.overflow = true
  whole : s.incoming.overflow = false → s.record.given ++ s.incoming.queue = chunks s.record.arrived
  inOrder : s.record.given <+: chunks s.record.arrived
  frozen : History.Everywhere
    (fun early arrival => arrival.disposition = .dropped → s.record.given <+: chunks early) s.record.arrived
  draining : s.phase = .draining → s.incoming.overflow = false

theorem chunks_push (arrived : List Arrival) (arrival : Arrival) :
    chunks (arrived ++ [arrival]) =
      chunks arrived ++ if arrival.buffer = [] then [] else [(arrival.kind, arrival.buffer)] := by
  by_cases empty : arrival.buffer = [] <;> simp [chunks, empty]

/-- The callback queues nonempty chunks, ignores empty ones, or raises the flag. -/
theorem disposition_cases (incoming : Incoming) (kind : UInt8) (buffer : Bytes) :
    (incoming.disposition buffer = .dropped ∧ incoming.receive kind buffer = { incoming with overflow := true }) ∨
    (incoming.disposition buffer = .ignored ∧ buffer = [] ∧ incoming.receive kind buffer = incoming) ∨
    (incoming.disposition buffer = .queued ∧ buffer ≠ [] ∧
      incoming.receive kind buffer =
        { incoming with bytes := incoming.bytes + buffer.length, queue := incoming.queue ++ [(kind, buffer)] }) := by
  by_cases full : buffer.length > 4096 ∨ incoming.queue.length ≥ 128 ∨ incoming.bytes + buffer.length > 262144
  · have drop : incoming.disposition buffer = .dropped := by rw [Incoming.disposition, if_pos full]
    exact .inl ⟨drop, by simp only [Incoming.receive, drop]⟩
  · by_cases empty : buffer = []
    · have ignore : incoming.disposition buffer = .ignored := by
        rw [Incoming.disposition, if_neg full, if_pos (by simp [empty])]
      exact .inr (.inl ⟨ignore, empty, by simp only [Incoming.receive, ignore]⟩)
    · have queue : incoming.disposition buffer = .queued := by
        rw [Incoming.disposition, if_neg full, if_neg (by simp [empty])]
      exact .inr (.inr ⟨queue, empty, by simp only [Incoming.receive, queue]⟩)

namespace Received
variable {s : State}

/-- Instructions outside the two queues put no demand on what was received. -/
theorem move (sound : Received s) (next : State) (incoming : next.incoming = s.incoming)
    (arrived : next.record.arrived = s.record.arrived) (given : next.record.given = s.record.given)
    (draining : next.phase = .draining → s.incoming.overflow = false) : Received next where
  bytes := by simpa only [incoming] using sound.bytes
  flagged := by simpa only [incoming, arrived] using sound.flagged
  whole := by simpa only [incoming, arrived, given] using sound.whole
  inOrder := by simpa only [arrived, given] using sound.inOrder
  frozen := by simpa only [arrived, given] using sound.frozen
  draining := by simpa only [incoming] using draining

theorem receive (sound : Received s) (busy : s.phase ≠ .draining) (kind : UInt8) (buffer : Bytes) :
    Received (s.receive kind buffer) := by
  have grown : s.record.given <+: chunks (s.record.arrived ++ [⟨kind, buffer, s.incoming.disposition buffer⟩]) := by
    rw [chunks_push]
    exact sound.inOrder.trans (List.prefix_append _ _)
  have frozen := sound.frozen.push ⟨kind, buffer, s.incoming.disposition buffer⟩ (fun _ => sound.inOrder)
  unfold State.receive
  rcases disposition_cases s.incoming kind buffer with ⟨drop, same⟩ | ⟨ignore, rfl, same⟩ | ⟨queue, content, same⟩ <;>
    rw [same]
  · exact
      { bytes := sound.bytes
        flagged := fun _ _ _ => rfl
        whole := fun impossible => by cases impossible
        inOrder := grown
        frozen := frozen
        draining := fun phase => absurd phase busy }
  · refine ⟨sound.bytes, ?_, ?_, grown, frozen, fun phase => absurd phase busy⟩
    · intro arrival member drop
      rcases List.mem_append.mp member with old | new
      · exact sound.flagged arrival old drop
      · rw [List.mem_singleton.mp new, ignore] at drop
        cases drop
    · intro room
      rw [chunks_push, if_pos rfl, List.append_nil]
      exact sound.whole room
  · refine ⟨by simp [sound.bytes], ?_, ?_, grown, frozen, fun phase => absurd phase busy⟩
    · intro arrival member drop
      rcases List.mem_append.mp member with old | new
      · exact sound.flagged arrival old drop
      · rw [List.mem_singleton.mp new, queue] at drop
        cases drop
    · intro room
      rw [chunks_push, if_neg content, ← sound.whole room]
      simp [Record.given]

/-- Draining moves the front chunk from the queue to the transport. -/
theorem drain (sound : Received s) (phase : s.phase = .draining) (kind : UInt8) (data : Bytes)
    (queue : List (UInt8 × Bytes)) (front : s.incoming.queue = (kind, data) :: queue) :
    Received ((s.popped data queue).call (.usb kind data) .draining) := by
  have room := sound.draining phase
  have whole := sound.whole room
  rw [front] at whole
  have kept : ∀ arrival ∈ s.record.arrived, arrival.disposition ≠ .dropped := by
    intro arrival member drop
    have full := sound.flagged arrival member drop
    rw [room] at full
    cases full
  have bytes : s.incoming.bytes - data.length = (queue.map fun chunk => chunk.2.length).sum := by
    rw [sound.bytes, front]
    simp
  have settled : ∀ next : State, next.incoming = (s.popped data queue).incoming →
      next.record.arrived = s.record.arrived → next.record.given = s.record.given ++ [(kind, data)] →
      Received next := by
    intro next incoming arrived given
    have same : next.record.given ++ queue = chunks s.record.arrived := by rw [given, ← whole]; simp
    refine ⟨?_, ?_, ?_, ?_, ?_, ?_⟩
    · rw [incoming]
      exact bytes
    · rw [arrived]
      exact fun arrival member drop => absurd drop (kept arrival member)
    · intro _
      rw [incoming, arrived]
      exact same
    · rw [arrived]
      exact ⟨queue, same⟩
    · intro early arrival late divided drop
      rw [arrived] at divided
      exact absurd drop (kept arrival (by rw [divided]; simp))
    · intro _
      rw [incoming]
      exact room
  rcases call_cases (s.popped data queue) (.usb kind data) .draining with ⟨_, _, _, same⟩ | ⟨_, _, _, same⟩ <;>
    rw [same]
  · exact settled _ rfl rfl (by simp [Record.given, State.popped])
  · exact settled _ rfl rfl (by simp [Record.given, State.popped])

theorem host (sound : Received s) (packet : Bytes) (left : Nat) :
    Received (s.call (.host packet) (.reading left)) := by
  rcases call_cases s (.host packet) (.reading left) with ⟨_, _, _, same⟩ | ⟨_, _, _, same⟩ <;> rw [same]
  · exact sound.move _ rfl rfl (by simp [Record.given]) (by rintro ⟨⟩)
  · exact sound.move _ rfl rfl (by simp [Record.given]) (by rintro ⟨⟩)

theorem step {next : State} {event : Event} (sound : Received s) (instruction : Instruction s event next) :
    Received next := by
  cases instruction with
  | enter phase room => exact sound.move _ rfl rfl rfl (fun _ => room)
  | drain phase kind data queue front => exact sound.drain phase kind data queue front
  | flood phase kind data queue front reason =>
    exact (sound.drain phase kind data queue front).move _ rfl rfl rfl (by rintro ⟨⟩)
  | receive mode waitMs phase kind buffer =>
    exact sound.receive (by rcases phase with phase | phase <;> rw [phase] <;> rintro ⟨⟩) kind buffer
  | read left phase bytes => exact sound.host (bytes.take 4097) left
  | retry => exact sound
  | stop | drained | poll | execute | change | changed | skip | pump | pumped | fail =>
    exact sound.move _ rfl rfl rfl (by rintro ⟨⟩)

end Received

theorem accounted_initial : Accounted {} where
  current _ := rfl
  answered := ⟨[], {}, by simp, by simp, rfl⟩
  complete _ := rfl
  executed := by simp
  burst := by rintro _ ⟨⟩

theorem received_initial : Received {} where
  bytes := rfl
  flagged := by simp
  whole _ := rfl
  inOrder := by simp [Record.given]
  frozen := .nil
  draining := by rintro ⟨⟩

def Record.heard (record : Record) : List (UInt8 × Bytes) := record.arrived.map fun arrival => (arrival.kind, arrival.buffer)

/-- The host packets given to the transport, in order. -/
def Record.hosts (record : Record) : List Bytes :=
  record.calls.filterMap fun input =>
    match input with
    | .host packet => some packet
    | .usb _ _ => none

/-- The record is that of the events. -/
def Told (events : List Event) (record : Record) : Prop :=
  record.heard = events.filterMap Event.chunk ∧ record.hosts = events.filterMap Event.packet

theorem Told.silent {events : List Event} {event : Event} {before after : Record} (told : Told events before)
    (silent : event.Silent) (heard : after.heard = before.heard) (hosts : after.hosts = before.hosts) :
    Told (events ++ [event]) after := by
  obtain ⟨chunks, packets⟩ := told
  constructor
  · rw [List.filterMap_append, ← chunks, heard]
    simp [silent.1]
  · rw [List.filterMap_append, ← packets, hosts]
    simp [silent.2]

theorem Told.step {s next : State} {events : List Event} {event : Event} (told : Told events s.record)
    (instruction : Instruction s event next) : Told (events ++ [event]) next.record := by
  have drained : ∀ kind data queue, ((s.popped data queue).call (.usb kind data) .draining).record.heard = s.record.heard ∧
      ((s.popped data queue).call (.usb kind data) .draining).record.hosts = s.record.hosts := by
    intro kind data queue
    rcases call_cases (s.popped data queue) (.usb kind data) .draining with ⟨_, _, _, same⟩ | ⟨_, _, _, same⟩ <;>
      rw [same] <;> exact ⟨rfl, by simp [Record.hosts, State.popped]⟩
  cases instruction with
  | drain phase kind data queue =>
    exact told.silent ⟨rfl, rfl⟩ (drained kind data queue).1 (drained kind data queue).2
  | flood phase kind data queue =>
    exact told.silent ⟨rfl, rfl⟩ (drained kind data queue).1 (drained kind data queue).2
  | receive mode waitMs phase kind buffer =>
    obtain ⟨chunks, packets⟩ := told
    constructor
    · rw [List.filterMap_append, ← chunks]
      exact List.map_append
    · rw [List.filterMap_append, ← packets]
      exact (List.append_nil _).symm
  | read left phase bytes content =>
    have fetched : Event.packet (.read (.packet bytes)) = some (bytes.take 4097) := if_neg (Bool.eq_false_iff.mp content)
    obtain ⟨chunks, packets⟩ := told
    rcases call_cases s (.host (bytes.take 4097)) (.reading left) with ⟨_, _, _, same⟩ | ⟨_, _, _, same⟩ <;> rw [same]
    all_goals
      constructor
      · rw [List.filterMap_append, ← chunks]
        exact (List.append_nil _).symm
      · rw [List.filterMap_append, ← packets]
        simp [Record.hosts, fetched]
  | execute _ silent | changed _ silent | pump _ silent | retry _ silent | fail _ silent => exact told.silent silent rfl rfl
  | stop | enter | drained | poll | change | skip | pumped => exact told.silent ⟨rfl, rfl⟩ rfl rfl

theorem run_told {s after : State} {past events : List Event} (told : Told past s.record) (ran : s.run events = some after) :
    Told (past ++ events) after.record := by
  induction events generalizing s past with
  | nil =>
    cases ran
    rwa [List.append_nil]
  | cons event rest ih =>
    rw [State.run] at ran
    obtain ⟨next, stepped, later⟩ := Option.bind_eq_some_iff.mp ran
    rw [List.append_cons]
    exact ih (told.step (step_instruction stepped)) later

/-- A normal return needs a stop request. -/
def Stopped (events : List Event) (s : State) : Prop :=
  s.phase = .finished (.ok ()) → .stopping true ∈ events

theorem stopped_step {s next : State} {event : Event} (instruction : Instruction s event next)
    (returned : next.phase = .finished (.ok ())) (running : s.phase.Running) : event = .stopping true := by
  cases instruction with
  | stop => rfl
  | drain _ kind data queue | flood _ kind data queue =>
    rcases call_cases (s.popped data queue) (.usb kind data) .draining with ⟨_, _, _, same⟩ | ⟨_, _, _, same⟩ <;>
      simp [same, finish] at returned
  | read left _ bytes =>
    rcases call_cases s (.host (bytes.take 4097)) (.reading left) with ⟨_, _, _, same⟩ | ⟨_, _, _, same⟩ <;>
      simp [same] at returned
  | receive | retry => exact absurd returned (running _)
  | enter | drained | poll | execute | change | changed | skip | pump | pumped | fail => cases returned

theorem finished_stuck {s : State} {event : Event} {result : Except String Unit}
    (phase : s.phase = .finished result) : s.step event = none := by
  cases event <;> simp [State.step, phase]

theorem run_sound {s after : State} {events : List Event} (accounted : Accounted s) (received : Received s)
    (ran : s.run events = some after) :
    Accounted after ∧ Received after ∧ (s.phase.Running → Stopped events after) := by
  induction events generalizing s with
  | nil =>
    cases ran
    exact ⟨accounted, received, fun running returned => absurd returned (running _)⟩
  | cons event rest ih =>
    rw [State.run] at ran
    obtain ⟨next, stepped, later⟩ := Option.bind_eq_some_iff.mp ran
    have instruction := step_instruction stepped
    obtain ⟨last, queue, stop⟩ := ih (accounted.step instruction) (received.step instruction) later
    refine ⟨last, queue, fun running returned => ?_⟩
    by_cases finished : ∃ result, next.phase = .finished result
    · obtain ⟨result, phase⟩ := finished
      -- Nothing runs after the loop has returned, so this step was the last.
      cases rest with
      | nil =>
        cases later
        exact stopped_step instruction returned running ▸ List.mem_cons_self
      | cons event rest => simp [State.run, finished_stuck phase] at later
    · exact List.mem_cons_of_mem _ (stop (fun result phase => finished ⟨result, phase⟩) returned)

/-- In every run of the loop the executed effects are a prefix of the actions the
transport emitted, and while it runs none is missing. The host is polled only
when all of them are executed, in a burst of at most 32 packets whose actions are
queued in order. Chunks reach the transport in the order of the callbacks, and
after a dropped chunk nothing that arrived later does: the loop returns an error
unless a stop request ended it first. -/
theorem loop_keeps_order (events : List Event) (s : State) (ran : State.run {} events = some s) :
    (∃ answered t, answered <+: s.record.calls ∧ s.record.calls.length ≤ answered.length + 1 ∧
      Transport.run {} answered = (t, .ok s.record.emitted)) ∧
    s.record.executed <+: s.record.emitted ∧
    (s.phase.Running → s.record.emitted = s.record.executed ++ s.phase.inHand ++ s.pending) ∧
    s.record.hosts = events.filterMap Event.packet ∧
    (∀ left, s.phase = .reading left → ∃ (earlier : List Transport.Input) (start : Transport) (packets : List Bytes),
      packets.length + left ≤ 32 ∧ s.record.calls = earlier ++ packets.map .host ∧
      Transport.run {} earlier = (start, .ok s.record.executed) ∧
      start.run (packets.map .host) = (s.transport, .ok s.pending)) ∧
    s.incoming.bytes = (s.incoming.queue.map fun chunk => chunk.2.length).sum ∧
    s.record.heard = events.filterMap Event.chunk ∧
    (s.incoming.overflow = false → s.record.given ++ s.incoming.queue = chunks s.record.arrived) ∧
    (∀ early arrival late, s.record.arrived = early ++ arrival :: late → arrival.disposition = .dropped →
      s.record.given <+: chunks early ∧ s.incoming.overflow = true ∧
      (s.phase = .top → ∀ next, s.step (.stopping false) = some next →
        next.phase = .finished (.error "bounded USB receive queue overflow")) ∧
      (s.phase = .finished (.ok ()) → .stopping true ∈ events)) := by
  obtain ⟨accounted, received, stopped⟩ := run_sound accounted_initial received_initial ran
  have told : Told ([] ++ events) s.record := run_told ⟨rfl, rfl⟩ ran
  refine ⟨accounted.answered, accounted.executed, accounted.complete, told.2, accounted.burst, received.bytes, told.1,
    received.whole, ?_⟩
  intro early arrival late divided drop
  have full := received.flagged arrival (by rw [divided]; simp) drop
  refine ⟨received.frozen early arrival late divided drop, full, ?_, stopped (by rintro _ ⟨⟩)⟩
  intro phase next stepped
  simp only [State.step, phase, full, if_true, Option.some.injEq] at stepped
  rw [← stepped]
  rfl

/-- A reset is sent when the pool has room again. Callbacks run while its command
is refused, and while the endpoints change. -/
def resetEvents : List Event :=
  [.stopping false, .proceed, .proceed, .read (.packet [1, 3, 12, 0]), .read .interrupted, .read .wouldBlock, .returned 0,
    .stopping false, .proceed, .proceed, .callback 4 [0x0e, 4, 1], .returned 0, .sent (-105), .callback 4 [3, 12, 0], .returned 0,
    .stopping false, .proceed, .proceed, .proceed, .sent 0, .wrote .interrupted, .wrote .complete, .proceed,
    .read (.packet [1, 1, 16, 0])]

/-- A reset command read in the first burst, with a second read to follow. -/
def burstEvents : List Event :=
  [.stopping false, .proceed, .proceed, .read (.packet [1, 3, 12, 0])]

/-- One chunk during the first pump, then a stop request. -/
def stopEvents (buffer : Bytes) : List Event :=
  [.stopping false, .proceed, .proceed, .read .wouldBlock, .callback 2 buffer, .returned 0, .stopping true]

theorem stop_after_oversized {buffer : Bytes} (oversized : buffer.length > 4096) :
    ∃ s, State.run {} (stopEvents buffer) = some s ∧ s.incoming.overflow = true ∧ s.phase = .finished (.ok ()) := by
  refine ⟨_, rfl, ?_, rfl⟩
  show (Incoming.receive {} 2 buffer).overflow = true
  simp [Incoming.receive, Incoming.disposition, oversized]

theorem reset_runs : (State.run {} resetEvents).isSome = true := by decide +kernel

theorem loop_order_of_burst : ∃ s, State.run {} resetEvents = some s ∧
    s.record.executed = [.sco 0, .usb [1, 3, 12, 0], .host [4, 0x0e, 4, 1, 3, 12, 0]] ∧ s.pending = [.usb [1, 1, 16, 0]] ∧
    s.record.given = [(4, [0x0e, 4, 1]), (4, [3, 12, 0])] ∧ s.record.executed <+: s.record.emitted ∧
    s.record.hosts = [[1, 3, 12, 0], [1, 1, 16, 0]] := by
  obtain ⟨_, executed, _, hosts, _⟩ := loop_keeps_order resetEvents _ (Option.some_get reset_runs).symm
  refine ⟨_, (Option.some_get reset_runs).symm, ?_, ?_, ?_, executed, hosts⟩
  · decide +kernel
  · decide +kernel
  · decide +kernel

/-- A host packet is read while an earlier one of the same burst is still queued,
and a stop request lets the loop return normally after an overflow. -/
theorem burst_reads_with_queued_actions :
    (∃ s next, State.run {} burstEvents = some s ∧ s.pending ≠ [] ∧
      s.step (.read (.packet [1, 3, 12, 0])) = some next ∧
      next.record.calls = s.record.calls ++ [.host [1, 3, 12, 0]]) ∧
    (∃ buffer s, State.run {} (stopEvents buffer) = some s ∧ s.incoming.overflow = true ∧
      s.phase = .finished (.ok ())) := by
  refine ⟨⟨_, _, rfl, by decide, rfl, rfl⟩, ⟨List.replicate 4097 0, ?_⟩⟩
  exact stop_after_oversized (by rw [List.length_replicate]; decide)

end FlossDesktop.MainLoop
