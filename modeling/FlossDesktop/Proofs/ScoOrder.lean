import FlossDesktop.Library.History
import FlossDesktop.Proofs.TransportCases

/-! The order of SCO endpoint changes within everything the transport emits.
Actions run later than the state change that produced them, so the invariant
relates the current link to the whole history of emitted actions. -/

namespace FlossDesktop.Proofs.ScoOrder
open Transport History

/-- An action together with the link before and after the packet that caused it. -/
structure Emission where
  before : Option Link
  action : Action
  after : Option Link
deriving Repr, DecidableEq

def emission (before after : Transport) (action : Action) : Emission := ⟨before.link, action, after.link⟩

/-- A call with its actions annotated. It is the same call: a receive frames its
chunk first and then handles packet after packet. -/
def observe (t : Transport) : Input → Transport × Except String (List Emission)
  | .usb kind bytes =>
    if kind = 3 ∧ t.link.isNone then ({ t with sco := {} }, .ok [])
    else
      match t.frame kind bytes with
      | (t, .error reason) => (t, .error reason)
      | (t, .ok frames) => Feed.feed (Feed.mark emission (packetStep kind)) t frames
  | .host packet => Feed.mark emission Transport.host t packet

def observeRun (t : Transport) (inputs : List Input) : Transport × Except String (List Emission) :=
  Feed.feed observe t inputs

/-- The mode of the last SCO action, zero before the first one. -/
def lastMode (actions : List Action) : UInt8 :=
  actions.foldl (fun last action => match action with | .sco mode => mode | _ => last) 0

theorem observe_follows (t : Transport) (input : Input) (after : Transport) (actions : List Action)
    (called : t.call input = (after, .ok actions)) :
    ∃ emissions, observe t input = (after, .ok emissions) ∧ emissions.map Emission.action = actions := by
  cases input with
  | host packet =>
    change t.host packet = _ at called
    exact Feed.mark_follows emission Emission.action (fun _ _ _ => rfl) t packet after actions called
  | usb kind bytes =>
    rw [call, usb] at called
    rw [observe]
    split_ifs at called ⊢ with idle
    · cases called
      exact ⟨[], rfl, rfl⟩
    · rcases pushed : t.frame kind bytes with ⟨framed, reason | frames⟩
      · simp [pushed] at called
      · simp only [pushed] at called
        exact Feed.feed_follows (Feed.mark_follows emission Emission.action fun _ _ _ => rfl) called

theorem observeRun_follows {t after : Transport} {inputs : List Input} {actions : List Action}
    (ran : t.run inputs = (after, .ok actions)) :
    ∃ history, observeRun t inputs = (after, .ok history) ∧ history.map Emission.action = actions :=
  Feed.feed_follows observe_follows ran

/-- Everything one packet can add to the history. -/
inductive Block : Option Link → List Emission → Option Link → Prop where
  | idle (link) : Block link [] link
  | opened (id mode packet) (voice : mode = 2 ∨ mode = 3) (event : byte packet 0 ≠ 3) :
      Block none [⟨none, .sco mode, some (id, mode)⟩, ⟨none, .host packet, some (id, mode)⟩] (some (id, mode))
  | closed (link packet) (event : byte packet 0 ≠ 3) :
      Block (some link) [⟨some link, .sco 0, none⟩, ⟨some link, .host packet, none⟩] none
  | reset (link packet) (event : byte packet 0 ≠ 3) :
      Block link [⟨link, .sco 0, none⟩, ⟨link, .usb packet, none⟩] none
  | received (link packet) (audio : byte packet 0 = 3 → link.map Prod.fst = some (handle (packet.drop 1))) :
      Block link [⟨link, .host packet, link⟩] link
  | sent (link packet) (audio : byte packet 0 = 3 → link.map Prod.fst = some (handle (packet.drop 1)))
      (plain : isReset packet = false) : Block link [⟨link, .usb packet, link⟩] link

theorem packet_block {t after : Transport} {kind : UInt8} {packet : Bytes} {actions : List Action}
    (tagged : byte packet 0 = kind) (done : t.packet kind packet = .ok (after, actions)) :
    Block t.link (actions.map (emission t after)) after.link := by
  have event : kind = 4 → byte packet 0 ≠ 3 := by rintro rfl; rw [tagged]; decide
  rcases packet_cases done with ⟨id, mode, four, _, voice, free, rfl, rfl⟩ | ⟨id, four, _, active, rfl, rfl⟩ |
    ⟨four, _, _, rfl, rfl⟩ | ⟨_, _, rfl, rfl⟩ | ⟨_, active, rfl, rfl⟩ | ⟨other, _, rfl, rfl⟩
  · simpa [emission, free] using Block.opened id mode packet voice (event four)
  · obtain ⟨link, held, _⟩ := Option.map_eq_some_iff.mp active
    simpa [emission, held] using Block.closed link packet (event four)
  · exact .received _ packet fun audio => absurd audio (event four)
  · exact .idle _
  · exact .received _ packet fun _ => active
  · exact .received _ packet fun audio => absurd (tagged.symm.trans audio) other

theorem host_block {t after : Transport} {packet : Bytes} {actions : List Action}
    (done : t.host packet = (after, .ok actions)) :
    Block t.link (actions.map (emission t after)) after.link := by
  obtain ⟨kind, payload, valid, handled⟩ := host_ok done
  rcases hostPacket_cases t valid with ⟨_, command, same⟩ | ⟨_, _, _, same⟩ | ⟨plain, _, active, same⟩ |
    ⟨plain, other, same⟩ <;> rw [handled] at same <;> cases same
  · exact .reset _ packet (by rw [valid.first, command]; decide)
  · exact .idle _
  · exact .sent _ packet (fun _ => active) plain
  · exact .sent _ packet (fun audio => absurd (valid.first.symm.trans audio) other) plain

/-- The latest SCO action opened this link and is still in force. -/
def Opened (history : List Emission) (link : Link) : Prop :=
  ∃ early middle, history = early ++ ⟨none, .sco link.2, some link⟩ :: middle ∧ (link.2 = 2 ∨ link.2 = 3) ∧
    ∀ event ∈ middle, ∀ mode, event.action ≠ .sco mode

/-- The event just before is this SCO action. -/
def Follows (early : List Emission) (mode : UInt8) : Prop :=
  ∃ front before after, early = front ++ [⟨before, .sco mode, after⟩]

/-- Where an emission may stand, given all earlier ones. -/
structure Placed (early : List Emission) (event : Emission) : Prop where
  opening : ∀ packet link, event = ⟨none, .host packet, some link⟩ → Follows early link.2
  closing : ∀ packet link, event = ⟨some link, .host packet, none⟩ → Follows early 0
  reset : ∀ packet, event.action = .usb packet → isReset packet = true → Follows early 0
  audio : ∀ packet, event.action = .host packet ∨ event.action = .usb packet → byte packet 0 = 3 →
    ∃ link, Opened early link ∧ handle (packet.drop 1) = link.1

/-- The history explains the current link, and every emission is in its place. -/
structure Ordered (history : List Emission) (link : Option Link) : Prop where
  opened : ∀ active, link = some active → Opened history active
  silent : link = none → lastMode (history.map Emission.action) = 0
  placed : Everywhere Placed history

theorem lastMode_push (actions : List Action) (action : Action) :
    lastMode (actions ++ [action]) = match action with | .sco mode => mode | _ => lastMode actions := by
  simp only [lastMode, List.foldl_append, List.foldl_cons, List.foldl_nil]

theorem Opened.push {history : List Emission} {link : Link} (opened : Opened history link) {event : Emission}
    (quiet : ∀ mode, event.action ≠ .sco mode) : Opened (history ++ [event]) link := by
  obtain ⟨early, middle, rfl, voice, kept⟩ := opened
  refine ⟨early, middle ++ [event], by simp, voice, ?_⟩
  intro other member
  rcases List.mem_append.mp member with old | new
  · exact kept other old
  · rw [List.mem_singleton.mp new]
    exact quiet

theorem Opened.lastMode {history : List Emission} {link : Link} (opened : Opened history link) :
    lastMode (history.map Emission.action) = link.2 := by
  obtain ⟨early, middle, rfl, _, kept⟩ := opened
  induction middle using List.reverseRecOn with
  | nil => simp [lastMode_push]
  | append_singleton middle event ih =>
    have previous := ih (fun other member => kept other (by simp [member]))
    have quiet := kept event (by simp)
    have grown : (early ++ ⟨none, .sco link.2, some link⟩ :: (middle ++ [event])).map Emission.action =
        (early ++ ⟨none, .sco link.2, some link⟩ :: middle).map Emission.action ++ [event.action] := by simp
    rw [grown, lastMode_push]
    cases same : event.action with
    | sco mode => exact absurd same (quiet mode)
    | host packet => exact previous
    | usb packet => exact previous

/-- The SCO action itself may stand anywhere; only what follows it is constrained. -/
theorem placed_sco (early : List Emission) (before after : Option Link) (mode : UInt8) :
    Placed early ⟨before, .sco mode, after⟩ where
  opening packet link same := by cases same
  closing packet link same := by cases same
  reset packet same := by cases same
  audio packet same := by rcases same with same | same <;> cases same

theorem Ordered.block {history block : List Emission} {link next : Option Link} (ordered : Ordered history link)
    (added : Block link block next) : Ordered (history ++ block) next := by
  cases added with
  | idle => simpa using ordered
  | opened id mode packet voice event =>
    have change := ordered.placed.push _ (placed_sco history none (some (id, mode)) mode)
    have follows : Follows (history ++ [⟨none, .sco mode, some (id, mode)⟩]) mode := ⟨_, _, _, rfl⟩
    have reported := change.push ⟨none, .host packet, some (id, mode)⟩
      { opening := by rintro _ _ ⟨⟩; exact follows
        closing := by rintro _ _ ⟨⟩
        reset := by rintro _ ⟨⟩
        audio := by
          rintro _ (same | same) audio <;> cases same
          exact absurd audio event }
    refine ⟨?_, by simp, by simpa using reported⟩
    rintro _ ⟨rfl⟩
    refine ⟨history, [⟨none, .host packet, some (id, mode)⟩], rfl, voice, ?_⟩
    simp
  | closed link packet event =>
    have change := ordered.placed.push _ (placed_sco history (some link) none 0)
    have reported := change.push ⟨some link, .host packet, none⟩
      { opening := by rintro _ _ ⟨⟩
        closing := by rintro _ _ ⟨⟩; exact ⟨_, _, _, rfl⟩
        reset := by rintro _ ⟨⟩
        audio := by
          rintro _ (same | same) audio <;> cases same
          exact absurd audio event }
    refine ⟨by rintro _ ⟨⟩, fun _ => ?_, by simpa using reported⟩
    simp [lastMode, List.foldl_append]
  | reset link packet event =>
    have change := ordered.placed.push _ (placed_sco history link none 0)
    have forwarded := change.push ⟨link, .usb packet, none⟩
      { opening := by rintro _ _ ⟨⟩
        closing := by rintro _ _ ⟨⟩
        reset := by rintro _ ⟨⟩ _; exact ⟨_, _, _, rfl⟩
        audio := by
          rintro _ (same | same) audio <;> cases same
          exact absurd audio event }
    refine ⟨by rintro _ ⟨⟩, fun _ => ?_, by simpa using forwarded⟩
    simp [lastMode, List.foldl_append]
  | received link packet audio =>
    refine ⟨?_, ?_, ordered.placed.push _ ?_⟩
    · exact fun active held => (ordered.opened active held).push (by simp)
    · intro free
      rw [List.map_append, List.map_singleton, lastMode_push]
      exact ordered.silent free
    · refine ⟨?_, ?_, by rintro _ ⟨⟩, ?_⟩
      · rintro _ _ same; cases same
      · rintro _ _ same; cases same
      · rintro _ (same | same) kind <;> cases same
        obtain ⟨active, held, same⟩ := Option.map_eq_some_iff.mp (audio kind)
        exact ⟨active, ordered.opened active held, same.symm⟩
  | sent link packet audio plain =>
    refine ⟨?_, ?_, ordered.placed.push _ ?_⟩
    · exact fun active held => (ordered.opened active held).push (by simp)
    · intro free
      rw [List.map_append, List.map_singleton, lastMode_push]
      exact ordered.silent free
    · refine ⟨by rintro _ _ ⟨⟩, by rintro _ _ ⟨⟩, ?_, ?_⟩
      · rintro _ ⟨⟩ command
        rw [plain] at command
        cases command
      · rintro _ (same | same) kind <;> cases same
        obtain ⟨active, held, same⟩ := Option.map_eq_some_iff.mp (audio kind)
        exact ⟨active, ordered.opened active held, same.symm⟩

theorem push_kind (framer : Framer) {kind : UInt8} {sco : Option Nat} {bytes : Bytes} {frames : List Bytes}
    (pushed : (framer.push kind sco bytes).2 = .ok frames) : ∀ frame ∈ frames, byte frame 0 = kind := by
  induction bytes generalizing framer frames with
  | nil =>
    cases pushed
    simp
  | cons next rest ih =>
    rw [Framer.push] at pushed
    rcases stepped : framer.pushByte kind sco next with ⟨middle, progress⟩
    rw [stepped] at pushed
    cases progress with
    | more => exact ih middle pushed
    | discard =>
      cases pushed
      simp
    | error reason => cases pushed
    | frame frame =>
      have tagged : byte frame 0 = kind := by
        unfold Framer.pushByte at stepped
        cases sized : Framer.headerSize kind with
        | none => simp [sized] at stepped
        | some header =>
          simp only [sized] at stepped
          split_ifs at stepped <;> cases stepped
          rfl
      cases remaining : (middle.push kind sco rest).2 with
      | error reason => simp [remaining, Except.map] at pushed
      | ok later =>
        simp only [remaining, Except.map, Except.ok.injEq] at pushed
        subst pushed
        intro other member
        rcases List.mem_cons.mp member with rfl | old
        · exact tagged
        · exact ih middle remaining other old

theorem frame_kind {t after : Transport} {kind : UInt8} {bytes : Bytes} {frames : List Bytes}
    (framed : t.frame kind bytes = (after, .ok frames)) : ∀ frame ∈ frames, byte frame 0 = kind := by
  unfold Transport.frame at framed
  split at framed
  · exact push_kind t.acl (congrArg Prod.snd framed)
  · exact push_kind t.sco (congrArg Prod.snd framed)
  · exact push_kind t.event (congrArg Prod.snd framed)
  · cases framed

theorem mark_ok {kind : UInt8} {t after : Transport} {packet : Bytes} {emissions : List Emission}
    (marked : Feed.mark emission (packetStep kind) t packet = (after, .ok emissions)) :
    ∃ actions, t.packet kind packet = .ok (after, actions) ∧ emissions = actions.map (emission t after) := by
  unfold Feed.mark packetStep at marked
  cases done : t.packet kind packet with
  | error reason => simp [done, Except.map] at marked
  | ok result =>
    simp only [done, Except.map, Prod.mk.injEq, Except.ok.injEq] at marked
    obtain ⟨rfl, rfl⟩ := marked
    exact ⟨result.2, rfl, rfl⟩

theorem observe_ordered (t : Transport) (input : Input) (after : Transport) (emissions history : List Emission)
    (ordered : Ordered history t.link) (observed : observe t input = (after, .ok emissions)) :
    Ordered (history ++ emissions) after.link := by
  cases input with
  | host packet =>
    simp only [observe, Feed.mark] at observed
    rcases done : t.host packet with ⟨last, reason | actions⟩
    · simp [done, Except.map] at observed
    · simp only [done, Except.map, Prod.mk.injEq, Except.ok.injEq] at observed
      obtain ⟨rfl, rfl⟩ := observed
      exact ordered.block (host_block done)
  | usb kind bytes =>
    rw [observe] at observed
    split_ifs at observed with idle
    · cases observed
      simpa using ordered
    · rcases pushed : t.frame kind bytes with ⟨framed, reason | frames⟩
      · simp [pushed] at observed
      · simp only [pushed] at observed
        have tagged := frame_kind pushed
        have same : framed.link = t.link := by rw [← frame_link t kind bytes, pushed]
        refine Feed.feed_history (fun t history => Ordered history t.link)
          (fun t packet after emissions history member kept marked => ?_) (same ▸ ordered) observed
        obtain ⟨actions, done, rfl⟩ := mark_ok marked
        exact kept.block (packet_block (tagged packet member) done)

theorem observeRun_ordered {after : Transport} {inputs : List Input} {history : List Emission}
    (observed : observeRun {} inputs = (after, .ok history)) : Ordered history after.link := by
  have start : Ordered [] ({} : Transport).link := ⟨by rintro _ ⟨⟩, fun _ => rfl, .nil⟩
  exact Feed.feed_history (fun t history => Ordered history t.link)
    (fun t input after emissions history _ => observe_ordered t input after emissions history) start observed

/-- The link's mode is the mode of the last SCO action. -/
theorem Ordered.mode {history : List Emission} {link : Option Link} (ordered : Ordered history link) :
    lastMode (history.map Emission.action) = (link.map Prod.snd).getD 0 := by
  cases link with
  | none => exact ordered.silent rfl
  | some active => exact (ordered.opened active rfl).lastMode

end FlossDesktop.Proofs.ScoOrder
