import FlossDesktop.Proofs.ScoOrder
import FlossDesktop.Proofs.UsbReceivers

/-! The emitted actions on the transfer pool. Actions are executed in the order
of emission, so the selected alternate always agrees with the last SCO action. -/

namespace FlossDesktop.Proofs.ScoOrder
open Transport History

/-- The queue is executed from its front. Callbacks may run between any two
actions, a transmission that finds no slot is tried again, and every change of the
voice setting succeeds. -/
inductive Executes : Usb → List Action → Usb → Prop where
  | done (s : Usb) : Executes s [] s
  | pump {s after : Usb} {actions : List Action} (poll : Usb.Poll) (rest : Executes (s.pump poll).1 actions after) :
      Executes s actions after
  | host {s after : Usb} {actions : List Action} (packet : Bytes) (rest : Executes s actions after) :
      Executes s (.host packet :: actions) after
  | sco {s after : Usb} {actions : List Action} (mode : UInt8) (switch : Usb.Switch)
      (accepted : (s.setSco mode.toNat switch).2 = 0) (rest : Executes (s.setSco mode.toNat switch).1 actions after) :
      Executes s (.sco mode :: actions) after
  | usb {s after : Usb} {actions : List Action} (packet : Bytes) (supply : Usb.Supply)
      (accepted : 0 ≤ (s.send (byte packet 0) (packet.drop 1) supply).2)
      (rest : Executes (s.send (byte packet 0) (packet.drop 1) supply).1 actions after) :
      Executes s (.usb packet :: actions) after
  | retry {s after : Usb} {actions : List Action} (packet : Bytes) (supply : Usb.Supply)
      (full : (s.send (byte packet 0) (packet.drop 1) supply).2 = -Usb.enobufs)
      (rest : Executes (s.send (byte packet 0) (packet.drop 1) supply).1 (.usb packet :: actions) after) :
      Executes s (.usb packet :: actions) after

theorem send_alt (s : Usb) (kind : UInt8) (data : Bytes) (supply : Usb.Supply) :
    (s.send kind data supply).1.alt = s.alt := by
  have launched := Usb.launch_control s kind false (s.sendPackets kind data.length) (s.sendRequest kind data) supply
  unfold Usb.send
  simp only
  split_ifs
  · rfl
  · rfl
  · rfl
  · exact launched.alt
  · exact launched.alt

/-- A successful change leaves no alternate selected exactly for mode zero. -/
theorem setSco_alt {s : Usb} {mode : Int} {switch : Usb.Switch} (done : (s.setSco mode switch).2 = 0) :
    (s.setSco mode switch).1.alt = 0 ↔ mode = 0 := by
  obtain ⟨switched, supported⟩ := Usb.setSco_switched done
  have silent : mode = 0 → s.alternate mode = 0 := by rintro rfl; rfl
  have wanted : s.alternate mode = 0 ↔ mode = 0 := ⟨fun none_ => by_contra fun some_ => supported some_ none_, silent⟩
  generalize (s.setSco mode switch).1 = after at switched ⊢
  cases switched with
  | same alt => rw [← alt]; exact wanted
  | stopped quiet _ _ alt => exact ⟨fun _ => wanted.mp alt, fun _ => rfl⟩
  | started quiet endpoints _ _ alt _ =>
    have control := Usb.receiveAll_control (quiet.selected (s.alternate mode) endpoints)
      [(3, switch.first), (3, switch.second)]
    rw [control.alt]
    exact wanted

/-- The alternate follows the last SCO action that was executed. -/
theorem executes_alt {s after : Usb} {actions : List Action} (executes : Executes s actions after) (mode : UInt8)
    (agrees : s.alt = 0 ↔ mode = 0) :
    after.alt = 0 ↔ actions.foldl (fun last action => match action with | .sco mode => mode | _ => last) mode = 0 := by
  induction executes generalizing mode with
  | done s => exact agrees
  | pump poll _ ih => exact ih mode (by rw [(Usb.pump_settings _ _).alt]; exact agrees)
  | host packet _ ih => exact ih mode agrees
  | sco next switch accepted _ ih =>
    refine ih next ((setSco_alt accepted).trans ?_)
    rw [← UInt8.toNat_inj]
    simp
  | usb packet supply _ _ ih => exact ih mode (by rw [send_alt]; exact agrees)
  | retry packet supply _ _ ih => exact ih mode (by rw [send_alt]; exact agrees)

/-- With an alternate selected only libusb itself can report a missing connection. -/
theorem send_connected {s : Usb} (selected : s.alt ≠ 0) {data : Bytes} {supply : Usb.Supply}
    (refused : (s.send 3 data supply).2 = -Usb.enotconn) : supply.submit = -Usb.enotconn := by
  have codes := Usb.launch_code s 3 false (s.sendPackets 3 data.length) (s.sendRequest 3 data) supply
  unfold Usb.send at refused
  simp only [selected, and_false, if_false] at refused
  split_ifs at refused
  · cases refused
  · cases refused
  all_goals
    rcases codes with code | code | code <;> rw [code] at refused
    · cases refused
    · cases refused
    · exact refused

/-- Every run of the transport without an error. The mode of the last SCO action
is the mode of the link after every prefix of the calls. A connection, a
disconnection and a reset are announced by their SCO action immediately before,
and audio lies behind the SCO action that opened the link it belongs to, with no
other one between. Executed in order, audio meets a selected alternate. -/
theorem sco_actions_ordered (inputs : List Input) (t : Transport) (actions : List Action)
    (ran : Transport.run {} inputs = (t, .ok actions)) :
    ∃ history, observeRun {} inputs = (t, .ok history) ∧ history.map Emission.action = actions ∧
      Everywhere Placed history ∧
      (∀ front back, inputs = front ++ back → ∃ middle early, Transport.run {} front = (middle, .ok early) ∧
        early <+: actions ∧ lastMode early = (middle.link.map Prod.snd).getD 0) ∧
      ∀ early packet late, actions = early ++ .usb packet :: late → byte packet 0 = 3 →
        ∀ start s, start.alt = 0 → Executes start early s →
          s.alt ≠ 0 ∧ ∀ data supply, (s.send 3 data supply).2 = -Usb.enotconn → supply.submit = -Usb.enotconn := by
  obtain ⟨history, observed, same⟩ := observeRun_follows ran
  have ordered := observeRun_ordered observed
  refine ⟨history, observed, same, ordered.placed, ?_, ?_⟩
  · rintro front back rfl
    obtain ⟨middle, early, later, first, _, rfl⟩ := Feed.feed_append_ok.mp ran
    obtain ⟨past, seen, erased⟩ := observeRun_follows first
    exact ⟨middle, early, first, List.prefix_append early later, erased ▸ (observeRun_ordered seen).mode⟩
  · rintro early packet late rfl voice start s silent executes
    obtain ⟨past, rest, rfl, front, back⟩ := List.map_eq_append_iff.mp same
    obtain ⟨event, behind, rfl, sent, _⟩ := List.map_eq_cons_iff.mp back
    obtain ⟨link, opened, _⟩ := (ordered.placed past event behind rfl).audio packet (.inr sent) voice
    have mode : lastMode early = link.2 := front ▸ opened.lastMode
    obtain ⟨_, _, _, spoken, _⟩ := opened
    have selected : s.alt ≠ 0 := by
      intro none_
      have zero : lastMode early = 0 := (executes_alt executes 0 (by simp [silent])).mp none_
      rw [mode] at zero
      rcases spoken with two | three
      · rw [two] at zero; cases zero
      · rw [three] at zero; cases zero
    exact ⟨selected, fun _ _ => send_connected selected⟩

/-- A voice connection with handle five, then one audio packet of the host. -/
def voiceInputs : List Input :=
  [.usb 4 [0x2c, 17, 0, 5, 0, 0, 0, 0, 0, 0, 0, 2, 0, 0, 0, 0, 0, 0, 2], .host [3, 5, 0, 1, 7]]

theorem voice_actions_ordered : ∃ t actions, Transport.run {} voiceInputs = (t, .ok actions) ∧
    actions.getLast? = some (.usb [3, 5, 0, 1, 7]) ∧
    ∃ history, observeRun {} voiceInputs = (t, .ok history) ∧ Everywhere Placed history := by
  refine ⟨_, _, rfl, rfl, ?_⟩
  obtain ⟨history, observed, _, placed, _⟩ := sco_actions_ordered voiceInputs _ _ rfl
  exact ⟨history, observed, placed⟩

end FlossDesktop.Proofs.ScoOrder
