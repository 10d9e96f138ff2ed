import FlossDesktop.Proofs.RadioProtocol

/-! What one power request may cost. The reads that confirm an unblock are counted down, so the
calls of a request and the replies that it has to wait for are bounded, however they come. -/

namespace FlossDesktop.RadioPower

namespace Phase

/-- Calls that may still be sent for the request. -/
def callsLeft : Phase → Nat
  | .starting _ => 13
  | .asking | .blocked => 12
  | .granted => 1
  | .unblocking => 11
  | .unblocked attempts => max attempts 1 + 1
  | .confirming attempts => max attempts 1
  | .still attempts | .sleeping attempts => max (attempts - 1) 1 + 1
  | _ => 0

/-- Replies and waits that may still come. -/
def answersLeft : Phase → Nat
  | .starting _ | .asking => 22
  | .granted | .switching _ => 1
  | .blocked | .unblocking => 21
  | .unblocked attempts | .confirming attempts => 2 * max attempts 1
  | .still attempts | .sleeping attempts => 2 * max (attempts - 1) 1 + 1
  | _ => 0

def unblocksLeft : Phase → Nat
  | .starting _ | .asking | .blocked => 1
  | _ => 0

def switchesLeft : Phase → Nat
  | .idle | .ending | .switching _ => 0
  | _ => 1

theorem read_cases (soft : Phase) (required : Bool) (message : Message) :
    read soft required message = soft ∨ read soft required message = .granted ∨ read soft required message = .ending := by
  unfold read
  split
  · split
    · exact .inr (.inr rfl)
    · split
      · exact .inr (.inr rfl)
      · split
        · exact .inl rfl
        · exact .inr (.inl rfl)
  · exact .inr (.inr rfl)

end Phase

namespace Mark

def isRequest : Mark → Nat
  | .requested _ => 1
  | _ => 0

def isPowerCall : Mark → Nat
  | .sent (.refresh _) => 0
  | .sent _ => 1
  | _ => 0

def isPowerAnswer : Mark → Nat
  | .answered (.refresh _) _ => 0
  | .answered _ _ => 1
  | .woke _ => 1
  | _ => 0

def isUnblock : Mark → Nat
  | .sent .unblock => 1
  | _ => 0

def isSwitch : Mark → Nat
  | .sent (.managerPower _) => 1
  | _ => 0

end Mark

/-- The moves of the protocol. -/
inductive Move : Phase → Mark → Phase → Prop where
  | polled {phase revision message} : Move phase (.answered (.refresh revision) message) phase
  | polls {revision} : Move .idle (.sent (.refresh revision)) .idle
  | requests {enabled} : Move .idle (.requested enabled) (.starting enabled)
  | asks : Move (.starting true) (.sent .setPowered) .asking
  | stops : Move (.starting false) (.sent (.managerPower false)) (.switching false)
  | asked {message} : Move .asking (.answered .setPowered message) (.read .blocked false message)
  | starts : Move .granted (.sent (.managerPower true)) (.switching true)
  | unblocks : Move .blocked (.sent .unblock) .unblocking
  | unblocked : Move .unblocking (.answered .unblock (.flag true)) (.unblocked 10)
  | refused {message} : Move .unblocking (.answered .unblock message) .ending
  | confirms {attempts} : Move (.unblocked attempts) (.sent (.confirm attempts)) (.confirming attempts)
  | confirmed {attempts message} : Move (.confirming attempts) (.answered (.confirm attempts) message)
      (.read (if attempts ≤ 1 then .ending else .still attempts) true message)
  | sleeps {attempts} : Move (.still attempts) (.slept attempts) (.sleeping attempts)
  | wakes {attempts} : Move (.sleeping attempts) (.woke attempts) (.unblocked (attempts - 1))
  | switched {enabled message} : Move (.switching enabled) (.answered (.managerPower enabled) message) .ending
  | ends : Move .ending .ended .idle

theorem move {phase : Phase} {mark : Mark} {next : Phase} (watched : Phase.watch phase mark = some next) : Move phase mark next := by
  unfold Phase.watch at watched
  split at watched
  all_goals try (split at watched)
  all_goals try cases watched
  all_goals try subst_vars
  all_goals constructor

/-- What a step costs comes out of what is left, and only a request brings more. -/
structure Mark.Paid (mark : Mark) (before after : Phase) : Prop where
  calls : mark.isPowerCall + after.callsLeft ≤ before.callsLeft + 13 * mark.isRequest
  answers : mark.isPowerAnswer + after.answersLeft ≤ before.answersLeft + 22 * mark.isRequest
  unblocks : mark.isUnblock + after.unblocksLeft ≤ before.unblocksLeft + mark.isRequest
  switches : mark.isSwitch + after.switchesLeft ≤ before.switchesLeft + mark.isRequest

theorem Move.paid {phase : Phase} {mark : Mark} {next : Phase} (moved : Move phase mark next) : mark.Paid phase next := by
  have paid : mark.isPowerCall + next.callsLeft ≤ phase.callsLeft + 13 * mark.isRequest ∧
      mark.isPowerAnswer + next.answersLeft ≤ phase.answersLeft + 22 * mark.isRequest ∧
      mark.isUnblock + next.unblocksLeft ≤ phase.unblocksLeft + mark.isRequest ∧
      mark.isSwitch + next.switchesLeft ≤ phase.switchesLeft + mark.isRequest := by
    cases moved with
    | @asked message =>
      rcases Phase.read_cases .blocked false message with same | same | same <;> rw [same]
      all_goals
        simp only [Phase.callsLeft, Phase.answersLeft, Phase.unblocksLeft, Phase.switchesLeft, Mark.isPowerCall, Mark.isPowerAnswer,
          Mark.isUnblock, Mark.isSwitch, Mark.isRequest]
        omega
    | @confirmed attempts message =>
      rcases Phase.read_cases (if attempts ≤ 1 then .ending else .still attempts) true message with same | same | same <;> rw [same]
      · split
        all_goals
          simp only [Phase.callsLeft, Phase.answersLeft, Phase.unblocksLeft, Phase.switchesLeft, Mark.isPowerCall,
            Mark.isPowerAnswer, Mark.isUnblock, Mark.isSwitch, Mark.isRequest]
          omega
      all_goals
        simp only [Phase.callsLeft, Phase.answersLeft, Phase.unblocksLeft, Phase.switchesLeft, Mark.isPowerCall, Mark.isPowerAnswer,
          Mark.isUnblock, Mark.isSwitch, Mark.isRequest]
        omega
    | _ =>
      simp only [Phase.callsLeft, Phase.answersLeft, Phase.unblocksLeft, Phase.switchesLeft, Mark.isPowerCall, Mark.isPowerAnswer,
        Mark.isUnblock, Mark.isSwitch, Mark.isRequest]
      omega
  exact ⟨paid.1, paid.2.1, paid.2.2.1, paid.2.2.2⟩

def total (cost : Mark → Nat) (marks : List Mark) : Nat := (marks.map cost).sum

/-- In any run there are at most thirteen calls, one unblock, one start or stop, and twenty-two
replies and waits to each power request that was taken up. -/
theorem requests_are_bounded (events : List Backend.Event) :
    let marks := Machine.outputs Backend.step {} events
    total Mark.isPowerCall marks ≤ 13 * total Mark.isRequest marks ∧
      total Mark.isPowerAnswer marks ≤ 22 * total Mark.isRequest marks ∧
      total Mark.isUnblock marks ≤ total Mark.isRequest marks ∧ total Mark.isSwitch marks ≤ total Mark.isRequest marks := by
  obtain ⟨phase, watched, -⟩ := runs_follow_the_protocol events
  have paid : ∀ phase mark next, Phase.watch phase mark = some next → mark.Paid phase next :=
    fun _ _ _ now => (move now).paid
  have calls := Monitor.spends (fun phase mark next now => (paid phase mark next now).calls) watched
  have answers := Monitor.spends (fun phase mark next now => (paid phase mark next now).answers) watched
  have unblocks := Monitor.spends (fun phase mark next now => (paid phase mark next now).unblocks) watched
  have switches := Monitor.spends (fun phase mark next now => (paid phase mark next now).switches) watched
  rw [List.sum_map_mul_left] at calls answers
  simp only [Phase.callsLeft, Phase.answersLeft, Phase.unblocksLeft, Phase.switchesLeft, Nat.zero_add] at calls answers unblocks switches
  exact ⟨Nat.le_of_add_right_le calls, Nat.le_of_add_right_le answers, Nat.le_of_add_right_le unblocks,
    Nat.le_of_add_right_le switches⟩

end FlossDesktop.RadioPower
