import FlossDesktop.Proofs.PositionFeedback
import FlossDesktop.Watchdog

/-! The watchdog is what the position feedback of a music transport does with its counters. Its
numbers are natural, and agree with those of 64 bits as long as the clock does not run back. -/

namespace FlossDesktop.Feedback

variable {s : Feedback} {now : UInt64}

/-- A position in exact numbers. -/
def Position.told (position : Position) : Watchdog.Position where
  valid := position.valid
  bytes := position.bytes.toNat
  sec := position.sec.toInt
  nsec := position.nsec.toInt
  remote := position.remote.toNat

/-- A reply that has all the fields. -/
def told (reply : Option Entries) : Option Watchdog.Position :=
  (reply.bind (readEntries ({}, 0))).bind fun read => if read.2 = 31 then some read.1.told else none

def watchdog (s : Feedback) : Watchdog where
  failed := s.bridge.failed
  messages := s.bridge.messages
  playbackRunning := s.bridge.playbackRunning
  audioWritten := s.bridge.audioWritten
  positionValid := s.positionValid
  positionBytes := s.positionBytes.toNat
  positionNs := s.positionNs.toNat
  positionReceivedNs := s.positionReceivedNs.toNat
  positionProgressNs := s.positionProgressNs.toNat
  remoteDelayNs := s.remoteDelayNs.toNat

theorem elapsed {earlier : UInt64} (past : earlier ≤ now) :
    now - earlier > positionTimeout ↔ now.toNat - earlier.toNat > FlossDesktop.positionTimeout := by
  rw [gt_iff_lt, UInt64.lt_iff_toNat_lt, UInt64.toNat_sub_of_le now earlier past]
  exact Iff.rfl

theorem levelFailure_watchdog (music : s.bridge.hfp = false) (received : s.positionReceivedNs ≤ now)
    (progress : s.positionProgressNs ≤ now) : s.levelFailure now = s.watchdog.playbackLevel now.toNat := by
  unfold levelFailure Watchdog.playbackLevel
  simp only [music, Bool.false_eq_true, false_or, elapsed received, elapsed progress]
  rfl

/-- The whole seconds that 64 bits of nanoseconds have room for. -/
theorem room_iff {sec nsec : Int64} (seconds : 0 ≤ sec) (rest : 0 ≤ nsec) (below : nsec < 1000000000) :
    sec.toUInt64 > (uint64Max - nsec.toUInt64) / 1000000000 ↔
      sec.toInt.toNat > (2 ^ 64 - 1 - nsec.toInt.toNat) / 1000000000 := by
  have whole : sec.toUInt64.toNat = sec.toInt.toNat := Int64.toNat_toUInt64_of_le seconds
  have part : nsec.toUInt64.toNat = nsec.toInt.toNat := Int64.toNat_toUInt64_of_le rest
  have bound := Int64.lt_iff_toInt_lt.mp below
  have billion : (1000000000 : Int64).toInt = 1000000000 := rfl
  have top : uint64Max.toNat = 2 ^ 64 - 1 := rfl
  have unit : (1000000000 : UInt64).toNat = 1000000000 := rfl
  have small : nsec.toUInt64 ≤ uint64Max := UInt64.le_iff_toNat_le.mpr (by omega)
  rw [gt_iff_lt, UInt64.lt_iff_toNat_lt, UInt64.toNat_div, UInt64.toNat_sub_of_le _ _ small, unit, top, whole, part]

theorem told_stamp {position : Position} {seen : Nat} (acceptable : s.acceptable position seen = true) :
    position.told.stamp = position.stamp.toNat := by
  have exact_ := (acceptable_cases acceptable).stamp
  unfold Watchdog.Position.stamp Position.told
  dsimp only
  omega

/-- The checks are the same in both numbers. -/
theorem accepts_watchdog {position : Position} : s.watchdog.accepts now.toNat position.told = true ↔
    s.acceptable position 31 = true ∧
      ¬ (position.stamp > now ∨ s.positionValid = true ∧ position.stamp < s.positionNs) := by
  have zero : (0 : Int64).toInt = 0 := rfl
  have billion : (1000000000 : Int64).toInt = 1000000000 := rfl
  have checked : s.acceptable position 31 = true ↔ position.valid = true ∧ 0 ≤ position.sec.toInt ∧ 0 ≤ position.nsec.toInt ∧
      position.nsec.toInt < 1000000000 ∧
      position.sec.toInt.toNat ≤ (2 ^ 64 - 1 - position.nsec.toInt.toNat) / 1000000000 ∧
      position.bytes.toNat ≤ s.bridge.audioWritten ∧
      (s.positionValid = false ∨ s.positionBytes.toNat ≤ position.bytes.toNat) := by
    unfold acceptable
    simp only [beq_self_eq_true, Bool.true_and, Bool.and_eq_true, Bool.not_eq_true', decide_eq_false_iff_not,
      Bool.and_eq_false_iff, and_assoc]
    refine and_congr_right fun _ => ?_
    rw [Int64.not_lt, Int64.le_iff_toInt_le, zero]
    refine and_congr_right fun seconds => ?_
    rw [Int64.not_lt, Int64.le_iff_toInt_le, zero]
    refine and_congr_right fun rest => ?_
    rw [Int64.not_le, Int64.lt_iff_toInt_lt, billion]
    refine and_congr_right fun below => ?_
    rw [room_iff (Int64.le_iff_toInt_le.mpr seconds) (Int64.le_iff_toInt_le.mpr rest) (Int64.lt_iff_toInt_lt.mpr below),
      not_lt, not_lt, UInt64.not_lt, UInt64.le_iff_toNat_le]
  unfold Watchdog.accepts
  simp only [Bool.and_eq_true, decide_eq_true_eq, Bool.or_eq_true, Bool.not_eq_true', and_assoc]
  constructor
  · rintro ⟨valid, seconds, rest, below, fits, written, onward, past, later⟩
    have acceptable := checked.mpr ⟨valid, seconds, rest, below, fits, written, onward⟩
    rw [told_stamp acceptable] at past later
    refine ⟨acceptable, ?_⟩
    rintro (early | ⟨known, back⟩)
    · exact absurd (UInt64.lt_iff_toNat_lt.mp early) (not_lt.mpr past)
    · rcases later with unknown | later
      · exact absurd (known.symm.trans unknown) (by decide)
      · exact absurd (UInt64.lt_iff_toNat_lt.mp back) (not_lt.mpr later)
  · rintro ⟨acceptable, timely⟩
    obtain ⟨valid, seconds, rest, below, fits, written, onward⟩ := checked.mp acceptable
    rw [told_stamp acceptable]
    refine ⟨valid, seconds, rest, below, fits, written, onward, ?_, ?_⟩
    · exact not_lt.mp fun early => timely (.inl (UInt64.lt_iff_toNat_lt.mpr early))
    · cases known : s.positionValid with
      | false => exact .inl known
      | true => exact .inr (not_lt.mp fun back => timely (.inr ⟨known, UInt64.lt_iff_toNat_lt.mpr back⟩))

theorem positionAccepted_watchdog {position : Position} (acceptable : s.acceptable position 31 = true)
    (accepted : s.watchdog.accepts now.toNat position.told = true) :
    (s.positionAccepted position now).watchdog = s.watchdog.positionReceived now.toNat (some position.told) := by
  have progress : (s.positionAccepted position now).positionProgressNs.toNat =
      if s.positionValid = false ∨ position.bytes.toNat ≠ s.positionBytes.toNat ∨ s.bridge.playbackRunning = false then now.toNat
      else s.positionProgressNs.toNat := by
    unfold positionAccepted
    simp only [ne_eq, UInt64.toNat_inj, apply_ite UInt64.toNat]
  unfold Watchdog.positionReceived
  dsimp only
  rw [if_pos accepted, told_stamp acceptable]
  unfold watchdog
  rw [progress]
  rfl

/-- A reply is taken, or fails the transport, as the watchdog has it. -/
theorem positionReceived_watchdog (s : Feedback) (reply : Option Entries) (now : UInt64) :
    (s.positionReceived reply now).watchdog = s.watchdog.positionReceived now.toNat (told reply) := by
  unfold Feedback.positionReceived positionRead told
  cases reply.bind (readEntries ({}, 0)) with
  | none => rfl
  | some read =>
    obtain ⟨position, seen⟩ := read
    dsimp only [Option.bind_some]
    by_cases whole : seen = 31
    · subst whole
      rw [if_pos rfl]
      have checks : s.watchdog.accepts now.toNat position.told = true ↔ _ := accepts_watchdog
      by_cases accepted : s.watchdog.accepts now.toNat position.told = true
      · obtain ⟨acceptable, timely⟩ := checks.mp accepted
        have taken : ({ s with positionCall := false } : Feedback).acceptable position 31 ≠ false := by
          change s.acceptable position 31 ≠ false
          rw [acceptable]
          decide
        rw [if_neg taken, if_neg timely]
        exact positionAccepted_watchdog acceptable accepted
      · have failed : s.watchdog.positionReceived now.toNat (some position.told) = s.watchdog.fail unavailable :=
          if_neg accepted
        rw [failed]
        split
        · rfl
        next taken =>
          have acceptable : s.acceptable position 31 = true := Bool.not_eq_false _ ▸ taken
          rw [if_pos (not_not.mp fun timely => accepted (checks.mpr ⟨acceptable, timely⟩))]
          rfl
    · rw [if_neg whole]
      have refused : ({ s with positionCall := false } : Feedback).acceptable position seen = false := by
        unfold acceptable
        rw [beq_false_of_ne whole]
        rfl
      rw [if_pos refused]
      rfl

/-- A stream that changes its state. -/
theorem stateChanged_watchdog (s : Feedback) {state : Bridge.StreamState} (working : state ≠ .error ∧ state ≠ .unconnected)
    (error : Option String) (now : UInt64) :
    (s.stateChanged state error now).watchdog = s.watchdog.stateChanged now.toNat (state == .streaming) := by
  obtain ⟨sound, linked⟩ := working
  cases state with
  | error => exact absurd rfl sound
  | unconnected => exact absurd rfl linked
  | connecting => rfl
  | paused => rfl
  | streaming => rfl

end FlossDesktop.Feedback
