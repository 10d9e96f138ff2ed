import FlossDesktop.Proofs.Microphone

/-! The reads of the microphone socket. The loop never asks for no bytes, so that a read
without bytes is the end of the stream, and a full ring loses old samples first. -/

namespace FlossDesktop.Bridge

open RingBuffer

variable {b next : Bridge} {budget n : Nat}

/-- One turn of the receive loop, with the number of bytes when the loop goes on. -/
def captureTurn (b : Bridge) (budget : Nat) (reception : Reception) : Bridge × Option Nat :=
  match b.discardIfIdle.makeRoom reception.peek with
  | (b, false) => (b, none)
  | (b, true) =>
    match b.receiveBytes budget reception.outcome with
    | (b, none) => (b, none)
    | (b, some n) => (b.voicePlaybackCredit n reception.before reception.after, some n)

/-- What a socket that would block does. -/
def blocked : Reception := { peek := .again, outcome := .again }

theorem readCapture_cons (b : Bridge) (budget : Nat) (reception : Reception) (rest : List Reception) :
    b.readCapture budget (reception :: rest) =
      if budget = 0 ∨ b.failed then b.discardIfIdle
      else match b.captureTurn budget reception with
        | (b, none) => b
        | (b, some n) => b.readCapture (budget - n) rest := by
  rw [readCapture, captureTurn]
  split
  · rfl
  · rcases b.discardIfIdle.makeRoom reception.peek with ⟨next, open_⟩
    cases open_ with
    | false => rfl
    | true =>
      dsimp only
      rcases next.receiveBytes budget reception.outcome with ⟨last, count⟩
      cases count <;> rfl

/-- Once the outcomes are used up the socket blocks, and the loop returns. -/
theorem readCapture_nil (b : Bridge) (budget : Nat) :
    b.readCapture budget [] = if budget = 0 ∨ b.failed then b.discardIfIdle else (b.captureTurn budget blocked).1 := by
  rw [readCapture, captureTurn]
  split
  · rfl
  · by_cases full : b.discardIfIdle.captureQueue.queued = b.discardIfIdle.queueLimit <;>
      simp [makeRoom, full, blocked, receiveBytes]

structure Turn where
  state : Bridge
  budget : Nat
  reception : Reception

/-- The turns that the loop makes. -/
def captureTurns (b : Bridge) (budget : Nat) : List Reception → List Turn
  | [] => if budget = 0 ∨ b.failed then [] else [⟨b, budget, blocked⟩]
  | reception :: rest =>
    if budget = 0 ∨ b.failed then []
    else ⟨b, budget, reception⟩ ::
      match b.captureTurn budget reception with
      | (_, none) => []
      | (b, some n) => b.captureTurns (budget - n) rest

/-- The turns that got bytes. -/
def Turn.successful (turn : Turn) : Bool := (turn.state.captureTurn turn.budget turn.reception).2.isSome

/-- The invariant of the ring, in the voice profile. -/
structure CaptureKept (b : Bridge) : Prop where
  configured : Configured b
  voice : b.hfp = true
  valid : b.captureQueue.Valid
  bounded : b.captureQueue.queued ≤ b.queueLimit

/-- Every run in the voice profile keeps it. -/
theorem captureKept_run {hfp : Bool} (config : PcmConfig hfp) (flush : List SendOutcome) (steps : List Step)
    (voice : ((startup config flush).run steps).hfp = true) : CaptureKept ((startup config flush).run steps) := by
  obtain ⟨configured, kept⟩ := microphoneKept_maintained.run microphoneKept_initial config flush steps
  exact ⟨configured, voice, kept.valid, kept.bounded⟩

theorem CaptureKept.kept (kept : CaptureKept b) (same : SameConfig b next) (ring : next.captureQueue = b.captureQueue) :
    CaptureKept next where
  configured := kept.configured.same same
  voice := same.hfp.trans kept.voice
  valid := ring ▸ kept.valid
  bounded := by
    rw [ring, same.queueLimit]
    exact kept.bounded

theorem CaptureKept.drop (kept : CaptureKept b) {count : Nat} (present : count ≤ b.captureQueue.queued) :
    CaptureKept (b.dropCapture count) where
  configured := kept.configured.same (dropCapture_only b count).config
  voice := kept.voice
  valid := kept.valid.advance present
  bounded := le_trans (Nat.sub_le _ _) kept.bounded

theorem CaptureKept.idle (kept : CaptureKept b) : CaptureKept b.discardIfIdle := by
  rw [discardIfIdle]
  split
  · exact kept
  · exact kept.drop (Nat.sub_le _ _)

/-- What the overrun drop takes: whole samples, at least one, and not the last 30 ms. -/
theorem CaptureKept.overrun (kept : CaptureKept b) (full : b.captureQueue.queued = b.queueLimit) :
    ∃ count, 0 < count ∧ count % (b.channels * 2) = 0 ∧ count ≤ b.captureQueue.queued ∧
      b.dropOverrun.captureQueue = b.captureQueue.advance count ∧
      targetBytes b.rate (b.channels * 2) ≤ b.captureQueue.queued - count := by
  obtain ⟨mono, _, speed, limit⟩ := kept.configured.voice kept.voice
  refine ⟨sizeSub b.captureQueue.queued (targetBytes b.rate 1 * (b.channels * 2)) / (b.channels * 2) * (b.channels * 2),
    ?_, Nat.mul_mod_left _ _, overrun_bound kept.configured kept.voice full, rfl, ?_⟩
  · rw [full, limit, mono, targetBytes, sizeSub_eq (by rcases speed with speed | speed <;> simp [speed])]
    rcases speed with speed | speed <;> simp [speed]
  · rw [full, limit, mono, sizeSub_eq (by rcases speed with speed | speed <;> simp [speed, targetBytes])]
    rcases speed with speed | speed <;> simp [speed, targetBytes]

theorem CaptureKept.makeRoom (kept : CaptureKept b) (peek : RecvOutcome) : CaptureKept (b.makeRoom peek).1 := by
  rcases makeRoom_cases b peek with ⟨ready, same⟩ | ⟨reason, same⟩ | ⟨full, same⟩
  · rw [same]
    exact kept
  · rw [same]
    exact kept.kept (fail_quiet b reason).config rfl
  · obtain ⟨count, _, _, present, dropped, _⟩ := kept.overrun full
    rw [same]
    refine ⟨kept.configured.same (dropOverrun_only b).config, kept.voice, ?_, ?_⟩
    · rw [dropped]
      exact kept.valid.advance present
    · rw [dropped]
      exact le_trans (Nat.sub_le _ _) kept.bounded

/-- When the loop gets to a read, the ring has room. -/
theorem CaptureKept.room (kept : CaptureKept b) {peek : RecvOutcome} (made : b.makeRoom peek = (next, true)) :
    next.captureQueue.queued < next.queueLimit := by
  have bounded := kept.bounded
  by_cases full : b.captureQueue.queued = b.queueLimit
  · obtain ⟨count, positive, _, present, dropped, _⟩ := kept.overrun full
    simp only [Bridge.makeRoom, if_pos full] at made
    -- A full ring without more to read ends the loop.
    split at made <;> cases made
    rw [dropped]
    change b.captureQueue.queued - count < b.queueLimit
    omega
  · simp only [Bridge.makeRoom, if_neg full] at made
    cases made
    omega

theorem readLength_pos (some_ : 0 < budget) (room : b.captureQueue.queued < b.queueLimit) :
    0 < b.readLength budget := by
  have inside : b.captureQueue.writePos < queueSize := Nat.mod_lt _ queueSize_pos
  rw [readLength, sizeSub_eq (le_of_lt room)]
  omega

/-- With a length that is not zero only the end of the stream reads as nothing. -/
theorem receiveBytes_closed (some_ : 0 < b.readLength budget) {bytes : Bytes}
    (ends : (b.receiveBytes budget (.data bytes)).2 = none) : bytes = [] := by
  simp only [receiveBytes] at ends
  split at ends
  · rename_i empty
    rcases List.take_eq_nil_iff.mp (List.isEmpty_iff.mp empty) with none_ | empty
    · have length : b.readLength budget = 0 := none_
      omega
    · exact empty
  · cases ends

/-- A read takes what there is, up to the length. -/
theorem receiveBytes_taken (some_ : 0 < b.readLength budget) {bytes : Bytes} (present : bytes ≠ []) :
    b.receiveBytes budget (.data bytes) =
      (b.received (bytes.take (b.readLength budget)), some (min (b.readLength budget) bytes.length)) := by
  have nonempty : ¬ (bytes.take (b.readLength budget)).isEmpty = true := by
    rw [List.isEmpty_iff, List.take_eq_nil_iff]
    exact fun none_ => none_.elim some_.ne' present
  simp only [receiveBytes, nonempty, Bool.false_eq_true, if_false, List.length_take]

/-- A read that goes on takes at least one byte and at most the length. -/
theorem receiveBytes_some {outcome : RecvOutcome} (goes : b.receiveBytes budget outcome = (next, some n)) :
    ∃ bytes : Bytes, bytes.length = n ∧ 0 < n ∧ n ≤ b.readLength budget ∧ next = b.received bytes := by
  simp only [receiveBytes] at goes
  split at goes
  · cases goes
  · cases goes
  · split at goes
    · cases goes
    · rename_i bytes present
      cases goes
      refine ⟨_, rfl, ?_, ?_, rfl⟩
      · exact List.length_pos_iff.mpr (fun empty => present (List.isEmpty_iff.mpr empty))
      · exact List.length_take_le _ _

theorem CaptureKept.received (kept : CaptureKept b) {bytes : Bytes} (fits : bytes.length ≤ b.readLength budget) :
    CaptureKept (b.received bytes) := by
  rw [readLength, sizeSub_eq kept.bounded] at fits
  have limited := kept.configured.limit
  have bounded := kept.bounded
  have unwrapped : bytes.length ≤ queueSize - b.captureQueue.writePos := by omega
  have written : Written b.captureQueue (b.captureQueue.store b.captureQueue.writePos bytes) b.captureQueue.queued bytes :=
    written_store kept.valid le_rfl (by omega) unwrapped
  have appended := written.appended kept.valid (by omega)
  refine ⟨kept.configured.same (received_only b bytes).config, kept.voice, appended.valid, ?_⟩
  change (RingBuffer.grow _ _).queued ≤ b.queueLimit
  rw [appended.queued]
  omega

/-- A turn after which the loop goes on. -/
theorem CaptureKept.turn (kept : CaptureKept b) {reception : Reception}
    (goes : b.captureTurn budget reception = (next, some n)) : CaptureKept next ∧ 0 < n ∧ n ≤ budget := by
  have ready := kept.idle.makeRoom reception.peek
  rw [captureTurn] at goes
  rcases made : b.discardIfIdle.makeRoom reception.peek with ⟨roomy, open_⟩
  rw [made] at goes ready
  cases open_ with
  | false => cases goes
  | true =>
    dsimp only at goes
    rcases got : roomy.receiveBytes budget reception.outcome with ⟨last, count⟩
    rw [got] at goes
    cases count with
    | none => cases goes
    | some count =>
      obtain ⟨bytes, rfl, positive, fits, rfl⟩ := receiveBytes_some got
      cases goes
      have keeps := voicePlaybackCredit_keeps (roomy.received bytes) bytes.length reception.before reception.after
      refine ⟨(ready.received fits).kept keeps.config keeps.microphone.captureQueue, positive, ?_⟩
      exact le_trans fits (Nat.min_le_left _ _)

/-- What a read asks for fits everywhere and is not nothing, and the ring gets no more. -/
structure Asks (b : Bridge) (budget : Nat) : Prop where
  positive : 0 < b.readLength budget
  within : b.readLength budget ≤ budget
  room : b.captureQueue.queued + b.readLength budget ≤ b.queueLimit
  unwrapped : b.readLength budget ≤ queueSize - b.captureQueue.writePos
  closed : ∀ bytes, (b.receiveBytes budget (.data bytes)).2 = none → bytes = []
  taken : ∀ bytes, bytes ≠ [] → b.receiveBytes budget (.data bytes) =
    (b.received (bytes.take (b.readLength budget)), some (min (b.readLength budget) bytes.length))

/-- The overrun drop takes the oldest whole samples and leaves 30 ms. -/
def DropsOldest (b : Bridge) : Prop :=
  ∃ count, 0 < count ∧ count % (b.channels * 2) = 0 ∧ b.dropOverrun.captureQueue.contents = b.captureQueue.contents.drop count ∧
    targetBytes b.rate (b.channels * 2) ≤ b.dropOverrun.captureQueue.queued

/-- A turn looks at the socket, drops samples or not, and reads. -/
structure Turn.Sound (turn : Turn) : Prop where
  overrun : turn.state.discardIfIdle.captureQueue.queued = turn.state.queueLimit → DropsOldest turn.state.discardIfIdle
  asks : ∀ next, turn.state.discardIfIdle.makeRoom turn.reception.peek = (next, true) → Asks next turn.budget

theorem CaptureKept.sound (kept : CaptureKept b) (some_ : 0 < budget) (reception : Reception) :
    Turn.Sound ⟨b, budget, reception⟩ where
  overrun := by
    intro full
    have idle := kept.idle
    rw [← (discardIfIdle_only b).config.queueLimit] at full
    obtain ⟨count, positive, whole, present, dropped, left⟩ := idle.overrun full
    refine ⟨count, positive, whole, ?_, ?_⟩
    · rw [dropped, contents_advance _ present]
    · rw [dropped]
      exact left
  asks := by
    intro next made
    have ready := kept.idle.makeRoom reception.peek
    rw [made] at ready
    have room := kept.idle.room made
    have positive := readLength_pos some_ room
    refine ⟨positive, Nat.min_le_left _ _, ?_, ?_, fun bytes => receiveBytes_closed positive,
      fun bytes => receiveBytes_taken positive⟩
    · rw [readLength, sizeSub_eq (le_of_lt room)]
      omega
    · exact le_trans (Nat.min_le_right _ _) (Nat.min_le_right _ _)

theorem CaptureKept.turns (kept : CaptureKept b) (budget : Nat) (receptions : List Reception) :
    (∀ turn ∈ b.captureTurns budget receptions, turn.Sound) ∧
      ((b.captureTurns budget receptions).filter Turn.successful).length ≤ budget := by
  induction receptions generalizing b budget with
  | nil =>
    rw [captureTurns]
    split
    · simp
    · rename_i goes
      rw [not_or] at goes
      refine ⟨?_, ?_⟩
      · intro turn member
        cases List.mem_singleton.mp member
        exact kept.sound (Nat.pos_of_ne_zero goes.1) blocked
      · exact le_trans (List.length_filter_le _ _) (Nat.one_le_iff_ne_zero.mpr goes.1)
  | cons reception rest ih =>
    rw [captureTurns]
    split
    · simp
    · rename_i goes
      rw [not_or] at goes
      have first := kept.sound (Nat.pos_of_ne_zero goes.1) reception
      rcases turned : b.captureTurn budget reception with ⟨next, count⟩
      cases count with
      | none =>
        refine ⟨?_, ?_⟩
        · intro turn member
          cases List.mem_singleton.mp member
          exact first
        · simp [Turn.successful, turned]
      | some n =>
        obtain ⟨kept, positive, within⟩ := kept.turn turned
        obtain ⟨sound, few⟩ := ih kept (budget - n)
        refine ⟨?_, ?_⟩
        · intro turn member
          rcases List.mem_cons.mp member with rfl | later
          · exact first
          · exact sound turn later
        · have success : Turn.successful ⟨b, budget, reception⟩ = true := by simp [Turn.successful, turned]
          rw [List.filter_cons_of_pos success, List.length_cons]
          dsimp only
          omega

/-- The receive loop on a ring that is in order, whatever the socket does. -/
theorem readCapture_progress (kept : CaptureKept b) (receptions : List Reception) :
    (∀ turn ∈ b.captureTurns queueSize receptions, turn.Sound) ∧
      ((b.captureTurns queueSize receptions).filter Turn.successful).length ≤ queueSize :=
  kept.turns queueSize receptions

/-- A narrow-band microphone whose ring is full. -/
def fullMicrophone : Bridge :=
  { hfp := true, rate := 8000, channels := 1, bits := 16, queueLimit := 1600, captureRunning := true
    captureQueue := { memory := fun _ => 0, queued := 1600 } }

theorem fullMicrophone_kept : CaptureKept fullMicrophone where
  configured := ⟨by simp [fullMicrophone, queueSize], fun _ => ⟨rfl, rfl, .inl rfl, rfl⟩⟩
  voice := rfl
  valid := ⟨queueSize_pos, by simp [fullMicrophone, queueSize], rfl⟩
  bounded := le_rfl

theorem readCapture_progress_full :
    (∀ turn ∈ fullMicrophone.captureTurns queueSize [{ outcome := .data [1, 2] }], turn.Sound) ∧
      ((fullMicrophone.captureTurns queueSize [{ outcome := .data [1, 2] }]).filter Turn.successful).length ≤ queueSize :=
  readCapture_progress fullMicrophone_kept _

end FlossDesktop.Bridge
