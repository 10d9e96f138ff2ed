import FlossDesktop.Profiles
import Mathlib.Tactic

/-! What the steps of a profile transition touch. Talking to the daemon changes the lease,
the descriptors and the format; everything that selects a profile stays as it is. -/

namespace FlossDesktop.Profiles.Bridge

variable {b after : Bridge}

/-- The bridge without what a dialogue with the daemon may change. -/
def core (b : Bridge) : Bridge :=
  { b with
    failed := false, quitting := false, hfpTransportUnavailable := false, session := 0, audioFd := none, rate := 0
    channels := 0, bits := 0, log := [] }

/-- How often the HFP transport was started. -/
def hfpStarts (b : Bridge) : Nat := b.log.count (.starting true)

/-- How often a failed start fell back. -/
def fallbacks (b : Bridge) : Nat := b.log.count .fallback

/-- The token that is held after one more act, if the act keeps to the lease: nothing is
reserved while a token is held, and only the token that is held is stopped. -/
def leaseStep (held : Nat) : Act → Option Nat
  | .reserve _ => if held = 0 then some 0 else none
  | .reserved token => if held = 0 then some token else none
  | .stop token => if held = token ∧ token ≠ 0 then some 0 else none
  | _ => some held

/-- The token that is held in the end, if every act keeps to the lease. -/
def lease (log : List Act) : Option Nat := log.foldlM leaseStep 0

/-- Whether a failure is open after one more act: a fallback settles the one before it. -/
def failureStep (failed : Bool) : Act → Bool
  | .report _ => true
  | .fallback => false
  | _ => failed

/-- Whether a failure has been reported since the last fallback. -/
def failureOpen (log : List Act) : Bool := log.foldl failureStep false

/-- The log keeps to the lease. The bridge knows the token that is held, and whether a
failure is open. -/
def Logged (b : Bridge) : Prop := lease b.log = some b.session ∧ failureOpen b.log = b.failed

theorem lease_append (log acts : List Act) : lease (log ++ acts) = (lease log).bind (acts.foldlM leaseStep ·) :=
  List.foldlM_append

theorem failureOpen_append (log : List Act) (act : Act) :
    failureOpen (log ++ [act]) = failureStep (failureOpen log) act := by
  unfold failureOpen
  rw [List.foldl_append]
  rfl

theorem Logged.lease_note (logged : Logged b) {act : Act} {token : Nat} (step : leaseStep b.session act = some token) :
    lease (b.log ++ [act]) = some token := by
  rw [lease_append, logged.1]
  simpa using step

theorem Logged.note (logged : Logged b) {act : Act} {token : Nat} (step : leaseStep b.session act = some token)
    (quiet : failureStep b.failed act = b.failed) : Logged { b.note act with session := token } := by
  refine ⟨logged.lease_note step, ?_⟩
  dsimp only [Bridge.note]
  rw [failureOpen_append, logged.2]
  exact quiet

theorem Logged.say (logged : Logged b) {act : Act} (step : leaseStep b.session act = some b.session)
    (quiet : failureStep b.failed act = b.failed) : Logged (b.note act) := logged.note step quiet

/-- Parts of a dialogue in which nothing is started. -/
structure Talk (b after : Bridge) : Prop where
  core : after.core = b.core
  starts : after.hfpStarts = b.hfpStarts
  fallbacks : after.fallbacks = b.fallbacks
  unavailable : after.hfpTransportUnavailable = b.hfpTransportUnavailable

theorem Talk.refl (b : Bridge) : Talk b b := ⟨rfl, rfl, rfl, rfl⟩

theorem Talk.trans {middle : Bridge} (first : Talk b middle) (last : Talk middle after) : Talk b after :=
  ⟨last.core.trans first.core, last.starts.trans first.starts, last.fallbacks.trans first.fallbacks,
    last.unavailable.trans first.unavailable⟩

theorem note_count (b : Bridge) {act other : Act} (apart : act ≠ other) :
    (b.note act).log.count other = b.log.count other := by
  unfold note
  rw [List.count_append, List.count_singleton, if_neg]
  · rfl
  · exact fun same => apart (beq_iff_eq.mp same)

theorem note_talk (b : Bridge) {act : Act} (other : act ≠ .starting true ∧ act ≠ .fallback) : Talk b (b.note act) :=
  ⟨rfl, note_count b other.1, note_count b other.2, rfl⟩

theorem fail_talk (b : Bridge) (reason : String) : Talk b (b.fail reason) := by
  unfold fail
  dsimp only
  split
  · exact ⟨rfl, rfl, rfl, rfl⟩
  · have noted : Talk b (b.note (.report reason)) := note_talk b (by simp)
    exact ⟨noted.core, noted.starts, noted.fallbacks, noted.unavailable⟩

theorem Logged.fail (logged : Logged b) (reason : String) : Logged (b.fail reason) := by
  unfold Bridge.fail
  dsimp only
  split
  next failed => exact ⟨logged.1, logged.2.trans failed⟩
  · refine ⟨logged.lease_note rfl, ?_⟩
    dsimp only [Bridge.note]
    rw [failureOpen_append]
    rfl

theorem fail_session (b : Bridge) (reason : String) : (b.fail reason).session = b.session := by
  unfold fail
  dsimp only
  split <;> rfl

theorem dispatchBus_talk (b : Bridge) (interruption : Interruption) : Talk b (b.dispatchBus interruption) := by
  cases interruption with
  | failure reason => exact fail_talk b reason
  | none => exact .refl b
  | cancelled => exact .refl b

theorem Logged.dispatchBus (logged : Logged b) (interruption : Interruption) : Logged (b.dispatchBus interruption) := by
  cases interruption with
  | failure reason => exact logged.fail reason
  | none => exact logged
  | cancelled => exact logged

theorem dispatchBus_session (b : Bridge) (interruption : Interruption) :
    (b.dispatchBus interruption).session = b.session := by
  cases interruption with
  | failure reason => exact fail_session b reason
  | none => rfl
  | cancelled => rfl

/-- A dialogue that keeps to the lease. -/
structure Leasing (b after : Bridge) : Prop extends Talk b after where
  logged : Logged after

theorem Leasing.fail (leasing : Leasing b after) (reason : String) : Leasing b (after.fail reason) :=
  ⟨leasing.toTalk.trans (fail_talk after reason), leasing.logged.fail reason⟩

theorem Leasing.dispatchBus (leasing : Leasing b after) (interruption : Interruption) :
    Leasing b (after.dispatchBus interruption) :=
  ⟨leasing.toTalk.trans (dispatchBus_talk after interruption), leasing.logged.dispatchBus interruption⟩

/-- A part of a dialogue starts where another one ended. -/
theorem Leasing.then {middle : Bridge} (first : Leasing b middle) (last : Leasing middle after) : Leasing b after :=
  ⟨first.toTalk.trans last.toTalk, last.logged⟩

theorem Logged.still (logged : Logged b) : Leasing b b := ⟨.refl b, logged⟩

/-- Reserving takes a free lease, and succeeds with a token. -/
theorem reserveAttempts_leasing (attempts : List (Attempt Nat)) (logged : Logged b) (free : b.session = 0) :
    Leasing b (b.reserveAttempts attempts).1 ∧
      ((b.reserveAttempts attempts).2 = true → (b.reserveAttempts attempts).1.session ≠ 0) := by
  induction attempts generalizing b with
  | nil => exact ⟨logged.still.fail _, nofun⟩
  | cons attempt rest ih =>
    have asking : leaseStep b.session (.reserve b.hfp) = some b.session := by simp [leaseStep, free]
    have asked : Leasing b (b.note (.reserve b.hfp)) := ⟨note_talk b (by simp), logged.say asking rfl⟩
    unfold reserveAttempts
    dsimp only
    cases attempt.reply with
    | none => exact ⟨asked.fail _, nofun⟩
    | some token =>
      have answered : Leasing b ({ b.note (.reserve b.hfp) with session := token }.note (.reserved token)) := by
        have noted : Talk (b.note (.reserve b.hfp)) ((b.note (.reserve b.hfp)).note (.reserved token)) :=
          note_talk (b.note (.reserve b.hfp)) (by simp)
        have replied : leaseStep (b.note (.reserve b.hfp)).session (.reserved token) = some token := if_pos free
        exact ⟨asked.toTalk.trans ⟨noted.core, noted.starts, noted.fallbacks, noted.unavailable⟩, asked.logged.note replied rfl⟩
      dsimp only
      split
      next granted => exact ⟨answered, fun _ => granted⟩
      next refused =>
        have zero : token = 0 := not_not.mp refused
        split
        · exact ⟨answered.fail _, nofun⟩
        · have heard := answered.dispatchBus attempt.interruption
          split
          · exact ⟨heard.fail _, nofun⟩
          · have again := ih heard.logged (by rw [dispatchBus_session]; exact zero)
            exact ⟨heard.then again.1, again.2⟩

/-- A lease that is acquired holds a token, and nothing has failed. -/
theorem acquire_leasing (x : Acquisition) (reason : String) (logged : Logged b) (free : b.session = 0) :
    Leasing b (b.acquire x reason).1 ∧ ((b.acquire x reason).2 = true →
      (b.acquire x reason).1.session ≠ 0 ∧ (b.acquire x reason).1.failed = false) := by
  unfold acquire
  split
  · exact ⟨logged.still, nofun⟩
  · obtain ⟨reserving, granted⟩ := reserveAttempts_leasing (x.first :: x.retries) logged free
    unfold reserveAudio
    dsimp only
    generalize b.reserveAttempts (x.first :: x.retries) = reserved at reserving granted
    split
    · exact ⟨reserving, nofun⟩
    next succeeded =>
      have token := granted (by simpa using succeeded)
      split
      · exact ⟨reserving, nofun⟩
      · have asked : Leasing b (reserved.1.note (.start reserved.1.session)) :=
          reserving.then ⟨note_talk _ (by simp), reserving.logged.say rfl rfl⟩
        have started : Leasing b (reserved.1.requestStart x.accepted).1 ∧
            (reserved.1.requestStart x.accepted).1.session = reserved.1.session := by
          unfold requestStart
          dsimp only
          split
          · exact ⟨asked, rfl⟩
          · exact ⟨asked.fail _, fail_session _ _⟩
        generalize reserved.1.requestStart x.accepted = start at started
        have heard : Leasing b (if start.2 && !start.1.failed then start.1.dispatchBus x.interruption else start.1) ∧
            (if start.2 && !start.1.failed then start.1.dispatchBus x.interruption else start.1).session =
              reserved.1.session := by
          split
          · exact ⟨started.1.dispatchBus _, (dispatchBus_session _ _).trans started.2⟩
          · exact started
        generalize (if start.2 && !start.1.failed then start.1.dispatchBus x.interruption else start.1) = waited
          at heard
        split
        · exact ⟨heard.1.fail _, nofun⟩
        next quiet =>
          refine ⟨heard.1, fun _ => ⟨?_, ?_⟩⟩
          · rw [heard.2]
            exact token
          · simp only [not_or, Bool.not_eq_true] at quiet
            exact quiet.2.1

/-- What a start leaves: a token and a descriptor if it succeeds, and then no failure. -/
structure Running (b : Bridge) (ok : Bool) : Prop where
  session : ok = true → b.session ≠ 0
  descriptor : ok = true → b.audioFd.isSome
  unfailed : ok = true → b.failed = false

theorem Running.not (b : Bridge) : Running b false := ⟨nofun, nofun, nofun⟩

/-- The descriptor and the format are no part of the lease. -/
theorem Leasing.settled (leasing : Leasing b after) (audioFd : Option Nat) (rate channels bits : Nat) :
    Leasing b { after with audioFd, rate, channels, bits } :=
  ⟨⟨leasing.core, leasing.starts, leasing.fallbacks, leasing.unavailable⟩, leasing.logged⟩

/-- How the socket of a transport was opened. Only the wait for the first sample can find
that the HFP transport is of no use. -/
structure Opened (b : Bridge) (result : Bridge × Bool) : Prop where
  core : result.1.core = b.core
  starts : result.1.hfpStarts = b.hfpStarts
  fallbacks : result.1.fallbacks = b.fallbacks
  unavailable : b.hfpTransportUnavailable = true → result.1.hfpTransportUnavailable = true
  useful : result.2 = true → result.1.hfpTransportUnavailable = b.hfpTransportUnavailable
  logged : Logged result.1
  running : Running result.1 result.2

theorem Leasing.opened {ok : Bool} (leasing : Leasing b after) (running : Running after ok) : Opened b (after, ok) where
  core := leasing.core
  starts := leasing.starts
  fallbacks := leasing.fallbacks
  unavailable set := leasing.unavailable.trans set
  useful _ := leasing.unavailable
  logged := leasing.logged
  running := running

theorem Leasing.missed (leasing : Leasing b after) : Opened b (after, false) := leasing.opened (.not after)

theorem Leasing.unopened {result : Bridge × Bool} (leasing : Leasing b result.1) (missed : ¬ result.2 = true) :
    Opened b result := by
  obtain ⟨after, ok⟩ := result
  cases ok with
  | true => exact absurd rfl missed
  | false => exact leasing.missed

theorem Opened.continued {result : Bridge × Bool} (leasing : Leasing b after) (opened : Opened after result) :
    Opened b result where
  core := opened.core.trans leasing.core
  starts := opened.starts.trans leasing.starts
  fallbacks := opened.fallbacks.trans leasing.fallbacks
  unavailable set := opened.unavailable (leasing.unavailable.trans set)
  useful ok := (opened.useful ok).trans leasing.unavailable
  logged := opened.logged
  running := opened.running

theorem openAudio_opened (opening : AudioOpening) (logged : Logged b) (token : b.session ≠ 0)
    (unfailed : b.failed = false) : Opened b (b.openAudio opening) := by
  have still := logged.still
  cases opening with
  | misread => exact (still.fail _).missed
  | unready => exact still.missed
  | unsocketed => exact (still.settled _ b.rate b.channels b.bits).missed
  | unreachable fd => exact (still.settled _ b.rate b.channels b.bits).missed
  | connected fd confirmed config =>
    have opened : Leasing b { b with audioFd := some fd } := still.settled _ b.rate b.channels b.bits
    cases confirmed with
    | same => exact (still.settled _ _ _ _).opened ⟨fun _ => token, fun _ => rfl, fun _ => unfailed⟩
    | changed => exact (opened.fail _).missed
    | misread => exact ((opened.fail _).fail _).missed

/-- Music says nothing about the HFP transport. -/
theorem openAudio_unavailable (b : Bridge) (opening : AudioOpening) :
    (b.openAudio opening).1.hfpTransportUnavailable = b.hfpTransportUnavailable := by
  have failing : ∀ (b : Bridge) (reason : String), (b.fail reason).hfpTransportUnavailable = b.hfpTransportUnavailable :=
    fun b reason => (fail_talk b reason).unavailable
  cases opening with
  | misread => exact failing _ _
  | unready => rfl
  | unsocketed => rfl
  | unreachable fd => rfl
  | connected fd confirmed config =>
    cases confirmed with
    | same => rfl
    | changed => exact failing _ _
    | misread => exact (failing _ _).trans (failing _ _)

theorem hfpPcmArrives_opened (interruption : Interruption) (arrived : Bool) (logged : Logged b)
    (running : Running b true) : Opened b (b.hfpPcmArrives interruption arrived) := by
  cases arrived with
  | true => exact logged.still.opened running
  | false =>
    have heard := logged.still.dispatchBus interruption
    have failing := fail_talk { b.dispatchBus interruption with hfpTransportUnavailable := true }
      "HFP connected without microphone PCM; controller SCO transport is unavailable"
    have kept : Logged { b.dispatchBus interruption with hfpTransportUnavailable := true } := heard.logged
    exact ⟨failing.core.trans heard.core, failing.starts.trans heard.starts, failing.fallbacks.trans heard.fallbacks,
      fun _ => failing.unavailable, nofun, kept.fail _, .not _⟩

theorem openHfp_opened (turns : List HfpTurn) (logged : Logged b) (token : b.session ≠ 0) (unfailed : b.failed = false) :
    Opened b (b.openHfp turns) := by
  induction turns generalizing b with
  | nil => exact (logged.still.fail _).missed
  | cons turn rest ih =>
    have still := logged.still
    have waits : ∀ interruption : Interruption, ∀ result : Bridge × Bool,
        result = (if (b.dispatchBus interruption).failed ∨ interruption = .cancelled then
          ((b.dispatchBus interruption).fail "Floss HFP PCM socket did not become ready", false)
          else (b.dispatchBus interruption).openHfp rest) → Opened b result := by
      intro interruption result same
      rw [same]
      have heard := still.dispatchBus interruption
      split
      · exact (heard.fail _).missed
      next quiet =>
        apply Opened.continued heard
        apply ih heard.logged
        · rw [dispatchBus_session]
          exact token
        · simpa using (not_or.mp quiet).1
    cases turn with
    | misread => exact (still.fail _).missed
    | pending interruption => exact waits interruption _ rfl
    | unsocketed => exact (still.settled _ b.rate b.channels b.bits).missed
    | postponed interruption => exact waits interruption _ rfl
    | unreachable => exact (still.settled _ b.rate b.channels b.bits).missed
    | connected fd confirmed config interruption arrived =>
      have opened : Leasing b { b with audioFd := some fd } := still.settled _ b.rate b.channels b.bits
      cases confirmed with
      | same =>
        have assigned := still.settled (some fd) config.rate config.channels config.bits
        apply Opened.continued assigned
        exact hfpPcmArrives_opened interruption arrived assigned.logged ⟨fun _ => token, fun _ => rfl, fun _ => unfailed⟩
      | changed => exact (opened.fail _).missed
      | misread => exact ((opened.fail _).fail _).missed

/-- What a start of a transport does. -/
structure Start (b : Bridge) (result : Bridge × Bool) (hfp : Bool) : Prop where
  core : result.1.core = b.core
  starts : result.1.hfpStarts = b.hfpStarts + if hfp then 1 else 0
  fallbacks : result.1.fallbacks = b.fallbacks
  unavailable : b.hfpTransportUnavailable = true → result.1.hfpTransportUnavailable = true
  useful : hfp = false ∨ result.2 = true → result.1.hfpTransportUnavailable = b.hfpTransportUnavailable
  logged : Logged result.1
  running : Running result.1 result.2

theorem note_starting (b : Bridge) (hfp : Bool) :
    (b.note (.starting hfp)).hfpStarts = b.hfpStarts + (if hfp then 1 else 0) ∧
      (b.note (.starting hfp)).fallbacks = b.fallbacks := by
  refine ⟨?_, note_count b (by simp)⟩
  unfold hfpStarts note
  rw [List.count_append]
  cases hfp <;> simp

theorem startHfp_start (x : HfpStart) (logged : Logged b) (free : b.session = 0) : Start b (b.startHfp x) true := by
  obtain ⟨acquiring, held⟩ := acquire_leasing (b := b.note (.starting true)) x.acquisition
    "Floss did not complete HFP start successfully" (logged.say rfl rfl) free
  have opened : Opened (b.note (.starting true)) (b.startHfp x) := by
    unfold startHfp
    dsimp only
    split
    next acquired =>
      obtain ⟨token, unfailed⟩ := held acquired
      exact .continued acquiring (openHfp_opened x.turns acquiring.logged token unfailed)
    next missed => exact acquiring.unopened missed
  exact ⟨opened.core, opened.starts.trans (note_starting b true).1, opened.fallbacks.trans (note_starting b true).2,
    opened.unavailable, fun ok => opened.useful (ok.resolve_left nofun), opened.logged, opened.running⟩

theorem startAudio_start (x : AudioStart) (logged : Logged b) (free : b.session = 0) :
    Start b (b.startAudio x) false := by
  obtain ⟨acquiring, held⟩ := acquire_leasing (b := b.note (.starting false)) x.acquisition
    "Floss did not complete A2DP start successfully" (logged.say rfl rfl) free
  have opened : Opened (b.note (.starting false)) (b.startAudio x) ∧
      (b.startAudio x).1.hfpTransportUnavailable = b.hfpTransportUnavailable := by
    unfold startAudio
    dsimp only
    split
    next acquired =>
      obtain ⟨token, unfailed⟩ := held acquired
      refine ⟨.continued acquiring (openAudio_opened x.opening acquiring.logged token unfailed), ?_⟩
      exact (openAudio_unavailable _ x.opening).trans acquiring.unavailable
    next missed => exact ⟨acquiring.unopened missed, acquiring.unavailable⟩
  exact ⟨opened.1.core, opened.1.starts.trans (note_starting b false).1,
    opened.1.fallbacks.trans (note_starting b false).2, opened.1.unavailable, fun _ => opened.2, opened.1.logged, opened.1.running⟩

theorem startTransport_start (hfpStart : HfpStart) (audioStart : AudioStart) (logged : Logged b) (free : b.session = 0) :
    Start b (b.startTransport hfpStart audioStart) b.hfp := by
  unfold startTransport
  cases b.hfp with
  | true => exact startHfp_start hfpStart logged free
  | false => exact startAudio_start audioStart logged free

/-- The transport is stopped, and its lease is given back. -/
theorem stopTransport_logged (logged : Logged b) : Logged b.stopTransport := by
  unfold stopTransport
  by_cases held : b.session = 0
  · rw [if_neg (not_not.mpr held)]
    exact ⟨logged.1.trans (by rw [held]), logged.2⟩
  · rw [if_pos held]
    exact logged.note (if_pos ⟨rfl, held⟩) rfl

theorem stopTransport_free (b : Bridge) : b.stopTransport.session = 0 := rfl

/-- The bridge also without its watched descriptor. -/
theorem stopTransport_core (b : Bridge) : b.stopTransport.core = { b.core with audioSource := none } := by
  unfold stopTransport
  split <;> rfl

theorem stopTransport_counts (b : Bridge) :
    b.stopTransport.hfpStarts = b.hfpStarts ∧ b.stopTransport.fallbacks = b.fallbacks := by
  unfold stopTransport
  split
  · exact ⟨note_count b (by simp), note_count b (by simp)⟩
  · exact ⟨rfl, rfl⟩

theorem stopTransport_unavailable (b : Bridge) :
    b.stopTransport.hfpTransportUnavailable = b.hfpTransportUnavailable := by
  unfold stopTransport
  split <;> rfl

theorem codecAttempts_leasing (codec : Nat) (choice : Codec) (attempts : List (Attempt Bool)) (logged : Logged b) :
    Leasing b (b.codecAttempts codec choice attempts).1 ∧
      (b.codecAttempts codec choice attempts).1.session = b.session := by
  induction attempts generalizing b with
  | nil => exact ⟨logged.still, rfl⟩
  | cons attempt rest ih =>
    have asked : Leasing b (b.note (.setAudioConfig b.address codec choice.rate choice.bits choice.mode)) :=
      ⟨note_talk b (by simp), logged.say rfl rfl⟩
    unfold codecAttempts
    dsimp only
    cases attempt.reply with
    | none => exact ⟨asked, rfl⟩
    | some accepted =>
      cases accepted with
      | true => exact ⟨asked, rfl⟩
      | false =>
        have heard := asked.dispatchBus attempt.interruption
        have same := dispatchBus_session (b.note (.setAudioConfig b.address codec choice.rate choice.bits choice.mode))
          attempt.interruption
        dsimp only
        split
        · exact ⟨heard, same⟩
        · have again := ih heard.logged
          exact ⟨heard.then again.1, again.2.trans same⟩

theorem requestCodec_leasing (profile : Nat) (first : Attempt Bool) (retries : List (Attempt Bool)) (logged : Logged b) :
    Leasing b (b.requestCodec profile first retries).1 ∧ (b.requestCodec profile first retries).1.session = b.session := by
  unfold requestCodec
  split
  · exact ⟨logged.still, rfl⟩
  · exact ⟨logged.still, rfl⟩
  · split
    · exact ⟨logged.still, rfl⟩
    · exact codecAttempts_leasing _ _ _ logged

end FlossDesktop.Profiles.Bridge
