import FlossDesktop.A2dpIntf
import FlossDesktop.Library.History

/-! Starts and stops for a peer, whatever their timing. No start is done after it was denied,
no stream of another peer is started or stopped, and a start that was left behind is done
before any job of a later call. -/

namespace FlossDesktop.A2dpIntf

open ScoPcm (RawAddress)

def Mark.call : Mark → Nat
  | .called id _ _ | .selected id _ | .setActivePeer id _ _ | .returned id _ => id
  | .startRequest id _ _ _ | .stopRequest id _ _ _ | .disconnect id _ _ _ => id
  | .served job => job.call

/-- What has to be so when something is done for a call. -/
def Proper (early : List Mark) : Mark → Prop
  | .setActivePeer id address stack =>
    .called id .startAudio address ∈ early ∧ stack.enabled = true ∧ stack.streamStartedReady = false
  | .startRequest id address stack _ =>
    .called id .startAudio address ∈ early ∧ stack.activePeer = address ∧ .selected id true ∈ early ∧
      .returned id (.flag false) ∉ early ∧ ∀ other past accepted, .startRequest id other past accepted ∉ early
  | .stopRequest id address stack _ =>
    .called id .stopAudio address ∈ early ∧ stack.activePeer = address ∧ stack.streamStartedReady = true
  | .disconnect id address stack _ =>
    .called id .stopAudio address ∈ early ∧ ¬(stack.activePeer = address ∧ stack.streamStartedReady = true)
  | .returned id reply =>
    (∀ other, .returned id other ∉ early) ∧ ∀ address stack, .startRequest id address stack true ∈ early → reply = .flag true
  | _ => True

/-- What a job finds of its call. A start was not denied, and was not done. -/
def Call.Awaits (call : Call) : Task → Prop
  | .select => call.request = .startAudio
  | .start => call.request = .startAudio ∧ call.result = none ∧ (call.stage = .waiting ∨ call.stage = .returned (.flag true))
  | .stop => call.request = .stopAudio
  | .pcmConfig => call.request = .pcmConfig
  | .position => call.request = .position

theorem Call.Awaits.other {call next : Call} {task : Task} (awaits : call.Awaits task) (request : next.request = call.request)
    (other : task ≠ .start) : next.Awaits task := by
  cases task with
  | start => exact absurd rfl other
  | _ => exact request.trans awaits

/-- A call agrees with the queue and with what was done for it. -/
structure Call.Sound (log : List Mark) (queue : List Job) (id : Nat) (call : Call) : Prop where
  called : .called id call.request call.address ∈ log
  early : call.stage = .selecting ∨ call.stage = .readying → call.request = .startAudio ∧ call.result = none
  accepted : ∀ accepted, call.accepted = some accepted → .selected id accepted ∈ log
  returned : ∀ reply, .returned id reply ∈ log → call.stage = .returned reply
  started : ∀ address stack accepted, .startRequest id address stack accepted ∈ log →
    call.request = .startAudio ∧ call.result = some (.flag accepted) ∧ ⟨id, .start⟩ ∉ queue
  awaited : ∀ task, ⟨id, task⟩ ∈ queue → call.Awaits task
  selected : ⟨id, .start⟩ ∈ queue → .selected id true ∈ log

structure System.Sound (log : List Mark) (s : System) : Prop where
  nodup : s.queue.Nodup
  selecting : ∀ id, s.selecting = some id → s.stack.enabled = true ∧ ∃ call, s.calls[id]? = some call ∧ call.request = .startAudio
  calls : ∀ id (call : Call), s.calls[id]? = some call → call.Sound log s.queue id
  marks : ∀ mark ∈ log, mark.call < s.calls.length
  jobs : ∀ job ∈ s.queue, job.call < s.calls.length

theorem System.Sound.start : System.Sound [] {} := ⟨List.nodup_nil, nofun, nofun, nofun, nofun⟩

/-- A call does not notice what is done for another. -/
theorem Call.Sound.elsewhere {log marks : List Mark} {queue after : List Job} {id other : Nat} {call : Call}
    (sound : call.Sound log queue other) (different : other ≠ id) (own : ∀ mark ∈ marks, mark.call = id)
    (same : ∀ task, ⟨other, task⟩ ∈ after ↔ ⟨other, task⟩ ∈ queue) : call.Sound (log ++ marks) after other := by
  have old : ∀ mark : Mark, mark.call = other → mark ∈ log ++ marks → mark ∈ log := by
    intro mark about member
    rcases List.mem_append.mp member with before | new
    · exact before
    · exact absurd (about.symm.trans (own mark new)) different
  refine ⟨List.mem_append_left _ sound.called, sound.early, ?_, ?_, ?_, ?_, ?_⟩
  · exact fun accepted holds => List.mem_append_left _ (sound.accepted accepted holds)
  · exact fun reply member => sound.returned reply (old _ rfl member)
  · intro address stack accepted member
    obtain ⟨request, result, gone⟩ := sound.started address stack accepted (old _ rfl member)
    exact ⟨request, result, fun queued => gone ((same .start).mp queued)⟩
  · exact fun task member => sound.awaited task ((same task).mp member)
  · exact fun member => List.mem_append_left _ (sound.selected ((same .start).mp member))

/-- Jobs leave the queue, and marks are added that are about neither a return nor a start. -/
theorem Call.Sound.goesOn {log marks : List Mark} {queue after : List Job} {id : Nat} {call : Call}
    (sound : call.Sound log queue id) (popped : ∀ job ∈ after, job ∈ queue) (unheard : ∀ reply, .returned id reply ∉ marks)
    (unmade : ∀ address stack accepted, .startRequest id address stack accepted ∉ marks) : call.Sound (log ++ marks) after id where
  called := List.mem_append_left _ sound.called
  early := sound.early
  accepted := fun accepted holds => List.mem_append_left _ (sound.accepted accepted holds)
  returned := fun reply member => sound.returned reply ((List.mem_append.mp member).resolve_right (unheard reply))
  started := by
    intro address stack accepted member
    obtain ⟨request, result, gone⟩ :=
      sound.started address stack accepted ((List.mem_append.mp member).resolve_right (unmade address stack accepted))
    exact ⟨request, result, fun queued => gone (popped _ queued)⟩
  awaited := fun task queued => sound.awaited task (popped _ queued)
  selected := fun queued => List.mem_append_left _ (sound.selected (popped _ queued))

namespace System

variable {s after : System} {log marks : List Mark} {id : Nat} {call next : Call}

theorem known (found : s.calls[id]? = some call) : id < s.calls.length := (List.getElem?_eq_some_iff.mp found).1

/-- What is done for one call keeps everything in order if it keeps that call in order. -/
theorem Sound.touch (sound : Sound log s) (found : s.calls[id]? = some call) (calls : after.calls = s.calls.set id next)
    (nodup : after.queue.Nodup) (jobs : ∀ job ∈ after.queue, job ∈ s.queue ∨ job.call = id)
    (kept : ∀ job ∈ s.queue, job.call ≠ id → job ∈ after.queue) (own : ∀ mark ∈ marks, mark.call = id)
    (selecting : ∀ id, after.selecting = some id →
      after.stack.enabled = true ∧ ∃ call, after.calls[id]? = some call ∧ call.request = .startAudio)
    (new : next.Sound (log ++ marks) after.queue id) : Sound (log ++ marks) after where
  nodup := nodup
  selecting := selecting
  calls := by
    intro other current holds
    rw [calls, List.getElem?_set] at holds
    split at holds
    next same =>
      subst same
      rw [if_pos (known found)] at holds
      cases holds
      exact new
    next different =>
      refine (sound.calls other current holds).elsewhere (Ne.symm different) own fun task => ⟨fun member => ?_, fun member => ?_⟩
      · exact (jobs _ member).resolve_right (Ne.symm different)
      · exact kept _ member (Ne.symm different)
  marks := by
    intro mark member
    rw [calls, List.length_set]
    rcases List.mem_append.mp member with old | fresh
    · exact sound.marks mark old
    · rw [own mark fresh]
      exact known found
  jobs := by
    intro job member
    rw [calls, List.length_set]
    rcases jobs job member with old | fresh
    · exact sound.jobs job old
    · rw [fresh]
      exact known found

/-- The selection that is under way does not notice what else a call shares. -/
theorem Sound.selects (sound : Sound log s) (found : s.calls[id]? = some call) (request : next.request = call.request)
    (other : Nat) (now : s.selecting = some other) :
    s.stack.enabled = true ∧ ∃ current, (s.calls.set id next)[other]? = some current ∧ current.request = .startAudio := by
  obtain ⟨enabled, current, there, asks⟩ := sound.selecting other now
  refine ⟨enabled, ?_⟩
  rw [List.getElem?_set]
  split
  next same =>
    subst same
    rw [found] at there
    cases there
    exact ⟨next, if_pos (known found), request.trans asks⟩
  · exact ⟨current, there, asks⟩

/-- A call that changes in nothing but what its threads share. -/
theorem Sound.revise (sound : Sound log s) (found : s.calls[id]? = some call) (request : next.request = call.request)
    (own : ∀ mark ∈ marks, mark.call = id) (new : next.Sound (log ++ marks) s.queue id) :
    Sound (log ++ marks) (s.update id next) :=
  sound.touch found rfl sound.nodup (fun _ => .inl) (fun _ member _ => member) own (sound.selects found request) new

/-- A call that is new keeps everything in order. -/
theorem Sound.enters (sound : Sound log s) {jobs : List Job} (calls : after.calls = s.calls ++ [next])
    (queue : after.queue = s.queue ++ jobs) (single : jobs.Nodup) (mine : ∀ job ∈ jobs, job.call = s.calls.length)
    (own : ∀ mark ∈ marks, mark.call = s.calls.length) (stack : after.stack = s.stack) (selecting : after.selecting = s.selecting)
    (new : next.Sound (log ++ marks) jobs s.calls.length) : Sound (log ++ marks) after where
  nodup := by
    rw [queue, List.nodup_append]
    refine ⟨sound.nodup, single, ?_⟩
    rintro job old _ fresh rfl
    exact absurd (mine job fresh) (Nat.ne_of_lt (sound.jobs job old))
  selecting := by
    intro id now
    rw [selecting] at now
    obtain ⟨enabled, call, found, asks⟩ := sound.selecting id now
    exact ⟨stack ▸ enabled, call, by rw [calls, List.getElem?_append_left (known found), found], asks⟩
  calls := by
    intro other current holds
    rw [calls] at holds
    rcases Nat.lt_or_ge other s.calls.length with old | fresh
    · rw [List.getElem?_append_left old] at holds
      refine (sound.calls other current holds).elsewhere (Nat.ne_of_lt old) own fun task => ?_
      rw [queue, List.mem_append]
      exact ⟨fun member => member.resolve_right fun fresh => absurd (mine _ fresh) (Nat.ne_of_lt old), .inl⟩
    · obtain rfl : other = s.calls.length := by
        have inside := (List.getElem?_eq_some_iff.mp holds).1
        rw [List.length_append, List.length_singleton] at inside
        omega
      rw [List.getElem?_append_right (Nat.le_refl _), Nat.sub_self] at holds
      cases holds
      have fresh : ∀ task, ⟨s.calls.length, task⟩ ∈ after.queue → ⟨s.calls.length, task⟩ ∈ jobs := by
        intro task member
        rw [queue] at member
        exact (List.mem_append.mp member).resolve_left fun old => absurd (sound.jobs _ old) (Nat.lt_irrefl _)
      refine ⟨new.called, new.early, new.accepted, new.returned, ?_, fun task member => new.awaited task (fresh task member),
        fun member => new.selected (fresh _ member)⟩
      intro address stack accepted member
      obtain ⟨request, result, gone⟩ := new.started address stack accepted member
      exact ⟨request, result, fun queued => gone (fresh _ queued)⟩
  marks := by
    intro mark member
    rw [calls, List.length_append, List.length_singleton]
    rcases List.mem_append.mp member with old | fresh
    · exact Nat.lt_succ_of_lt (sound.marks mark old)
    · rw [own mark fresh]
      exact Nat.lt_succ_self _
  jobs := by
    intro job member
    rw [calls, List.length_append, List.length_singleton]
    rw [queue] at member
    rcases List.mem_append.mp member with old | fresh
    · exact Nat.lt_succ_of_lt (sound.jobs job old)
    · rw [mine job fresh]
      exact Nat.lt_succ_self _

/-- What a step has to leave behind. -/
structure Keeps (log : List Mark) (result : System × List Mark) : Prop where
  sound : result.1.Sound (log ++ result.2)
  proper : ∀ early mark late, result.2 = early ++ mark :: late → Proper (log ++ early) mark

theorem Keeps.quiet (sound : s.Sound log) : Keeps log (s, []) :=
  ⟨(List.append_nil log).symm ▸ sound, fun early mark late impossible => by cases early <;> cases impossible⟩

theorem Keeps.single {mark : Mark} (sound : s.Sound (log ++ [mark])) (proper : Proper log mark) : Keeps log (s, [mark]) := by
  refine ⟨sound, fun early other late same => ?_⟩
  cases early with
  | nil =>
    cases same
    rwa [List.append_nil]
  | cons first rest => cases rest <;> cases same

theorem Keeps.double {mark last : Mark} (sound : s.Sound (log ++ [mark, last])) (proper : Proper log mark)
    (properly : Proper (log ++ [mark]) last) : Keeps log (s, [mark, last]) := by
  refine ⟨sound, fun early other late same => ?_⟩
  cases early with
  | nil =>
    cases same
    rwa [List.append_nil]
  | cons first rest =>
    cases rest with
    | nil =>
      cases same
      exact properly
    | cons second more => cases more <;> cases same

theorem call_keeps (sound : s.Sound log) (request : Request) (address : RawAddress) (posted : Bool) :
    Keeps log (s.call request address posted) := by
  have unheard : ∀ reply, .returned s.calls.length reply ∉ log := fun reply member =>
    absurd (sound.marks _ member) (Nat.lt_irrefl _)
  have unmade : ∀ address stack accepted, .startRequest s.calls.length address stack accepted ∉ log :=
    fun address stack accepted member => absurd (sound.marks _ member) (Nat.lt_irrefl _)
  unfold call
  split
  · refine .single (sound.enters rfl rfl (List.nodup_singleton _) ?_ ?_ rfl rfl ⟨?_, ?_, nofun, ?_, ?_, ?_, ?_⟩) trivial
    · exact fun job member => by rw [List.mem_singleton.mp member]
    · exact fun mark member => by rw [List.mem_singleton.mp member]; rfl
    · exact List.mem_append_right _ List.mem_cons_self
    · exact fun early => ⟨by cases request <;> first | rfl | cases early <;> contradiction, rfl⟩
    · intro reply member
      rcases List.mem_append.mp member with old | new
      · exact absurd old (unheard reply)
      · cases List.mem_singleton.mp new
    · intro other stack accepted member
      rcases List.mem_append.mp member with old | new
      · exact absurd old (unmade other stack accepted)
      · cases List.mem_singleton.mp new
    · intro task member
      cases List.mem_singleton.mp member
      cases request <;> rfl
    · intro member
      cases request <;> cases List.mem_singleton.mp member
  · refine .double (sound.enters rfl (List.append_nil _).symm List.nodup_nil nofun ?_ rfl rfl ⟨?_, ?_, nofun, ?_, ?_, nofun, nofun⟩)
      trivial ⟨?_, ?_⟩
    · intro mark member
      rcases List.mem_cons.mp member with rfl | last
      · rfl
      · rw [List.mem_singleton.mp last]
        rfl
    · exact List.mem_append_right _ List.mem_cons_self
    · exact fun early => by cases early <;> contradiction
    · intro reply member
      rcases List.mem_append.mp member with old | new
      · exact absurd old (unheard reply)
      · rcases List.mem_cons.mp new with impossible | last
        · cases impossible
        · cases List.mem_singleton.mp last
          rfl
    · intro other stack accepted member
      rcases List.mem_append.mp member with old | new
      · exact absurd old (unmade other stack accepted)
      · rcases List.mem_cons.mp new with impossible | last
        · cases impossible
        · cases List.mem_singleton.mp last
    · intro other member
      rcases List.mem_append.mp member with old | new
      · exact unheard other old
      · cases List.mem_singleton.mp new
    · intro other stack member
      rcases List.mem_append.mp member with old | new
      · exact absurd old (unmade other stack true)
      · cases List.mem_singleton.mp new

theorem Keeps.silent (sound : s.Sound (log ++ [])) : Keeps log (s, []) := .quiet ((List.append_nil log) ▸ sound)

theorem Sound.unposted (sound : s.Sound log) (found : s.calls[id]? = some call)
    (early : call.stage = .selecting ∨ call.stage = .readying) : ⟨id, .start⟩ ∉ s.queue := by
  intro queued
  obtain ⟨-, -, waiting | returned⟩ := (sound.calls id call found).awaited _ queued
  · rw [waiting] at early
    cases early <;> contradiction
  · rw [returned] at early
    cases early <;> contradiction

/-- A call returns what its job was answered, or what it says when it does not know. -/
theorem returns_keep (sound : s.Sound log) (found : s.calls[id]? = some call) (cancelled : Bool) (reply : Reply)
    (busy : ∀ reply, call.stage ≠ .returned reply)
    (why : call.result = some reply ∨ call.result = none ∧ (⟨id, .start⟩ ∈ s.queue → reply = .flag true)) :
    Keeps log (s.returnWith id { call with cancelled } reply) := by
  have mine := sound.calls id call found
  have unheard : ∀ other, .returned id other ∉ log := fun other member => busy other (mine.returned other member)
  refine .single (sound.revise found rfl (fun mark member => by rw [List.mem_singleton.mp member]; rfl) ⟨?_, ?_, ?_, ?_, ?_, ?_, ?_⟩)
    ⟨unheard, ?_⟩
  · exact List.mem_append_left _ mine.called
  · exact fun early => by cases early <;> contradiction
  · exact fun accepted holds => List.mem_append_left _ (mine.accepted accepted holds)
  · intro other member
    rcases List.mem_append.mp member with old | new
    · exact absurd old (unheard other)
    · cases List.mem_singleton.mp new
      rfl
  · intro address stack accepted member
    exact mine.started address stack accepted (by simpa using member)
  · intro task queued
    have awaits := mine.awaited task queued
    cases task with
    | start =>
      obtain ⟨request, none, -⟩ := awaits
      rcases why with answered | ⟨-, granted⟩
      · rw [none] at answered
        cases answered
      · exact ⟨request, none, .inr (congrArg Stage.returned (granted queued))⟩
    | _ => exact awaits
  · exact fun queued => List.mem_append_left _ (mine.selected queued)
  · intro address stack member
    have result := (mine.started address stack true member).2.1
    rcases why with answered | ⟨none, -⟩
    · rw [result] at answered
      exact (Option.some.inj answered).symm
    · rw [result] at none
      cases none

theorem wait_keeps (sound : s.Sound log) (id : Nat) (expired posted : Bool) : Keeps log (s.wait id expired posted) := by
  unfold wait
  split
  · exact .quiet sound
  next call found =>
    have mine := sound.calls id call found
    split
    next stage =>
      have unposted := sound.unposted found (.inl stage)
      have none := (mine.early (.inl stage)).2
      split
      · refine .silent (sound.revise found rfl nofun ?_)
        rw [List.append_nil]
        refine ⟨mine.called, fun _ => mine.early (.inl stage), mine.accepted, ?_, mine.started, ?_, mine.selected⟩
        · intro reply member
          have returned := mine.returned reply member
          rw [stage] at returned
          cases returned
        · exact fun task queued => (mine.awaited task queued).other rfl fun start => unposted (start ▸ queued)
      · split
        · exact returns_keep sound found true _ (by rw [stage]; nofun) (.inr ⟨none, fun queued => absurd queued unposted⟩)
        · exact .quiet sound
    next stage =>
      have unposted := sound.unposted found (.inr stage)
      have none := (mine.early (.inr stage)).2
      have refused : Keeps log (s.returnWith id call (.flag false)) :=
        returns_keep sound found call.cancelled _ (by rw [stage]; nofun) (.inr ⟨none, fun queued => absurd queued unposted⟩)
      split
      · split
        next granted =>
          rw [Bool.and_eq_true, beq_iff_eq] at granted
          refine .silent (sound.touch found rfl ?_ ?_ ?_ nofun ?_ ?_)
          · exact List.nodup_append.mpr ⟨sound.nodup, List.nodup_singleton _, fun job old other new same =>
              unposted (List.mem_singleton.mp new ▸ same ▸ old)⟩
          · intro job member
            exact (List.mem_append.mp member).imp_right fun new => by rw [List.mem_singleton.mp new]
          · exact fun job member _ => List.mem_append_left _ member
          · exact sound.selects found rfl
          · rw [List.append_nil]
            refine ⟨mine.called, nofun, mine.accepted, ?_, ?_, ?_, fun _ => mine.accepted true granted.1⟩
            · intro reply member
              have returned := mine.returned reply member
              rw [stage] at returned
              cases returned
            · intro address stack accepted member
              have result := (mine.started address stack accepted member).2.1
              rw [none] at result
              cases result
            · intro task member
              rcases List.mem_append.mp member with old | new
              · exact (mine.awaited task old).other rfl fun start => unposted (start ▸ old)
              · cases List.mem_singleton.mp new
                exact ⟨(mine.early (.inr stage)).1, none, .inl rfl⟩
        · exact refused
      · split
        · exact refused
        · exact .quiet sound
    next stage =>
      have busy : ∀ reply, call.stage ≠ .returned reply := by rw [stage]; nofun
      split
      next reply answered => exact returns_keep sound found call.cancelled reply busy (.inl answered)
      next none =>
        split
        · refine returns_keep sound found call.cancelled _ busy (.inr ⟨none, fun queued => ?_⟩)
          rw [(mine.awaited _ queued).1]
          rfl
        · exact .quiet sound
    · exact .quiet sound

theorem readied_keeps (sound : s.Sound log) (id : Nat) : Keeps log (s.readied id, []) := by
  unfold readied
  split
  next call found =>
    have mine := sound.calls id call found
    split
    · refine .silent (sound.revise found rfl nofun ?_)
      rw [List.append_nil]
      exact ⟨mine.called, mine.early, mine.accepted, mine.returned, mine.started, mine.awaited, mine.selected⟩
    · exact .quiet sound
  · exact .quiet sound

theorem select_keeps (sound : s.Sound log) (native : Native) (ready : Bool) : Keeps log (s.select native ready) := by
  unfold select
  split
  · exact .quiet sound
  next id now =>
    obtain ⟨enabled, call, found, asks⟩ := sound.selecting id now
    dsimp only
    rw [found]
    have mine := sound.calls id call found
    have chosen : ∀ accepted ready marks, (∀ reply, .returned id reply ∉ marks) →
        (∀ address stack accepted, .startRequest id address stack accepted ∉ marks) → .selected id accepted ∈ marks →
        Call.Sound (log ++ marks) s.queue id { call with ready, accepted := some accepted } := by
      intro accepted ready marks unheard unmade selected
      have kept := mine.goesOn (fun _ member => member) unheard unmade
      refine ⟨kept.called, kept.early, ?_, kept.returned, kept.started, kept.awaited, kept.selected⟩
      intro other same
      cases same
      exact List.mem_append_right _ selected
    dsimp only
    split
    next streaming =>
      refine .single (sound.touch found rfl sound.nodup (fun _ => .inl) (fun _ member _ => member) ?_ nofun
        (chosen _ true _ ?_ ?_ List.mem_cons_self)) trivial
      · exact fun mark member => by rw [List.mem_singleton.mp member]; rfl
      · exact fun reply member => by cases List.mem_singleton.mp member
      · exact fun address stack accepted member => by cases List.mem_singleton.mp member
    next idle =>
      refine .double (sound.touch found rfl sound.nodup (fun _ => .inl) (fun _ member _ => member) ?_ nofun
        (chosen native.accepted ready _ ?_ ?_ (List.mem_cons_of_mem _ List.mem_cons_self))) ⟨?_, enabled, Bool.not_eq_true _ ▸ idle⟩ trivial
      · intro mark member
        rcases List.mem_cons.mp member with rfl | last
        · rfl
        · rw [List.mem_singleton.mp last]
          rfl
      · intro reply member
        rcases List.mem_cons.mp member with impossible | last
        · cases impossible
        · cases List.mem_singleton.mp last
      · intro address stack accepted member
        rcases List.mem_cons.mp member with impossible | last
        · cases impossible
        · cases List.mem_singleton.mp last
      · exact asks ▸ mine.called

/-- The job of a call that answers it. -/
theorem Sound.answers (sound : s.Sound log) {job : Job} {rest : List Job} (queue : s.queue = job :: rest) (busy : s.selecting = none)
    (found : s.calls[job.call]? = some call) (answering : job.task ≠ .select) (stack : Stack) (reply : Reply)
    (own : ∀ mark ∈ marks, mark.call = job.call) (unheard : ∀ reply, .returned job.call reply ∉ marks)
    (made : ∀ address stack accepted, .startRequest job.call address stack accepted ∈ marks →
      job.task = .start ∧ reply = .flag accepted) :
    Sound (log ++ marks) ({ s with queue := rest, stack }.update job.call { call with result := some reply }) := by
  have mine := sound.calls job.call call found
  have apart : job ∉ rest ∧ rest.Nodup := List.nodup_cons.mp (queue ▸ sound.nodup)
  have awaits : call.Awaits job.task := mine.awaited job.task (queue ▸ List.mem_cons_self)
  have later : ∀ task, ⟨job.call, task⟩ ∈ rest → ⟨job.call, task⟩ ∈ s.queue := fun task member =>
    queue ▸ List.mem_cons_of_mem job member
  -- No start is left for the call: it is this job, or the call is not one of a start.
  have unposted : ⟨job.call, .start⟩ ∉ rest := by
    intro queued
    have request := (mine.awaited _ (later _ queued)).1
    obtain ⟨id, task⟩ := job
    cases task with
    | select => exact answering rfl
    | start => exact apart.1 queued
    | _ => rw [show call.request = _ from awaits] at request; cases request
  refine sound.touch found rfl apart.2 (fun job member => .inl (queue ▸ List.mem_cons_of_mem _ member)) ?_ own ?_ ⟨?_, ?_, ?_, ?_, ?_, ?_, ?_⟩
  · intro other member elsewhere
    rw [queue] at member
    exact (List.mem_cons.mp member).resolve_left fun same => elsewhere (congrArg Job.call same)
  · exact fun id now => by rw [show s.selecting = some id from now] at busy; cases busy
  · exact List.mem_append_left _ mine.called
  · intro early
    exfalso
    have request := (mine.early early).1
    obtain ⟨id, task⟩ := job
    cases task with
    | select => exact answering rfl
    | start => exact sound.unposted found early (queue ▸ List.mem_cons_self)
    | _ => rw [show call.request = _ from awaits] at request; cases request
  · exact fun accepted holds => List.mem_append_left _ (mine.accepted accepted holds)
  · exact fun reply member => mine.returned reply ((List.mem_append.mp member).resolve_right (unheard reply))
  · intro address past accepted member
    rcases List.mem_append.mp member with old | new
    · obtain ⟨request, result, gone⟩ := mine.started address past accepted old
      exfalso
      obtain ⟨id, task⟩ := job
      cases task with
      | select => exact answering rfl
      | start => exact gone (queue ▸ List.mem_cons_self)
      | _ => rw [show call.request = _ from awaits] at request; cases request
    · obtain ⟨start, same⟩ := made address past accepted new
      rw [start] at awaits
      exact ⟨awaits.1, congrArg some same, unposted⟩
  · exact fun task queued => (mine.awaited task (later task queued)).other rfl fun start => unposted (start ▸ queued)
  · exact fun queued => absurd queued unposted

theorem serve_keeps (sound : s.Sound log) (native : Native) : Keeps log (s.serve native) := by
  unfold serve
  split
  next job rest busy queue =>
    split
    next call found =>
      have mine := sound.calls job.call call found
      have awaits : call.Awaits job.task := mine.awaited job.task (queue ▸ List.mem_cons_self)
      have popped : ∀ other ∈ rest, other ∈ s.queue := fun other member => queue ▸ List.mem_cons_of_mem job member
      have kept : ∀ other ∈ s.queue, other.call ≠ job.call → other ∈ rest := by
        intro other member elsewhere
        rw [queue] at member
        exact (List.mem_cons.mp member).resolve_left fun same => elsewhere (congrArg Job.call same)
      have apart := List.nodup_cons.mp (queue ▸ sound.nodup)
      have served : ∀ mark ∈ [Mark.served job], mark.call = job.call := fun mark member => by rw [List.mem_singleton.mp member]; rfl
      have quiet : ∀ reply, job.task ≠ .select → Keeps log
          ({ s with queue := rest }.update job.call { call with result := some reply }, [.served job]) := fun reply answering =>
        .single (sound.answers queue busy found answering s.stack reply served nofun nofun) trivial
      obtain ⟨id, task⟩ := job
      cases task with
      | select =>
        dsimp only [perform]
        split
        · have next : call.Sound (log ++ [.served ⟨id, .select⟩, .selected id false]) rest id :=
            mine.goesOn popped (by simp) (by simp)
          refine .double (sound.touch found rfl apart.2 (fun job member => .inl (popped job member)) kept ?_ ?_
            ⟨next.called, next.early, ?_, next.returned, next.started, next.awaited, next.selected⟩) trivial trivial
          · intro mark member
            rcases List.mem_cons.mp member with rfl | last
            · rfl
            · rw [List.mem_singleton.mp last]
              rfl
          · exact fun other now => by rw [show s.selecting = some other from now] at busy; cases busy
          · intro accepted same
            cases same
            exact List.mem_append_right _ (List.mem_cons_of_mem _ List.mem_cons_self)
        next going =>
          rw [Bool.or_eq_true, not_or, Bool.not_eq_true, Bool.not_eq_true, Bool.not_eq_false'] at going
          have same : s.calls.set id call = s.calls := by
            obtain ⟨inside, rfl⟩ := List.getElem?_eq_some_iff.mp found
            exact List.set_getElem_self inside
          refine .single (sound.touch found same.symm apart.2 (fun job member => .inl (popped job member))
            kept served ?_ (mine.goesOn popped (by simp) (by simp))) trivial
          intro other now
          cases now
          exact ⟨going.2, call, found, awaits⟩
      | start =>
        dsimp only [perform]
        split
        next active =>
          rw [beq_iff_eq] at active
          have queued : ⟨id, .start⟩ ∈ s.queue := queue ▸ List.mem_cons_self
          obtain ⟨request, none, stage⟩ := awaits
          refine .double (sound.answers queue busy found nofun _ _ ?_ (by simp) ?_) trivial
            ⟨?_, active, ?_, ?_, ?_⟩
          · intro mark member
            rcases List.mem_cons.mp member with rfl | last
            · rfl
            · rw [List.mem_singleton.mp last]
              rfl
          · intro address stack accepted member
            rcases List.mem_cons.mp member with impossible | last
            · cases impossible
            · cases List.mem_singleton.mp last
              exact ⟨rfl, rfl⟩
          · exact List.mem_append_left _ (request ▸ mine.called)
          · exact List.mem_append_left _ (mine.selected queued)
          · intro member
            have denied := mine.returned (.flag false) (by simpa using member)
            rcases stage with waiting | granted
            · rw [waiting] at denied
              cases denied
            · rw [granted] at denied
              cases denied
          · intro other past accepted member
            exact (mine.started other past accepted (by simpa using member)).2.2 queued
        · exact quiet _ nofun
      | stop =>
        dsimp only [perform]
        have request : call.request = .stopAudio := awaits
        have called : .called id .stopAudio call.address ∈ log ++ [.served ⟨id, .stop⟩] :=
          List.mem_append_left _ (request ▸ mine.called)
        split
        next streams =>
          rw [Stack.streamsTo, Bool.and_eq_true, beq_iff_eq] at streams
          refine .double (sound.answers queue busy found nofun _ _ ?_ (by simp) (by simp)) trivial ⟨called, streams⟩
          simp [Mark.call]
        next other =>
          refine .double (sound.answers queue busy found nofun _ _ ?_ (by simp) (by simp)) trivial ⟨called, ?_⟩
          · simp [Mark.call]
          · rwa [Stack.streamsTo, Bool.and_eq_true, beq_iff_eq] at other
      | pcmConfig => exact quiet _ nofun
      | position => exact quiet _ nofun
    · exact .quiet sound
  · exact .quiet sound

theorem steps_keep (sound : s.Sound log) (event : Event) : Keeps log (s.step event) := by
  cases event with
  | change change =>
    dsimp only [step]
    split
    next idle =>
      refine .quiet ⟨sound.nodup, ?_, sound.calls, sound.marks, sound.jobs⟩
      intro id now
      rw [show s.selecting = some id from now] at idle
      cases idle
    · exact .quiet sound
  | call request address posted => exact call_keeps sound request address posted
  | wait id expired posted => exact wait_keeps sound id expired posted
  | serve native => exact serve_keeps sound native
  | select native ready => exact select_keeps sound native ready
  | readied id => exact readied_keeps sound id

theorem keeps_step (sound : s.Sound log) (proper : History.Everywhere Proper log) (event : Event) :
    (s.step event).1.Sound (log ++ (s.step event).2) ∧ History.Everywhere Proper (log ++ (s.step event).2) :=
  ⟨(steps_keep sound event).sound, proper.append (steps_keep sound event).proper⟩

theorem run_keeps (events : List Event) :
    (Machine.state step {} events).Sound (Machine.outputs step {} events) ∧
      History.Everywhere Proper (Machine.outputs step {} events) := by
  induction events using List.reverseRecOn with
  | nil => exact ⟨.start, .nil⟩
  | append_singleton events event ih =>
    rw [Machine.state_concat, Machine.outputs_concat]
    exact keeps_step ih.1 ih.2 event

/-- What a step does to the queue: jobs are added at its end, or the first one is served. -/
inductive Turn (s after : System) (marks : List Mark) : Prop where
  | posts (jobs : List Job) (queue : after.queue = s.queue ++ jobs)
      (open_ : ∀ job ∈ jobs, ∀ call reply, s.calls[job.call]? = some call → call.stage ≠ .returned reply)
      (idle : ∀ job, .served job ∉ marks) (unmade : ∀ id address stack accepted, .startRequest id address stack accepted ∉ marks)
  | serves (job : Job) (more : List Mark) (queue : s.queue = job :: after.queue) (marked : marks = .served job :: more)
      (idle : ∀ job, .served job ∉ more)
      (made : ∀ id address stack accepted, .startRequest id address stack accepted ∈ more → job = ⟨id, .start⟩)

theorem Turn.rests (same : after.queue = s.queue) (idle : ∀ job, .served job ∉ marks)
    (unmade : ∀ id address stack accepted, .startRequest id address stack accepted ∉ marks) : Turn s after marks :=
  .posts [] (same.trans (List.append_nil _).symm) nofun idle unmade

theorem wait_turn (s : System) (id : Nat) (expired posted : Bool) : Turn s (s.wait id expired posted).1 (s.wait id expired posted).2 := by
  unfold wait
  have returns : ∀ call reply, Turn s (s.returnWith id call reply).1 (s.returnWith id call reply).2 :=
    fun call reply => .rests rfl (by simp [returnWith]) (by simp [returnWith])
  split
  · exact .rests rfl nofun nofun
  next call found =>
    split
    · split
      · exact .rests rfl nofun nofun
      · split
        · exact returns _ _
        · exact .rests rfl nofun nofun
    next stage =>
      split
      · split
        · refine .posts [⟨id, .start⟩] rfl ?_ nofun nofun
          intro job member current reply there
          cases List.mem_singleton.mp member
          rw [found] at there
          cases there
          rw [stage]
          nofun
        · exact returns _ _
      · split
        · exact returns _ _
        · exact .rests rfl nofun nofun
    · split
      · exact returns _ _
      · split
        · exact returns _ _
        · exact .rests rfl nofun nofun
    · exact .rests rfl nofun nofun

theorem serve_turn (s : System) (native : Native) : Turn s (s.serve native).1 (s.serve native).2 := by
  unfold serve
  split
  next job rest busy queue =>
    split
    next call found =>
      obtain ⟨id, task⟩ := job
      dsimp only
      cases task with
      | select =>
        dsimp only [perform]
        split
        · exact .serves _ _ queue rfl (by simp) (by simp)
        · exact .serves _ _ queue rfl (by simp) (by simp)
      | start =>
        dsimp only [perform]
        split
        · refine .serves _ _ queue rfl (by simp) fun other address stack accepted member => ?_
          cases List.mem_singleton.mp member
          rfl
        · exact .serves _ _ queue rfl (by simp) (by simp)
      | stop =>
        dsimp only [perform]
        split
        · exact .serves _ _ queue rfl (by simp) (by simp)
        · exact .serves _ _ queue rfl (by simp) (by simp)
      | _ => exact .serves _ _ queue rfl nofun nofun
    · exact .rests rfl nofun nofun
  · exact .rests rfl nofun nofun

theorem select_turn (s : System) (native : Native) (ready : Bool) : Turn s (s.select native ready).1 (s.select native ready).2 := by
  unfold select
  split
  · exact .rests rfl nofun nofun
  · dsimp only
    split
    · exact .rests rfl nofun nofun
    · split
      · exact .rests rfl (by simp) (by simp)
      · exact .rests rfl (by simp) (by simp)

theorem turn (s : System) (event : Event) : Turn s (s.step event).1 (s.step event).2 := by
  cases event with
  | change change =>
    dsimp only [step]
    split <;> exact .rests rfl nofun nofun
  | call request address posted =>
    dsimp only [step, call]
    split
    · refine .posts [⟨s.calls.length, request.firstTask⟩] rfl ?_ (by simp) (by simp)
      intro job member call reply there
      cases List.mem_singleton.mp member
      exact absurd (known there) (Nat.lt_irrefl _)
    · exact .rests rfl (by simp) (by simp)
  | wait id expired posted => exact wait_turn s id expired posted
  | serve native => exact serve_turn s native
  | select native ready => exact select_turn s native ready
  | readied id =>
    dsimp only [step, readied]
    split
    · split <;> exact .rests rfl nofun nofun
    · exact .rests rfl nofun nofun

/-- A call that has returned stays so, and calls are not forgotten. -/
structure Remembers (s after : System) : Prop where
  length : s.calls.length ≤ after.calls.length
  returned : ∀ (id : Nat) (call : Call) reply, s.calls[id]? = some call → call.stage = .returned reply →
    ∃ current : Call, after.calls[id]? = some current ∧ current.stage = .returned reply

theorem Remembers.same (calls : after.calls = s.calls) : Remembers s after :=
  ⟨Nat.le_of_eq (congrArg List.length calls.symm), fun _ call _ found stage => ⟨call, calls ▸ found, stage⟩⟩

theorem Remembers.update (calls : after.calls = s.calls.set id next) (found : s.calls[id]? = some call)
    (stage : ∀ reply, call.stage = .returned reply → next.stage = .returned reply) : Remembers s after where
  length := by rw [calls, List.length_set]
  returned := by
    intro other current reply there returned
    rw [calls, List.getElem?_set]
    split
    next same =>
      subst same
      rw [found] at there
      cases there
      exact ⟨next, if_pos (known found), stage reply returned⟩
    · exact ⟨current, there, returned⟩

theorem wait_remembers (s : System) (id : Nat) (expired posted : Bool) : Remembers s (s.wait id expired posted).1 := by
  unfold wait
  split
  · exact .same rfl
  next call found =>
    split
    next stage =>
      have busy : ∀ reply, call.stage ≠ .returned reply := by rw [stage]; nofun
      split
      · exact .update rfl found fun reply same => absurd same (busy reply)
      · split
        · exact .update rfl found fun reply same => absurd same (busy reply)
        · exact .same rfl
    next stage =>
      have busy : ∀ reply, call.stage ≠ .returned reply := by rw [stage]; nofun
      split
      · split
        · exact .update rfl found fun reply same => absurd same (busy reply)
        · exact .update rfl found fun reply same => absurd same (busy reply)
      · split
        · exact .update rfl found fun reply same => absurd same (busy reply)
        · exact .same rfl
    next stage =>
      have busy : ∀ reply, call.stage ≠ .returned reply := by rw [stage]; nofun
      split
      · exact .update rfl found fun reply same => absurd same (busy reply)
      · split
        · exact .update rfl found fun reply same => absurd same (busy reply)
        · exact .same rfl
    · exact .same rfl

theorem serve_remembers (s : System) (native : Native) : Remembers s (s.serve native).1 := by
  unfold serve
  split
  next job rest busy queue =>
    split
    next call found =>
      obtain ⟨id, task⟩ := job
      dsimp only
      cases task with
      | select =>
        dsimp only [perform]
        split
        · exact .update rfl found fun _ same => same
        · exact .same rfl
      | start =>
        dsimp only [perform]
        split
        · exact .update rfl found fun _ same => same
        · exact .update rfl found fun _ same => same
      | _ => exact .update rfl found fun _ same => same
    · exact .same rfl
  · exact .same rfl

theorem remembers (s : System) (event : Event) : Remembers s (s.step event).1 := by
  cases event with
  | change change =>
    dsimp only [step]
    split <;> exact .same rfl
  | call request address posted =>
    have entered : ∀ stage, Remembers s (s.enter request address stage) := by
      intro stage
      refine ⟨?_, fun id call reply found returned => ⟨call, ?_, returned⟩⟩
      · rw [enter, List.length_append]
        exact Nat.le_add_right _ _
      · rw [enter, List.getElem?_append_left (known found), found]
    dsimp only [step, call]
    split
    · exact ⟨(entered _).length, (entered _).returned⟩
    · exact entered _
  | wait id expired posted => exact wait_remembers s id expired posted
  | serve native => exact serve_remembers s native
  | select native ready =>
    dsimp only [step, select]
    split
    · exact .same rfl
    · split
      · exact .same rfl
      next found =>
        split
        · exact .update rfl found fun _ same => same
        · exact .update rfl found fun _ same => same
  | readied id =>
    dsimp only [step, readied]
    split
    next found =>
      split
      · exact .update rfl found fun _ same => same
      · exact .same rfl
    · exact .same rfl

def Returned (s : System) (id : Nat) : Prop := ∃ call reply, s.calls[id]? = some call ∧ Call.stage call = .returned reply

theorem Returned.step (returned : s.Returned id) (event : Event) : (s.step event).1.Returned id := by
  obtain ⟨call, reply, found, stage⟩ := returned
  obtain ⟨current, there, still⟩ := (remembers s event).returned id call reply found stage
  exact ⟨current, reply, there, still⟩

/-- No job of a call from `count` on is done before a start of the call `id`. -/
def Ahead (id count : Nat) (early : List Mark) : Mark → Prop
  | .startRequest other _ _ _ => other = id → ∀ job, .served job ∈ early → job.call < count
  | _ => True

/-- A start may be left in the queue, ahead of the jobs of calls from `count` on. -/
structure Left (id count : Nat) (log : List Mark) (s : System) : Prop where
  before : id < count
  returned : s.Returned id
  ahead : ⟨id, .start⟩ ∈ s.queue →
    (∃ front back, s.queue = front ++ ⟨id, .start⟩ :: back ∧ ∀ job ∈ front, job.call < count) ∧
      ∀ job, .served job ∈ log → job.call < count

theorem Left.step {count : Nat} (left : Left id count log s) (nodup : s.queue.Nodup)
    (ahead : History.Everywhere (Ahead id count) log) (event : Event) :
    Left id count (log ++ (s.step event).2) (s.step event).1 ∧
      History.Everywhere (Ahead id count) (log ++ (s.step event).2) := by
  have remembered := left.returned.step event
  have turned := turn s event
  generalize s.step event = result at remembered turned ⊢
  obtain ⟨after, marks⟩ := result
  cases turned with
  | posts jobs queue open_ idle unmade =>
    refine ⟨⟨left.before, remembered, fun queued => ?_⟩, ahead.append ?_⟩
    · rw [queue] at queued
      obtain ⟨call, reply, found, returned⟩ := left.returned
      have old := (List.mem_append.mp queued).resolve_right fun new => open_ _ new call reply found returned
      obtain ⟨⟨front, back, whole, earlier⟩, served⟩ := left.ahead old
      refine ⟨⟨front, back ++ jobs, ?_, earlier⟩, fun job member => ?_⟩
      · rw [queue, whole, List.append_assoc, List.cons_append]
      · exact served job ((List.mem_append.mp member).resolve_right (idle job))
    · intro early mark late divided
      cases mark with
      | startRequest other address stack accepted =>
        have member : Mark.startRequest other address stack accepted ∈ marks := by
          rw [show marks = _ from divided]
          exact List.mem_append_right early List.mem_cons_self
        exact absurd member (unmade other address stack accepted)
      | _ => trivial
  | serves job more queue marked idle made =>
    dsimp only at queue marked
    subst marked
    rw [queue] at nodup
    obtain ⟨apart, -⟩ := List.nodup_cons.mp nodup
    refine ⟨⟨left.before, remembered, fun queued => ?_⟩, ahead.append ?_⟩
    · obtain ⟨⟨front, back, whole, earlier⟩, served⟩ := left.ahead (queue ▸ List.mem_cons_of_mem job queued)
      rw [queue] at whole
      cases front with
      | nil =>
        cases whole
        exact absurd queued apart
      | cons first front =>
        obtain ⟨rfl, rest⟩ := List.cons.inj whole
        refine ⟨⟨front, back, rest, fun other member => earlier other (List.mem_cons_of_mem _ member)⟩, fun other member => ?_⟩
        rcases List.mem_append.mp member with old | new
        · exact served other old
        · rcases List.mem_cons.mp new with same | more
          · cases same
            exact earlier _ List.mem_cons_self
          · exact absurd more (idle other)
    · intro early mark late divided
      cases mark with
      | startRequest other address stack accepted =>
        rintro rfl
        -- It is the job of this start, and what was done before was ahead of it in the queue.
        have start : job = ⟨other, .start⟩ := by
          apply made other address stack accepted
          cases early with
          | nil => cases divided
          | cons first early =>
            rw [(List.cons.inj divided).2]
            exact List.mem_append_right early List.mem_cons_self
        obtain ⟨-, served⟩ := left.ahead (queue ▸ start ▸ List.mem_cons_self)
        intro done member
        rcases List.mem_append.mp member with old | new
        · exact served done old
        · have mine : Mark.served done ∈ .served job :: more := by
            rw [show Mark.served job :: more = _ from divided]
            exact List.mem_append_left _ new
          rcases List.mem_cons.mp mine with same | more
          · cases same
            exact start ▸ left.before
          · exact absurd more (idle done)
      | _ => trivial

theorem Left.run {count : Nat} (sound : s.Sound log) (left : Left id count [] s) (events : List Event) :
    History.Everywhere (Ahead id count) (Machine.outputs System.step s events) := by
  have kept : ∀ events, (Machine.state System.step s events).Sound (log ++ Machine.outputs System.step s events) ∧
      Left id count (Machine.outputs System.step s events) (Machine.state System.step s events) ∧
      History.Everywhere (Ahead id count) (Machine.outputs System.step s events) := by
    intro events
    induction events using List.reverseRecOn with
    | nil => exact ⟨(List.append_nil log).symm ▸ sound, left, .nil⟩
    | append_singleton events event ih =>
      obtain ⟨sound, left, ahead⟩ := ih
      rw [Machine.state_concat, Machine.outputs_concat, ← List.append_assoc]
      exact ⟨(steps_keep sound event).sound, left.step sound.nodup ahead event⟩
  exact (kept events).2.2

theorem Sound.left (sound : s.Sound log) (returned : s.Returned id) : Left id s.calls.length [] s where
  before := by
    obtain ⟨call, reply, found, -⟩ := returned
    exact known found
  returned := returned
  ahead := by
    intro queued
    obtain ⟨front, back, whole⟩ := List.append_of_mem queued
    exact ⟨⟨front, back, whole, fun job member => sound.jobs job (whole ▸ List.mem_append_left _ member)⟩, nofun⟩

/-- In every run what is done for a call is proper, and a start that is done after its call
returned is done before any job of a call that was made later. -/
theorem calls_settle (before after : List Event) :
    History.Everywhere Proper (Machine.outputs step {} (before ++ after)) ∧
      ∀ id, (Machine.state step {} before).Returned id →
        History.Everywhere (Ahead id (Machine.state step {} before).calls.length)
          (Machine.outputs step (Machine.state step {} before) after) := by
  refine ⟨(run_keeps (before ++ after)).2, fun id returned => ?_⟩
  have sound := (run_keeps before).1
  exact (sound.left returned).run sound after

end System
end FlossDesktop.A2dpIntf
