import FlossDesktop.EncodingHost
import FlossDesktop.Library.History
import Mathlib.Tactic

/-! The bytes of a position are those of the present stream. A read counts when it began
after the last reset, whatever happened before it came back, and the positions of one stream
do not fall. The marks are a history of the sections alone: which of them a section leaves
is decided by the section and the marks before it. -/

namespace FlossDesktop.EncodingHost
open History

variable {host : Host} {marks : List Mark}

def Mark.isReset : Mark → Bool
  | .reset => true
  | _ => false

/-- What happened since the last reset. -/
def thisStream (marks : List Mark) : List Mark := since Mark.isReset marks

/-- The bytes of a read that began in the stream. -/
def bytesOf (stream : List Mark) : Mark → Nat
  | .returned call bytesRead => if .began call ∈ stream then bytesRead else 0
  | _ => 0

def counted (stream : List Mark) : Nat := (stream.map (bytesOf stream)).sum

/-- A read begins once, and returns once after that. -/
def Fresh (before : List Mark) : Mark → Prop
  | .began call => .began call ∉ before
  | .returned call _ => .began call ∈ before ∧ ∀ bytesRead, .returned call bytesRead ∉ before
  | _ => True

/-- A position is not below another one of its stream. -/
def NotBelow (before : List Mark) : Mark → Prop
  | .position later => ∀ earlier, .position earlier ∈ thisStream before → earlier.totalBytesRead ≤ later.totalBytesRead
  | _ => True

theorem counted_push {stream : List Mark} {mark : Mark}
    (fresh : ∀ call, mark = .began call → ∀ bytesRead, .returned call bytesRead ∉ stream) :
    counted (stream ++ [mark]) = counted stream + bytesOf stream mark := by
  have earlier : stream.map (bytesOf (stream ++ [mark])) = stream.map (bytesOf stream) := by
    apply List.map_congr_left
    intro old member
    cases old with
    | returned call bytesRead =>
      have other : Mark.began call ≠ mark := fun same => fresh call same.symm bytesRead member
      simp [bytesOf, other]
    | _ => rfl
  have latest : bytesOf (stream ++ [mark]) mark = bytesOf stream mark := by
    cases mark <;> simp [bytesOf]
  rw [counted, List.map_append, List.sum_append, earlier, List.map_singleton, latest, List.sum_singleton, counted]

def Mark.isBegan : Mark → Bool
  | .began _ => true
  | _ => false

/-- The reads begun so far, which number the next one. -/
def begun (marks : List Mark) : Nat := marks.countP Mark.isBegan

/-- A read is under way from its first section to its second. -/
def UnderWay (marks : List Mark) (call : Nat) : Prop :=
  .began call ∈ marks ∧ ∀ bytesRead, .returned call bytesRead ∉ marks

/-- The marks of one section. A position tells the bytes of the present stream. -/
def Leaves (before : List Mark) (marks : List Mark) : Section → Prop
  | .startRequest ready => marks = if ready then [.reset] else []
  | .init => marks = [.reset]
  | .setRemoteDelay _ => marks = []
  | .getPresentationPosition => ∃ position, marks = [.position position] ∧
      position.totalBytesRead = counted (thisStream before)
  | .beginRead => marks = [.began (begun before)]
  | .finishRead call bytesRead _ =>
      (UnderWay before call → marks = [.returned call bytesRead]) ∧ (¬ UnderWay before call → marks = [])

theorem begun_push (marks : List Mark) (mark : Mark) :
    begun (marks ++ [mark]) = begun marks + if mark.isBegan then 1 else 0 := by
  simp [begun, List.countP_singleton]

/-- Only the two sections of a read say whether it is under way. -/
theorem UnderWay.of_push {marks : List Mark} {mark : Mark} {call : Nat} (later : UnderWay (marks ++ [mark]) call)
    (other : mark ≠ .began call) : UnderWay marks call := by
  obtain ⟨began, still⟩ := later
  refine ⟨?_, fun bytesRead returned => still bytesRead (List.mem_append_left _ returned)⟩
  rcases List.mem_append.mp began with old | new
  · exact old
  · exact absurd (List.mem_singleton.mp new).symm other

structure Sound (host : Host) (marks : List Mark) : Prop where
  total : host.totalBytesRead = counted (thisStream marks)
  behind : ∀ call generation, host.reading call = some generation → generation ≤ host.positionGeneration
  reading : ∀ call generation, host.reading call = some generation →
    (generation = host.positionGeneration ↔ .began call ∈ thisStream marks)
  known : ∀ call, host.reading call ≠ none → .began call ∈ marks
  issued : ∀ call, .began call ∈ marks → call < host.calls
  numbered : host.calls = begun marks
  waiting : ∀ call, UnderWay marks call → host.reading call ≠ none
  closed : ∀ call bytesRead, .returned call bytesRead ∈ marks → .began call ∈ marks ∧ host.reading call = none
  heard : ∀ position, .position position ∈ thisStream marks → position.totalBytesRead ≤ host.totalBytesRead
  once : Everywhere Fresh marks
  rising : Everywhere NotBelow marks

theorem Sound.start : Sound {} [] where
  total := rfl
  behind := by simp
  reading := by simp
  known := by simp
  issued := by simp
  numbered := rfl
  waiting := by simp [UnderWay]
  closed := by simp
  heard := by simp [thisStream, since]
  once := .nil
  rising := .nil

/-- No read that is under way began after a reset that comes now. -/
theorem Sound.reset (sound : Sound host marks) : Sound host.resetPosition (marks ++ [.reset]) where
  total := by
    rw [thisStream, since_start marks rfl]
    rfl
  behind := fun call generation under => Nat.le_succ_of_le (sound.behind call generation under)
  reading := by
    intro call generation under
    have before := sound.behind call generation under
    rw [thisStream, since_start marks rfl]
    simp only [Host.resetPosition, List.not_mem_nil, iff_false]
    omega
  known := fun call under => List.mem_append_left _ (sound.known call under)
  issued := by
    intro call began
    exact sound.issued call (by simpa using began)
  numbered := by
    rw [begun_push]
    exact sound.numbered
  waiting := fun call under => sound.waiting call (under.of_push Mark.noConfusion)
  closed := by
    intro call bytesRead returned
    obtain ⟨began, closed⟩ := sound.closed call bytesRead (by simpa using returned)
    exact ⟨List.mem_append_left _ began, closed⟩
  heard := by
    intro position heard
    rw [thisStream, since_start marks rfl] at heard
    exact absurd heard List.not_mem_nil
  once := sound.once.push _ trivial
  rising := sound.rising.push _ trivial

theorem Sound.remoteDelay (sound : Sound host marks) (delayReport : Nat) :
    Sound { host with remoteDelayReport := delayReport } marks :=
  { sound with }

theorem Sound.position (sound : Sound host marks) : Sound host (marks ++ [.position host.presentationPosition]) := by
  have stream : thisStream (marks ++ [.position host.presentationPosition]) = thisStream marks ++ [.position host.presentationPosition] :=
    since_push marks rfl
  constructor
  · rw [stream, counted_push (by simp), sound.total]
    rfl
  · exact sound.behind
  · intro call generation under
    rw [stream, sound.reading call generation under]
    simp
  · exact fun call under => List.mem_append_left _ (sound.known call under)
  · intro call began
    exact sound.issued call (by simpa using began)
  · rw [begun_push]
    exact sound.numbered
  · exact fun call under => sound.waiting call (under.of_push Mark.noConfusion)
  · intro call bytesRead returned
    obtain ⟨began, closed⟩ := sound.closed call bytesRead (by simpa using returned)
    exact ⟨List.mem_append_left _ began, closed⟩
  · intro position heard
    rw [stream] at heard
    rcases List.mem_append.mp heard with old | new
    · exact sound.heard position old
    · cases List.mem_singleton.mp new
      exact Nat.le_refl _
  · exact sound.once.push _ trivial
  · exact sound.rising.push _ sound.heard

theorem beginRead_reading : host.beginRead.reading = Function.update host.reading host.calls (some host.positionGeneration) := rfl

theorem Sound.began (sound : Sound host marks) : Sound host.beginRead (marks ++ [.began host.calls]) := by
  have stream : thisStream (marks ++ [.began host.calls]) = thisStream marks ++ [.began host.calls] := since_push marks rfl
  have fresh : Mark.began host.calls ∉ marks := fun began => Nat.lt_irrefl _ (sound.issued _ began)
  constructor
  · rw [stream, counted_push, ← sound.total]
    · rfl
    · intro call same bytesRead returned
      cases same
      exact fresh (sound.closed _ bytesRead (mem_of_since returned)).1
  · intro call generation under
    rw [beginRead_reading, Function.update_apply] at under
    split at under
    · cases under
      exact Nat.le_refl _
    · exact sound.behind call generation under
  · intro call generation under
    rw [beginRead_reading, Function.update_apply] at under
    rw [stream]
    split at under
    · rename_i here
      subst here
      cases under
      simp [Host.beginRead]
    · rename_i other
      rw [List.mem_append, List.mem_singleton, Mark.began.injEq, or_iff_left other]
      exact sound.reading call generation under
  · intro call under
    rw [beginRead_reading, Function.update_apply] at under
    split at under
    · rename_i here
      subst here
      exact List.mem_append_right _ (List.mem_singleton_self _)
    · exact List.mem_append_left _ (sound.known call under)
  · intro call began
    rcases List.mem_append.mp began with old | new
    · exact Nat.lt_succ_of_lt (sound.issued call old)
    · cases List.mem_singleton.mp new
      exact Nat.lt_succ_self _
  · rw [begun_push, ← sound.numbered]
    rfl
  · intro call under
    rw [beginRead_reading, Function.update_apply]
    split
    · exact Option.some_ne_none _
    · rename_i other
      refine sound.waiting call (under.of_push ?_)
      rintro ⟨⟩
      exact other rfl
  · intro call bytesRead returned
    obtain ⟨began, closed⟩ := sound.closed call bytesRead (by simpa using returned)
    have other : call ≠ host.calls := by
      rintro rfl
      exact fresh began
    exact ⟨List.mem_append_left _ began, by rw [beginRead_reading, Function.update_of_ne other, closed]⟩
  · intro position heard
    rw [stream] at heard
    exact sound.heard position (by simpa using heard)
  · exact sound.once.push _ fresh
  · exact sound.rising.push _ trivial

/-- The bytes of a read count when nothing was reset since it began. -/
theorem finishRead_total {call generation bytesRead : Nat} {now : Timespec} :
    (host.finishRead call generation bytesRead now).totalBytesRead =
      host.totalBytesRead + if generation = host.positionGeneration then bytesRead else 0 := by
  unfold Host.finishRead
  by_cases same : generation = host.positionGeneration <;> simp [same, Host.endRead]

theorem finishRead_reading {call generation bytesRead : Nat} {now : Timespec} :
    (host.finishRead call generation bytesRead now).reading = Function.update host.reading call none := by
  unfold Host.finishRead
  split <;> rfl

theorem finishRead_generation {call generation bytesRead : Nat} {now : Timespec} :
    (host.finishRead call generation bytesRead now).positionGeneration = host.positionGeneration := by
  unfold Host.finishRead
  split <;> rfl

theorem finishRead_calls {call generation bytesRead : Nat} {now : Timespec} :
    (host.finishRead call generation bytesRead now).calls = host.calls := by
  unfold Host.finishRead
  split <;> rfl

theorem Sound.returned (sound : Sound host marks) {call generation : Nat} (under : host.reading call = some generation)
    (bytesRead : Nat) (now : Timespec) :
    Sound (host.finishRead call generation bytesRead now) (marks ++ [.returned call bytesRead]) := by
  have stream : thisStream (marks ++ [.returned call bytesRead]) = thisStream marks ++ [.returned call bytesRead] := since_push marks rfl
  have still : ∀ other found, (host.finishRead call generation bytesRead now).reading other = some found →
      other ≠ call ∧ host.reading other = some found := by
    intro other found kept
    rw [finishRead_reading, Function.update_apply] at kept
    split at kept
    · cases kept
    · exact ⟨‹_›, kept⟩
  constructor
  · rw [stream, counted_push (by simp), finishRead_total, sound.total]
    simp only [bytesOf, sound.reading call generation under]
  · intro other found kept
    rw [finishRead_generation]
    exact sound.behind other found (still other found kept).2
  · intro other found kept
    rw [finishRead_generation, stream, sound.reading other found (still other found kept).2]
    simp
  · intro other kept
    obtain ⟨found, kept⟩ := Option.ne_none_iff_exists'.mp kept
    apply List.mem_append_left
    apply sound.known
    rw [(still other found kept).2]
    exact Option.some_ne_none found
  · intro other began
    rw [finishRead_calls]
    exact sound.issued other (by simpa using began)
  · rw [finishRead_calls, begun_push]
    exact sound.numbered
  · intro other open_
    have apart : other ≠ call := by
      rintro rfl
      exact open_.2 bytesRead (List.mem_append_right _ (List.mem_singleton_self _))
    rw [finishRead_reading, Function.update_of_ne apart]
    exact sound.waiting other (open_.of_push Mark.noConfusion)
  · intro other size returned
    rw [finishRead_reading, Function.update_apply]
    rcases List.mem_append.mp returned with old | new
    · obtain ⟨began, closed⟩ := sound.closed other size old
      exact ⟨List.mem_append_left _ began, by rw [closed, ite_self]⟩
    · cases List.mem_singleton.mp new
      exact ⟨List.mem_append_left _ (sound.known call (by simp [under])), if_pos rfl⟩
  · intro position heard
    rw [stream] at heard
    rw [finishRead_total]
    exact Nat.le_add_right_of_le (sound.heard position (by simpa using heard))
  · apply sound.once.push
    refine ⟨sound.known call (by simp [under]), ?_⟩
    intro size returned
    rw [(sound.closed call size returned).2] at under
    cases under
  · exact sound.rising.push _ trivial

theorem Sound.step (sound : Sound host marks) (next : Section) :
    Sound (EncodingHost.step host next).1 (marks ++ (EncodingHost.step host next).2) := by
  cases next with
  | startRequest ready =>
    cases ready with
    | true => exact sound.reset
    | false => simpa [EncodingHost.step] using sound
  | init => exact sound.reset.remoteDelay 0
  | setRemoteDelay delayReport => simpa [EncodingHost.step] using sound.remoteDelay delayReport
  | getPresentationPosition => exact sound.position
  | beginRead => exact sound.began
  | finishRead call bytesRead now =>
    simp only [EncodingHost.step]
    split
    · exact sound.returned ‹_› bytesRead now
    · simpa using sound

theorem Sound.run (sections : List Section) :
    Sound (Machine.state EncodingHost.step {} sections) (Machine.outputs EncodingHost.step {} sections) := by
  induction sections using List.reverseRecOn with
  | nil => exact Sound.start
  | append_singleton sections last ih =>
    rw [Machine.state_concat, Machine.outputs_concat]
    exact ih.step last

theorem Sound.leaves (sound : Sound host marks) (next : Section) : Leaves marks (EncodingHost.step host next).2 next := by
  cases next with
  | startRequest ready => cases ready <;> rfl
  | init => rfl
  | setRemoteDelay delayReport => rfl
  | getPresentationPosition => exact ⟨_, rfl, sound.total⟩
  | beginRead => exact congrArg (fun call => [Mark.began call]) sound.numbered
  | finishRead call bytesRead now =>
    simp only [EncodingHost.step]
    split
    next generation under =>
      have open_ : UnderWay marks call := by
        refine ⟨sound.known call (by simp [under]), fun size returned => ?_⟩
        rw [(sound.closed call size returned).2] at under
        cases under
      exact ⟨fun _ => rfl, fun closed => absurd open_ closed⟩
    next none_ => exact ⟨fun open_ => absurd none_ (sound.waiting call open_), fun _ => rfl⟩

/-- Whatever the threads do, every section leaves its own marks, the total is that of the
reads that began since the last reset and have come back, and within a stream no position
is below an earlier one. -/
theorem total_of_this_stream (sections : List Section) :
    (Machine.state step {} sections).totalBytesRead = counted (thisStream (Machine.outputs step {} sections)) ∧
      Everywhere Fresh (Machine.outputs step {} sections) ∧ Everywhere NotBelow (Machine.outputs step {} sections) ∧
      ∀ next, ∃ marks, Machine.outputs step {} (sections ++ [next]) = Machine.outputs step {} sections ++ marks ∧
        Leaves (Machine.outputs step {} sections) marks next := by
  have sound := Sound.run sections
  exact ⟨sound.total, sound.once, sound.rising, fun next => ⟨_, Machine.outputs_concat _ _, sound.leaves next⟩⟩

/-- A read over a start, one in the new stream that comes back first, and two positions. -/
def straddled : List Section :=
  [.init, .beginRead, .startRequest true, .beginRead, .finishRead 1 256 {}, .getPresentationPosition,
    .finishRead 0 512 {}, .getPresentationPosition, .beginRead]

/-- The read over the start adds nothing, and the one after it does. -/
theorem straddled_total : (Machine.state step {} straddled).totalBytesRead = 256 ∧
    Machine.outputs step {} straddled = [.reset, .began 0, .reset, .began 1, .returned 1 256,
      .position ⟨0, 256, {}⟩, .returned 0 512, .position ⟨0, 256, {}⟩, .began 2] :=
  ⟨(total_of_this_stream straddled).1.trans (by decide), by decide⟩

end FlossDesktop.EncodingHost
