import Mathlib.Tactic

/-! Tickets for requests. A key has at most one current ticket, numbers are never given
twice, and every ticket has a timer that may fire when the ticket is no longer current. -/

namespace Tickets

structure Ticket (κ π : Type) where
  key : κ
  purpose : π
  number : Nat
deriving Repr, DecidableEq

variable {κ π : Type}

structure Desk (κ π : Type) where
  current : κ → Option (Ticket κ π) := fun _ => none
  last : Nat := 0
  timers : List (Ticket κ π) := []
  /-- The tickets whose timers have fired. -/
  fired : List (Ticket κ π) := []

namespace Desk

variable [DecidableEq κ] [DecidableEq π]

/-- A key without a current ticket gets one. -/
def issue (d : Desk κ π) (key : κ) (purpose : π) : Desk κ π :=
  { d with
    current := Function.update d.current key (some ⟨key, purpose, d.last + 1⟩)
    last := d.last + 1
    timers := d.timers ++ [⟨key, purpose, d.last + 1⟩] }

/-- A number is used for something else. -/
def skip (d : Desk κ π) : Desk κ π := { d with last := d.last + 1 }

/-- The request of a key has ended, whatever its ticket. -/
def drop (d : Desk κ π) (key : κ) : Desk κ π := { d with current := Function.update d.current key none }

def clear (d : Desk κ π) : Desk κ π := { d with current := fun _ => none }

/-- A timer fires, and ends the request if its ticket is still the current one. -/
def fire (d : Desk κ π) (index : Nat) : Desk κ π :=
  match d.timers[index]? with
  | none => d
  | some ticket =>
    { d with
      current := if d.current ticket.key = some ticket then Function.update d.current ticket.key none else d.current
      timers := d.timers.eraseIdx index
      fired := d.fired ++ [ticket] }

/-- Numbers tell tickets apart, a current ticket has a timer, and a timer fires once. -/
structure Sound (d : Desk κ π) : Prop where
  keyed : ∀ key ticket, d.current key = some ticket → ticket.key = key
  timed : ∀ key ticket, d.current key = some ticket → ticket ∈ d.timers
  numbered : (d.timers.map Ticket.number).Nodup
  bounded : ∀ ticket ∈ d.timers, ticket.number ≤ d.last
  past : ∀ ticket ∈ d.fired, ticket.number ≤ d.last
  once : ∀ ticket ∈ d.timers, ∀ spent ∈ d.fired, ticket.number ≠ spent.number

variable {d : Desk κ π}

omit [DecidableEq κ] [DecidableEq π] in
theorem sound_empty : Sound ({} : Desk κ π) :=
  ⟨nofun, nofun, List.nodup_nil, nofun, nofun, nofun⟩

omit [DecidableEq κ] [DecidableEq π] in
/-- No two keys have a ticket of one number. -/
theorem Sound.apart (sound : Sound d) {first second : κ} {ticket other : Ticket κ π} (holds : d.current first = some ticket)
    (also : d.current second = some other) (same : ticket.number = other.number) : first = second := by
  have equal : ticket = other :=
    List.inj_on_of_nodup_map sound.numbered (sound.timed first ticket holds) (sound.timed second other also) same
  rw [← sound.keyed first ticket holds, equal, sound.keyed second other also]

omit [DecidableEq κ] [DecidableEq π] in
/-- A ticket whose timer has fired is not current. -/
theorem Sound.spent (sound : Sound d) {key : κ} {ticket spent : Ticket κ π} (holds : d.current key = some ticket)
    (fired : spent ∈ d.fired) : ticket.number ≠ spent.number :=
  sound.once ticket (sound.timed key ticket holds) spent fired

omit [DecidableEq π] in
theorem Sound.issue (sound : Sound d) (key : κ) (purpose : π) : Sound (d.issue key purpose) := by
  have current : ∀ other ticket, (d.issue key purpose).current other = some ticket →
      other = key ∧ ticket = ⟨key, purpose, d.last + 1⟩ ∨ d.current other = some ticket := by
    intro other ticket holds
    change Function.update d.current key _ other = some ticket at holds
    rw [Function.update_apply] at holds
    split at holds
    · next same =>
      cases holds
      exact .inl ⟨same, rfl⟩
    · exact .inr holds
  refine ⟨?_, ?_, ?_, ?_, ?_, ?_⟩
  · intro other ticket holds
    rcases current other ticket holds with ⟨rfl, rfl⟩ | before
    · rfl
    · exact sound.keyed other ticket before
  · intro other ticket holds
    rcases current other ticket holds with ⟨_, rfl⟩ | before
    · exact List.mem_append_right _ (List.mem_singleton_self _)
    · exact List.mem_append_left _ (sound.timed other ticket before)
  · change ((d.timers ++ [_]).map Ticket.number).Nodup
    rw [List.map_append, List.map_singleton, List.nodup_append]
    refine ⟨sound.numbered, List.nodup_singleton _, ?_⟩
    intro old member new fresh
    obtain ⟨ticket, inside, rfl⟩ := List.mem_map.mp member
    cases List.mem_singleton.mp fresh
    have bounded := sound.bounded ticket inside
    dsimp only
    omega
  · intro ticket member
    rcases List.mem_append.mp member with old | new
    · exact (sound.bounded ticket old).trans (Nat.le_succ _)
    · cases List.mem_singleton.mp new
      exact le_rfl
  · exact fun ticket member => (sound.past ticket member).trans (Nat.le_succ _)
  · intro ticket member spent fired
    rcases List.mem_append.mp member with old | new
    · exact sound.once ticket old spent fired
    · cases List.mem_singleton.mp new
      have past := sound.past spent fired
      dsimp only
      omega

omit [DecidableEq κ] [DecidableEq π] in
theorem Sound.skip (sound : Sound d) : Sound d.skip where
  keyed := sound.keyed
  timed := sound.timed
  numbered := sound.numbered
  bounded := fun ticket member => (sound.bounded ticket member).trans (Nat.le_succ _)
  past := fun ticket member => (sound.past ticket member).trans (Nat.le_succ _)
  once := sound.once

omit [DecidableEq κ] [DecidableEq π] in
/-- Fewer current tickets. -/
theorem Sound.fewer (sound : Sound d) {current : κ → Option (Ticket κ π)}
    (kept : ∀ key ticket, current key = some ticket → d.current key = some ticket) : Sound { d with current } where
  keyed := fun key ticket holds => sound.keyed key ticket (kept key ticket holds)
  timed := fun key ticket holds => sound.timed key ticket (kept key ticket holds)
  numbered := sound.numbered
  bounded := sound.bounded
  past := sound.past
  once := sound.once

omit [DecidableEq π] in
theorem dropped_kept (d : Desk κ π) (dropped : κ) (key : κ) (ticket : Ticket κ π)
    (holds : Function.update d.current dropped none key = some ticket) : d.current key = some ticket := by
  rw [Function.update_apply] at holds
  split at holds
  · cases holds
  · exact holds

omit [DecidableEq π] in
theorem Sound.drop (sound : Sound d) (key : κ) : Sound (d.drop key) := sound.fewer (dropped_kept d key)

omit [DecidableEq κ] [DecidableEq π] in
theorem Sound.clear (sound : Sound d) : Sound d.clear := sound.fewer nofun

theorem Sound.fire (sound : Sound d) (index : Nat) : Sound (d.fire index) := by
  unfold Desk.fire
  cases found : d.timers[index]? with
  | none => exact sound
  | some ticket =>
    obtain ⟨inside, same⟩ := List.getElem?_eq_some_iff.mp found
    have numbers : (ticket.number :: (d.timers.eraseIdx index).map Ticket.number).Nodup := by
      have permuted := (List.getElem_cons_eraseIdx_perm inside).map Ticket.number
      rw [same] at permuted
      exact permuted.nodup_iff.mpr sound.numbered
    obtain ⟨apart, numbered⟩ := List.nodup_cons.mp numbers
    have kept : ∀ other ∈ d.timers.eraseIdx index, other ∈ d.timers := fun other => List.mem_of_mem_eraseIdx
    have current : ∀ key other, (if d.current ticket.key = some ticket then
        Function.update d.current ticket.key none else d.current) key = some other →
        d.current key = some other ∧ other ≠ ticket := by
      intro key other holds
      split at holds
      · next mine =>
        rw [Function.update_apply] at holds
        split at holds
        · cases holds
        · next elsewhere =>
          refine ⟨holds, ?_⟩
          rintro rfl
          exact elsewhere (sound.keyed key other holds).symm
      · next stale =>
        refine ⟨holds, ?_⟩
        rintro rfl
        apply stale
        rw [sound.keyed key other holds]
        exact holds
    refine ⟨?_, ?_, numbered, ?_, ?_, ?_⟩
    · exact fun key other holds => sound.keyed key other (current key other holds).1
    · intro key other holds
      obtain ⟨before, different⟩ := current key other holds
      have permuted := (List.getElem_cons_eraseIdx_perm inside).mem_iff.mpr (sound.timed key other before)
      rw [same] at permuted
      exact (List.mem_cons.mp permuted).resolve_left different
    · exact fun other member => sound.bounded other (kept other member)
    · intro spent member
      rcases List.mem_append.mp member with old | new
      · exact sound.past spent old
      · cases List.mem_singleton.mp new
        exact sound.bounded ticket (same ▸ List.getElem_mem inside)
    · intro other member spent fired
      rcases List.mem_append.mp fired with old | new
      · exact sound.once other (kept other member) spent old
      · cases List.mem_singleton.mp new
        intro equal
        exact apart (equal ▸ List.mem_map_of_mem member)

end Desk
end Tickets
