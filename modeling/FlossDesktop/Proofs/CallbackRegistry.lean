import FlossDesktop.Callbacks
import Mathlib.Data.List.Basic
import Mathlib.Tactic

/-! Whoever adds and removes callbacks in whatever order, the identities are those of the
callbacks that are held, and a callback belongs to the client that was told its id. -/

namespace FlossDesktop.Callbacks
open IdentityIndex

variable {T : Type} [RPCProxy T]

/-- An id that was given to the adder of an identity, or taken back. -/
inductive Mark where
  | added (identity : String × String) (id : UInt32)
  | removed (id : UInt32)
deriving Repr, DecidableEq

/-- Additions and removals. When a disconnect is watched, the id that comes back is not one in use. -/
inductive Run : Callbacks T → List Mark → Prop where
  | new : Run {} []
  | add {registry marks} (run : Run registry marks) (callback : T) (registered : UInt32)
      (unused : registry.objectIdToCbid (identity callback) = none → registry.callbacks registered = none) :
      Run (registry.addCallback callback registered).1
        (marks ++ [.added (identity callback) (registry.addCallback callback registered).2])
  | remove {registry marks} (run : Run registry marks) (id : UInt32) :
      Run (registry.removeCallback id).1 (marks ++ [.removed id])

variable {registry : Callbacks T} {id : UInt32} {callback : T} {marks : List Mark} {name : String × String}

/-- The id was given for the identity and has not been taken back since. -/
def Held (marks : List Mark) (name : String × String) (id : UInt32) : Prop :=
  ∃ before after, marks = before ++ .added name id :: after ∧ .removed id ∉ after

theorem held_added {other : UInt32} {given : String × String} :
    Held (marks ++ [.added given other]) name id ↔ Held marks name id ∨ (given = name ∧ other = id) := by
  constructor
  · rintro ⟨before, after, same, kept⟩
    rcases List.eq_nil_or_concat after with rfl | ⟨rest, last, rfl⟩
    · cases (List.append_inj' same rfl).2
      exact .inr ⟨rfl, rfl⟩
    · rw [List.concat_eq_append, ← List.cons_append, ← List.append_assoc] at same
      refine .inl ⟨before, rest, (List.append_inj' same rfl).1, ?_⟩
      intro taken
      exact kept (by simp [taken])
  · rintro (⟨before, after, rfl, kept⟩ | ⟨rfl, rfl⟩)
    · exact ⟨before, after ++ [.added given other], by simp, by simpa using kept⟩
    · exact ⟨marks, [], rfl, List.not_mem_nil⟩

theorem held_removed {other : UInt32} :
    Held (marks ++ [.removed other]) name id ↔ Held marks name id ∧ id ≠ other := by
  constructor
  · rintro ⟨before, after, same, kept⟩
    rcases List.eq_nil_or_concat after with rfl | ⟨rest, last, rfl⟩
    · cases (List.append_inj' same rfl).2
    · rw [List.concat_eq_append, ← List.cons_append, ← List.append_assoc] at same
      obtain ⟨shorter, here⟩ := List.append_inj' same rfl
      cases here
      refine ⟨⟨before, rest, shorter, ?_⟩, ?_⟩
      · intro taken
        exact kept (by simp [taken])
      · rintro rfl
        exact kept (by simp)
  · rintro ⟨⟨before, after, rfl, kept⟩, apart⟩
    exact ⟨before, after ++ [.removed other], by simp, by simp [kept, apart]⟩

theorem addCallback_known {existing : UInt32} (known : registry.objectIdToCbid (identity callback) = some existing) (registered : UInt32) :
    registry.addCallback callback registered = (registry, existing) := by
  rw [addCallback, known]

theorem addCallback_new (unknown : registry.objectIdToCbid (identity callback) = none) (registered : UInt32) :
    registry.addCallback callback registered =
      ({ objectIdToCbid := Function.update registry.objectIdToCbid (identity callback) (some registered)
         callbacks := Function.update registry.callbacks registered (some callback) }, registered) := by
  rw [addCallback, unknown]

theorem removeCallback_known (held : registry.callbacks id = some callback) :
    registry.removeCallback id =
      ({ objectIdToCbid := Function.update registry.objectIdToCbid (identity callback) none
         callbacks := Function.update registry.callbacks id none }, true) := by
  rw [removeCallback, held]

theorem removeCallback_unknown (free : registry.callbacks id = none) : registry.removeCallback id = (registry, false) := by
  rw [removeCallback, free]

/-- A client that drops its callback takes it out of the registry. -/
theorem unregisterCallback_eq : registry.unregisterCallback id = registry.removeCallback id := by
  cases held : registry.callbacks id with
  | none => simp [unregisterCallback, getById, held, removeCallback_unknown]
  | some callback => simp [unregisterCallback, getById, held, removeCallback_known held]

/-- The index is exact, and an id is held as long as its callback is there. -/
structure Consistent (registry : Callbacks T) (marks : List Mark) : Prop where
  inverse : Inverse identity registry.callbacks registry.objectIdToCbid
  held : ∀ name id, Held marks name id ↔ registry.objectIdToCbid name = some id

theorem Consistent.new : Consistent ({} : Callbacks T) [] where
  inverse := .empty
  held := by
    intro name id
    constructor
    · rintro ⟨before, after, same, -⟩
      exact absurd same (by simp)
    · intro known
      cases known

theorem Consistent.add (consistent : Consistent registry marks) (callback : T) (registered : UInt32)
    (unused : registry.objectIdToCbid (identity callback) = none → registry.callbacks registered = none) :
    Consistent (registry.addCallback callback registered).1
      (marks ++ [.added (identity callback) (registry.addCallback callback registered).2]) := by
  cases known : registry.objectIdToCbid (identity callback) with
  | some existing =>
    rw [addCallback_known known]
    refine ⟨consistent.inverse, ?_⟩
    intro name id
    rw [held_added, consistent.held]
    constructor
    · rintro (before | ⟨rfl, rfl⟩)
      · exact before
      · exact known
    · exact .inl
  | none =>
    rw [addCallback_new known]
    refine ⟨consistent.inverse.insert (unused known) known, ?_⟩
    intro name id
    simp only [held_added, consistent.held, Function.update_apply]
    by_cases named : name = identity callback
    · subst named
      simp [known]
    · simp [named, Ne.symm named]

theorem Consistent.remove (consistent : Consistent registry marks) (id : UInt32) :
    Consistent (registry.removeCallback id).1 (marks ++ [.removed id]) := by
  cases held : registry.callbacks id with
  | none =>
    rw [removeCallback_unknown held]
    refine ⟨consistent.inverse, ?_⟩
    intro name other
    rw [held_removed, consistent.held]
    constructor
    · exact And.left
    · intro known
      refine ⟨known, ?_⟩
      rintro rfl
      obtain ⟨callback, there, -⟩ := (consistent.inverse name other).mp known
      rw [held] at there
      cases there
  | some callback =>
    rw [removeCallback_known held]
    refine ⟨consistent.inverse.erase held, ?_⟩
    intro name other
    simp only [held_removed, consistent.held, Function.update_apply]
    by_cases named : name = identity callback
    · subst named
      simp [consistent.inverse.found held, eq_comm]
    · rw [if_neg named]
      constructor
      · exact And.left
      · intro known
        refine ⟨known, ?_⟩
        rintro rfl
        obtain ⟨found, there, same⟩ := (consistent.inverse name other).mp known
        rw [held] at there
        cases there
        exact named same.symm

theorem Run.consistent (run : Run registry marks) : Consistent registry marks := by
  induction run with
  | new => exact .new
  | add run callback registered unused ih => exact ih.add callback registered unused
  | remove run id ih => exact ih.remove id

theorem isCallbackOwner_iff {owner : String} :
    registry.isCallbackOwner id owner = true ↔
      owner ≠ "" ∧ ∃ callback, registry.callbacks id = some callback ∧ RPCProxy.getRemoteOwner callback = owner := by
  cases held : registry.callbacks id <;> simp [isCallbackOwner, getById, held]

theorem Consistent.owner (consistent : Consistent registry marks) (owner : String) :
    registry.isCallbackOwner id owner = true ↔ owner ≠ "" ∧ ∃ path, Held marks (owner, path) id := by
  rw [isCallbackOwner_iff]
  apply and_congr_right
  intro _
  constructor
  · rintro ⟨callback, held, rfl⟩
    exact ⟨RPCProxy.getObjectId callback, (consistent.held _ id).mpr (consistent.inverse.found held)⟩
  · rintro ⟨path, held⟩
    obtain ⟨callback, there, same⟩ := (consistent.inverse _ id).mp ((consistent.held _ id).mp held)
    exact ⟨callback, there, congrArg Prod.fst same⟩

/-- A socket operation is let through for the client that holds its callback. -/
theorem authorizeSocketCallback_ok {sender : Option String} :
    registry.authorizeSocketCallback sender id = .ok () ↔
      ∃ owner, sender = some owner ∧ registry.isCallbackOwner id owner = true := by
  cases sender with
  | none => simp [authorizeSocketCallback]
  | some owner => by_cases allowed : registry.isCallbackOwner id owner = true <;> simp [authorizeSocketCallback, allowed]

/-- The registry after any additions and removals. -/
theorem registry_consistent (run : Run registry marks) :
    (∀ name id, registry.objectIdToCbid name = some id ↔ ∃ callback, registry.callbacks id = some callback ∧ identity callback = name) ∧
    (∀ old id again registered, registry.callbacks id = some old → identity again = identity old →
      registry.addCallback again registered = (registry, id)) ∧
    (∀ old id other registered, registry.callbacks id = some old → RPCProxy.getRemoteOwner other ≠ RPCProxy.getRemoteOwner old →
      (registry.objectIdToCbid (identity other) = none → registry.callbacks registered = none) →
      (registry.addCallback other registered).2 ≠ id) ∧
    (∀ callback id, registry.callbacks id = some callback →
      (registry.removeCallback id).2 = true ∧ (registry.removeCallback id).1.objectIdToCbid (identity callback) = none ∧
      (∀ name, name ≠ identity callback → (registry.removeCallback id).1.objectIdToCbid name = registry.objectIdToCbid name) ∧
      (registry.removeCallback id).1.callbacks = Function.update registry.callbacks id none) ∧
    (∀ id, registry.callbacks id = none → registry.removeCallback id = (registry, false)) ∧
    ∀ id sender, registry.isCallbackOwner id sender = true ↔ sender ≠ "" ∧ ∃ path, Held marks (sender, path) id := by
  have consistent := run.consistent
  refine ⟨consistent.inverse, ?_, ?_, ?_, fun id free => removeCallback_unknown free, fun id sender => consistent.owner sender⟩
  · intro old id again registered held same
    apply addCallback_known
    rw [same]
    exact consistent.inverse.found held
  · intro old id other registered held apart unused
    cases known : registry.objectIdToCbid (identity other) with
    | none =>
      rw [addCallback_new known]
      rintro rfl
      rw [unused known] at held
      cases held
    | some existing =>
      rw [addCallback_known known]
      rintro rfl
      obtain ⟨found, there, same⟩ := (consistent.inverse _ existing).mp known
      rw [held] at there
      cases there
      exact apart (congrArg Prod.fst same).symm
  · intro callback id held
    rw [removeCallback_known held]
    exact ⟨rfl, Function.update_self _ _ _, fun name other => Function.update_of_ne other _ _, rfl⟩

structure TestCallback where
  id : String
  owner : String

instance : RPCProxy TestCallback where
  getObjectId callback := callback.id
  getRemoteOwner callback := callback.owner

/-- One path of two clients, and the first one gone. -/
theorem registry_consistent_same_path :
    let first : Callbacks TestCallback := (({} : Callbacks TestCallback).addCallback ⟨"/same/path", ":1.10"⟩ 1).1
    let second := (first.addCallback ⟨"/same/path", ":1.11"⟩ 2).1
    let left := (second.removeCallback 1).1
    (∀ name id, left.objectIdToCbid name = some id ↔ ∃ callback, left.callbacks id = some callback ∧ identity callback = name) ∧
      left.isCallbackOwner 2 ":1.11" = true := by
  intro first second left
  have run := ((Run.new (T := TestCallback)).add ⟨"/same/path", ":1.10"⟩ 1 (fun _ => rfl)).add ⟨"/same/path", ":1.11"⟩ 2 (by decide)
  have kept := registry_consistent (run.remove 1)
  exact ⟨kept.1, by decide⟩

end FlossDesktop.Callbacks
