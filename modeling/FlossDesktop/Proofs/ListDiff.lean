import FlossDesktop.DeviceList
import Mathlib.Data.List.Basic
import Mathlib.Tactic

/-! The refresh of the shown rows ends with the new list, and what it announces does the same
to a view. While the rows are placed, those in front are final, and the others are rows of
the new list that are still to come, each once. -/

namespace FlossDesktop.DeviceList
open AnnouncedList

variable {ρ : Type} {addressOf : ρ → String} {old rows rest tail : List ρ}

/-- A row stays when its address is in both lists, and moves only up. -/
def Fits (addressOf : ρ → String) (old rows : List ρ) : Note ρ → Prop
  | .removed _ item => addressOf item ∉ rows.map addressOf
  | .inserted _ item => addressOf item ∉ old.map addressOf
  | .moved source destination => destination < source
  | .changed _ _ => True

/-! What is announced leads to the rows, whatever the addresses are. -/

theorem removePass_announced {row : Nat} {model after : Model ρ} (announced : Announced old model)
    (ran : removePass addressOf rows row model = some after) : Announced old after := by
  induction row generalizing model with
  | zero => exact Option.some.inj ran ▸ announced
  | succ row ih =>
    obtain ⟨next, step, ran⟩ := Option.bind_eq_some_iff.mp ran
    obtain ⟨shown, -, step⟩ := Option.bind_eq_some_iff.mp step
    refine ih ?_ ran
    split at step
    · exact Option.some.inj step ▸ announced
    · exact announced.announce step

theorem placeRow_announced {row : Nat} {item : ρ} {model after : Model ρ} (announced : Announced old model)
    (ran : placeRow addressOf row item model = some after) : Announced old after := by
  simp only [placeRow] at ran
  split at ran
  · exact announced.announce ran
  · split at ran
    · exact announced.announce ran
    · exact Option.some.inj ran ▸ announced

theorem updateRow_announced [DecidableEq ρ] {row : Nat} {item : ρ} {model after : Model ρ} (announced : Announced old model)
    (ran : updateRow row item model = some after) : Announced old after := by
  obtain ⟨shown, -, ran⟩ := Option.bind_eq_some_iff.mp ran
  split at ran
  · exact announced.announce ran
  · exact Option.some.inj ran ▸ announced

theorem placePass_announced [DecidableEq ρ] {row : Nat} {model after : Model ρ} (announced : Announced old model)
    (ran : placePass addressOf row rest model = some after) : Announced old after := by
  induction rest generalizing row model with
  | nil => exact Option.some.inj ran ▸ announced
  | cons item rest ih =>
    obtain ⟨placed, place, ran⟩ := Option.bind_eq_some_iff.mp ran
    obtain ⟨updated, update, ran⟩ := Option.bind_eq_some_iff.mp ran
    exact ih (updateRow_announced (placeRow_announced announced place) update) ran

/-! The first pass leaves the rows that are listed. -/

theorem removePass_rows (addressOf : ρ → String) (old rows front back : List ρ) (notes : List (Note ρ)) :
    ∃ added, removePass addressOf rows front.length { rows := front ++ back, notes } =
        some { rows := front.filter (listed addressOf rows) ++ back, notes := notes ++ added } ∧
      ∀ note ∈ added, Fits addressOf old rows note := by
  induction front using List.reverseRecOn generalizing back notes with
  | nil => exact ⟨[], by rw [List.append_nil]; rfl, by simp⟩
  | append_singleton front item ih =>
    rw [List.length_append, List.length_singleton, List.append_assoc, List.singleton_append, List.filter_append]
    by_cases kept : listed addressOf rows item = true
    · have step : dropRow addressOf rows front.length { rows := front ++ item :: back, notes } =
          some { rows := front ++ item :: back, notes } := by
        simp only [dropRow, row_here, Option.bind_eq_bind, Option.bind_some, if_pos kept]
      obtain ⟨added, ran, fits⟩ := ih (item :: back) notes
      refine ⟨added, ?_, fits⟩
      simp only [removePass, step, Option.bind_eq_bind, Option.bind_some, ran]
      simp [kept]
    · have step : dropRow addressOf rows front.length { rows := front ++ item :: back, notes } =
          some { rows := front ++ back, notes := notes ++ [.removed front.length item] } := by
        simp only [dropRow, row_here, Option.bind_eq_bind, Option.bind_some, if_neg kept, announce_removed]
      obtain ⟨added, ran, fits⟩ := ih back (notes ++ [.removed front.length item])
      refine ⟨.removed front.length item :: added, ?_, ?_⟩
      · simp only [removePass, step, Option.bind_eq_bind, Option.bind_some, ran]
        simp [kept]
      · intro note member
        rcases List.mem_cons.mp member with rfl | later
        · intro inside
          obtain ⟨other, there, same⟩ := List.mem_map.mp inside
          exact kept (List.any_eq_true.mpr ⟨other, there, beq_iff_eq.mpr same⟩)
        · exact fits note later

/-! One row of the second pass. -/

theorem findRow_missing {address : String} {rows : List ρ} (missing : address ∉ rows.map addressOf) (row : Nat) :
    findRow addressOf address rows row = row + rows.length := by
  induction rows generalizing row with
  | nil => rfl
  | cons item rest ih =>
    rw [List.map_cons, List.mem_cons, not_or] at missing
    rw [findRow, if_pos (Ne.symm missing.1), ih missing.2, List.length_cons]
    omega

theorem findRow_found {between back : List ρ} {item : ρ} (missing : addressOf item ∉ between.map addressOf) (row : Nat) :
    findRow addressOf (addressOf item) (between ++ item :: back) row = row + between.length := by
  induction between generalizing row with
  | nil => simp [findRow]
  | cons first rest ih =>
    rw [List.map_cons, List.mem_cons, not_or] at missing
    rw [List.cons_append, findRow, if_pos (Ne.symm missing.1), ih missing.2, List.length_cons]
    omega

theorem updateRow_here [DecidableEq ρ] (addressOf : ρ → String) (old rows front back : List ρ) (shown item : ρ)
    (notes : List (Note ρ)) :
    ∃ added, updateRow front.length item { rows := front ++ shown :: back, notes } =
        some { rows := front ++ item :: back, notes := notes ++ added } ∧
      ∀ note ∈ added, Fits addressOf old rows note := by
  simp only [updateRow, row_here, Option.bind_eq_bind, Option.bind_some]
  by_cases same : shown = item
  · subst same
    exact ⟨[], by simp, by simp⟩
  · refine ⟨[.changed front.length item], ?_, ?_⟩
    · rw [if_pos same, announce_changed]
    · intro note member
      cases List.mem_singleton.mp member
      trivial

/-- The rows behind those that are final: the rest of the new list, as far as it was shown. -/
structure Waiting (addressOf : ρ → String) (old rest tail : List ρ) : Prop where
  distinct : (tail.map addressOf).Nodup
  same : ∀ address, address ∈ tail.map addressOf ↔ address ∈ rest.map addressOf ∧ address ∈ old.map addressOf

/-- A row that was shown is moved up when others stand before it. -/
theorem placeRow_shown (old rows front between back : List ρ) (shown item : ρ) (notes : List (Note ρ))
    (same : addressOf shown = addressOf item) (before : addressOf item ∉ between.map addressOf) :
    ∃ added, placeRow addressOf front.length item { rows := front ++ (between ++ shown :: back), notes } =
        some { rows := front ++ shown :: (between ++ back), notes := notes ++ added } ∧
      ∀ note ∈ added, Fits addressOf old rows note := by
  have oldRow : findRow addressOf (addressOf item) ((front ++ (between ++ shown :: back)).drop front.length) front.length =
      front.length + between.length := by
    rw [List.drop_left, ← same]
    exact findRow_found (same ▸ before) _
  have inside : front.length + between.length ≠ (front ++ (between ++ shown :: back)).length := by
    simp only [List.length_append, List.length_cons]
    omega
  simp only [placeRow, oldRow, if_neg inside]
  cases between with
  | nil => exact ⟨[], by simp, by simp⟩
  | cons first between =>
    have moves : front.length + (first :: between).length ≠ front.length := by simp
    have source : front.length + (first :: between).length = (front ++ first :: between).length := by simp
    refine ⟨[.moved (front ++ first :: between).length front.length], ?_, ?_⟩
    · rw [if_pos moves, source, announce_moved]
    · intro note member
      cases List.mem_singleton.mp member
      show front.length < (front ++ first :: between).length
      simp

theorem placeRow_new (front back : List ρ) (item : ρ) (notes : List (Note ρ)) (missing : addressOf item ∉ back.map addressOf) :
    placeRow addressOf front.length item { rows := front ++ back, notes } =
      some { rows := front ++ item :: back, notes := notes ++ [.inserted front.length item] } := by
  have oldRow : findRow addressOf (addressOf item) ((front ++ back).drop front.length) front.length = (front ++ back).length := by
    rw [List.drop_left, findRow_missing missing, List.length_append]
  simp only [placeRow, oldRow, if_true, announce_inserted]

theorem Waiting.step [DecidableEq ρ] (waiting : Waiting addressOf old (item :: rest) tail)
    (distinct : ((item :: rest).map addressOf).Nodup) (rows front : List ρ) (notes : List (Note ρ)) :
    ∃ tail' added, ((placeRow addressOf front.length item { rows := front ++ tail, notes }).bind fun model =>
          updateRow front.length item model) =
        some { rows := front ++ item :: tail', notes := notes ++ added } ∧
      (∀ note ∈ added, Fits addressOf old rows note) ∧ Waiting addressOf old rest tail' := by
  rw [List.map_cons, List.nodup_cons] at distinct
  by_cases shown : addressOf item ∈ tail.map addressOf
  · obtain ⟨row, member, same⟩ := List.mem_map.mp shown
    obtain ⟨between, back, rfl⟩ := List.append_of_mem member
    have apart := waiting.distinct
    rw [List.map_append, List.map_cons, List.nodup_middle, List.nodup_cons, ← List.map_append] at apart
    have before : addressOf item ∉ between.map addressOf := by
      intro inside
      apply apart.1
      rw [same, List.map_append]
      exact List.mem_append_left _ inside
    obtain ⟨moved, placed, fits⟩ := placeRow_shown old rows front between back row item notes same before
    obtain ⟨changed, updated, also⟩ :=
      updateRow_here addressOf old rows front (between ++ back) row item (notes ++ moved)
    refine ⟨between ++ back, moved ++ changed, ?_, ?_, apart.2, ?_⟩
    · rw [placed, Option.bind_some, updated, List.append_assoc]
    · intro note member
      exact (List.mem_append.mp member).elim (fits note) (also note)
    · intro address
      have known := waiting.same address
      simp only [List.map_append, List.map_cons, List.mem_append, List.mem_cons, same] at known apart ⊢
      constructor
      · intro inside
        have other : address ≠ addressOf item := by
          rintro rfl
          exact apart.1 inside
        have both := known.mp (inside.elim .inl fun late => .inr (.inr late))
        exact ⟨both.1.resolve_left other, both.2⟩
      · intro both
        have other : address ≠ addressOf item := by
          rintro rfl
          exact distinct.1 both.1
        rcases known.mpr ⟨.inr both.1, both.2⟩ with early | here | late
        · exact .inl early
        · exact absurd here other
        · exact .inr late
  · obtain ⟨changed, updated, also⟩ :=
      updateRow_here addressOf old rows front tail item item (notes ++ [.inserted front.length item])
    refine ⟨tail, .inserted front.length item :: changed, ?_, ?_, waiting.distinct, ?_⟩
    · rw [placeRow_new front tail item notes shown, Option.bind_some, updated, List.append_assoc]
      rfl
    · intro note member
      rcases List.mem_cons.mp member with rfl | later
      · intro there
        exact shown ((waiting.same _).mpr ⟨by simp, there⟩)
      · exact also note later
    · intro address
      rw [waiting.same, List.map_cons, List.mem_cons]
      constructor
      · rintro ⟨rfl | later, there⟩
        · exact absurd ((waiting.same _).mpr ⟨by simp, there⟩) shown
        · exact ⟨later, there⟩
      · exact fun both => ⟨.inr both.1, both.2⟩

/-- The second pass, behind the rows that are final. -/
theorem Waiting.places [DecidableEq ρ] (waiting : Waiting addressOf old rest tail) (distinct : (rest.map addressOf).Nodup)
    (rows front : List ρ) (notes : List (Note ρ)) :
    ∃ added, placePass addressOf front.length rest { rows := front ++ tail, notes } =
        some { rows := front ++ rest, notes := notes ++ added } ∧
      ∀ note ∈ added, Fits addressOf old rows note := by
  induction rest generalizing front notes tail with
  | nil =>
    have empty : tail = [] := by
      apply List.eq_nil_iff_forall_not_mem.mpr
      intro item member
      exact List.not_mem_nil ((waiting.same _).mp (List.mem_map_of_mem member)).1
    subst empty
    exact ⟨[], by rw [List.append_nil notes]; rfl, by simp⟩
  | cons item rest ih =>
    obtain ⟨behind, first, step, fits, waiting⟩ := waiting.step distinct rows front notes
    obtain ⟨later, ran, also⟩ := ih waiting (List.nodup_cons.mp distinct).2 (front ++ [item]) (notes ++ first)
    refine ⟨first ++ later, ?_, ?_⟩
    · obtain ⟨placed, place, update⟩ := Option.bind_eq_some_iff.mp step
      simp only [List.length_append, List.length_singleton, List.append_assoc, List.singleton_append] at ran
      simp only [placePass, place, update, Option.bind_eq_bind, Option.bind_some, ran]
    · intro note member
      exact (List.mem_append.mp member).elim (fits note) (also note)

theorem Waiting.start (distinct : (old.map addressOf).Nodup) :
    Waiting addressOf old rows (old.filter (listed addressOf rows)) where
  distinct := distinct.sublist (List.filter_sublist.map addressOf)
  same := by
    intro address
    simp only [List.mem_map, List.mem_filter, listed, List.any_eq_true, beq_iff_eq]
    constructor
    · rintro ⟨shown, ⟨member, item, there, same⟩, rfl⟩
      exact ⟨⟨item, there, same⟩, shown, member, rfl⟩
    · rintro ⟨⟨item, there, rfl⟩, shown, member, same⟩
      exact ⟨shown, ⟨member, item, there, same.symm⟩, same⟩

/-- The refresh never leaves the rows, ends with the new list, and announces as much. -/
theorem refresh_exact [DecidableEq ρ] (old rows : List ρ) (shown : (old.map addressOf).Nodup) (distinct : (rows.map addressOf).Nodup) :
    ∃ notes, refresh addressOf old rows = some { rows, notes } ∧ replay old notes = some rows ∧
      ∀ note ∈ notes, Fits addressOf old rows note := by
  obtain ⟨removed, remove, fits⟩ := removePass_rows addressOf old rows old [] []
  obtain ⟨placed, place, also⟩ := (Waiting.start shown).places distinct rows [] removed
  simp only [List.append_nil, List.nil_append, List.length_nil] at remove place
  have ran : refresh addressOf old rows = some { rows, notes := removed ++ placed } := by
    simp only [refresh, remove, Option.bind_eq_bind, Option.bind_some, place]
  refine ⟨removed ++ placed, ran, ?_, ?_⟩
  · exact placePass_announced (removePass_announced (Announced.start old) remove) place
  · intro note member
    exact (List.mem_append.mp member).elim (fits note) (also note)

/-- A list turned round, with one row less, one more and one that has other data. -/
theorem refresh_exact_turned :
    ∃ notes, refresh Prod.fst [("a", 1), ("b", 2), ("c", 3)] [("d", 4), ("c", 3), ("a", 5)] =
        some { rows := [("d", 4), ("c", 3), ("a", 5)], notes } ∧
      replay [("a", 1), ("b", 2), ("c", 3)] notes = some [("d", 4), ("c", 3), ("a", 5)] ∧
      ∀ note ∈ notes, Fits Prod.fst [("a", 1), ("b", 2), ("c", 3)] [("d", 4), ("c", 3), ("a", 5)] note :=
  refresh_exact _ _ (by decide) (by decide)

example : refresh Prod.fst [("a", 1), ("b", 2), ("c", 3)] [("d", 4), ("c", 3), ("a", 5)] =
    some ⟨[("d", 4), ("c", 3), ("a", 5)],
      [.removed 1 ("b", 2), .inserted 0 ("d", 4), .moved 2 1, .changed 2 ("a", 5)]⟩ := by decide

end FlossDesktop.DeviceList
