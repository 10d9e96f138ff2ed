import FlossDesktop.Rfkill
import Mathlib.Data.List.Basic
import Mathlib.Tactic

/-! A switch is found when the whole directory is clear and just one entry is the adapter's,
wherever it stands. Anything else finds none, and then nothing is written. -/

namespace FlossDesktop.Rfkill

variable {name : String} {entry : Option Entry} {entries : List (Option Entry)} {matched : Option Switch} {switch : Switch}

/-- A printed number is read back. -/
theorem parseU32_toString (index : UInt32) : parseU32 (toString index).toList = some index := by
  have digits : (toString index).toList = Nat.toDigits 10 index.toNat := Nat.toList_repr
  have digit : ∀ c ∈ Nat.toDigits 10 index.toNat, c.isDigit = true := by
    intro c member
    exact Nat.isDigit_of_mem_toDigits (by decide) (by decide) member
  have plain : withoutPlus (Nat.toDigits 10 index.toNat) = Nat.toDigits 10 index.toNat := by
    unfold withoutPlus
    split
    · rename_i same
      exact absurd (digit '+' (by simp [same])) (by decide)
    · rfl
  have some_ : (Nat.toDigits 10 index.toNat).isEmpty = false := List.isEmpty_eq_false_iff.mpr Nat.toDigits_ne_nil
  have value : Nat.ofDigitChars 10 (Nat.toDigits 10 index.toNat) 0 = index.toNat := Nat.ofDigitChars_ten_toDigits
  have small : Nat.blt index.toNat (2 ^ 32) = true := Nat.blt_eq.mpr (UInt32.toNat_lt index)
  simp only [parseU32, digits, plain, value, some_, List.all_eq_true.mpr digit, small, Bool.not_false, Bool.and_self, if_true,
    UInt32.ofNat_toNat]

theorem switchIndex_iff {filename : String} {index : UInt32} : switchIndex filename = some index ↔ filename = canonical index := by
  constructor
  · intro found
    rw [switchIndex] at found
    split at found
    · split at found
      · cases found
        assumption
      · cases found
    · cases found
  · rintro rfl
    have letters : (canonical index).toList = "rfkill".toList ++ (toString index).toList := String.toList_append
    have stripped : stripPrefix (canonical index) = some (toString index).toList := by
      rw [stripPrefix, letters, if_pos (List.isPrefixOf_iff_prefix.mpr (List.prefix_append _ _))]
      exact congrArg some List.drop_left
    rw [switchIndex, stripped, Option.bind_some, parseU32_toString]
    exact if_pos rfl

theorem boolean_iff {file : Option Bytes} {value : Bool} :
    boolean file = some value ↔ readAttribute file = some (if value then "1" else "0") := by
  cases content : readAttribute file with
  | none => simp [boolean, content]
  | some text =>
    by_cases zero : text = "0"
    · subst zero
      cases value <;> simp [boolean, content]
    · by_cases one : text = "1"
      · subst one
        cases value <;> simp [boolean, content]
      · cases value <;> simp [boolean, content, zero, one]

/-- An entry that can be read as far as it has to be. -/
def Clear (entry : Option Entry) : Prop :=
  ∃ e filename, entry = some e ∧ e.filename = some filename ∧ ∀ index, filename = canonical index →
    ∃ type, readAttribute e.type = some type ∧ (type = "bluetooth" → readAttribute e.name ≠ none)

/-- A canonical entry of a radio with this name. -/
def targets (name : String) : Option Entry → Bool
  | none => false
  | some e => (e.filename.bind switchIndex).isSome && readAttribute e.type == some "bluetooth" && readAttribute e.name == some name

/-- The entry has the switch's number and its flags. -/
structure Reads (e : Entry) (switch : Switch) : Prop where
  filename : e.filename = some (canonical switch.index)
  hard : readAttribute e.hard = some (if switch.hardBlocked then "1" else "0")
  soft : readAttribute e.soft = some (if switch.softBlocked then "1" else "0")

theorem targets_iff {e : Entry} : targets name (some e) = true ↔
    (∃ index, e.filename = some (canonical index)) ∧ readAttribute e.type = some "bluetooth" ∧ readAttribute e.name = some name := by
  have named : (e.filename.bind switchIndex).isSome = true ↔ ∃ index, e.filename = some (canonical index) := by
    rw [Option.isSome_iff_exists]
    simp only [Option.bind_eq_some_iff, switchIndex_iff]
    constructor
    · rintro ⟨index, filename, same, rfl⟩
      exact ⟨index, same⟩
    · rintro ⟨index, same⟩
      exact ⟨index, _, same, rfl⟩
  simp only [targets, Bool.and_eq_true, beq_iff_eq, named, and_assoc]

theorem examine_unclear (unclear : ¬ Clear entry) : examine name matched entry = none := by
  by_contra found
  obtain ⟨result, found⟩ := Option.ne_none_iff_exists'.mp found
  obtain ⟨e, rfl, found⟩ := Option.bind_eq_some_iff.mp found
  obtain ⟨filename, named, found⟩ := Option.bind_eq_some_iff.mp found
  apply unclear
  refine ⟨e, filename, rfl, named, ?_⟩
  intro index same
  rw [switchIndex_iff.mpr same] at found
  obtain ⟨type, read, found⟩ := Option.bind_eq_some_iff.mp found
  refine ⟨type, read, ?_⟩
  intro bluetooth
  rw [if_neg (not_not.mpr bluetooth)] at found
  obtain ⟨text, read, -⟩ := Option.bind_eq_some_iff.mp found
  exact read ▸ Option.some_ne_none text

theorem examine_other (clear : Clear entry) (other : targets name entry = false) : examine name matched entry = some matched := by
  obtain ⟨e, filename, rfl, named, readable⟩ := clear
  have apart := mt targets_iff.mpr (Bool.eq_false_iff.mp other)
  simp only [examine, named, Option.bind_eq_bind, Option.bind_some]
  cases found : switchIndex filename with
  | none => rfl
  | some index =>
    have same := switchIndex_iff.mp found
    obtain ⟨type, typed, rest⟩ := readable _ same
    simp only [typed, Option.bind_some]
    by_cases bluetooth : type = "bluetooth"
    · obtain ⟨found, text⟩ := Option.ne_none_iff_exists'.mp (rest bluetooth)
      have different : found ≠ name := by
        rintro rfl
        exact apart ⟨⟨index, same ▸ named⟩, bluetooth ▸ typed, text⟩
      simp only [if_neg (not_not.mpr bluetooth), text, Option.bind_some, if_pos different]
    · rw [if_pos bluetooth]

theorem examine_target {e : Entry} (target : targets name (some e) = true) :
    examine name matched (some e) = some (some switch) ↔ matched = none ∧ Reads e switch := by
  obtain ⟨⟨index, named⟩, type, found⟩ := targets_iff.mp target
  have here := switchIndex_iff.mpr (rfl : canonical index = canonical index)
  simp only [examine, named, here, type, found, Option.bind_eq_bind, Option.bind_some, ne_eq, not_true_eq_false, if_false]
  cases matched with
  | some old => simp
  | none =>
    rw [if_neg (by simp)]
    simp only [Option.bind_eq_some_iff, Option.some.injEq, boolean_iff]
    constructor
    · rintro ⟨hard, hardRead, soft, softRead, rfl⟩
      exact ⟨trivial, named, hardRead, softRead⟩
    · rintro ⟨-, reads⟩
      have same : index = switch.index := by
        have one := named.symm.trans reads.filename
        apply Option.some.inj
        rw [← switchIndex_iff.mpr rfl, Option.some.inj one, switchIndex_iff.mpr rfl]
      exact ⟨_, reads.hard, _, reads.soft, by rw [same]⟩

/-- A target is matched, or the search fails. -/
theorem examine_result {e : Entry} (target : targets name (some e) = true) {result : Option Switch}
    (found : examine name matched (some e) = some result) : result ≠ none := by
  obtain ⟨⟨index, named⟩, type, name⟩ := targets_iff.mp target
  have here := switchIndex_iff.mpr (rfl : canonical index = canonical index)
  simp only [examine, named, here, type, name, Option.bind_eq_bind, Option.bind_some, ne_eq, not_true_eq_false, if_false] at found
  split at found
  · cases found
  · obtain ⟨hard, -, found⟩ := Option.bind_eq_some_iff.mp found
    obtain ⟨soft, -, found⟩ := Option.bind_eq_some_iff.mp found
    cases found
    exact Option.some_ne_none _

/-- The rest of a search: a match is kept when no target follows, and one target becomes the match. -/
theorem search_iff {count : Nat} (started : count ≤ maxEntries) :
    search name count matched entries = some switch ↔
      count + entries.length ≤ maxEntries ∧ (∀ entry ∈ entries, Clear entry) ∧
        ((matched = some switch ∧ entries.filter (targets name) = []) ∨
          (matched = none ∧ ∃ e, entries.filter (targets name) = [some e] ∧ Reads e switch)) := by
  induction entries generalizing count matched with
  | nil => simp [search, started]
  | cons entry rest ih =>
    rw [search, List.length_cons, List.forall_mem_cons]
    by_cases full : count ≥ maxEntries
    · rw [if_pos full]
      constructor
      · intro found
        cases found
      · rintro ⟨room, -⟩
        omega
    have next : count + 1 ≤ maxEntries := by omega
    have shift : count + (rest.length + 1) = count + 1 + rest.length := by omega
    rw [if_neg full, shift]
    by_cases clear : Clear entry
    · cases target : targets name entry with
      | false =>
        rw [examine_other clear target, List.filter_cons_of_neg (by simp [target])]
        simp only [ih next, clear, true_and]
      | true =>
        rw [List.filter_cons_of_pos target]
        cases entry with
        | none => cases target
        | some e =>
          cases found : examine name matched (some e) with
          | none =>
            constructor
            · intro impossible
              cases impossible
            · rintro ⟨-, -, (⟨-, impossible⟩ | ⟨rfl, other, same, reads⟩)⟩
              · cases impossible
              · cases (List.cons_eq_cons.mp same).1
                rw [(examine_target target).mpr ⟨rfl, reads⟩] at found
                cases found
          | some result =>
            obtain ⟨first, rfl⟩ := Option.ne_none_iff_exists'.mp (examine_result target found)
            obtain ⟨rfl, reads⟩ := (examine_target target).mp found
            simp only [ih next, clear, true_and, Option.some.injEq, reduceCtorEq, false_and, or_false, false_or]
            constructor
            · rintro ⟨room, clear, same, none_⟩
              exact ⟨room, clear, e, by rw [none_], same ▸ reads⟩
            · rintro ⟨room, clear, other, same, others⟩
              obtain ⟨same, none_⟩ := List.cons_eq_cons.mp same
              cases same
              refine ⟨room, clear, ?_, none_⟩
              have again := (examine_target target).mpr ⟨rfl, others⟩
              exact Option.some.inj (Option.some.inj (found.symm.trans again))
    · rw [examine_unclear clear]
      simp [clear]

/-- When a switch is found, and which. -/
theorem read_iff {root : Option (List (Option Entry))} {realHci : Int} :
    read root realHci = some switch ↔
      0 ≤ realHci ∧ ∃ entries, root = some entries ∧ entries.length ≤ maxEntries ∧ (∀ entry ∈ entries, Clear entry) ∧
        ∃ e, entries.filter (targets ("hci" ++ toString realHci)) = [some e] ∧ Reads e switch := by
  unfold read
  by_cases negative : realHci < 0
  · rw [if_pos negative]
    constructor
    · intro found
      cases found
    · rintro ⟨nonnegative, -⟩
      omega
  · rw [if_neg negative]
    cases root with
    | none => simp
    | some entries => simp [search_iff (Nat.zero_le _), Int.not_lt.mp negative]

/-- The order in which a directory is listed does not matter. -/
theorem read_perm {other : List (Option Entry)} (same : entries.Perm other) (realHci : Int) :
    read (some entries) realHci = read (some other) realHci := by
  have filtered := same.filter (targets ("hci" ++ toString realHci))
  apply Option.ext
  intro switch
  simp only [read_iff, Option.some.injEq, exists_eq_left', same.length_eq, same.mem_iff]
  constructor
  · rintro ⟨nonnegative, room, clear, e, one, reads⟩
    exact ⟨nonnegative, room, clear, e, List.perm_singleton.mp (filtered.symm.trans (one ▸ .refl _)), reads⟩
  · rintro ⟨nonnegative, room, clear, e, one, reads⟩
    exact ⟨nonnegative, room, clear, e, List.perm_singleton.mp (filtered.trans (one ▸ .refl _)), reads⟩

/-- What a request does with the switch that is found. -/
theorem set_found {littleEndian blocked : Bool} {root : Option (List (Option Entry))} {realHci : Int} {writeEvent : Bytes → Bool}
    (found : read root realHci = some switch) :
    set littleEndian root realHci blocked writeEvent =
      if blocked = false ∧ switch.hardBlocked then (false, [])
      else if switch.softBlocked = blocked then (true, [])
      else (writeEvent (changeEvent littleEndian switch.index blocked), [changeEvent littleEndian switch.index blocked]) := by
  rw [set, found]

theorem set_missing {littleEndian blocked : Bool} {root : Option (List (Option Entry))} {realHci : Int} {writeEvent : Bytes → Bool}
    (missing : read root realHci = none) : set littleEndian root realHci blocked writeEvent = (false, []) := by
  rw [set, missing]

/-- An event has eight bytes: the number, the type of a radio, the change and the soft state. -/
theorem changeEvent_layout (littleEndian : Bool) (index : UInt32) (blocked : Bool) :
    (changeEvent littleEndian index blocked).length = 8 ∧ (changeEvent littleEndian index blocked).take 4 = toNeBytes littleEndian index ∧
      (changeEvent littleEndian index blocked).drop 4 = [2, 2, if blocked then 1 else 0, 0] := by
  cases littleEndian <;> exact ⟨rfl, rfl, rfl⟩

/-- One event at most, for the switch that was found, when its soft state has to change and may. -/
theorem set_events (littleEndian : Bool) (root : Option (List (Option Entry))) (realHci : Int) (blocked : Bool)
    (writeEvent : Bytes → Bool) :
    (set littleEndian root realHci blocked writeEvent).2 = [] ∨
      ∃ switch, read root realHci = some switch ∧ ¬ (blocked = false ∧ switch.hardBlocked = true) ∧ switch.softBlocked ≠ blocked ∧
        (set littleEndian root realHci blocked writeEvent).2 = [changeEvent littleEndian switch.index blocked] := by
  cases found : read root realHci with
  | none => exact .inl (by rw [set_missing found])
  | some switch =>
    rw [set_found found]
    split
    · exact .inl rfl
    · split
      · exact .inl rfl
      · exact .inr ⟨switch, rfl, ‹_›, ‹_›, rfl⟩

/-- A request succeeds with its write, or without one when the soft state is right and the
request is not one to unblock a radio that is blocked by hardware. -/
theorem set_succeeds (littleEndian : Bool) (root : Option (List (Option Entry))) (realHci : Int) (blocked : Bool)
    (writeEvent : Bytes → Bool) :
    (set littleEndian root realHci blocked writeEvent).1 = true ↔
      (∃ event, (set littleEndian root realHci blocked writeEvent).2 = [event] ∧ writeEvent event = true) ∨
        ∃ switch, read root realHci = some switch ∧ switch.softBlocked = blocked ∧ ¬ (blocked = false ∧ switch.hardBlocked = true) := by
  cases found : read root realHci with
  | none => simp [set_missing found]
  | some switch =>
    rw [set_found found]
    by_cases refused : blocked = false ∧ switch.hardBlocked = true
    · simp [refused]
    · by_cases same : switch.softBlocked = blocked
      · rw [if_neg refused, if_pos same]
        simpa [same] using refused
      · simp [refused, same]

/-- The targeting of a request: the switch is found in a directory that is clear as a whole, in
whatever order, and nothing else is ever written to. -/
theorem targeting :
    (∀ root realHci switch, read root realHci = some switch ↔
      0 ≤ realHci ∧ ∃ entries, root = some entries ∧ entries.length ≤ maxEntries ∧ (∀ entry ∈ entries, Clear entry) ∧
        ∃ e, entries.filter (targets ("hci" ++ toString realHci)) = [some e] ∧ Reads e switch) ∧
    (∀ entries other realHci, List.Perm entries other → read (some entries) realHci = read (some other) realHci) ∧
    ∀ littleEndian root realHci blocked writeEvent,
      ((set littleEndian root realHci blocked writeEvent).2 = [] ∨
        ∃ switch, read root realHci = some switch ∧ ¬ (blocked = false ∧ switch.hardBlocked = true) ∧ switch.softBlocked ≠ blocked ∧
          (set littleEndian root realHci blocked writeEvent).2 = [changeEvent littleEndian switch.index blocked] ∧
          (changeEvent littleEndian switch.index blocked).length = 8 ∧
          (changeEvent littleEndian switch.index blocked).take 4 = toNeBytes littleEndian switch.index ∧
          (changeEvent littleEndian switch.index blocked).drop 4 = [2, 2, if blocked then 1 else 0, 0]) ∧
      ((set littleEndian root realHci blocked writeEvent).1 = true ↔
        (∃ event, (set littleEndian root realHci blocked writeEvent).2 = [event] ∧ writeEvent event = true) ∨
          ∃ switch, read root realHci = some switch ∧ switch.softBlocked = blocked ∧ ¬ (blocked = false ∧ switch.hardBlocked = true)) := by
  refine ⟨fun root realHci switch => read_iff, fun entries other realHci same => read_perm same realHci, ?_⟩
  intro littleEndian root realHci blocked writeEvent
  refine ⟨?_, set_succeeds littleEndian root realHci blocked writeEvent⟩
  rcases set_events littleEndian root realHci blocked writeEvent with none_ | ⟨switch, found, allowed, other, event⟩
  · exact .inl none_
  · exact .inr ⟨switch, found, allowed, other, event, changeEvent_layout littleEndian switch.index blocked⟩

/-- A radio that hardware blocks and software does not. -/
def hardBlockedRadio : Option Entry :=
  some { filename := some "rfkill2", type := some [98, 108, 117, 101, 116, 111, 111, 116, 104, 10], name := some [104, 99, 105, 48, 10]
         hard := some [49, 10], soft := some [48, 10] }

/-- To unblock it fails, though there is nothing to write. -/
theorem hard_block_refuses :
    ¬ ∀ littleEndian root realHci blocked writeEvent,
      ((set littleEndian root realHci blocked writeEvent).1 = true ↔
        (∃ event, (set littleEndian root realHci blocked writeEvent).2 = [event] ∧ writeEvent event = true) ∨
          ∃ switch, read root realHci = some switch ∧ switch.softBlocked = blocked) := by
  intro always
  have found : read (some [hardBlockedRadio]) 0 = some { index := 2, hardBlocked := true, softBlocked := false } := by
    decide +kernel
  have succeeds := (always true (some [hardBlockedRadio]) 0 false fun _ => true).mpr (.inr ⟨_, found, rfl⟩)
  rw [set_found found] at succeeds
  cases succeeds

end FlossDesktop.Rfkill
