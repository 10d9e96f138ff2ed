import FlossDesktop.Discovery
import FlossDesktop.Proofs.UsbReceivers

/-! What a configuration descriptor says about wideband voice. The loop overwrites one
accumulator, but each of its fields is decided by the alternates as a set or by the last
one of a kind. -/

namespace FlossDesktop.Usb

/-- The isochronous endpoints of an alternate in one direction. A later one replaces an
earlier one. -/
def Alternate.iso (alt : Alternate) (incoming : Bool) : Option Endpoint :=
  (alt.endpoints.filter fun ep => ep.kind == 1 && ep.incoming == incoming).getLast?

/-- A Bluetooth alternate of interface one whose isochronous endpoints both take packets
of this size. Address zero stands for no endpoint. -/
structure Alternate.Voice (alt : Alternate) (size : Nat) : Prop where
  bluetooth : alt.bluetooth = true
  number : alt.number = 1
  input : (alt.iso true).map (·.bytes) = some size
  output : (alt.iso false).map (·.bytes) = some size
  addressed : (alt.iso false).map (·.address) ≠ some 0
  positive : 0 < size

/-- What the loop over the endpoints finds. -/
def Alternate.pair (alt : Alternate) : IsoPair := alt.endpoints.foldl (noteIso alt) {}

theorem endpoints_split (alt : Alternate) (result : Endpoints) (pair : IsoPair) (eps : List Endpoint) :
    eps.foldl (noteEndpoint alt) (result, pair) = (eps.foldl (noteControl alt) result, eps.foldl (noteIso alt) pair) := by
  induction eps generalizing result pair with
  | nil => rfl
  | cons ep rest ih => exact ih ..

/-- Control endpoints are no part of the voice settings. -/
theorem noteControl_voice (alt : Alternate) (result : Endpoints) (eps : List Endpoint) :
    (eps.foldl (noteControl alt) result).wbsAlt = result.wbsAlt ∧
    (eps.foldl (noteControl alt) result).wbsSize = result.wbsSize ∧
    (eps.foldl (noteControl alt) result).isoIn = result.isoIn ∧
    (eps.foldl (noteControl alt) result).isoOut = result.isoOut ∧
    (eps.foldl (noteControl alt) result).isoSize = result.isoSize := by
  induction eps generalizing result with
  | nil => exact ⟨rfl, rfl, rfl, rfl, rfl⟩
  | cons ep rest ih =>
    have here : (noteControl alt result ep).wbsAlt = result.wbsAlt ∧ (noteControl alt result ep).wbsSize = result.wbsSize ∧
        (noteControl alt result ep).isoIn = result.isoIn ∧ (noteControl alt result ep).isoOut = result.isoOut ∧
        (noteControl alt result ep).isoSize = result.isoSize := by
      unfold noteControl
      split_ifs <;> exact ⟨rfl, rfl, rfl, rfl, rfl⟩
    rw [List.foldl_cons, ← here.1, ← here.2.1, ← here.2.2.1, ← here.2.2.2.1, ← here.2.2.2.2]
    exact ih _

theorem noteIso_last (alt : Alternate) (number : alt.number = 1) (eps : List Endpoint) (pair : IsoPair) :
    let ins := (eps.filter fun ep => ep.kind == 1 && ep.incoming == true).getLast?
    let outs := (eps.filter fun ep => ep.kind == 1 && ep.incoming == false).getLast?
    eps.foldl (noteIso alt) pair =
      ⟨(ins.map (·.address)).getD pair.input, (outs.map (·.address)).getD pair.output,
        (ins.map (·.bytes)).getD pair.inputSize, (outs.map (·.bytes)).getD pair.outputSize⟩ := by
  induction eps generalizing pair with
  | nil => rfl
  | cons ep rest ih =>
    intro ins outs
    rw [List.foldl_cons, ih]
    by_cases kind : ep.kind = 1
    · cases incoming : ep.incoming <;>
        simp [ins, outs, noteIso, number, kind, incoming]
    · simp [ins, outs, noteIso, kind]

theorem pair_iso {alt : Alternate} (number : alt.number = 1) :
    alt.pair = ⟨((alt.iso true).map (·.address)).getD 0, ((alt.iso false).map (·.address)).getD 0,
      ((alt.iso true).map (·.bytes)).getD 0, ((alt.iso false).map (·.bytes)).getD 0⟩ :=
  noteIso_last alt number alt.endpoints {}

theorem iso_incoming {alt : Alternate} {incoming : Bool} {ep : Endpoint} (last : alt.iso incoming = some ep) :
    ep.incoming = incoming := by
  have kept := (List.mem_filter.mp (List.mem_of_getLast? last)).2
  simp only [Bool.and_eq_true, beq_iff_eq] at kept
  exact kept.2

/-- The address of an input endpoint is never zero. -/
theorem input_addressed {alt : Alternate} {ep : Endpoint} (last : alt.iso true = some ep) : ep.address ≠ 0 := by
  intro zero
  have incoming := iso_incoming last
  unfold Endpoint.incoming at incoming
  rw [zero] at incoming
  exact absurd incoming (by decide)

theorem voice_usable {alt : Alternate} (bluetooth : alt.bluetooth = true) :
    (alt.number = 1 ∧ alt.pair.usable = true) ↔ ∃ size, alt.Voice size ∧ alt.pair.inputSize = size := by
  constructor
  · intro ⟨number, usable⟩
    unfold IsoPair.usable at usable
    simp only [Bool.and_eq_true, bne_iff_ne, ne_eq, beq_iff_eq, decide_eq_true_eq, gt_iff_lt] at usable
    obtain ⟨⟨⟨input, output⟩, same⟩, positive⟩ := usable
    rw [pair_iso number] at input output same positive
    dsimp only at input output same positive
    rcases ins : alt.iso true with _ | first
    · rw [ins] at input
      exact absurd rfl input
    · rcases outs : alt.iso false with _ | last
      · rw [outs] at output
        exact absurd rfl output
      · rw [ins, outs] at same
        rw [ins] at positive
        rw [outs] at output
        refine ⟨first.bytes, ⟨bluetooth, number, by rw [ins]; rfl, ?_, ?_, positive⟩, ?_⟩
        · rw [outs]
          exact congrArg some same.symm
        · rw [outs]
          exact fun zero => output (Option.some.inj zero)
        · rw [pair_iso number, ins]
          rfl
  · rintro ⟨size, voice, inputSize⟩
    have number := voice.number
    obtain ⟨first, ins, firstSize⟩ := Option.map_eq_some_iff.mp voice.input
    obtain ⟨last, outs, lastSize⟩ := Option.map_eq_some_iff.mp voice.output
    have addressed := voice.addressed
    rw [outs] at addressed
    refine ⟨number, ?_⟩
    unfold IsoPair.usable
    rw [pair_iso number, ins, outs]
    simp only [Option.map_some, Option.getD_some, Bool.and_eq_true, bne_iff_ne, ne_eq, beq_iff_eq, decide_eq_true_eq,
      gt_iff_lt, firstSize, lastSize, and_true]
    exact ⟨⟨input_addressed ins, fun zero => addressed (congrArg some zero)⟩, voice.positive⟩

theorem voice_size {alt : Alternate} {size : Nat} (voice : alt.Voice size) : alt.pair.inputSize = size := by
  rw [pair_iso voice.number, voice.input]
  rfl

/-- The alternates that decide the packet size: six if it is large enough, else one. -/
def Wide (alternates : List Alternate) : Prop :=
  ∃ alt ∈ alternates, ∃ size, alt.Voice size ∧ alt.alternate = 6 ∧ 63 ≤ size

def Narrow (alternates : List Alternate) : Prop := ∃ alt ∈ alternates, ∃ size, alt.Voice size ∧ alt.alternate = 1

/-- What one alternate does to the result. -/
theorem noteAlternate_cases {alt : Alternate} (bluetooth : alt.bluetooth = true) (wanted : Int) (result : Endpoints)
    (found : Bool) :
    ∃ after, noteAlternate wanted (result, found) alt = after ∧
      ((¬ (∃ size, alt.Voice size) ∧ after.1.wbsAlt = result.wbsAlt ∧ after.1.wbsSize = result.wbsSize ∧
          after.1.isoIn = result.isoIn ∧ after.1.isoOut = result.isoOut ∧ after.1.isoSize = result.isoSize ∧ after.2 = found) ∨
       ∃ size, alt.Voice size ∧
          (after.1.wbsAlt, after.1.wbsSize) = (if alt.alternate = 6 ∧ 63 ≤ size then (6, 60)
            else if alt.alternate = 1 ∧ result.wbsAlt = 0 then (1, 24) else (result.wbsAlt, result.wbsSize)) ∧
          if (alt.alternate.toNat : Int) = wanted then
            after.2 = true ∧ after.1.isoIn = alt.pair.input ∧ after.1.isoOut = alt.pair.output ∧ after.1.isoSize = size
          else after.2 = found ∧ after.1.isoIn = result.isoIn ∧ after.1.isoOut = result.isoOut ∧
            after.1.isoSize = result.isoSize) := by
  refine ⟨_, rfl, ?_⟩
  have controls := noteControl_voice alt result alt.endpoints
  have usable := voice_usable bluetooth
  unfold noteAlternate
  dsimp only
  rw [endpoints_split]
  dsimp only
  change (alt.number = 1 ∧ (alt.endpoints.foldl (noteIso alt) {}).usable = true) ↔ _ at usable
  generalize alt.endpoints.foldl (noteControl alt) result = noted at controls ⊢
  obtain ⟨wbsAlt, wbsSize, isoIn, isoOut, isoSize⟩ := controls
  by_cases voice : alt.number = 1 ∧ (alt.endpoints.foldl (noteIso alt) {}).usable = true
  · obtain ⟨size, valid, sized⟩ := usable.mp voice
    refine .inr ⟨size, valid, ?_, ?_⟩
    all_goals
      rw [if_pos voice]
      change (alt.endpoints.foldl (noteIso alt) {}).inputSize = size at sized
      rw [sized]
    · by_cases six : alt.alternate = 6 ∧ 63 ≤ size
      · rw [if_pos six, if_pos six]
        split_ifs <;> rfl
      · rw [if_neg six, if_neg six, wbsAlt]
        by_cases one : alt.alternate = 1 ∧ result.wbsAlt = 0
        · rw [if_pos one, if_pos one]
          split_ifs <;> rfl
        · rw [if_neg one, if_neg one]
          split_ifs <;> exact Prod.ext wbsAlt wbsSize
    · by_cases chosen : (alt.alternate.toNat : Int) = wanted
      · rw [if_pos chosen, if_pos chosen]
        exact ⟨rfl, rfl, rfl, rfl⟩
      · rw [if_neg chosen, if_neg chosen]
        refine ⟨rfl, ?_⟩
        dsimp only
        split_ifs <;> exact ⟨isoIn, isoOut, isoSize⟩
  · rw [if_neg voice]
    exact .inl ⟨fun ⟨size, valid⟩ => voice (usable.mpr ⟨size, valid, voice_size valid⟩), wbsAlt, wbsSize, isoIn, isoOut,
      isoSize, rfl⟩

/-- The packet size, as the accumulator held it before and holds it after some alternates. -/
inductive Sized (alternates : List Alternate) (before : Nat × Nat) : Nat × Nat → Prop where
  | wide (wide : Wide alternates) : Sized alternates before (6, 60)
  | narrow (small : ¬ Wide alternates) (narrow : Narrow alternates) (unset : before.1 = 0) : Sized alternates before (1, 24)
  | kept (small : ¬ Wide alternates) (fixed : before.1 ≠ 0 ∨ ¬ Narrow alternates) : Sized alternates before before

theorem Sized.cons {alt : Alternate} {rest : List Alternate} {before middle after : Nat × Nat}
    (one : Sized [alt] before middle) (others : Sized rest middle after) : Sized (alt :: rest) before after := by
  have wideHere : Wide [alt] → Wide (alt :: rest) := fun ⟨_, member, large⟩ =>
    ⟨_, List.mem_cons.mpr (.inl (List.mem_singleton.mp member)), large⟩
  have wideLater : Wide rest → Wide (alt :: rest) := fun ⟨_, member, large⟩ => ⟨_, List.mem_cons_of_mem _ member, large⟩
  have wideSplit : Wide (alt :: rest) → Wide [alt] ∨ Wide rest := by
    rintro ⟨other, member, large⟩
    rcases List.mem_cons.mp member with rfl | later
    · exact .inl ⟨_, List.mem_singleton_self _, large⟩
    · exact .inr ⟨_, later, large⟩
  have narrowHere : Narrow [alt] → Narrow (alt :: rest) := fun ⟨_, member, same⟩ =>
    ⟨_, List.mem_cons.mpr (.inl (List.mem_singleton.mp member)), same⟩
  have narrowLater : Narrow rest → Narrow (alt :: rest) := fun ⟨_, member, same⟩ => ⟨_, List.mem_cons_of_mem _ member, same⟩
  have narrowSplit : Narrow (alt :: rest) → Narrow [alt] ∨ Narrow rest := by
    rintro ⟨other, member, same⟩
    rcases List.mem_cons.mp member with rfl | later
    · exact .inl ⟨_, List.mem_singleton_self _, same⟩
    · exact .inr ⟨_, later, same⟩
  cases others with
  | wide wide => exact .wide (wideLater wide)
  | narrow small narrow unset =>
    cases one with
    | wide => cases unset
    | narrow => cases unset
    | kept smallHere => exact .narrow (fun wide => (wideSplit wide).elim smallHere small) (narrowLater narrow) unset
  | kept small fixed =>
    cases one with
    | wide wide => exact .wide (wideHere wide)
    | narrow smallHere narrow unset =>
      exact .narrow (fun wide => (wideSplit wide).elim smallHere small) (narrowHere narrow) unset
    | kept smallHere fixedHere =>
      refine .kept (fun wide => (wideSplit wide).elim smallHere small) ?_
      by_cases set : before.1 = 0
      · exact .inr fun narrow => (narrowSplit narrow).elim (fixedHere.resolve_left (not_not.mpr set))
          (fixed.resolve_left (not_not.mpr set))
      · exact .inl set

theorem noteAlternate_sized {alt : Alternate} (bluetooth : alt.bluetooth = true) (wanted : Int) (result : Endpoints)
    (found : Bool) :
    Sized [alt] (result.wbsAlt, result.wbsSize)
      ((noteAlternate wanted (result, found) alt).1.wbsAlt, (noteAlternate wanted (result, found) alt).1.wbsSize) := by
  obtain ⟨after, same, ⟨none, wbsAlt, wbsSize, _⟩ | ⟨size, voice, wbs, _⟩⟩ := noteAlternate_cases bluetooth wanted result found
  · rw [same, wbsAlt, wbsSize]
    refine .kept ?_ (.inr ?_)
    · rintro ⟨other, member, size, voice, _⟩
      rw [List.mem_singleton.mp member] at voice
      exact none ⟨size, voice⟩
    · rintro ⟨other, member, size, voice, _⟩
      rw [List.mem_singleton.mp member] at voice
      exact none ⟨size, voice⟩
  · rw [same, wbs]
    have small : ¬ (alt.alternate = 6 ∧ 63 ≤ size) → ¬ Wide [alt] := by
      rintro other ⟨again, member, length, valid, six, large⟩
      rw [List.mem_singleton.mp member] at valid six
      rw [← voice_size valid, voice_size voice] at large
      exact other ⟨six, large⟩
    split_ifs with six one
    · exact .wide ⟨alt, List.mem_singleton_self alt, size, voice, six⟩
    · exact .narrow (small six) ⟨alt, List.mem_singleton_self alt, size, voice, one.1⟩ one.2
    · refine .kept (small six) ?_
      by_cases set : result.wbsAlt = 0
      · refine .inr ?_
        rintro ⟨again, member, _, _, narrow⟩
        rw [List.mem_singleton.mp member] at narrow
        exact one ⟨narrow, set⟩
      · exact .inl set

theorem noteAlternates_sized (wanted : Int) (alternates : List Alternate)
    (bluetooth : ∀ alt ∈ alternates, alt.bluetooth = true) (state : Endpoints × Bool) :
    Sized alternates (state.1.wbsAlt, state.1.wbsSize) ((alternates.foldl (noteAlternate wanted) state).1.wbsAlt,
      (alternates.foldl (noteAlternate wanted) state).1.wbsSize) := by
  induction alternates generalizing state with
  | nil => exact .kept (fun ⟨_, member, _⟩ => nomatch member) (.inr fun ⟨_, member, _⟩ => nomatch member)
  | cons alt rest ih =>
    exact (noteAlternate_sized (bluetooth alt List.mem_cons_self) wanted state.1 state.2).cons
      (ih (fun other member => bluetooth other (List.mem_cons_of_mem alt member)) _)

/-- The isochronous endpoints come from one alternate of the wanted number. -/
def Chosen (alternates : List Alternate) (wanted : Int) (result : Endpoints) : Prop :=
  ∃ alt ∈ alternates, alt.Voice result.isoSize ∧ (alt.alternate.toNat : Int) = wanted ∧
    (alt.iso true).map (·.address) = some result.isoIn ∧ (alt.iso false).map (·.address) = some result.isoOut

theorem noteAlternates_chosen (wanted : Int) (alternates : List Alternate)
    (bluetooth : ∀ alt ∈ alternates, alt.bluetooth = true) (state : Endpoints × Bool)
    (found : (alternates.foldl (noteAlternate wanted) state).2 = true) :
    Chosen alternates wanted (alternates.foldl (noteAlternate wanted) state).1 ∨ state.2 = true ∧
      (alternates.foldl (noteAlternate wanted) state).1.isoIn = state.1.isoIn ∧
      (alternates.foldl (noteAlternate wanted) state).1.isoOut = state.1.isoOut ∧
      (alternates.foldl (noteAlternate wanted) state).1.isoSize = state.1.isoSize := by
  induction alternates generalizing state with
  | nil => exact .inr ⟨found, rfl, rfl, rfl⟩
  | cons alt rest ih =>
    rw [List.foldl_cons] at found ⊢
    rcases ih (fun other member => bluetooth other (List.mem_cons_of_mem alt member)) _ found with
      ⟨other, member, chosen⟩ | ⟨here, isoIn, isoOut, isoSize⟩
    · exact .inl ⟨other, List.mem_cons_of_mem alt member, chosen⟩
    · obtain ⟨after, same, cases_⟩ := noteAlternate_cases (bluetooth alt List.mem_cons_self) wanted state.1 state.2
      have same : noteAlternate wanted state alt = after := same
      rw [same] at here isoIn isoOut isoSize ⊢
      rcases cases_ with ⟨_, _, _, keptIn, keptOut, keptSize, kept⟩ | ⟨size, voice, _, settled⟩
      · exact .inr ⟨kept ▸ here, isoIn.trans keptIn, isoOut.trans keptOut, isoSize.trans keptSize⟩
      · split_ifs at settled with chosen
        · obtain ⟨_, newIn, newOut, newSize⟩ := settled
          obtain ⟨first, ins, _⟩ := Option.map_eq_some_iff.mp voice.input
          obtain ⟨last, outs, _⟩ := Option.map_eq_some_iff.mp voice.output
          refine .inl ⟨alt, List.mem_cons_self, ?_, chosen, ?_, ?_⟩
          · rw [isoSize, newSize]
            exact voice
          · rw [isoIn, newIn, pair_iso voice.number, ins]
            rfl
          · rw [isoOut, newOut, pair_iso voice.number, outs]
            rfl
        · obtain ⟨kept, keptIn, keptOut, keptSize⟩ := settled
          exact .inr ⟨kept ▸ here, isoIn.trans keptIn, isoOut.trans keptOut, isoSize.trans keptSize⟩

/-- Every successful discovery names its control endpoints and finds the wanted alternate. -/
structure Discovered (alternates : List Alternate) (wanted : Int) (result : Endpoints) : Prop where
  sized : Sized alternates (0, 0) (result.wbsAlt, result.wbsSize)
  chosen : Chosen alternates wanted result
  interruptIn : result.interruptIn ≠ 0
  bulkIn : result.bulkIn ≠ 0
  bulkOut : result.bulkOut ≠ 0

theorem discover_ok {alternates : List Alternate} {wanted : Int} {result : Endpoints}
    (done : discover alternates wanted = .ok result) : Discovered alternates wanted result := by
  have bluetooth : ∀ alt ∈ alternates.filter (·.bluetooth), alt.bluetooth = true := fun alt member =>
    (List.mem_filter.mp member).2
  have sized := noteAlternates_sized wanted (alternates.filter (·.bluetooth)) bluetooth ({}, false)
  have chosen := noteAlternates_chosen wanted (alternates.filter (·.bluetooth)) bluetooth ({}, false)
  unfold discover at done
  generalize (alternates.filter (·.bluetooth)).foldl (noteAlternate wanted) ({}, false) = state at sized chosen done
  obtain ⟨found, found_⟩ := state
  dsimp only at done sized chosen
  split_ifs at done with complete
  cases done
  obtain ⟨rfl, interruptIn, bulkIn, bulkOut⟩ := complete
  -- Voice alternates are Bluetooth ones, so the filter leaves all of them.
  have wide : Wide (alternates.filter (·.bluetooth)) ↔ Wide alternates :=
    ⟨fun ⟨alt, member, large⟩ => ⟨alt, (List.mem_filter.mp member).1, large⟩, fun ⟨alt, member, size, voice, six⟩ =>
      ⟨alt, List.mem_filter.mpr ⟨member, voice.bluetooth⟩, size, voice, six⟩⟩
  have narrow : Narrow (alternates.filter (·.bluetooth)) ↔ Narrow alternates :=
    ⟨fun ⟨alt, member, large⟩ => ⟨alt, (List.mem_filter.mp member).1, large⟩, fun ⟨alt, member, size, voice, one⟩ =>
      ⟨alt, List.mem_filter.mpr ⟨member, voice.bluetooth⟩, size, voice, one⟩⟩
  refine ⟨?_, ?_, interruptIn, bulkIn, bulkOut⟩
  · generalize wbs : (result.wbsAlt, result.wbsSize) = after at sized ⊢
    cases sized with
    | wide large => exact .wide (wide.mp large)
    | narrow small one unset => exact .narrow (fun large => small (wide.mpr large)) (narrow.mp one) unset
    | kept small fixed =>
      exact .kept (fun large => small (wide.mpr large)) (fixed.imp_right fun none one => none (narrow.mpr one))
  · rcases chosen rfl with ⟨alt, member, voice⟩ | ⟨none, _⟩
    · exact ⟨alt, (List.mem_filter.mp member).1, voice⟩
    · cases none

theorem Chosen.positive {alternates : List Alternate} {wanted : Int} {result : Endpoints}
    (chosen : Chosen alternates wanted result) : 0 < result.isoSize := by
  obtain ⟨alt, _, voice, _⟩ := chosen
  exact voice.positive

/-- The size is a function of the set of alternates. -/
theorem Sized.unique {alternates others : List Alternate} {first second : Nat × Nat}
    (same : ∀ alt, alt ∈ alternates ↔ alt ∈ others) (one : Sized alternates (0, 0) first)
    (two : Sized others (0, 0) second) : first = second := by
  have wide : Wide alternates ↔ Wide others := exists_congr fun alt => and_congr_left fun _ => same alt
  have narrow : Narrow alternates ↔ Narrow others := exists_congr fun alt => and_congr_left fun _ => same alt
  cases one with
  | wide large =>
    cases two with
    | wide => rfl
    | narrow small => exact absurd (wide.mp large) small
    | kept small => exact absurd (wide.mp large) small
  | narrow small one_ =>
    cases two with
    | wide large => exact absurd (wide.mpr large) small
    | narrow => rfl
    | kept _ fixed => exact absurd (narrow.mp one_) (fixed.resolve_left fun set => set rfl)
  | kept small fixed =>
    cases two with
    | wide large => exact absurd (wide.mpr large) small
    | narrow _ one_ => exact absurd (narrow.mpr one_) (fixed.resolve_left fun set => set rfl)
    | kept => rfl

/-- The descriptors a mode change reads are those of the adapter. -/
def Reads (alternates : List Alternate) (s : Usb) : Operation → Prop
  | .setSco mode switch => ∀ endpoints, switch.descriptors = .ok endpoints →
    discover alternates (s.alternate mode) = .ok endpoints
  | _ => True

/-- The owner of an adapter with these alternates, after any operations. What `run`
publishes are the endpoints it opened with. -/
inductive Described (alternates : List Alternate) (published : Endpoints) : Usb → Prop where
  | opened (loaded : discover alternates 2 = .ok published) : Described alternates published (Usb.opened published)
  | perform {s : Usb} (described : Described alternates published s) (operation : Operation)
      (reads : Reads alternates s operation) : Described alternates published (s.perform operation).1

/-- The endpoints in use are those of the alternate selected. -/
structure Loaded (alternates : List Alternate) (s : Usb) : Prop where
  known : ∃ wanted, discover alternates wanted = .ok s.endpoints
  current : s.alt ≠ 0 → discover alternates s.alt = .ok s.endpoints

theorem Loaded.settings {alternates : List Alternate} {s after : Usb} (loaded : Loaded alternates s)
    (same : SameSettings s after) : Loaded alternates after := by
  refine ⟨?_, ?_⟩
  · rw [same.endpoints]
    exact loaded.known
  · rw [same.endpoints, same.alt]
    exact loaded.current

theorem selectAlt_loaded {alternates : List Alternate} {s : Usb} {alt : Nat} {switch : Switch}
    (known : ∃ wanted, discover alternates wanted = .ok s.endpoints) (idle : s.alt = 0)
    (read : ∀ endpoints, switch.descriptors = .ok endpoints → discover alternates alt = .ok endpoints) :
    Loaded alternates (s.selectAlt alt switch).1 := by
  unfold selectAlt
  split
  · exact ⟨known, fun some_ => absurd idle some_⟩
  · rename_i endpoints same
    have found := read endpoints same
    dsimp only
    split_ifs
    · exact ⟨⟨alt, found⟩, fun some_ => absurd idle some_⟩
    all_goals
      have selected : Loaded alternates { s with endpoints, alt, stoppingSco := false } := ⟨⟨alt, found⟩, fun _ => found⟩
      exact selected.settings (receiveAll_control _ [(3, switch.first), (3, switch.second)]).settings

theorem setSco_loaded {alternates : List Alternate} {s : Usb} (mode : Int) {switch : Switch} (loaded : Loaded alternates s)
    (read : ∀ endpoints, switch.descriptors = .ok endpoints → discover alternates (s.alternate mode) = .ok endpoints) :
    Loaded alternates (s.setSco mode switch).1 := by
  have halting : Loaded alternates { s with stoppingSco := true } := ⟨loaded.known, loaded.current⟩
  have stopped := halting.settings (cancel_settings { s with stoppingSco := true } true switch.cancellation)
  unfold setSco
  dsimp only
  generalize { s with stoppingSco := true }.cancel true switch.cancellation = result at stopped ⊢
  obtain ⟨quiet, code⟩ := result
  split_ifs
  · exact loaded
  · exact loaded
  · exact loaded
  · exact stopped
  · exact stopped
  · exact stopped
  · exact ⟨stopped.known, fun some_ => absurd rfl some_⟩
  · exact selectAlt_loaded stopped.known rfl read

theorem send_settings (s : Usb) (kind : UInt8) (data : Bytes) (supply : Supply) :
    (s.send kind data supply).1.endpoints = s.endpoints ∧ (s.send kind data supply).1.alt = s.alt := by
  have control := launch_control s kind false (s.sendPackets kind data.length) (s.sendRequest kind data) supply
  unfold send
  dsimp only
  split_ifs
  · exact ⟨rfl, rfl⟩
  · exact ⟨rfl, rfl⟩
  · exact ⟨rfl, rfl⟩
  · exact ⟨control.endpoints, control.alt⟩
  · exact ⟨control.endpoints, control.alt⟩

theorem Described.loaded {alternates : List Alternate} {published : Endpoints} {s : Usb}
    (described : Described alternates published s) : Loaded alternates s := by
  induction described with
  | opened loaded => exact ⟨⟨2, loaded⟩, fun some_ => absurd rfl some_⟩
  | @perform s _ operation reads ih =>
    cases operation with
    | send kind data supply =>
      obtain ⟨endpoints, alt⟩ := send_settings s kind data supply
      refine ⟨?_, ?_⟩
      · show ∃ wanted, discover alternates wanted = .ok (s.send kind data supply).1.endpoints
        rw [endpoints]
        exact ih.known
      · show (s.send kind data supply).1.alt ≠ 0 → _ = Except.ok (s.send kind data supply).1.endpoints
        rw [endpoints]
        show (s.send kind data supply).1.alt ≠ 0 → discover alternates (s.send kind data supply).1.alt = _
        rw [alt]
        exact ih.current
    | receive kind supply => exact ih.settings (launch_control ..).settings
    | startReceivers first second third => exact ih.settings (receiveAll_control s _).settings
    | claim claiming => exact ih.settings (claim_settings s claiming)
    | pump poll => exact ih.settings (pump_settings s poll)
    | cancel isoOnly cancellation => exact ih.settings (cancel_settings s isoOnly cancellation)
    | setSco mode switch => exact setSco_loaded mode ih reads

theorem Described.published {alternates : List Alternate} {published : Endpoints} {s : Usb}
    (described : Described alternates published s) : discover alternates 2 = .ok published := by
  induction described with
  | opened loaded => exact loaded
  | perform _ _ _ ih => exact ih

/-- A mode change that succeeds for wideband voice selects the alternate found for it. -/
theorem setSco_wideband {s : Usb} {switch : Switch} (done : (s.setSco 3 switch).2 = 0) :
    (s.setSco 3 switch).1.alt = s.endpoints.wbsAlt ∧ s.endpoints.wbsAlt ≠ 0 := by
  obtain ⟨switched, supported⟩ := setSco_switched done
  have wanted : s.endpoints.wbsAlt ≠ 0 := supported (by decide)
  refine ⟨?_, wanted⟩
  generalize (s.setSco 3 switch).1 = after at switched ⊢
  cases switched with
  | same alt => exact alt.symm
  | stopped quiet _ _ alt => exact absurd alt wanted
  | started quiet endpoints _ _ alt _ =>
    exact (receiveAll_control (quiet.selected (s.alternate 3) endpoints) [(3, switch.first), (3, switch.second)]).alt

theorem discover_perm {alternates others : List Alternate} {wanted again : Int} {result other : Endpoints}
    (same : others.Perm alternates) (one : discover alternates wanted = .ok result) (two : discover others again = .ok other) :
    other.wbsAlt = result.wbsAlt ∧ other.wbsSize = result.wbsSize := by
  have both := Sized.unique (fun _ => same.mem_iff) (discover_ok two).sized (discover_ok one).sized
  exact ⟨congrArg Prod.fst both, congrArg Prod.snd both⟩

theorem discover_choice {alternates : List Alternate} {wanted : Int} {result : Endpoints}
    (done : discover alternates wanted = .ok result) :
    Wide alternates ∧ result.wbsAlt = 6 ∧ result.wbsSize = 60 ∨
      ¬ Wide alternates ∧ Narrow alternates ∧ result.wbsAlt = 1 ∧ result.wbsSize = 24 ∨
      ¬ Wide alternates ∧ ¬ Narrow alternates ∧ result.wbsAlt = 0 ∧ result.wbsSize = 0 := by
  have sized := (discover_ok done).sized
  generalize alt : result.wbsAlt = wbsAlt at sized
  generalize size : result.wbsSize = wbsSize at sized
  cases sized with
  | wide large => exact .inl ⟨large, rfl, rfl⟩
  | narrow small one => exact .inr (.inl ⟨small, one, rfl, rfl⟩)
  | kept small fixed => exact .inr (.inr ⟨small, fixed.resolve_left fun set => set rfl, rfl, rfl⟩)

/-- Only alternate six goes with packets of 60 bytes. -/
theorem discover_six {alternates : List Alternate} {wanted : Int} {result : Endpoints}
    (done : discover alternates wanted = .ok result) (sixty : result.wbsSize = 60) : result.wbsAlt = 6 := by
  rcases discover_choice done with ⟨_, six, _⟩ | ⟨_, _, _, other⟩ | ⟨_, _, _, other⟩
  · exact six
  · rw [other] at sixty
    cases sixty
  · rw [other] at sixty
    cases sixty

/-- Discovery decides the packet size by the set of alternates alone, and what it finds for
one setting agrees with what it finds for another. The size that is published therefore
belongs to the alternate selected later, whose endpoint is never of size zero. It has room
for a packet of 63 bytes unless the same alternate is listed again with a smaller size. -/
theorem discovery_agrees (alternates : List Alternate) :
    (∀ wanted result, discover alternates wanted = .ok result →
      (∀ others again other, others.Perm alternates → discover others again = .ok other →
        other.wbsAlt = result.wbsAlt ∧ other.wbsSize = result.wbsSize) ∧
      (Wide alternates ∧ result.wbsAlt = 6 ∧ result.wbsSize = 60 ∨
        ¬ Wide alternates ∧ Narrow alternates ∧ result.wbsAlt = 1 ∧ result.wbsSize = 24 ∨
        ¬ Wide alternates ∧ ¬ Narrow alternates ∧ result.wbsAlt = 0 ∧ result.wbsSize = 0) ∧
      Chosen alternates wanted result ∧ 0 < result.isoSize ∧
      result.interruptIn ≠ 0 ∧ result.bulkIn ≠ 0 ∧ result.bulkOut ≠ 0) ∧
    ∀ published s, Described alternates published s →
      s.endpoints.wbsAlt = published.wbsAlt ∧ s.endpoints.wbsSize = published.wbsSize ∧
      (s.alt ≠ 0 → 0 < s.endpoints.isoSize) ∧
      ∀ switch, Reads alternates s (.setSco 3 switch) → (s.setSco 3 switch).2 = 0 →
        (s.setSco 3 switch).1.alt = published.wbsAlt ∧
        ((∀ alt ∈ alternates, ∀ size, alt.Voice size → alt.alternate = 6 → 63 ≤ size) → published.wbsSize = 60 →
          63 ≤ (s.setSco 3 switch).1.endpoints.isoSize) := by
  refine ⟨?_, ?_⟩
  · intro wanted result done
    obtain ⟨_, chosen, interruptIn, bulkIn, bulkOut⟩ := discover_ok done
    refine ⟨?_, discover_choice done, chosen, chosen.positive, interruptIn, bulkIn, bulkOut⟩
    exact fun others again other same found => discover_perm same done found
  · intro published s described
    have loaded := described.loaded
    obtain ⟨wanted, known⟩ := loaded.known
    have same := discover_perm (.refl _) described.published known
    refine ⟨same.1, same.2, fun some_ => (discover_ok (loaded.current some_)).chosen.positive, ?_⟩
    intro switch reads done
    obtain ⟨alt, some_⟩ := setSco_wideband done
    refine ⟨alt.trans same.1, ?_⟩
    intro large sixty
    have found := (setSco_loaded 3 loaded reads).current (by rw [alt]; exact some_)
    obtain ⟨other, member, voice, number, _⟩ := (discover_ok found).chosen
    rw [alt, same.1, discover_six described.published sixty] at number
    exact large other member _ voice (UInt8.toNat_inj.mp (Int.ofNat.inj number))

def controls : Alternate := ⟨0, 0, 0xe0, 1, 1, [⟨0x81, 3, 16⟩, ⟨2, 2, 64⟩, ⟨0x82, 2, 64⟩]⟩

/-- An alternate of the voice interface with two endpoints of one size. -/
def voiceAlternate (alternate output : UInt8) (size : UInt16) : Alternate :=
  ⟨1, alternate, 0xe0, 1, 1, [⟨output, 1, size⟩, ⟨0x83, 1, size⟩]⟩

/-- The sizes of a controller with alternates one, two and six. -/
example : (discover [controls, voiceAlternate 1 3 9, voiceAlternate 2 3 17, voiceAlternate 6 3 63] 2).toOption =
    some ⟨0x81, 0x82, 2, 0x83, 3, 17, 6, 60⟩ := by decide

/-- Alternate six once more, with small packets. -/
def relisted : List Alternate := [controls, voiceAlternate 2 3 17, voiceAlternate 6 3 63, voiceAlternate 6 3 9]

def relistedSwitch : Switch := { descriptors := discover relisted 6 }

/-- The published size needs alternate six, and the endpoint selected for it refuses a
packet of 63 bytes. An output endpoint at address zero is none. -/
theorem relisted_alternate_refuses :
    (∃ published, discover relisted 2 = .ok published ∧ published.wbsSize = 60 ∧
      Reads relisted (opened published) (.setSco 3 relistedSwitch) ∧ ((opened published).setSco 3 relistedSwitch).2 = 0 ∧
      ((opened published).setSco 3 relistedSwitch).1.alt = 6 ∧
      ((opened published).setSco 3 relistedSwitch).1.endpoints.isoSize = 9 ∧
      (((opened published).setSco 3 relistedSwitch).1.send 3 (List.replicate 63 0) {}).2 = -einval) ∧
    ∃ published, discover [controls, voiceAlternate 2 3 17, voiceAlternate 6 0 63] 2 = .ok published ∧ published.wbsAlt = 0 := by
  refine ⟨⟨⟨0x81, 0x82, 2, 0x83, 3, 17, 6, 60⟩, rfl, rfl, fun endpoints same => same, ?_⟩,
    ⟨0x81, 0x82, 2, 0x83, 3, 17, 0, 0⟩, rfl, rfl⟩
  decide +kernel

end FlossDesktop.Usb
