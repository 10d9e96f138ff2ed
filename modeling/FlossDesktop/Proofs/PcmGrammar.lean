import FlossDesktop.PcmDictionary
import Mathlib.Tactic

/-! Which dictionaries are PCM configurations. The reader keeps a bit for every key it has
seen; over a whole dictionary the bits say which keys are there, and the record holds
exactly their values. -/

namespace FlossDesktop.PcmDictionary

/-- The value a record has for a field. -/
def value (config : HfpPcmConfig) : Field → Value
  | .ready => .boolean config.ready
  | .active => .boolean config.active
  | .rate => .uint32 config.rate
  | .bits => .byte config.bits
  | .channels => .byte config.channels
  | .codec => .uint32 config.codec
  | .generation => .uint64 config.generation
  | .socketPath => .string config.socketPath

theorem value_ext {first second : HfpPcmConfig} (same : ∀ known, value first known = value second known) :
    first = second := by
  obtain ⟨ready, active, rate, codec, bits, channels, generation, path⟩ := first
  have ready_ := same .ready
  have active_ := same .active
  have rate_ := same .rate
  have codec_ := same .codec
  have bits_ := same .bits
  have channels_ := same .channels
  have generation_ := same .generation
  have path_ := same .socketPath
  simp only [value, Value.boolean.injEq, Value.uint32.injEq, Value.byte.injEq, Value.uint64.injEq,
    Value.string.injEq] at ready_ active_ rate_ codec_ bits_ channels_ generation_ path_
  rw [ready_, active_, rate_, codec_, bits_, channels_, generation_, path_]

/-- A value of the type of its field, and a path short enough to be stored. -/
def Fits : Field → Value → Prop
  | .ready, .boolean _ | .active, .boolean _ | .rate, .uint32 _ | .bits, .byte _ | .channels, .byte _ |
    .codec, .uint32 _ | .generation, .uint64 _ => True
  | .socketPath, .string path => path.utf8ByteSize < sunPath
  | _, _ => False

/-- Storing a value that fits sets its field and no other. -/
theorem store_fits (config : HfpPcmConfig) {known : Field} {new : Value} (fits : Fits known new) :
    ∃ after, store config known new = some after ∧ value after known = new ∧
      ∀ other, other ≠ known → value after other = value config other := by
  cases known <;> cases new <;> first
    | exact fits.elim
    | (refine ⟨_, rfl, rfl, fun other different => ?_⟩
       cases other <;> first | rfl | exact absurd rfl different)
    | (refine ⟨_, if_neg (not_le.mpr fits), rfl, fun other different => ?_⟩
       cases other <;> first | rfl | exact absurd rfl different)

theorem store_unfit {config : HfpPcmConfig} {known : Field} {new : Value} (unfit : ¬ Fits known new) :
    store config known new = none := by
  cases known <;> cases new <;> first
    | rfl
    | exact absurd trivial unfit
    | exact if_pos (not_lt.mp unfit)

/-- The known keys of a dictionary, in its order. -/
def fields (entries : Entries) : List Field := entries.filterMap fun entry => field entry.1

/-- The bits of some keys, seen one after another. -/
def mask (seen : Nat) (known : List Field) : Nat := known.foldl (fun seen next => seen ||| next.bit) seen

/-- Every known key has a value that fits. -/
def Typed (entries : Entries) : Prop := ∀ entry ∈ entries, ∀ known, field entry.1 = some known → Fits known entry.2

/-- The record holds the values of the dictionary, and keeps what it had elsewhere. -/
structure Reads (entries : Entries) (before after : HfpPcmConfig) : Prop where
  present : ∀ entry ∈ entries, ∀ known, field entry.1 = some known → value after known = entry.2
  absent : ∀ known, known ∉ fields entries → value after known = value before known

theorem bit_apart {first second : Field} (different : first ≠ second) : first.bit &&& second.bit = 0 := by
  cases first <;> cases second <;> first | rfl | exact absurd rfl different

theorem readEntries_some {entries : Entries} (config : HfpPcmConfig) {seen : Nat} (typed : Typed entries)
    (once : (fields entries).Nodup) (fresh : ∀ known ∈ fields entries, seen &&& known.bit = 0) :
    ∃ after, readEntries (config, seen) entries = some (after, mask seen (fields entries)) ∧ Reads entries config after := by
  induction entries generalizing config seen with
  | nil => exact ⟨config, rfl, nofun, fun _ _ => rfl⟩
  | cons entry rest ih =>
    have later : Typed rest := fun other member => typed other (List.mem_cons_of_mem entry member)
    rcases known : field entry.1 with _ | this
    · have same : fields (entry :: rest) = fields rest := List.filterMap_cons_none known
      rw [same] at once fresh ⊢
      obtain ⟨after, read, reads⟩ := ih config later once fresh
      refine ⟨after, ?_, ?_, ?_⟩
      · rw [readEntries, readEntry, known]
        exact read
      · intro other member other_ found
        rcases List.mem_cons.mp member with rfl | inside
        · rw [known] at found
          cases found
        · exact reads.present other inside other_ found
      · rw [same]
        exact reads.absent
    · have same : fields (entry :: rest) = this :: fields rest := List.filterMap_cons_some known
      rw [same] at once fresh ⊢
      obtain ⟨elsewhere, onceLater⟩ := List.nodup_cons.mp once
      obtain ⟨middle, stored, here, others⟩ := store_fits config (typed entry List.mem_cons_self this known)
      have freshLater : ∀ next ∈ fields rest, (seen ||| this.bit) &&& next.bit = 0 := by
        intro next member
        rw [Nat.and_or_distrib_right, fresh next (List.mem_cons_of_mem this member), Nat.zero_or]
        exact bit_apart fun equal => elsewhere (equal ▸ member)
      obtain ⟨after, read, reads⟩ := ih middle later onceLater freshLater
      refine ⟨after, ?_, ?_, ?_⟩
      · rw [readEntries, readEntry, known]
        dsimp only
        rw [if_neg (not_not.mpr (fresh this List.mem_cons_self)), stored]
        exact read
      · intro other member other_ found
        rcases List.mem_cons.mp member with rfl | inside
        · rw [known] at found
          cases found
          rw [reads.absent this elsewhere, here]
        · exact reads.present other inside other_ found
      · intro absent missing
        rw [same] at missing
        obtain ⟨different, missing⟩ := not_or.mp (fun member => missing (List.mem_cons.mpr member))
        rw [reads.absent absent missing, others absent different]

/-- A dictionary that is read to its end repeats no key, and all its values fit. -/
theorem readEntries_valid {entries : Entries} {config after : HfpPcmConfig} {seen last : Nat}
    (read : readEntries (config, seen) entries = some (after, last)) :
    Typed entries ∧ (fields entries).Nodup ∧ ∀ known ∈ fields entries, seen &&& known.bit = 0 := by
  induction entries generalizing config seen with
  | nil => exact ⟨nofun, List.nodup_nil, nofun⟩
  | cons entry rest ih =>
    rcases known : field entry.1 with _ | this
    · rw [readEntries, readEntry, known] at read
      obtain ⟨typed, once, fresh⟩ := ih read
      have same : fields (entry :: rest) = fields rest := List.filterMap_cons_none known
      rw [same]
      refine ⟨fun other member other_ found => ?_, once, fresh⟩
      rcases List.mem_cons.mp member with rfl | inside
      · rw [known] at found
        cases found
      · exact typed other inside other_ found
    · rw [readEntries, readEntry, known] at read
      dsimp only at read
      by_cases unseen : seen &&& this.bit = 0
      · rw [if_neg (not_not.mpr unseen)] at read
        by_cases fits : Fits this entry.2
        · obtain ⟨middle, stored, _⟩ := store_fits config fits
          rw [stored] at read
          obtain ⟨typed, once, fresh⟩ := ih read
          have same : fields (entry :: rest) = this :: fields rest := List.filterMap_cons_some known
          rw [same]
          have split : ∀ next ∈ fields rest, seen &&& next.bit = 0 ∧ this.bit &&& next.bit = 0 := by
            intro next member
            have both := fresh next member
            rw [Nat.and_or_distrib_right] at both
            exact Nat.or_eq_zero_iff.mp both
          refine ⟨fun other member other_ found => ?_, List.nodup_cons.mpr ⟨fun member => ?_, once⟩, fun next member => ?_⟩
          · rcases List.mem_cons.mp member with rfl | inside
            · rw [known] at found
              cases found
              exact fits
            · exact typed other inside other_ found
          · have twice := (split this member).2
            rw [Nat.and_self] at twice
            cases this <;> cases twice
          · rcases List.mem_cons.mp member with rfl | inside
            · exact unseen
            · exact (split next inside).1
        · rw [store_unfit fits] at read
          cases read
      · rw [if_pos unseen] at read
        cases read

/-! The bits as the set of keys. -/

/-- The place of a bit. -/
def place : Field → Nat
  | .ready => 0
  | .rate => 1
  | .bits => 2
  | .channels => 3
  | .codec => 4
  | .generation => 5
  | .socketPath => 6
  | .active => 7

theorem bit_place (known : Field) : known.bit = 2 ^ place known := by
  cases known <;> rfl

theorem place_inj {first second : Field} (same : place first = place second) : first = second := by
  cases first <;> cases second <;> first | rfl | cases same

theorem mask_testBit (seen : Nat) (known : List Field) (i : Nat) :
    (mask seen known).testBit i = (seen.testBit i || known.any fun next => place next == i) := by
  induction known generalizing seen with
  | nil => exact (Bool.or_false _).symm
  | cons next rest ih =>
    have here : (seen ||| next.bit).testBit i = (seen.testBit i || place next == i) := by
      rw [Nat.testBit_or, bit_place, Nat.testBit_two_pow]
      rfl
    rw [mask, List.foldl_cons]
    exact (ih (seen ||| next.bit)).trans (by rw [here, List.any_cons, Bool.or_assoc])

/-- The bits of some keys are all set exactly if the keys are all there. -/
theorem mask_covers (known wanted : List Field) :
    mask 0 known &&& mask 0 wanted = mask 0 wanted ↔ ∀ next ∈ wanted, next ∈ known := by
  have bits : ∀ list i, (mask 0 list).testBit i = true ↔ ∃ next ∈ list, place next = i := by
    intro list i
    rw [mask_testBit, Nat.zero_testBit, Bool.false_or, List.any_eq_true]
    simp only [beq_iff_eq]
  constructor
  · intro covered next member
    have set := congrArg (Nat.testBit · (place next)) covered
    have wanted_ : (mask 0 wanted).testBit (place next) = true := (bits wanted _).mpr ⟨next, member, rfl⟩
    simp only [Nat.testBit_and, wanted_, Bool.and_true] at set
    obtain ⟨other, inside, same⟩ := (bits known _).mp set
    exact place_inj same ▸ inside
  · intro all
    apply Nat.eq_of_testBit_eq
    intro i
    rw [Nat.testBit_and]
    by_cases set : (mask 0 wanted).testBit i = true
    · obtain ⟨next, member, same⟩ := (bits wanted i).mp set
      rw [set, (bits known i).mpr ⟨next, all next member, same⟩]
      rfl
    · rw [Bool.not_eq_true] at set
      rw [set, Bool.and_false]

theorem mask_small (known : List Field) : mask 0 known < 2 ^ 8 := by
  apply Nat.lt_pow_two_of_testBit
  intro i large
  rw [mask_testBit, Nat.zero_testBit, Bool.false_or, List.any_eq_false]
  intro next _ same
  have small : place next < 8 := by cases next <;> decide
  rw [beq_iff_eq] at same
  omega

/-- The keys every reply must have. -/
def mandatory (hfp : Bool) : List Field := if hfp then [.ready, .active, .generation] else [.ready, .generation]

/-- The keys of a reply that is ready. -/
def formats (hfp : Bool) : List Field :=
  if hfp then [.ready, .active, .rate, .bits, .channels, .codec, .generation, .socketPath]
  else [.ready, .rate, .bits, .channels, .generation, .socketPath]

/-- A format this bridge can play, on the fixed socket. -/
def Supported (hfp : Bool) (config : HfpPcmConfig) : Prop :=
  config.generation ≠ 0 ∧ config.socketPath = (if hfp then scoPath else audioPath) ∧
  if hfp then config.bits = 16 ∧ config.channels = 1 ∧
    (config.codec = 1 ∧ config.rate = 8000 ∨ config.codec = 2 ∧ config.rate = 16000)
  else (config.bits = 16 ∨ config.bits = 24 ∨ config.bits = 32) ∧ (config.channels = 1 ∨ config.channels = 2) ∧
    (config.rate = 44100 ∨ config.rate = 48000 ∨ config.rate = 88200 ∨ config.rate = 96000)

/-- The configurations a dictionary stands for: at most one. -/
structure Grammar (hfp : Bool) (entries : Entries) (config : HfpPcmConfig) : Prop where
  typed : Typed entries
  once : (fields entries).Nodup
  reads : Reads entries {} config
  mandatory : ∀ known ∈ mandatory hfp, known ∈ fields entries
  ready : config.ready = true → (∀ known ∈ formats hfp, known ∈ fields entries) ∧ Supported hfp config ∧
    (hfp = true → config.active = true)

theorem validHfp_iff (config : HfpPcmConfig) (known : List Field) :
    validHfp config (mask 0 known) = true ↔ (∀ next ∈ mandatory true, next ∈ known) ∧
      (config.ready = true → (∀ next ∈ formats true, next ∈ known) ∧ Supported true config ∧ (true = true → config.active = true)) := by
  have needed : mask 0 known &&& 161 = 161 ↔ ∀ next ∈ mandatory true, next ∈ known := mask_covers known (mandatory true)
  have all : mask 0 known = 255 ↔ ∀ next ∈ formats true, next ∈ known := by
    rw [← mask_covers known (formats true)]
    have whole : mask 0 known &&& 255 = mask 0 known := by
      rw [Nat.and_two_pow_sub_one_eq_mod _ 8]
      exact Nat.mod_eq_of_lt (mask_small known)
    show _ ↔ mask 0 known &&& 255 = 255
    rw [whole]
  unfold validHfp Supported
  rw [← needed, ← all]
  cases config.ready with
  | false => simp
  | true =>
    simp
    tauto

theorem validA2dp_iff (config : HfpPcmConfig) (known : List Field) :
    validA2dp config (mask 0 known) = true ↔ (∀ next ∈ mandatory false, next ∈ known) ∧
      (config.ready = true → (∀ next ∈ formats false, next ∈ known) ∧ Supported false config ∧ (false = true → config.active = true)) := by
  have needed : mask 0 known &&& 33 = 33 ↔ ∀ next ∈ mandatory false, next ∈ known := mask_covers known (mandatory false)
  have all : mask 0 known &&& 111 = 111 ↔ ∀ next ∈ formats false, next ∈ known := mask_covers known (formats false)
  unfold validA2dp Supported
  rw [← needed, ← all]
  cases config.ready with
  | false => simp
  | true =>
    simp
    tauto

/-- The reader accepts exactly the configurations of its grammar. -/
theorem getPcmConfig_grammar (hfp : Bool) (entries : Entries) (config : HfpPcmConfig) :
    getPcmConfig hfp (some entries) = .ok config ↔ Grammar hfp entries config := by
  have valid : ∀ config, ((if hfp then validHfp config (mask 0 (fields entries)) else
      validA2dp config (mask 0 (fields entries))) = true) ↔ (∀ next ∈ mandatory hfp, next ∈ fields entries) ∧
      (config.ready = true → (∀ next ∈ formats hfp, next ∈ fields entries) ∧ Supported hfp config ∧
        (hfp = true → config.active = true)) := by
    intro config
    cases hfp with
    | false => exact validA2dp_iff config (fields entries)
    | true => exact validHfp_iff config (fields entries)
  constructor
  · intro accepted
    unfold getPcmConfig at accepted
    rw [Option.bind_some] at accepted
    rcases read : readEntries ({}, 0) entries with _ | ⟨after, seen⟩
    · rw [read] at accepted
      cases accepted
    · obtain ⟨typed, once, fresh⟩ := readEntries_valid read
      obtain ⟨other, again, reads⟩ := readEntries_some {} typed once fresh
      rw [read] at again
      cases again
      rw [read] at accepted
      dsimp only at accepted
      by_cases supported : (if hfp then validHfp after (mask 0 (fields entries)) else
          validA2dp after (mask 0 (fields entries))) = true
      · rw [if_pos supported] at accepted
        cases accepted
        obtain ⟨mandatory, ready⟩ := (valid config).mp supported
        exact ⟨typed, once, reads, mandatory, ready⟩
      · rw [if_neg supported] at accepted
        cases accepted
  · intro grammar
    have fresh : ∀ known ∈ fields entries, 0 &&& known.bit = 0 := fun _ _ => Nat.zero_and _
    obtain ⟨after, read, reads⟩ := readEntries_some {} grammar.typed grammar.once fresh
    have same : after = config := by
      apply value_ext
      intro known
      by_cases present : known ∈ fields entries
      · obtain ⟨entry, member, found⟩ := List.mem_filterMap.mp present
        rw [reads.present entry member known found, grammar.reads.present entry member known found]
      · rw [reads.absent known present, grammar.reads.absent known present]
    rw [same] at read
    unfold getPcmConfig
    rw [Option.bind_some, read]
    dsimp only
    rw [if_pos ((valid config).mpr ⟨grammar.mandatory, grammar.ready⟩)]

/-- Every refusal gives the one reason. -/
theorem getPcmConfig_error {hfp : Bool} {reply : Option Entries} {reason : String}
    (failed : getPcmConfig hfp reply = .error reason) : reason = invalid := by
  unfold getPcmConfig at failed
  split at failed
  · cases failed
    rfl
  · rename_i config seen _
    generalize (if hfp then validHfp config seen else validA2dp config seen) = supported at failed
    cases supported with
    | true => cases failed
    | false =>
      cases failed
      rfl

/-- The entries with a known key. -/
def known (entries : Entries) : Entries := entries.filter fun entry => (field entry.1).isSome

theorem mem_known {entries : Entries} {entry : String × Value} {this : Field} (found : field entry.1 = some this) :
    entry ∈ known entries ↔ entry ∈ entries := by
  unfold known
  rw [List.mem_filter, found]
  exact and_iff_left rfl

theorem fields_known (entries : Entries) : fields (known entries) = fields entries := by
  unfold fields known
  rw [List.filterMap_filter]
  congr
  funext entry
  cases field entry.1 <;> rfl

/-- The grammar looks at known keys only, and not at their order. -/
theorem Grammar.perm {hfp : Bool} {entries others : Entries} {config : HfpPcmConfig}
    (same : (known others).Perm (known entries)) (grammar : Grammar hfp entries config) : Grammar hfp others config := by
  have member : ∀ {entry : String × Value} {this : Field}, field entry.1 = some this → entry ∈ others → entry ∈ entries :=
    fun found inside => (mem_known found).mp (same.mem_iff.mp ((mem_known found).mpr inside))
  have permuted : (fields others).Perm (fields entries) := by
    rw [← fields_known others, ← fields_known entries]
    exact same.filterMap _
  refine ⟨fun entry inside this found => grammar.typed entry (member found inside) this found,
    permuted.nodup_iff.mpr grammar.once, ⟨fun entry inside this found => ?_, fun this missing => ?_⟩,
    fun this wanted => permuted.mem_iff.mpr (grammar.mandatory this wanted), fun ready => ?_⟩
  · exact grammar.reads.present entry (member found inside) this found
  · exact grammar.reads.absent this fun present => missing (permuted.mem_iff.mpr present)
  · obtain ⟨all, rest⟩ := grammar.ready ready
    exact ⟨fun this wanted => permuted.mem_iff.mpr (all this wanted), rest⟩

/-- The limit of a supported format is within the ring and a whole number of frames. -/
theorem supported_limit {hfp : Bool} {config : HfpPcmConfig} (supported : Supported hfp config) :
    0 < queueLimit config ∧ queueLimit config ≤ queueSize ∧
      queueLimit config % (config.channels.toNat * (config.bits.toNat / 8)) = 0 := by
  obtain ⟨_, _, format⟩ := supported
  unfold queueLimit queueSize
  cases hfp with
  | true =>
    obtain ⟨bits, channels, ⟨_, rate⟩ | ⟨_, rate⟩⟩ := format <;> rw [bits, channels, rate] <;> decide
  | false =>
    obtain ⟨bits, channels, rate⟩ := format
    rcases bits with bits | bits | bits <;> rcases channels with channels | channels <;>
      rcases rate with rate | rate | rate | rate <;> rw [bits, channels, rate] <;> decide

/-- The bridge is configured with a supported format only. -/
def bridgeConfig {hfp : Bool} {config : HfpPcmConfig} (supported : Supported hfp config) : Bridge.PcmConfig hfp where
  rate := config.rate.toNat
  channels := config.channels.toNat
  bits := config.bits.toNat
  accepted := by
    obtain ⟨_, _, format⟩ := supported
    cases hfp with
    | true =>
      obtain ⟨bits, channels, rate⟩ := format
      rw [bits, channels]
      exact ⟨rfl, rfl, rate.imp (fun both => congrArg UInt32.toNat both.2) fun both => congrArg UInt32.toNat both.2⟩
    | false =>
      obtain ⟨bits, channels, rate⟩ := format
      refine ⟨?_, channels.imp (congrArg UInt8.toNat) (congrArg UInt8.toNat), ?_⟩
      · exact bits.imp (congrArg UInt8.toNat) (Or.imp (congrArg UInt8.toNat) (congrArg UInt8.toNat))
      · exact rate.imp (congrArg UInt32.toNat)
          (Or.imp (congrArg UInt32.toNat) (Or.imp (congrArg UInt32.toNat) (congrArg UInt32.toNat)))

/-- What a transition configures the bridge with gives the limit that is claimed for it. -/
theorem bridgeConfig_limit {hfp : Bool} {config : HfpPcmConfig} (supported : Supported hfp config) (b : Bridge) :
    (b.configure (bridgeConfig supported)).rate * (b.configure (bridgeConfig supported)).channels *
      ((b.configure (bridgeConfig supported)).bits / 8) / 10 = queueLimit config := rfl

/-- A dictionary is accepted exactly if it is in the grammar, as one configuration that does
not depend on the order of its entries nor on further keys. What is accepted as ready has a
queue limit of whole frames that the ring can hold. -/
theorem pcm_dictionary_accepted_iff (hfp : Bool) (entries : Entries) :
    (∀ config, getPcmConfig hfp (some entries) = .ok config ↔ Grammar hfp entries config) ∧
    (∀ others, (known others).Perm (known entries) → getPcmConfig hfp (some others) = getPcmConfig hfp (some entries)) ∧
    ∀ config, getPcmConfig hfp (some entries) = .ok config → config.ready = true →
      0 < queueLimit config ∧ queueLimit config ≤ queueSize ∧
        queueLimit config % (config.channels.toNat * (config.bits.toNat / 8)) = 0 := by
  refine ⟨getPcmConfig_grammar hfp entries, fun others same => ?_, fun config accepted ready => ?_⟩
  · rcases first : getPcmConfig hfp (some entries) with reason | config
    · rcases second : getPcmConfig hfp (some others) with again | config
      · rw [getPcmConfig_error first, getPcmConfig_error second]
      · have grammar := ((getPcmConfig_grammar hfp others config).mp second).perm same.symm
        rw [(getPcmConfig_grammar hfp entries config).mpr grammar] at first
        cases first
    · exact (getPcmConfig_grammar hfp others config).mpr (((getPcmConfig_grammar hfp entries config).mp first).perm same)
  · exact supported_limit (((getPcmConfig_grammar hfp entries config).mp accepted).ready ready).2.1

/-- A hands-free configuration that is ready but not active. -/
def inactive : Entries :=
  [("ready", .boolean true), ("active", .boolean false), ("sample_rate", .uint32 8000), ("bits_per_sample", .byte 16),
    ("channels_count", .byte 1), ("codec", .uint32 1), ("generation", .uint64 1), ("socket_path", .string scoPath)]

/-- It has every key once, with values that fit and name a supported format, and is refused. -/
theorem inactive_is_refused : Typed inactive ∧ (fields inactive).Nodup ∧ (∀ known ∈ formats true, known ∈ fields inactive) ∧
    (∃ config, Reads inactive {} config ∧ config.ready = true ∧ Supported true config) ∧
    getPcmConfig true (some inactive) = .error invalid := by
  have read : readEntries ({}, 0) inactive = some (⟨true, false, 8000, 1, 16, 1, 1, scoPath⟩, 255) := by decide +kernel
  have keys : fields inactive = [.ready, .active, .rate, .bits, .channels, .codec, .generation, .socketPath] := by
    decide +kernel
  obtain ⟨typed, once, fresh⟩ := readEntries_valid read
  obtain ⟨config, again, reads⟩ := readEntries_some {} typed once fresh
  rw [read] at again
  cases again
  refine ⟨typed, once, ?_, ⟨_, reads, rfl, by decide, rfl, rfl, rfl, .inl ⟨rfl, rfl⟩⟩, by decide +kernel⟩
  rw [keys]
  decide

end FlossDesktop.PcmDictionary
