import FlossDesktop.Library.LittleEndian
import FlossDesktop.Proofs.PcmRings

/-! The mix of two channels into one. The loops are stated once more with every index and
every integer checked, and the bytes they store are decoded again. -/

namespace FlossDesktop.Bridge

open LittleEndian

/-- An unsigned value of so many bits. -/
def unsigned (bits value : Nat) : Option Nat := if value < 2 ^ bits then some value else none

/-- A value of a 64-bit signed integer. -/
def int64 (value : Int) : Option Int :=
  if -((2 ^ 63 : Nat) : Int) ≤ value ∧ value < ((2 ^ 63 : Nat) : Int) then some value else none

/-- The loop that gathers the bytes of a sample. -/
def gatherChecked (data : Bytes) (maxsize start : Nat) : Nat → Option Nat
  | 0 => some 0
  | j + 1 =>
    (gatherChecked data maxsize start j).bind fun word =>
    (unsigned 64 (start + j)).bind fun index =>
    data[index % maxsize]?.bind fun byte =>
    (unsigned 32 (byte.toNat <<< (8 * j))).bind fun shifted =>
    unsigned 32 (word ||| shifted)

def sampleChecked (data : Bytes) (maxsize bits start : Nat) : Option Int :=
  (gatherChecked data maxsize start (bits / 8)).bind fun word =>
  (unsigned 32 (1 <<< (bits - 1))).bind fun sign =>
  (int64 word).bind fun sample =>
  if word &&& sign ≠ 0 then (int64 (2 ^ bits)).bind fun range => int64 (sample - range) else some sample

/-- One turn of the loop over the frames, which stores behind the earlier samples. -/
def monoChecked (data : Bytes) (maxsize bits offset : Nat) (silent : Bool) (i : Nat) : Option Bytes :=
  let sum :=
    if silent then some 0
    else
      (sampleChecked data maxsize bits (offset + 2 * (bits / 8) * i)).bind fun left =>
      (sampleChecked data maxsize bits (offset + 2 * (bits / 8) * i + bits / 8)).bind fun right =>
      int64 (left + right)
  (sum.bind fun sum => int64 (sum.tdiv 2)).bind fun half =>
  if bits / 8 * i + bits / 8 ≤ queueSize then some (encode (bits / 8) (half % 2 ^ 32).toNat) else none

def downmixChecked (data : Bytes) (maxsize bits offset size : Nat) (silent : Bool) : Option Bytes :=
  ((List.range (size / (2 * (bits / 8)))).mapM (monoChecked data maxsize bits offset silent)).map List.flatten

/-- The copy into a ring, with the spans checked on both sides. -/
def copyChecked (ring : PcmRing) (writePos : Nat) (source : Nat → UInt8) (maxsize offset size : Nat) (silent : Bool) :
    Nat → Option PcmRing
  | 0 => some ring
  | fuel + 1 =>
    if size = 0 then some ring
    else if queueSize < writePos ∨ maxsize < offset then none
    else
      let count := min size (queueSize - writePos)
      let count := if silent then count else min count (maxsize - offset)
      let piece := (List.range count).map fun i => if silent then 0 else source (offset + i)
      if count = 0 ∨ queueSize < writePos + count ∨ silent = false ∧ maxsize < offset + count then none
      else
        copyChecked (ring.store writePos piece) ((writePos + count) % queueSize) source maxsize
          (if silent then offset else (offset + count) % maxsize) (size - count) silent fuel

/-- A sample of the wrapping source. -/
def gather (data : Bytes) (maxsize start count : Nat) : Bytes :=
  (List.range count).map fun j => data.getD ((start + j) % maxsize) 0

theorem gather_length (data : Bytes) (maxsize start count : Nat) : (gather data maxsize start count).length = count := by
  simp [gather]

theorem gather_succ (data : Bytes) (maxsize start count : Nat) :
    gather data maxsize start (count + 1) = gather data maxsize start count ++ [data.getD ((start + count) % maxsize) 0] := by
  unfold gather
  rw [List.range_succ, List.map_append]
  rfl

/-- The sum over the bytes is the number they stand for. -/
theorem gather_sum (data : Bytes) (maxsize start count : Nat) :
    ((List.range count).map fun j => (data.getD ((start + j) % maxsize) 0).toNat * 2 ^ (8 * j)).sum =
      word (gather data maxsize start count) := by
  induction count with
  | zero => rfl
  | succ count ih =>
    rw [List.range_succ, List.map_append, List.sum_append, ih, gather_succ, word_append, gather_length]
    simp [word, Nat.mul_comm]

/-- The highest bit of a number of so many bits says whether it is in the upper half. -/
theorem top_bit {bits word : Nat} (positive : 0 < bits) (small : word < 2 ^ bits) :
    word.testBit (bits - 1) = decide (2 ^ (bits - 1) ≤ word) := by
  obtain ⟨top, rfl⟩ := Nat.exists_eq_succ_of_ne_zero (ne_of_gt positive)
  rw [Nat.succ_sub_one]
  by_cases upper : 2 ^ top ≤ word
  · rw [decide_eq_true upper]
    exact Nat.testBit_of_two_pow_le_and_two_pow_add_one_gt upper small
  · rw [decide_eq_false upper]
    exact Nat.testBit_lt_two_pow (not_le.mp upper)

/-- Decoding by the top bit. -/
theorem decode_top {bytes : Bytes} (some : bytes ≠ []) :
    decode bytes = if (word bytes).testBit (8 * bytes.length - 1) then (word bytes : Int) - 2 ^ (8 * bytes.length)
      else word bytes := by
  have length := List.length_pos_iff.mpr some
  have small := word_lt bytes
  have half : 2 ^ (8 * bytes.length) = 2 * 2 ^ (8 * bytes.length - 1) := by
    rw [← pow_succ', Nat.sub_add_cancel (by omega)]
  rw [top_bit (by omega) small]
  unfold decode Int.bmod
  have whole : (word bytes : Int) % (2 ^ (8 * bytes.length) : Nat) = word bytes :=
    Int.emod_eq_of_lt (Int.natCast_nonneg _) (by exact_mod_cast small)
  rw [whole]
  by_cases upper : 2 ^ (8 * bytes.length - 1) ≤ word bytes
  · rw [decide_eq_true upper, if_pos rfl, if_neg (by omega)]
    push_cast
    rfl
  · rw [decide_eq_false upper, if_neg Bool.false_ne_true, if_pos (by omega)]

theorem sampleAt_decode (data : Bytes) (maxsize start : Nat) {bits width : Nat} (bytes : bits = 8 * width) (some : 0 < width) :
    sampleAt (fun i => data.getD i 0) maxsize bits start = decode (gather data maxsize start width) := by
  have count : bits / 8 = width := by omega
  have length := gather_length data maxsize start width
  rw [decode_top (List.length_pos_iff.mp (by omega)), length, ← bytes]
  unfold sampleAt
  dsimp only
  rw [count, gather_sum]

theorem unsigned_some {bits value : Nat} (small : value < 2 ^ bits) : unsigned bits value = some value := if_pos small

theorem int64_some {value : Int} (below : -((2 ^ 63 : Nat) : Int) ≤ value) (above : value < ((2 ^ 63 : Nat) : Int)) :
    int64 value = some value := if_pos ⟨below, above⟩

/-- Up to four bytes are gathered within 32 bits, and read inside the array. -/
theorem gatherChecked_some {data : Bytes} {maxsize start count : Nat} (capacity : data.length = maxsize)
    (positive : 0 < maxsize) (fits : start + count ≤ 2 ^ 64) (four : count ≤ 4) :
    gatherChecked data maxsize start count = some (word (gather data maxsize start count)) := by
  induction count with
  | zero => rfl
  | succ count ih =>
    have inside : (start + count) % maxsize < data.length := by
      rw [capacity]
      exact Nat.mod_lt _ positive
    have small := word_lt (gather data maxsize start count)
    rw [gather_length] at small
    have byte := (data.getD ((start + count) % maxsize) 0).toNat_lt
    have read : data[(start + count) % maxsize]? = some (data.getD ((start + count) % maxsize) 0) := by
      rw [List.getD_eq_getElem _ _ inside, List.getElem?_eq_getElem inside]
    have top : 2 ^ (8 * count) * 256 ≤ 2 ^ 32 := by
      calc 2 ^ (8 * count) * 256 = 2 ^ (8 * count + 8) := by rw [Nat.pow_add]
        _ ≤ 2 ^ 32 := Nat.pow_le_pow_right (by decide) (by omega)
    have scaled : (data.getD ((start + count) % maxsize) 0).toNat * 2 ^ (8 * count) ≤ 255 * 2 ^ (8 * count) :=
      Nat.mul_le_mul_right _ (by omega)
    have joined : word (gather data maxsize start count) ||| (data.getD ((start + count) % maxsize) 0).toNat <<< (8 * count) =
        word (gather data maxsize start (count + 1)) := by
      rw [Nat.or_comm, ← Nat.shiftLeft_add_eq_or_of_lt small, gather_succ, word_append, gather_length, Nat.shiftLeft_eq]
      simp only [word, Nat.mul_zero, Nat.add_zero]
      ring
    have whole := word_lt (gather data maxsize start (count + 1))
    rw [gather_length] at whole
    have bound : 2 ^ (8 * (count + 1)) ≤ 2 ^ 32 := Nat.pow_le_pow_right (by decide) (by omega)
    rw [gatherChecked, ih (by omega) (by omega), Option.bind_some, unsigned_some (by omega), Option.bind_some, read,
      Option.bind_some, unsigned_some, Option.bind_some, joined, unsigned_some (by omega)]
    rw [Nat.shiftLeft_eq]
    omega

/-- A mask of one bit tests it. -/
theorem masked_bit (word i : Nat) : word &&& 2 ^ i ≠ 0 ↔ word.testBit i = true := by
  constructor
  · intro set
    by_contra clear
    apply set
    apply Nat.eq_of_testBit_eq
    intro j
    rw [Nat.testBit_and, Nat.testBit_two_pow, Nat.zero_testBit]
    by_cases here : i = j
    · rw [← here, Bool.eq_false_iff.mpr clear, Bool.false_and]
    · rw [decide_eq_false here, Bool.and_false]
  · intro set none
    have bit := congrArg (Nat.testBit · i) none
    simp [set] at bit

/-- A sample of two to four bytes is decoded within 64 bits. -/
theorem sampleChecked_some {data : Bytes} {maxsize start bits width : Nat} (capacity : data.length = maxsize)
    (positive : 0 < maxsize) (fits : start + width ≤ 2 ^ 64) (bytes : bits = 8 * width) (wide : 0 < width) (four : width ≤ 4) :
    sampleChecked data maxsize bits start = some (decode (gather data maxsize start width)) := by
  have count : bits / 8 = width := by omega
  have length := gather_length data maxsize start width
  have nonempty : gather data maxsize start width ≠ [] := List.length_pos_iff.mp (by omega)
  have small := word_lt (gather data maxsize start width)
  have top := decode_top nonempty
  rw [length, ← bytes] at small top
  have bound : 2 ^ bits ≤ 2 ^ 32 := Nat.pow_le_pow_right (by decide) (by omega)
  have sign : 1 <<< (bits - 1) = 2 ^ (bits - 1) := Nat.one_shiftLeft _
  have lower : 2 ^ (bits - 1) < 2 ^ 32 := Nat.pow_lt_pow_right (by decide) (by omega)
  have masked : (word (gather data maxsize start width) &&& 2 ^ (bits - 1) ≠ 0) ↔
      (word (gather data maxsize start width)).testBit (bits - 1) = true := masked_bit _ _
  have range : ((2 ^ bits : Nat) : Int) = 2 ^ bits := by push_cast; rfl
  unfold sampleChecked
  rw [count, gatherChecked_some capacity positive fits four, Option.bind_some, sign, unsigned_some lower,
    Option.bind_some, int64_some (by omega) (by omega), Option.bind_some, top]
  by_cases upper : (word (gather data maxsize start width)).testBit (bits - 1) = true
  · rw [if_pos (masked.mpr upper), if_pos upper, int64_some (by omega) (by omega), Option.bind_some,
      int64_some (by omega) (by omega)]
  · rw [if_neg (fun set => upper (masked.mp set)), if_neg upper]

/-- The sample of one channel in a frame of the chunk, read circularly. -/
def frameSample (data : Bytes) (maxsize width offset i channel : Nat) : Int :=
  decode (gather data maxsize (offset + 2 * width * i + width * channel) width)

/-- The mean of both channels, toward zero. -/
def frameMean (data : Bytes) (maxsize width offset : Nat) (silent : Bool) (i : Nat) : Int :=
  if silent then 0
  else (frameSample data maxsize width offset i 0 + frameSample data maxsize width offset i 1).tdiv 2

theorem frameSample_bounds (data : Bytes) (maxsize offset i channel : Nat) {width : Nat} (some : 0 < width) :
    -(2 ^ (8 * width - 1)) ≤ frameSample data maxsize width offset i channel ∧
      frameSample data maxsize width offset i channel < 2 ^ (8 * width - 1) := by
  have length := gather_length data maxsize (offset + 2 * width * i + width * channel) width
  have nonempty : gather data maxsize (offset + 2 * width * i + width * channel) width ≠ [] :=
    List.length_pos_iff.mp (by omega)
  have bounds := decode_bounds nonempty
  rwa [length] at bounds

/-- Half of a sum, rounded toward zero, is between the summands' bounds. -/
theorem half_bounds {left right bound : Int} (first : -bound ≤ left ∧ left < bound) (second : -bound ≤ right ∧ right < bound) :
    -bound ≤ (left + right).tdiv 2 ∧ (left + right).tdiv 2 < bound := by
  by_cases sign : 0 ≤ left + right
  · rw [Int.tdiv_eq_ediv_of_nonneg sign]
    omega
  · have negated : (left + right).tdiv 2 = -(-(left + right) / 2) := by
      rw [← Int.tdiv_eq_ediv_of_nonneg (by omega), Int.neg_tdiv, neg_neg]
    rw [negated]
    omega

theorem frameMean_bounds (data : Bytes) (maxsize offset : Nat) (silent : Bool) (i : Nat) {width : Nat} (some : 0 < width) :
    -(2 ^ (8 * width - 1)) ≤ frameMean data maxsize width offset silent i ∧
      frameMean data maxsize width offset silent i < 2 ^ (8 * width - 1) := by
  have left := frameSample_bounds data maxsize offset i 0 some
  have right := frameSample_bounds data maxsize offset i 1 some
  have positive : (0 : Int) < 2 ^ (8 * width - 1) := by positivity
  unfold frameMean
  split_ifs
  · exact ⟨by omega, positive⟩
  · exact half_bounds left right

/-- What is stored for a frame is its mean, encoded. -/
theorem monoSample_mean (data : Bytes) (maxsize offset : Nat) (silent : Bool) (i : Nat) {bits width : Nat}
    (bytes : bits = 8 * width) (some : 0 < width) :
    monoSample (fun i => data.getD i 0) maxsize bits (offset + 2 * width * i) silent =
      encode width (frameMean data maxsize width offset silent i % 2 ^ 32).toNat := by
  have count : bits / 8 = width := by omega
  unfold monoSample frameMean frameSample
  dsimp only
  rw [count, sampleAt_decode data maxsize _ bytes some, sampleAt_decode data maxsize _ bytes some, Nat.mul_zero,
    Nat.add_zero, Nat.mul_one]
  cases silent <;> rfl

theorem monoChecked_some {data : Bytes} {maxsize offset i bits width : Nat} {silent : Bool}
    (capacity : silent = false → data.length = maxsize) (positive : 0 < maxsize)
    (fits : offset + 2 * width * i + 2 * width ≤ 2 ^ 64) (bytes : bits = 8 * width) (wide : 0 < width) (four : width ≤ 4)
    (room : width * i + width ≤ queueSize) :
    monoChecked data maxsize bits offset silent i =
      some (monoSample (fun i => data.getD i 0) maxsize bits (offset + 2 * width * i) silent) := by
  have count : bits / 8 = width := by omega
  have mean := frameMean_bounds data maxsize offset silent i wide
  have half : (2 : Int) ^ (8 * width - 1) ≤ 2 ^ 31 := pow_le_pow_right₀ (show (1 : Int) ≤ 2 by decide) (by omega)
  have sum : ((if silent then some 0 else
      (sampleChecked data maxsize bits (offset + 2 * width * i)).bind fun left =>
      (sampleChecked data maxsize bits (offset + 2 * width * i + width)).bind fun right => int64 (left + right)).bind
        fun sum => int64 (sum.tdiv 2)) = some (frameMean data maxsize width offset silent i) := by
    cases silent with
    | true => rfl
    | false =>
      have left := frameSample_bounds data maxsize offset i 0 wide
      have right := frameSample_bounds data maxsize offset i 1 wide
      rw [if_neg Bool.false_ne_true, sampleChecked_some (capacity rfl) positive (by omega) bytes wide four, Option.bind_some,
        sampleChecked_some (capacity rfl) positive (by omega) bytes wide four, Option.bind_some]
      unfold frameMean at mean ⊢
      rw [if_neg Bool.false_ne_true] at mean ⊢
      unfold frameSample at left right mean ⊢
      rw [Nat.mul_zero, Nat.add_zero] at left mean ⊢
      rw [Nat.mul_one] at right mean ⊢
      rw [int64_some (by omega) (by omega), Option.bind_some, int64_some (by omega) (by omega)]
  unfold monoChecked
  dsimp only
  rw [count, sum, Option.bind_some, if_pos room, monoSample_mean data maxsize offset silent i bytes wide]

theorem mapM_some {items : List Nat} {read : Nat → Option Bytes} (result : Nat → Bytes)
    (all : ∀ i ∈ items, read i = some (result i)) : items.mapM read = some (items.map result) := by
  induction items with
  | nil => rfl
  | cons i rest ih =>
    rw [List.mapM_cons, all i List.mem_cons_self, ih fun other member => all other (List.mem_cons_of_mem i member)]
    rfl

/-- The whole mix stays inside its arrays and its integers. -/
theorem downmixChecked_some {data : Bytes} {maxsize offset size bits width : Nat} {silent : Bool}
    (capacity : silent = false → size ≠ 0 → data.length = maxsize) (positive : 0 < maxsize) (fits : offset + size ≤ 2 ^ 64)
    (bytes : bits = 8 * width) (wide : 0 < width) (four : width ≤ 4) (room : size / 2 ≤ queueSize) :
    downmixChecked data maxsize bits offset size silent =
      some (downmix (fun i => data.getD i 0) maxsize bits offset size silent) := by
  have count : bits / 8 = width := by omega
  unfold downmixChecked downmix
  rw [count, mapM_some fun i => monoSample (fun i => data.getD i 0) maxsize bits (offset + 2 * width * i) silent]
  · rfl
  · intro i member
    have inside := List.mem_range.mp member
    have whole : 2 * width * (i + 1) ≤ size := by
      have below : (i + 1) * (2 * width) ≤ size := (Nat.le_div_iff_mul_le (by omega)).mp inside
      rwa [Nat.mul_comm] at below
    rw [Nat.mul_succ] at whole
    refine monoChecked_some (fun loud => capacity loud (by omega)) positive (by omega) bytes wide four ?_
    have half : 2 * (width * i + width) ≤ size := by
      rw [Nat.mul_add, ← Nat.mul_assoc]
      exact whole
    omega

/-- The copy never leaves the ring or the source, and ends. -/
theorem copyChecked_some {ring : PcmRing} {writePos maxsize offset size fuel : Nat} (source : Nat → UInt8) (silent : Bool)
    (place : writePos < queueSize) (inside : offset < maxsize) :
    copyChecked ring writePos source maxsize offset size silent fuel =
      some (copyChunk ring writePos source maxsize offset size silent fuel) := by
  induction fuel generalizing ring writePos offset size with
  | zero => rfl
  | succ fuel ih =>
    rw [copyChecked, copyChunk]
    by_cases done : size = 0
    · rw [if_pos done, if_pos done]
    · rw [if_neg done, if_neg done, if_neg (by omega)]
      dsimp only
      generalize counted : (if silent = true then min size (queueSize - writePos)
        else min (min size (queueSize - writePos)) (maxsize - offset)) = count
      have bounds : count ≠ 0 ∧ writePos + count ≤ queueSize ∧ (silent = false → offset + count ≤ maxsize) := by
        cases silent with
        | true =>
          rw [if_pos rfl] at counted
          exact ⟨by omega, by omega, fun loud => by cases loud⟩
        | false =>
          rw [if_neg Bool.false_ne_true] at counted
          exact ⟨by omega, by omega, fun _ => by omega⟩
      have safe : ¬ (count = 0 ∨ queueSize < writePos + count ∨ silent = false ∧ maxsize < offset + count) := by
        rintro (none | long | ⟨loud, far⟩)
        · exact bounds.1 none
        · omega
        · have near := bounds.2.2 loud
          omega
      have wrapped : (if silent = true then offset else (offset + count) % maxsize) < maxsize := by
        split
        · exact inside
        · exact Nat.mod_lt _ (by omega)
      rw [if_neg safe, ih (Nat.mod_lt _ queueSize_pos) wrapped]

/-- What is read of a chunk: never more than its buffer holds. -/
def Offer.effective (offer : Offer) : Nat := min offer.size offer.maxsize

theorem encode_zero (width : Nat) : encode width 0 = List.replicate width 0 := by
  unfold encode
  apply List.ext_getElem
  · simp
  · intro i _ _
    simp

theorem monoSample_length (source : Nat → UInt8) (maxsize bits start : Nat) (silent : Bool) :
    (monoSample source maxsize bits start silent).length = bits / 8 := by
  unfold monoSample
  dsimp only
  rw [List.length_map, List.length_range]

theorem downmix_length (source : Nat → UInt8) (maxsize bits offset size : Nat) (silent : Bool) :
    (downmix source maxsize bits offset size silent).length = size / (2 * (bits / 8)) * (bits / 8) := by
  unfold downmix
  rw [List.length_flatMap]
  simp only [monoSample_length, List.map_const', List.sum_replicate, List.length_range, smul_eq_mul]

/-- The mix of an empty chunk is silence. -/
theorem downmix_silent (source : Nat → UInt8) (maxsize bits offset size : Nat) :
    downmix source maxsize bits offset size true = List.replicate (size / (2 * (bits / 8)) * (bits / 8)) 0 := by
  have sample : ∀ start, monoSample source maxsize bits start true = List.replicate (bits / 8) 0 := fun start =>
    encode_zero (bits / 8)
  unfold downmix
  simp only [sample]
  apply List.eq_replicate_iff.mpr
  constructor
  · simp
  · intro byte member
    obtain ⟨_, _, here⟩ := List.mem_flatMap.mp member
    exact List.eq_of_mem_replicate here

/-- What the mixed chunk hands on are the stored bytes. -/
theorem mixed_bytes {mono : Bytes} {size : Nat} {silent : Bool} (length : mono.length = size) (fits : size ≤ queueSize)
    (quiet : silent = true → mono = List.replicate size 0) :
    (Chunk.mk (fun i => mono.getD i 0) queueSize 0 size silent queueSize_pos).bytes = mono := by
  unfold Chunk.bytes
  cases silent with
  | true =>
    rw [quiet rfl]
    simp
  | false =>
    apply List.ext_getElem
    · simp [length]
    · intro i _ inside
      have index : (0 + i) % queueSize = i := by
        rw [Nat.zero_add]
        exact Nat.mod_eq_of_lt (by omega)
      rw [List.getElem_map, List.getElem_range]
      dsimp only
      rw [index, if_neg Bool.false_ne_true, List.getD_eq_getElem _ _ inside]

/-- A buffer for one channel: the frames are whole, its payload is there, and its mix
fits the array. -/
structure Mixable (b : Bridge) (offer : Offer) (width : Nat) : Prop where
  mono : b.channels = 1
  bits : b.bits = 8 * width
  widths : width = 2 ∨ width = 3 ∨ width = 4
  present : offer.present = true
  capacity : 0 < offer.maxsize ∧ offer.maxsize < 2 ^ 32
  mapped : offer.empty = false → offer.effective ≠ 0 → (offer.data.getD []).length = offer.maxsize
  whole : offer.effective % (2 * width) = 0
  fits : offer.effective ≤ 2 * queueSize

/-- The chunk is the mix of the buffer: every frame gives the mean of its samples, and the
loops that computed it stayed inside their arrays and integers. -/
structure Mixed (b : Bridge) (offer : Offer) (width : Nat) (chunk : Chunk) : Prop where
  looked : b.inspect offer = .ok (some chunk)
  safe : downmixChecked (offer.data.getD []) offer.maxsize b.bits (offer.offset % offer.maxsize) offer.effective offer.empty =
    some chunk.bytes
  size : 2 * chunk.size = offer.effective
  decoded : LittleEndian.samples width (offer.effective / (2 * width)) chunk.bytes =
    (List.range (offer.effective / (2 * width))).map
      (frameMean (offer.data.getD []) offer.maxsize width (offer.offset % offer.maxsize) offer.empty)

/-- The mix of a channel, decoded, is the list of the means. -/
theorem downmix_samples (data : Bytes) (maxsize offset size : Nat) (silent : Bool) {bits width : Nat}
    (bytes : bits = 8 * width) (some : 0 < width) (four : width ≤ 4) :
    LittleEndian.samples width (size / (2 * width)) (downmix (fun i => data.getD i 0) maxsize bits offset size silent) =
      (List.range (size / (2 * width))).map (frameMean data maxsize width offset silent) := by
  have count : bits / 8 = width := by omega
  have sized : ∀ i ∈ List.range (size / (2 * width)),
      (monoSample (fun i => data.getD i 0) maxsize bits (offset + 2 * width * i) silent).length = width := by
    intro i _
    rw [monoSample_length, count]
  have flat := samples_flatMap width _ _ sized
  rw [List.length_range] at flat
  unfold downmix
  rw [count, flat]
  apply List.map_congr_left
  intro i _
  have mean := frameMean_bounds data maxsize offset silent i some
  rw [monoSample_mean data maxsize offset silent i bytes some]
  exact decode_encode some (by omega) mean.1 mean.2

theorem Mixable.mixed {b : Bridge} {offer : Offer} {width : Nat} (able : Mixable b offer width) :
    ∃ chunk, Mixed b offer width chunk := by
  obtain ⟨mono, bits, widths, present, ⟨positive, small⟩, mapped, whole, fits⟩ := able
  have some : 0 < width := by omega
  have four : width ≤ 4 := by omega
  have count : b.bits / 8 = width := by omega
  have inside := Nat.mod_lt offer.offset positive
  have bounded : offer.effective ≤ offer.maxsize := Nat.min_le_right _ _
  have frames : offer.effective / (2 * width) * width = offer.effective / 2 := by
    obtain ⟨frames, product⟩ := Nat.dvd_of_mod_eq_zero whole
    rw [product, Nat.mul_div_cancel_left _ (by omega), Nat.mul_assoc, Nat.mul_div_cancel_left _ (by decide), Nat.mul_comm]
  have even : 2 * (offer.effective / 2) = offer.effective := by
    apply Nat.mul_div_cancel'
    exact (Nat.dvd_mul_right 2 width).trans (Nat.dvd_of_mod_eq_zero whole)
  have checked := @downmixChecked_some (offer.data.getD []) offer.maxsize (offer.offset % offer.maxsize) offer.effective
    b.bits width offer.empty mapped positive (by omega) bits some four (by omega)
  have length := downmix_length (fun i => (offer.data.getD []).getD i 0) offer.maxsize b.bits
    (offer.offset % offer.maxsize) offer.effective offer.empty
  have silence : offer.empty = true → downmix (fun i => (offer.data.getD []).getD i 0) offer.maxsize b.bits
      (offer.offset % offer.maxsize) offer.effective offer.empty = List.replicate (offer.effective / 2) 0 := by
    intro empty
    rw [empty, downmix_silent, count, frames]
  rw [count, frames] at length
  have decoded := downmix_samples (offer.data.getD []) offer.maxsize (offer.offset % offer.maxsize) offer.effective
    offer.empty bits some four
  have bytes := mixed_bytes length (by omega) silence
  have payload : ¬ (offer.effective ≠ 0 ∧ offer.empty = false ∧ offer.data = none) := by
    rintro ⟨some, loud, missing⟩
    have read := mapped loud some
    rw [missing] at read
    exact absurd read (ne_of_lt positive)
  refine ⟨_, ?_, checked.trans (congrArg _ bytes.symm), even, ?_⟩
  · unfold inspect
    rw [if_neg (by simp [present]), dif_neg (ne_of_gt positive)]
    dsimp only
    rw [count]
    change (if offer.effective ≠ 0 ∧ offer.empty = false ∧ offer.data = none then _
      else if offer.effective % (2 * width) ≠ 0 then _ else _) = _
    rw [if_neg payload, if_neg (fun partly => partly whole), if_pos mono]
    change (if offer.effective / 2 > queueSize then _ else _) = _
    rw [if_neg (by omega)]
    rfl
  · rw [bytes]
    exact decoded

/-- The buffer passes every check before its ring, and the ring has room. -/
structure Admitted (b : Bridge) (verdict : Verdict) (before : List SendOutcome) (size : Nat) : Prop where
  working : b.failed = false
  steady : b.transitioning = false
  ready : b.playbackFormatReady = true
  resampled : verdict.resamplerFailed = false
  level : b.hfp = false → verdict.levelFailure = none ∧ verdict.late = false ∧ verdict.latencyFailed = false
  flushed : b.hfp = false → (b.flushAudio before).failed = false
  room : size + (if b.hfp then b.voiceQueue.queued else (b.flushAudio before).queue.queued) ≤ b.queueLimit

/-- The bytes end up behind those of the ring of the profile. -/
def AppendedBytes (b after : Bridge) (bytes : Bytes) : Prop :=
  (b.hfp = true → after.voiceQueue.contents = b.voiceQueue.contents ++ bytes) ∧
    (b.hfp = false → after.outputStream = b.outputStream ++ bytes)

theorem queueVoice_room {b : Bridge} (configured : Configured b) (voice : VoiceKept b) {chunk : Chunk}
    (room : chunk.size + b.voiceQueue.queued ≤ b.queueLimit) :
    (b.queueVoice chunk).voiceQueue.contents = b.voiceQueue.contents ++ chunk.bytes := by
  have stretch := voice.stream.stretch
  have limit := configured.limit
  rw [queueVoice, sizeSub_eq stretch.bounded, if_neg (by omega)]
  exact (copyInto_appended stretch.valid chunk (by omega)).contents

theorem queueMusic_room {b : Bridge} (configured : Configured b) (kept : OutputKept b) {chunk : Chunk}
    {before : List SendOutcome} (after : List SendOutcome) (working : (b.flushAudio before).failed = false)
    (room : chunk.size + (b.flushAudio before).queue.queued ≤ b.queueLimit) :
    (b.queueMusic chunk before after).outputStream = b.outputStream ++ chunk.bytes := by
  have same := flushAudio_stream kept before
  have flushed := kept.flushAudio before
  have settings := (flushAudio_only b before).config
  have limit := (configured.same settings).limit
  have queueLimit := settings.queueLimit
  unfold queueMusic
  dsimp only
  generalize b.flushAudio before = next at same flushed queueLimit limit working room ⊢
  have length : chunk.bytes.length = chunk.size := spanBytes_length _ _ _ _ _
  have appended := copyInto_appended flushed.valid chunk (by omega)
  have queued : OutputKept (next.chunkQueued chunk) := flushed.appended appended (by omega)
  rw [if_neg (by simp [working]), sizeSub_eq flushed.bounded, if_neg (by omega), flushAudio_stream queued, ← same]
  change next.account.sent ++ (copyInto next.queue chunk).contents = _
  rw [appended.contents, ← List.append_assoc]
  rfl

/-- A buffer that is admitted is appended whole. -/
theorem process_appends {b : Bridge} (configured : Configured b) (output : OutputKept b) (voice : VoiceKept b)
    {offer : Offer} {chunk : Chunk} {verdict : Verdict} {before : List SendOutcome} (after : List SendOutcome)
    (looked : b.inspect offer = .ok (some chunk)) (admitted : Admitted b verdict before chunk.size) :
    AppendedBytes b (b.process offer verdict before after) chunk.bytes := by
  obtain ⟨working, steady, ready, resampled, level, flushed, room⟩ := admitted
  have adapted : (b.playbackLevel verdict).adaptRate verdict = b := by
    have timed : b.playbackLevel verdict = b := by
      unfold playbackLevel
      cases profile : b.hfp with
      | true => rfl
      | false => rw [(level profile).1]
    rw [timed, adaptRate, if_neg (by simp [resampled])]
  unfold process
  rw [if_neg (by simp [working, steady, ready]), looked]
  dsimp only
  rw [adapted, if_neg (by simp [working])]
  constructor
  · intro profile
    have quiet := reportLatency_quiet b verdict
    have kept : VoiceKept (b.reportLatency verdict) := voiceKept_maintained.quiet voice quiet
    rw [profile, if_pos rfl] at room
    rw [if_neg (by simp [profile]), quiet.config.hfp, profile, if_pos rfl, ← quiet.voice.voiceQueue]
    rw [← quiet.voice.voiceQueue, ← quiet.config.queueLimit] at room
    exact queueVoice_room (configured.same quiet.config) kept room
  · intro profile
    obtain ⟨_, timely, published⟩ := level profile
    have reported : b.reportLatency verdict = b := by rw [reportLatency, if_neg (by simp [published])]
    rw [profile, if_neg Bool.false_ne_true] at room
    rw [if_neg (by simp [timely]), reported, profile, if_neg Bool.false_ne_true]
    exact queueMusic_room configured output after (flushed profile) room

/-- In every state of a run, a buffer for one channel whose payload is as long as its
capacity is mixed to the means of its frames, read around its end. The mix is copied to
any place of a ring without leaving it, and an admitted buffer appends it. -/
theorem downmix_exact {hfp : Bool} (config : PcmConfig hfp) (flush : List SendOutcome) (steps : List Step)
    (offer : Offer) (width : Nat) (able : Mixable ((startup config flush).run steps) offer width) :
    let b := (startup config flush).run steps
    ∃ chunk, Mixed b offer width chunk ∧
      (∀ ring : PcmRing, ring.Valid → ring.queued + chunk.size ≤ queueSize →
        copyChecked ring ring.writePos chunk.source chunk.maxsize chunk.offset chunk.size chunk.silent chunk.size =
            some (copyChunk ring ring.writePos chunk.source chunk.maxsize chunk.offset chunk.size chunk.silent chunk.size) ∧
          (copyInto ring chunk).intact = true ∧ (copyInto ring chunk).contents = ring.contents ++ chunk.bytes) ∧
      ∀ verdict before after, Admitted b verdict before chunk.size →
        AppendedBytes b (b.process offer verdict before after) chunk.bytes := by
  intro b
  obtain ⟨configured, output⟩ := outputKept_maintained.run outputKept_initial config flush steps
  have voice := (voiceKept_maintained.run voiceKept_initial config flush steps).2
  obtain ⟨chunk, mixed⟩ := able.mixed
  refine ⟨chunk, mixed, ?_, ?_⟩
  · intro ring valid room
    have appended := copyInto_appended valid chunk room
    have place : ring.writePos < queueSize := Nat.mod_lt _ queueSize_pos
    exact ⟨copyChecked_some chunk.source chunk.silent place chunk.inside, appended.valid.intact, appended.contents⟩
  · intro verdict before after admitted
    exact process_appends configured output voice after mixed.looked admitted

/-- A frame that goes around the end of its buffer. -/
def wrappingOffer : Offer := { data := some [0, 64, 0, 32], maxsize := 4, offset := 3, size := 4 }

/-- The wrapping frame in a voice transport: its samples are gathered around the end. -/
theorem wrapping_frame_mixed :
    ∃ chunk, Mixed ((startup narrowBand []).run [.formatReady true true]) wrappingOffer 2 chunk ∧
      AppendedBytes ((startup narrowBand []).run [.formatReady true true])
        (((startup narrowBand []).run [.formatReady true true]).process wrappingOffer {} [] []) chunk.bytes := by
  have able : Mixable ((startup narrowBand []).run [.formatReady true true]) wrappingOffer 2 :=
    ⟨by decide +kernel, by decide +kernel, .inl rfl, rfl, by decide, fun _ _ => rfl, rfl, by decide +kernel⟩
  obtain ⟨chunk, mixed, _, appends⟩ := downmix_exact narrowBand [] _ wrappingOffer 2 able
  have size : chunk.size = 2 := by
    have twice : 2 * chunk.size = 4 := mixed.size
    omega
  have admitted : Admitted ((startup narrowBand []).run [.formatReady true true]) {} [] chunk.size := by
    rw [size]
    exact ⟨by decide +kernel, by decide +kernel, by decide +kernel, rfl, fun _ => ⟨rfl, rfl, rfl⟩,
      fun _ => by decide +kernel, by decide +kernel⟩
  exact ⟨chunk, mixed, appends {} [] [] admitted⟩

/-- A chunk that says it is larger than its buffer. -/
def oversizedOffer : Offer := { data := some [0, 64, 0, 64], maxsize := 4, size := 8 }

/-- Of a chunk of two frames in a buffer of one, one is appended. Reading around the end
would give two. -/
theorem oversized_chunk_is_clamped :
    let b := (startup narrowBand []).run [.formatReady true true]
    b.channels = 1 ∧ b.bits = 8 * 2 ∧ oversizedOffer.present = true ∧ 0 < oversizedOffer.maxsize ∧
      (oversizedOffer.data.getD []).length = oversizedOffer.maxsize ∧ oversizedOffer.size % (2 * 2) = 0 ∧
      oversizedOffer.size ≤ 2 * queueSize ∧ Admitted b {} [] (oversizedOffer.size / 2) ∧
      (b.process oversizedOffer {} [] []).voiceQueue.contents = b.voiceQueue.contents ++ [0, 64] ∧
      LittleEndian.samples 2 (oversizedOffer.size / (2 * 2)) [0, 64] ≠
        (List.range (oversizedOffer.size / (2 * 2))).map (frameMean [0, 64, 0, 64] 4 2 0 false) := by
  have admitted : Admitted ((startup narrowBand []).run [.formatReady true true]) {} [] (oversizedOffer.size / 2) :=
    ⟨by decide +kernel, by decide +kernel, by decide +kernel, rfl, fun _ => ⟨rfl, rfl, rfl⟩,
      fun _ => by decide +kernel, by decide +kernel⟩
  exact ⟨by decide +kernel, by decide +kernel, rfl, by decide, rfl, rfl, by decide +kernel, admitted,
    by decide +kernel, by decide +kernel⟩

end FlossDesktop.Bridge
