import Mathlib.Tactic

/-! Numbers as bytes, the lowest one first. Signed numbers are in two's complement of the
width of their bytes. -/

namespace LittleEndian

/-- The unsigned number that bytes stand for. -/
def word : List UInt8 → Nat
  | [] => 0
  | byte :: rest => byte.toNat + 256 * word rest

/-- The signed one. -/
def decode (bytes : List UInt8) : Int := (word bytes : Int).bmod (2 ^ (8 * bytes.length))

/-- The lowest bytes of a number. -/
def encode (width value : Nat) : List UInt8 := (List.range width).map fun j => UInt8.ofNat (value / 2 ^ (8 * j))

/-- The signed numbers of some bytes each. -/
def samples (width : Nat) : Nat → List UInt8 → List Int
  | 0, _ => []
  | count + 1, bytes => decode (bytes.take width) :: samples width count (bytes.drop width)

@[simp] theorem encode_length (width value : Nat) : (encode width value).length = width := by simp [encode]

theorem two_pow_eight_succ (n : Nat) : 2 ^ (8 * (n + 1)) = 256 * 2 ^ (8 * n) := by
  rw [Nat.mul_succ, Nat.pow_add, Nat.mul_comm]

theorem word_lt (bytes : List UInt8) : word bytes < 2 ^ (8 * bytes.length) := by
  induction bytes with
  | nil => exact Nat.one_pos
  | cons byte rest ih =>
    have small := byte.toNat_lt
    rw [word, List.length_cons, two_pow_eight_succ]
    omega

theorem word_append (front back : List UInt8) : word (front ++ back) = word front + 2 ^ (8 * front.length) * word back := by
  induction front with
  | nil => simp [word]
  | cons byte rest ih =>
    rw [List.cons_append, word, word, ih, List.length_cons, two_pow_eight_succ]
    ring

/-- Encoding keeps what fits into the width. -/
theorem word_encode (width value : Nat) : word (encode width value) = value % 2 ^ (8 * width) := by
  induction width with
  | zero => simp [encode, word, Nat.mod_one]
  | succ width ih =>
    have split : encode (width + 1) value = encode width value ++ [UInt8.ofNat (value / 2 ^ (8 * width))] := by
      unfold encode
      rw [List.range_succ, List.map_append]
      rfl
    have byte : word [UInt8.ofNat (value / 2 ^ (8 * width))] = value / 2 ^ (8 * width) % 256 := by
      simp [word]
    rw [split, word_append, ih, byte, encode_length, two_pow_eight_succ, Nat.mul_comm 256, Nat.mod_mul]

/-- A signed number of a width is between the powers of that width. -/
theorem decode_bounds {bytes : List UInt8} (some : bytes ≠ []) :
    -(2 ^ (8 * bytes.length - 1)) ≤ decode bytes ∧ decode bytes < 2 ^ (8 * bytes.length - 1) := by
  have length := List.length_pos_iff.mpr some
  have half : (2 : Int) ^ (8 * bytes.length) = 2 * 2 ^ (8 * bytes.length - 1) := by
    rw [← pow_succ', Nat.sub_add_cancel (by omega)]
  have positive : 0 < 2 ^ (8 * bytes.length) := Nat.two_pow_pos _
  have above := Int.bmod_lt (x := word bytes) positive
  have below := Int.le_bmod (x := word bytes) positive
  unfold decode
  push_cast at above below ⊢
  omega

/-- Encoding a signed number that fits, over any larger power of two, and decoding it. -/
theorem decode_encode {width larger : Nat} {value : Int} (some : 0 < width) (fits : 8 * width ≤ larger)
    (below : -(2 ^ (8 * width - 1)) ≤ value) (above : value < 2 ^ (8 * width - 1)) :
    decode (encode width (value % 2 ^ larger).toNat) = value := by
  have half : (2 : Int) ^ (8 * width) = 2 * 2 ^ (8 * width - 1) := by
    rw [← pow_succ', Nat.sub_add_cancel (by omega)]
  have divides : (2 : Int) ^ (8 * width) ∣ 2 ^ larger := pow_dvd_pow 2 fits
  have positive : (0 : Int) < 2 ^ larger := by positivity
  unfold decode
  rw [word_encode, encode_length]
  push_cast
  rw [Int.toNat_of_nonneg (Int.emod_nonneg _ (ne_of_gt positive)), Int.emod_emod_of_dvd _ divides]
  have cast : (2 : Int) ^ (8 * width) = ((2 ^ (8 * width) : Nat) : Int) := by push_cast; rfl
  rw [cast, Int.emod_bmod]
  apply Int.bmod_eq_of_le
  · push_cast
    omega
  · push_cast
    omega

/-- Samples of one width, one after another. -/
theorem samples_flatMap {ι : Type*} (width : Nat) (items : List ι) (bytes : ι → List UInt8)
    (sized : ∀ item ∈ items, (bytes item).length = width) :
    samples width items.length (items.flatMap bytes) = items.map fun item => decode (bytes item) := by
  induction items with
  | nil => rfl
  | cons item rest ih =>
    have here := sized item List.mem_cons_self
    rw [List.length_cons, List.flatMap_cons, samples, List.take_left' here, List.drop_left' here, List.map_cons,
      ih fun other member => sized other (List.mem_cons_of_mem item member)]

end LittleEndian
