import Mathlib.Data.List.Basic
import Mathlib.Tactic.Ring

/-!
# Sixty-four bit words in byte strings

Little-endian fields of a byte string and checked arithmetic on the words read from
them.  Both are stated through `UInt64.toNat`, so that a statement about words is an
equation between natural numbers and the absence of wrap-around is part of it.
-/

namespace Word64

/-- The low `width` bytes of a natural number, least significant first. -/
def encode : (width value : Nat) → List UInt8
  | 0, _ => []
  | width + 1, value => UInt8.ofNat (value % 256) :: encode width (value / 256)

/-- The natural number whose little-endian bytes are given. -/
def decode : List UInt8 → Nat
  | [] => 0
  | byte :: bytes => byte.toNat + 256 * decode bytes

@[simp] theorem length_encode (width value : Nat) :
    (encode width value).length = width := by
  induction width generalizing value with
  | zero => rfl
  | succ width ih => simp [encode, ih]

theorem decode_encode (width value : Nat) :
    decode (encode width value) = value % 256 ^ width := by
  induction width generalizing value with
  | zero => simp [encode, decode, Nat.mod_one]
  | succ width ih =>
      have head : (UInt8.ofNat (value % 256)).toNat = value % 256 := by simp
      rw [encode, decode, ih, head, pow_succ', Nat.mod_mul]

theorem decode_lt (bytes : List UInt8) : decode bytes < 256 ^ bytes.length := by
  induction bytes with
  | nil => exact Nat.one_pos
  | cons byte bytes ih =>
      have digit := byte.toNat_lt
      rw [decode, List.length_cons, pow_succ]
      omega

/-- The bytes of a number are its low bytes and those of what is left. -/
theorem encode_add (low high value : Nat) :
    encode (low + high) value = encode low value ++ encode high (value / 256 ^ low) := by
  induction low generalizing value with
  | zero => rw [Nat.zero_add, pow_zero, Nat.div_one, encode, List.nil_append]
  | succ low ih =>
      rw [Nat.succ_add, encode, encode, ih, List.cons_append, Nat.div_div_eq_div_mul, pow_succ']

theorem encode_zero (width : Nat) : encode width 0 = List.replicate width 0 := by
  induction width with
  | zero => rfl
  | succ width ih => rw [encode, Nat.zero_div, ih, List.replicate_succ]; rfl

/-- The low bytes of a number do not see what is above them. -/
theorem encode_mod (width value : Nat) : encode width (value % 256 ^ width) = encode width value := by
  induction width generalizing value with
  | zero => rfl
  | succ width ih =>
      have head : value % 256 ^ (width + 1) % 256 = value % 256 :=
        Nat.mod_mod_of_dvd value (dvd_pow_self 256 (Nat.succ_ne_zero width))
      have tail : value % 256 ^ (width + 1) / 256 = value / 256 % 256 ^ width := by
        rw [pow_succ', Nat.mod_mul_right_div_self]
      rw [encode, encode, head, tail, ih]

/-- The eight bytes of a word, as `to_le_bytes` writes them. -/
def bytes (word : UInt64) : List UInt8 := encode 8 word.toNat

@[simp] theorem length_bytes (word : UInt64) : (bytes word).length = 8 :=
  length_encode 8 word.toNat

/-- The word in the eight bytes from `offset` on. -/
def readAt (data : List UInt8) (offset : Nat) : UInt64 :=
  UInt64.ofNat (decode ((data.drop offset).take 8))

/-- A field that was just written reads back as the word it holds. -/
@[simp] theorem readAt_bytes (word : UInt64) (rest : List UInt8) :
    readAt (bytes word ++ rest) 0 = word := by
  have taken : (bytes word ++ rest).take 8 = bytes word := by
    rw [List.take_append_of_le_length (by simp), List.take_of_length_le (by simp)]
  have small : word.toNat % 256 ^ 8 = word.toNat :=
    Nat.mod_eq_of_lt (by simpa using word.toNat_lt)
  rw [readAt, List.drop_zero, taken, bytes, decode_encode, small]
  exact UInt64.ofNat_toNat

/-- Reading past a prefix. -/
theorem readAt_append {front rest : List UInt8} {offset : Nat}
    (past : front.length ≤ offset) :
    readAt (front ++ rest) offset = readAt rest (offset - front.length) := by
  rw [readAt, readAt, List.drop_append, List.drop_eq_nil_of_le past, List.nil_append]

/-- A word field behind a prefix of known length. -/
theorem readAt_field {front rest : List UInt8} {word : UInt64} {offset : Nat}
    (width : front.length = offset) :
    readAt (front ++ (bytes word ++ rest)) offset = word := by
  rw [readAt_append width.le, width, Nat.sub_self, readAt_bytes]

/-- The second of two adjacent word fields. -/
theorem readAt_second {front rest : List UInt8} {first second : UInt64} {offset : Nat}
    (width : front.length + 8 = offset) :
    readAt (front ++ (bytes first ++ (bytes second ++ rest))) offset = second := by
  rw [← List.append_assoc]
  exact readAt_field (by simpa using width)

/-! ## Checked arithmetic -/

/-- `u64::checked_add`. -/
def checkedAdd (left right : UInt64) : Option UInt64 :=
  if left.toNat + right.toNat < 2 ^ 64 then some (left + right) else none

/-- `u64::checked_sub`. -/
def checkedSub (left right : UInt64) : Option UInt64 :=
  if right ≤ left then some (left - right) else none

/-- A checked sum is the sum of the two numbers: nothing wrapped around. -/
theorem checkedAdd_eq_some {left right sum : UInt64} :
    checkedAdd left right = some sum ↔ left.toNat + right.toNat = sum.toNat := by
  have bound := sum.toNat_lt
  rw [checkedAdd]
  split
  · next fits =>
      rw [Option.some.injEq, ← UInt64.toNat_inj, UInt64.toNat_add, Nat.mod_eq_of_lt fits]
  · next overflow =>
      simp only [reduceCtorEq, false_iff]
      omega

/-- A checked difference completes the smaller number to the larger one. -/
theorem checkedSub_eq_some {left right difference : UInt64} :
    checkedSub left right = some difference ↔
      left.toNat = right.toNat + difference.toNat := by
  rw [checkedSub]
  split
  · next ordered =>
      have le := UInt64.le_iff_toNat_le.mp ordered
      rw [Option.some.injEq, ← UInt64.toNat_inj, UInt64.toNat_sub_of_le _ _ ordered]
      omega
  · next unordered =>
      have lt := UInt64.le_iff_toNat_le.not.mp unordered
      simp only [reduceCtorEq, false_iff]
      omega

/-- Every number below the word size is the value of a word. -/
theorem exists_toNat {value : Nat} (small : value < 2 ^ 64) :
    ∃ word : UInt64, word.toNat = value :=
  ⟨UInt64.ofNat value, UInt64.toNat_ofNat_of_lt' small⟩

theorem toNat_pos_iff {word : UInt64} : 0 < word.toNat ↔ word ≠ 0 := by
  rw [ne_eq, ← UInt64.toNat_inj, Nat.pos_iff_ne_zero]
  rfl

end Word64
