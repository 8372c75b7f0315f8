import AtomicArbitrage.Library.Positional
import AtomicArbitrage.Solana.Pubkey
import Mathlib.Data.UInt

/-!
# Base 58 text of addresses

`Pubkey::to_string` and `Pubkey::from_str` are inverse to each other.  An address is its
leading zero bytes and a number; its text has a `1` for each of the former and the digits
of the latter.
-/

namespace AtomicArbitrage

namespace Pubkey

open Positional

/-- The character of a base 58 digit. -/
def digitChar (digit : ℕ) : Char :=
  "123456789ABCDEFGHJKLMNPQRSTUVWXYZabcdefghijkmnopqrstuvwxyz".toList.getD digit '1'

/-- The number of the big-endian bytes of an address. -/
def number (key : Pubkey) : ℕ := value 256 (key.bytes.map UInt8.toNat)

/-- The number of leading zero bytes. -/
def leadingZeros (key : Pubkey) : ℕ := (key.bytes.takeWhile (· == 0)).length

/-- The base 58 digits of an address, most significant first. -/
def base58Digits (key : Pubkey) : List ℕ :=
  List.replicate key.leadingZeros 0 ++ (Nat.digits 58 key.number).reverse

/-- `Pubkey::to_string`. -/
def toBase58 (key : Pubkey) : String := String.ofList (key.base58Digits.map digitChar)

/-! ## Digits and characters -/

theorem digit?_digitChar {digit : ℕ} (small : digit < 58) :
    digit? (digitChar digit) = some digit := by
  have all : ∀ digit < 58, digit? (digitChar digit) = some digit := by decide +kernel
  exact all digit small

theorem digitChar_lt_iff {first second : ℕ} (small : first < 58) (small' : second < 58) :
    digitChar first < digitChar second ↔ first < second := by
  have all : ∀ first < 58, ∀ second < 58,
      (digitChar first < digitChar second ↔ first < second) := by decide +kernel
  exact all first small second small'

theorem digitChar_inj {first second : ℕ} (small : first < 58) (small' : second < 58) :
    digitChar first = digitChar second ↔ first = second := by
  constructor
  · intro same
    have digits := digit?_digitChar small
    rw [same, digit?_digitChar small'] at digits
    exact (Option.some_inj.mp digits).symm
  · exact congrArg digitChar

theorem digit?_eq_some {character : Char} {digit : ℕ} (found : digit? character = some digit) :
    digit < 58 ∧ digitChar digit = character := by
  have ascii : character.toNat < 123 := by
    simp only [digit?] at found
    split_ifs at found <;> omega
  have all : ∀ code < 123, ∀ digit, digit? (Char.ofNat code) = some digit →
      digit < 58 ∧ digitChar digit = Char.ofNat code := by
    have checked : ∀ code < 123, ∀ digit ∈ digit? (Char.ofNat code),
        digit < 58 ∧ digitChar digit = Char.ofNat code := by decide +kernel
    exact checked
  have same : Char.ofNat character.toNat = character := Char.ofNat_toNat character
  have result := all character.toNat ascii digit (by rw [same]; exact found)
  rw [same] at result
  exact result

/-- Reading characters one by one builds the number of their digits. -/
theorem value?_eq_some {characters : List Char} {start result : ℕ} :
    value? characters start = some result ↔
      ∃ digits, (∀ digit ∈ digits, digit < 58) ∧ characters = digits.map digitChar ∧
        result = start * 58 ^ digits.length + value 58 digits := by
  induction characters generalizing start with
  | nil =>
      constructor
      · intro read
        exact ⟨[], nofun, rfl, by simpa using (Option.some_inj.mp read).symm⟩
      · intro exists_digits
        rcases exists_digits with ⟨digits, _, text, number⟩
        rw [List.map_eq_nil_iff.mp text.symm] at number
        simpa [value?] using number.symm
  | cons character characters ih =>
      simp only [value?, Option.bind_eq_bind, Option.bind_eq_some_iff, ih]
      constructor
      · intro read
        rcases read with ⟨digit, found, digits, small, rfl, rfl⟩
        rcases digit?_eq_some found with ⟨less, rfl⟩
        refine ⟨digit :: digits, List.forall_mem_cons.mpr ⟨less, small⟩, rfl, ?_⟩
        rw [value_cons, List.length_cons, pow_succ]
        ring
      · intro exists_digits
        rcases exists_digits with ⟨digits, small, text, rfl⟩
        cases digits with
        | nil => exact absurd text (List.cons_ne_nil _ _)
        | cons digit digits =>
            rw [List.map_cons, List.cons.injEq] at text
            rw [List.forall_mem_cons] at small
            refine ⟨digit, text.1 ▸ digit?_digitChar small.1, digits, small.2, text.2, ?_⟩
            rw [value_cons, List.length_cons, pow_succ]
            ring

/-! ## Bytes and numbers -/

theorem value_bigEndian (width number : ℕ) :
    value 256 ((bigEndian width number).map UInt8.toNat) = number % 256 ^ width := by
  induction width generalizing number with
  | zero => exact (Nat.mod_one number).symm
  | succ width ih =>
      have last : (UInt8.ofNat (number % 256)).toNat = number % 256 :=
        UInt8.toNat_ofNat_of_lt' (Nat.mod_lt _ (by decide))
      rw [bigEndian, List.map_append, List.map_singleton, value_append, ih, last,
        List.length_singleton, pow_one, pow_succ, Nat.mul_comm (256 ^ width), Nat.mod_mul]
      simp only [value, List.reverse_singleton, Nat.ofDigits_singleton]
      ring

theorem bytes_small (bytes : List UInt8) : ∀ digit ∈ bytes.map UInt8.toNat, digit < 256 := by
  intro digit inside
  rcases List.mem_map.mp inside with ⟨byte, _, rfl⟩
  exact UInt8.toNat_lt byte

theorem number_lt (key : Pubkey) : key.number < 2 ^ 256 := by
  have bound := value_lt (bytes_small key.bytes)
  rw [List.length_map, key.size] at bound
  exact bound

theorem number_ofNat {number : ℕ} (small : number < 2 ^ 256) :
    (ofNat number).number = number := by
  have width : (256 : ℕ) ^ 32 = 2 ^ 256 := by norm_num
  exact (value_bigEndian 32 number).trans (Nat.mod_eq_of_lt (width ▸ small))

/-- Addresses are ordered as their numbers are. -/
theorem bytes_lt_iff (left right : Pubkey) :
    left.bytes < right.bytes ↔ left.number < right.number := by
  have lists : left.bytes.map UInt8.toNat < right.bytes.map UInt8.toNat ↔
      left.bytes < right.bytes :=
    map_lt_map_iff (fun _ _ _ _ => UInt8.lt_iff_toNat_lt.symm) (fun _ _ _ _ => UInt8.toNat_inj)
      (fun _ _ => trivial) (fun _ _ => trivial)
  rw [← lists]
  apply lt_iff_of_length_eq
  · rw [List.length_map, List.length_map, left.size, right.size]
  · exact bytes_small _
  · exact bytes_small _

theorem number_injective {left right : Pubkey} (same : left.number = right.number) :
    left = right := by
  have widths : (left.bytes.map UInt8.toNat).reverse.length =
      (right.bytes.map UInt8.toNat).reverse.length := by
    simp [left.size, right.size]
  have small (bytes : List UInt8) : ∀ digit ∈ (bytes.map UInt8.toNat).reverse, digit < 256 :=
    fun digit inside => bytes_small bytes digit (List.mem_reverse.mp inside)
  have digits := Nat.ofDigits_inj_of_len_eq (by decide) widths (small _) (small _) same
  apply ext_bytes
  exact List.map_injective_iff.mpr (fun _ _ => UInt8.toNat_inj.mp) (List.reverse_injective digits)

theorem ofNat_number (key : Pubkey) : ofNat key.number = key :=
  number_injective (number_ofNat key.number_lt)

/-! ## Round trips -/

theorem digits_small (key : Pubkey) : ∀ digit ∈ key.base58Digits, digit < 58 := by
  intro digit inside
  rcases List.mem_append.mp inside with zero | further
  · rw [List.eq_of_mem_replicate zero]
    decide
  · exact Nat.digits_lt_base (by decide) (List.mem_reverse.mp further)

theorem value_base58Digits (key : Pubkey) : value 58 key.base58Digits = key.number := by
  rw [base58Digits, value_zeros, value_digits]

/-- The digits of an address fit into forty-four characters: each leading zero byte saves
more than the character it needs. -/
theorem length_base58Digits_le (key : Pubkey) : key.base58Digits.length ≤ 44 := by
  have split := eq_replicate_append 0 key.bytes
  have width := congrArg List.length split
  rw [key.size, List.length_append, List.length_replicate] at width
  have bound : key.number < 256 ^ (32 - key.leadingZeros) := by
    have rest := value_lt (bytes_small (key.bytes.dropWhile (· == 0)))
    have same : key.number =
        value 256 ((key.bytes.dropWhile (· == 0)).map UInt8.toNat) := by
      rw [number, split, List.map_append, List.map_replicate]
      exact (value_zeros _ _).trans (by rw [← split])
    rw [List.length_map] at rest
    rw [same, show 32 - key.leadingZeros = (key.bytes.dropWhile (· == 0)).length by
      unfold leadingZeros; omega]
    exact rest
  have saves : ∀ zeros ≤ 32, 256 ^ (32 - zeros) ≤ 58 ^ (44 - zeros) := by decide +kernel
  have zeros : key.leadingZeros ≤ 32 := by
    rw [leadingZeros]
    omega
  have fits := (Nat.digits_length_le_iff (by decide) key.number).mpr
    (bound.trans_le (saves _ zeros))
  rw [base58Digits, List.length_append, List.length_replicate, List.length_reverse]
  omega

/-- The number of an address in terms of the bytes behind its leading zeros. -/
theorem number_eq_value (key : Pubkey) :
    key.number = value 256 ((key.bytes.dropWhile (· == 0)).map UInt8.toNat) := by
  have split := eq_replicate_append 0 key.bytes
  rw [number, split, List.map_append, List.map_replicate]
  exact (value_zeros _ _).trans (by rw [← split])

/-- The digits of an address are no fewer than its bytes. -/
theorem le_length_base58Digits (key : Pubkey) : 32 ≤ key.base58Digits.length := by
  have width := congrArg List.length (eq_replicate_append 0 key.bytes)
  rw [key.size, List.length_append, List.length_replicate] at width
  have digits : (key.bytes.dropWhile (· == 0)).length ≤ (Nat.digits 58 key.number).length := by
    have leads := head?_dropWhile_ne 0 key.bytes
    rw [number_eq_value]
    cases bytes : key.bytes.dropWhile (· == 0) with
    | nil => exact Nat.zero_le _
    | cons byte rest =>
        rw [bytes, List.head?_cons] at leads
        have nonzero : byte.toNat ≠ 0 := by
          intro zero
          exact leads byte rfl (UInt8.toNat_inj.mp zero)
        apply (Nat.lt_digits_length_iff (by decide) _).mpr
        calc 58 ^ rest.length
            ≤ 256 ^ (rest.map UInt8.toNat).length := by
              rw [List.length_map]
              exact Nat.pow_le_pow_left (by decide) _
          _ ≤ value 256 (byte.toNat :: rest.map UInt8.toNat) := pow_le_value nonzero _
  have zeros : (key.bytes.takeWhile (· == 0)).length = key.leadingZeros := rfl
  rw [base58Digits, List.length_append, List.length_replicate, List.length_reverse]
  omega

/-- Among the characters of digits, the leading ones are the leading zeros. -/
theorem leadingOnes_map {digits : List ℕ} (small : ∀ digit ∈ digits, digit < 58) :
    ((digits.map digitChar).takeWhile (· == '1')).length =
      (digits.takeWhile (· == 0)).length := by
  induction digits with
  | nil => rfl
  | cons digit digits ih =>
      rw [List.forall_mem_cons] at small
      have one : digitChar 0 = '1' := by decide
      have same : (digitChar digit == '1') = (digit == 0) := by
        rw [← one, Bool.eq_iff_iff, beq_iff_eq, beq_iff_eq]
        exact digitChar_inj small.1 (by decide)
      rw [List.map_cons, List.takeWhile_cons, List.takeWhile_cons, same]
      cases digit == 0 with
      | false => rfl
      | true => exact congrArg Nat.succ (ih small.2)

/-- `from_str` reads back what `to_string` wrote. -/
theorem fromStr?_toBase58 (key : Pubkey) : fromStr? key.toBase58 = some key := by
  have short : ¬(key.base58Digits.map digitChar).length > 44 := by
    rw [List.length_map]
    exact Nat.not_lt.mpr key.length_base58Digits_le
  have read : value? (key.base58Digits.map digitChar) 0 = some key.number :=
    value?_eq_some.mpr ⟨_, key.digits_small, rfl, by rw [value_base58Digits]; simp⟩
  have ones : ((key.base58Digits.map digitChar).takeWhile (· == '1')).length =
      (key.bytes.takeWhile (· == 0)).length := by
    rw [leadingOnes_map key.digits_small]
    exact length_takeWhile_replicate _ (head?_digits_ne _)
  simp only [fromStr?, toBase58, String.toList_ofList, if_neg short, read, ofNat_number, ones,
    key.number_lt, Option.bind_eq_bind, Option.bind_some, and_self, if_true]

/-- `to_string` writes back what `from_str` has read. -/
theorem toBase58_of_fromStr? {text : String} {key : Pubkey}
    (parsed : fromStr? text = some key) : key.toBase58 = text := by
  simp only [fromStr?, Option.bind_eq_bind] at parsed
  split at parsed
  · exact absurd parsed nofun
  · rcases Option.bind_eq_some_iff.mp parsed with ⟨number, read, rest⟩
    split at rest
    · next valid =>
        rcases value?_eq_some.mp read with ⟨digits, small, characters, same⟩
        have denotes : number = value 58 digits := by simpa using same
        have key_eq : ofNat number = key := Option.some_inj.mp rest
        have number_eq : key.number = value 58 digits := by
          rw [← key_eq, number_ofNat valid.1, denotes]
        have split := eq_replicate_append 0 digits
        have zeros : key.leadingZeros = (digits.takeWhile (· == 0)).length := by
          rw [leadingZeros, ← key_eq, ← valid.2, characters, leadingOnes_map small]
        have significant : (Nat.digits 58 key.number).reverse =
            digits.dropWhile (· == 0) := by
          rw [number_eq, split, value_zeros, ← split]
          apply digits_value (by decide)
          · intro digit inside
            exact small digit ((List.dropWhile_sublist _).subset inside)
          · exact head?_dropWhile_ne 0 digits
        rw [toBase58, base58Digits, zeros, significant, ← split, ← characters,
          String.ofList_toList]
    · exact absurd rest nofun

theorem toBase58_injective : Function.Injective toBase58 := by
  intro left right same
  have parsed := fromStr?_toBase58 left
  rw [same, fromStr?_toBase58 right] at parsed
  exact (Option.some_inj.mp parsed).symm

end Pubkey

end AtomicArbitrage
