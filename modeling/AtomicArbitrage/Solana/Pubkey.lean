import Mathlib.Algebra.Ring.Nat
import Mathlib.Data.List.Basic

/-!
# Public keys

A Solana address is thirty-two bytes.  Addresses are written in base 58, and both the
on-chain constants and the client's configuration go through that text form, so the
decoder is part of the model.
-/

namespace AtomicArbitrage

/-- An account address: exactly thirty-two bytes. -/
structure Pubkey where
  bytes : List UInt8
  size : bytes.length = 32
deriving DecidableEq

namespace Pubkey

theorem ext_bytes {left right : Pubkey} (same : left.bytes = right.bytes) :
    left = right := by
  cases left
  cases right
  simpa using same

/-- `Pubkey::default()`: all bytes zero.  It is also the address of the system program. -/
def zero : Pubkey where
  bytes := List.replicate 32 0
  size := List.length_replicate

instance : Inhabited Pubkey := ⟨zero⟩

/-- The base 58 digit of a character: figures, capitals and small letters in this order,
without `0`, `I`, `O` and `l`. -/
def digit? (character : Char) : Option Nat :=
  let code := character.toNat
  if 49 ≤ code ∧ code ≤ 57 then some (code - 49)
  else if 65 ≤ code ∧ code ≤ 72 then some (code - 56)
  else if 74 ≤ code ∧ code ≤ 78 then some (code - 57)
  else if 80 ≤ code ∧ code ≤ 90 then some (code - 58)
  else if 97 ≤ code ∧ code ≤ 107 then some (code - 64)
  else if 109 ≤ code ∧ code ≤ 122 then some (code - 65)
  else none

/-- The digits of the alphabet, in its order. -/
example : "123456789ABCDEFGHJKLMNPQRSTUVWXYZabcdefghijkmnopqrstuvwxyz".toList.map digit? =
    (List.range 58).map some := by decide +kernel

/-- The number a sequence of base 58 characters denotes, most significant first. -/
def value? : List Char → Nat → Option Nat
  | [], value => some value
  | character :: rest, value => do
      let digit ← digit? character
      value? rest (58 * value + digit)

/-- The low `width` bytes of a number, most significant first. -/
def bigEndian : Nat → Nat → List UInt8
  | 0, _ => []
  | width + 1, value => bigEndian width (value / 256) ++ [UInt8.ofNat (value % 256)]

@[simp] theorem length_bigEndian (width value : Nat) :
    (bigEndian width value).length = width := by
  induction width generalizing value with
  | zero => rfl
  | succ width ih => simp [bigEndian, ih]

/-- The thirty-two byte big-endian form of a number. -/
def ofNat (value : Nat) : Pubkey where
  bytes := bigEndian 32 value
  size := length_bigEndian 32 value

/-- `Pubkey::from_str`: at most forty-four base 58 characters that decode to exactly
thirty-two bytes, each leading `1` standing for a leading zero byte. -/
def fromStr? (text : String) : Option Pubkey := do
  let characters := text.toList
  if characters.length > 44 then none
  let value ← value? characters 0
  let key := ofNat value
  let leadingOnes := (characters.takeWhile (· == '1')).length
  let leadingZeros := (key.bytes.takeWhile (· == 0)).length
  if value < 2 ^ 256 ∧ leadingOnes = leadingZeros then some key else none

/-- The `pubkey!` macro on the literals of the source, each of which is a valid address. -/
def ofLiteral (text : String) : Pubkey := (fromStr? text).getD zero

end Pubkey

end AtomicArbitrage
