import Mathlib.Data.Int.Notation
import Mathlib.Data.List.Basic

/-!
# JSON values

Parsed JSON, with the accessors that a reader of documents chains: each yields nothing
where the value is of another kind.
-/

/-- A JSON value.  Numbers are integers. -/
inductive Json where
  | null
  | bool (value : Bool)
  | number (value : ℤ)
  | string (value : String)
  | array (items : List Json)
  | object (fields : List (String × Json))

namespace Json

/-- The field of an object. -/
def get : Json → String → Option Json
  | .object fields, key => (fields.find? fun field => field.1 == key).map Prod.snd
  | _, _ => none

/-- The items of an array. -/
def asArray : Json → Option (List Json)
  | .array items => some items
  | _ => none

def asStr : Json → Option String
  | .string value => some value
  | _ => none

def asBool : Json → Option Bool
  | .bool value => some value
  | _ => none

/-- A number that fits into sixty-four bits without a sign. -/
def asU64 : Json → Option ℕ
  | .number value => if 0 ≤ value ∧ value < UInt64.size then some value.toNat else none
  | _ => none

@[simp] theorem asArray_array (items : List Json) : (array items).asArray = some items := rfl

@[simp] theorem asU64_toNat (value : UInt64) :
    (number (.ofNat value.toNat)).asU64 = some value.toNat := by
  have small := value.toNat_lt_size
  have inside : 0 ≤ Int.ofNat value.toNat ∧ Int.ofNat value.toNat < UInt64.size := by
    rw [Int.ofNat_eq_natCast]
    omega
  rw [asU64, if_pos inside]
  rfl

end Json
