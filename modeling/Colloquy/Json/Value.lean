import Colloquy.Numeral.Shortest

/-!
# Colloquy.Json.Value

JSON values and the ways into them.

* `Json.once?`   — a field that must not be written twice.
* `Json.merged`  — the value with each field written once, the last writing winning.
-/

namespace Colloquy

open Numeral (Binary64)

/-- A JSON value. An `integer` lies in the range of signed or unsigned 64-bit numbers; every other
number is a `real`. `unreadable` is text that follows the grammar and yet has no value, which is
harmless wherever the value is not asked for: a number beyond the range, a lone half of a
surrogate pair, or an object with such a text as a field name. -/
inductive Json where
  | null
  | bool (b : Bool)
  | integer (n : Int)
  | real (negative : Bool) (x : Binary64)
  | text (s : String)
  | array (items : List Json)
  | object (fields : List (String × Json))
  | unreadable

namespace Json

/-- The values written for a field, in order. -/
def valuesOf (name : String) (fields : List (String × Json)) : List Json :=
  (fields.filter fun f => f.1 == name).map (·.2)

/-- The value of a field, if it is written; fails when the field is written twice. -/
def once? (name : String) (fields : List (String × Json)) : Option (Option Json) :=
  match valuesOf name fields with
  | [] => some none
  | [v] => some (some v)
  | _ => none

/-- The value of a field that must be written exactly once. -/
def required? (name : String) (fields : List (String × Json)) : Option Json :=
  (once? name fields).bind id

def asText? : Json → Option String
  | .text s => some s
  | _ => none

def asBool? : Json → Option Bool
  | .bool b => some b
  | _ => none

def asInteger? : Json → Option Int
  | .integer n => some n
  | _ => none

def asArray? : Json → Option (List Json)
  | .array items => some items
  | _ => none

/-- A whole number from zero to `max`. -/
def asNat? (max : Nat) (v : Json) : Option Nat :=
  match v with
  | .integer n => if 0 ≤ n ∧ n ≤ max then some n.toNat else none
  | _ => none

def asUInt32? (v : Json) : Option UInt32 :=
  (asNat? (UInt32.size - 1) v).map UInt32.ofNat

def asUInt64? (v : Json) : Option UInt64 :=
  (asNat? (UInt64.size - 1) v).map UInt64.ofNat

/-- A whole number of the signed 64-bit range, written as an integer. -/
def asInt64? (v : Json) : Option Int64 :=
  match v with
  | .integer n => if Numeral.fitsInt64 n then some (Int64.ofInt n) else none
  | _ => none

def asTexts? (v : Json) : Option (List String) :=
  v.asArray?.bind fun items => items.mapM asText?

mutual

/-- Keeps the last writing of each field, at every depth. -/
def merged : Json → Json
  | .array items => .array (mergedItems items)
  | .object fields => .object (mergedFields fields)
  | v => v

def mergedItems : List Json → List Json
  | [] => []
  | v :: rest => merged v :: mergedItems rest

def mergedFields : List (String × Json) → List (String × Json)
  | [] => []
  | (name, v) :: rest =>
    let later := mergedFields rest
    if later.any fun f => f.1 == name then later else (name, merged v) :: later

end

end Json

end Colloquy
