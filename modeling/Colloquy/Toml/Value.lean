/-!
# Colloquy.Toml.Value

TOML values. Of floating-point numbers and of dates and times only their presence is kept: no
setting is one.
-/

namespace Colloquy

inductive Toml where
  | text (s : String)
  | integer (n : Int)
  | real
  | bool (b : Bool)
  | time
  | array (items : List Toml)
  | table (fields : List (String × Toml))

namespace Toml

def field? (name : String) (fields : List (String × Toml)) : Option Toml :=
  (fields.find? fun f => f.1 == name).map (·.2)

def asText? : Toml → Option String
  | .text s => some s
  | _ => none

def asBool? : Toml → Option Bool
  | .bool b => some b
  | _ => none

def asUInt32? : Toml → Option UInt32
  | .integer n => if 0 ≤ n ∧ n < UInt32.size then some (UInt32.ofNat n.toNat) else none
  | _ => none

end Toml

end Colloquy
