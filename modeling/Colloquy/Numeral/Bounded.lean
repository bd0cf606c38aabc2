import Colloquy.Numeral.Digit

/-!
# Colloquy.Numeral.Bounded

Decimal integers of a fixed width, written and read.

A numeral is an optional sign and at least one ASCII digit; a minus sign is a numeral's sign only
where negative numbers exist. Reading goes from left to right and stops at the first character
that is no digit or that takes the number out of its bounds.
-/

namespace Colloquy.Numeral

inductive Fault where
  | empty
  | invalidDigit
  | tooLarge
  | tooSmall
  deriving DecidableEq, Repr

def Fault.message : Fault → String
  | .empty => "cannot parse integer from empty string"
  | .invalidDigit => "invalid digit found in string"
  | .tooLarge => "number too large to fit in target type"
  | .tooSmall => "number too small to fit in target type"

/-- Reads digits onto `acc`; going beyond `max` is the fault `excess`. -/
def readDigits (max : Nat) (excess : Fault) (acc : Nat) : List Char → Except Fault Nat
  | [] => .ok acc
  | c :: r =>
    match digit? c with
    | none => .error .invalidDigit
    | some d => if 10 * acc + d ≤ max then readDigits max excess (10 * acc + d) r else .error excess

/-- At least one digit is wanted after a sign. -/
def readUnsigned (max : Nat) (excess : Fault) : List Char → Except Fault Nat
  | [] => .error .invalidDigit
  | s => readDigits max excess 0 s

/-- Reads a number from zero to `max`. -/
def readNat (max : Nat) : List Char → Except Fault Nat
  | [] => .error .empty
  | '+' :: r => readUnsigned max .tooLarge r
  | s => readUnsigned max .tooLarge s

/-- Reads a number from `-(max + 1)` to `max`. -/
def readInt (max : Nat) : List Char → Except Fault Int
  | [] => .error .empty
  | '+' :: r => (readUnsigned max .tooLarge r).map Int.ofNat
  | '-' :: r => (readUnsigned (max + 1) .tooSmall r).map fun n => -(n : Int)
  | s => (readUnsigned max .tooLarge s).map Int.ofNat

def readUInt32 (s : List Char) : Except Fault UInt32 :=
  (readNat (UInt32.size - 1) s).map UInt32.ofNat

def readUInt64 (s : List Char) : Except Fault UInt64 :=
  (readNat (UInt64.size - 1) s).map UInt64.ofNat

def readInt64 (s : List Char) : Except Fault Int64 :=
  (readInt 0x7FFFFFFFFFFFFFFF s).map Int64.ofInt

/-- Is `n` in the range of signed 64-bit numbers? -/
def fitsInt64 (n : Int) : Bool :=
  Int64.minValue.toInt ≤ n ∧ n ≤ Int64.maxValue.toInt

def ofNat (n : Nat) : String :=
  String.ofList (Nat.toDigits 10 n)

def ofInt (n : Int) : String :=
  if n < 0 then "-" ++ ofNat n.natAbs else ofNat n.natAbs

def ofUInt32 (n : UInt32) : String :=
  ofNat n.toNat

def ofUInt64 (n : UInt64) : String :=
  ofNat n.toNat

def ofInt64 (n : Int64) : String :=
  ofInt n.toInt

end Colloquy.Numeral
