import Colloquy.Json.Value

/-!
# Colloquy.Json.Reader

Reading JSON text.

The grammar is strict: no comments, no trailing commas, no leading zeros, no text after the value.
Leaves come first (strings, then numbers), then values by recursion on a bound that the length of
the text supplies.

Numbers keep the digits that fit into an unsigned 64-bit number; the digits after those only count
as powers of ten.
-/

namespace Colloquy.Json

open Numeral (Binary64 digit? hexDigit? digitsValue)

/-! ### Blanks -/

def isJsonBlank (c : Char) : Bool :=
  c = ' ' || c = '\n' || c = '\t' || c = '\r'

def skipBlanks (s : List Char) : List Char :=
  s.dropWhile isJsonBlank

/-! ### Strings -/

def hex4? (a b c d : Char) : Option Nat := do
  let ds ← [a, b, c, d].mapM hexDigit?
  some (digitsValue 16 ds)

def shortEscape? : Char → Option Nat
  | '"' => some 0x22
  | '\\' => some 0x5C
  | '/' => some 0x2F
  | 'b' => some 0x8
  | 'f' => some 0xC
  | 'n' => some 0xA
  | 'r' => some 0xD
  | 't' => some 0x9
  | _ => none

/-- The code points and surrogate halves up to the closing quote, and the text after it. -/
def stringUnits : List Char → Option (List Nat × List Char)
  | [] => none
  | '"' :: r => some ([], r)
  | '\\' :: 'u' :: a :: b :: c :: d :: r => do
    let u ← hex4? a b c d
    let (us, rest) ← stringUnits r
    some (u :: us, rest)
  | '\\' :: e :: r => do
    let u ← shortEscape? e
    let (us, rest) ← stringUnits r
    some (u :: us, rest)
  | c :: r => do
    if c.toNat < 0x20 || c = '\\' then none
    let (us, rest) ← stringUnits r
    some (c.toNat :: us, rest)

/-- Joins the halves of surrogate pairs; fails on a half that stands alone. -/
def joinUnits : List Nat → Option (List Char)
  | [] => some []
  | u :: us =>
    if 0xD800 ≤ u ∧ u < 0xDC00 then
      match us with
      | [] => none
      | v :: vs =>
        if 0xDC00 ≤ v ∧ v < 0xE000 then
          (joinUnits vs).map (Char.ofNat (0x10000 + (u - 0xD800) * 0x400 + (v - 0xDC00)) :: ·)
        else none
    else if 0xDC00 ≤ u ∧ u < 0xE000 then none
    else (joinUnits us).map (Char.ofNat u :: ·)

def textOfUnits (us : List Nat) : Option String :=
  (joinUnits us).map String.ofList

/-! ### Numbers -/

structure Literal where
  negative : Bool
  whole : List Nat
  fraction : Option (List Nat)
  exponent : Option (Bool × List Nat)

def takeDigits : List Char → List Nat × List Char
  | [] => ([], [])
  | c :: r =>
    match digit? c with
    | some d =>
      let (ds, rest) := takeDigits r
      (d :: ds, rest)
    | none => ([], c :: r)

def someDigits? (s : List Char) : Option (List Nat × List Char) :=
  match takeDigits s with
  | ([], _) => none
  | found => some found

/-- Digits without a leading zero, unless zero is all there is. -/
def wholeDigits? (s : List Char) : Option (List Nat × List Char) :=
  match takeDigits s with
  | ([], _) => none
  | (0 :: _ :: _, _) => none
  | found => some found

def fractionPart? : List Char → Option (Option (List Nat) × List Char)
  | '.' :: r => (someDigits? r).map fun (ds, rest) => (some ds, rest)
  | s => some (none, s)

def exponentDigits? (positive : Bool) (s : List Char) :
    Option (Option (Bool × List Nat) × List Char) :=
  (someDigits? s).map fun (ds, rest) => (some (positive, ds), rest)

def exponentPart? : List Char → Option (Option (Bool × List Nat) × List Char)
  | 'e' :: '+' :: r | 'E' :: '+' :: r => exponentDigits? true r
  | 'e' :: '-' :: r | 'E' :: '-' :: r => exponentDigits? false r
  | 'e' :: r | 'E' :: r => exponentDigits? true r
  | s => some (none, s)

def unsignedLiteral? (negative : Bool) (s : List Char) : Option (Literal × List Char) := do
  let (whole, s) ← wholeDigits? s
  let (fraction, s) ← fractionPart? s
  let (exponent, s) ← exponentPart? s
  some (⟨negative, whole, fraction, exponent⟩, s)

def literal? : List Char → Option (Literal × List Char)
  | '-' :: r => unsignedLiteral? true r
  | s => unsignedLiteral? false s

/-- Appends digits to `acc` while the result fits into 64 bits; the digits left over. -/
def absorb (acc : Nat) : List Nat → Nat × List Nat
  | [] => (acc, [])
  | d :: ds => if 10 * acc + d < UInt64.size then absorb (10 * acc + d) ds else (acc, d :: ds)

/-- The written power of ten; `none` when it is too large to count. -/
def writtenPower (exponent : Option (Bool × List Nat)) : Option Int :=
  match exponent with
  | none => some 0
  | some (positive, ds) =>
    let n := digitsValue 10 ds
    if 0x80000000 ≤ n then none else some (if positive then n else -(n : Int))

def Literal.real? (l : Literal) : Option Binary64 :=
  let (kept, dropped) := absorb 0 l.whole
  let places := l.fraction.getD []
  let (significand, unused) := absorb kept places
  match writtenPower l.exponent with
  | some power =>
    let shift : Int := dropped.length - (places.length - unused.length : Nat)
    (Binary64.ofNat? significand).bind (·.scale? (shift + power))
  | none =>
    match l.exponent with
    | some (true, _) => if significand = 0 then some Binary64.zero else none
    | _ => some Binary64.zero

/-- An integer without fraction and exponent keeps its value if that has at most 64 bits and is
not a negative zero. -/
def Literal.value (l : Literal) : Json :=
  let n := digitsValue 10 l.whole
  if l.fraction.isNone && l.exponent.isNone && !l.negative && n < UInt64.size then .integer n
  else if l.fraction.isNone && l.exponent.isNone && l.negative && 0 < n && n ≤ 0x8000000000000000 then
    .integer (-n)
  else
    match l.real? with
    | some x => .real l.negative x
    | none => .unreadable

/-! ### Values -/

/-- An object of fields, of which all must have a readable name. -/
def ofFields (fields : List (Option String × Json)) : Json :=
  match fields.mapM fun (name, v) => name.map (·, v) with
  | some fields => .object fields
  | none => .unreadable

mutual

/-- Reads one value and gives the text after it. The bound counts nested steps. -/
def readValue : Nat → List Char → Option (Json × List Char)
  | 0, _ => none
  | bound + 1, s =>
    match skipBlanks s with
    | 'n' :: 'u' :: 'l' :: 'l' :: r => some (.null, r)
    | 't' :: 'r' :: 'u' :: 'e' :: r => some (.bool true, r)
    | 'f' :: 'a' :: 'l' :: 's' :: 'e' :: r => some (.bool false, r)
    | '"' :: r => do
      let (us, rest) ← stringUnits r
      some ((textOfUnits us).elim .unreadable .text, rest)
    | '[' :: r =>
      match skipBlanks r with
      | ']' :: rest => some (.array [], rest)
      | r => do
        let (items, rest) ← readItems bound r
        some (.array items, rest)
    | '\x7b' :: r =>
      match skipBlanks r with
      | '\x7d' :: rest => some (.object [], rest)
      | r => do
        let (fields, rest) ← readFields bound r
        some (ofFields fields, rest)
    | s => do
      let (l, rest) ← literal? s
      some (l.value, rest)

def readItems : Nat → List Char → Option (List Json × List Char)
  | 0, _ => none
  | bound + 1, s => do
    let (v, r) ← readValue bound s
    match skipBlanks r with
    | ']' :: rest => some ([v], rest)
    | ',' :: r => do
      let (vs, rest) ← readItems bound r
      some (v :: vs, rest)
    | _ => none

def readFields : Nat → List Char → Option (List (Option String × Json) × List Char)
  | 0, _ => none
  | bound + 1, s =>
    match skipBlanks s with
    | '"' :: r => do
      let (us, r) ← stringUnits r
      match skipBlanks r with
      | ':' :: r => do
        let (v, r) ← readValue bound r
        let field := (textOfUnits us, v)
        match skipBlanks r with
        | '\x7d' :: rest => some ([field], rest)
        | ',' :: r => do
          let (fs, rest) ← readFields bound r
          some (field :: fs, rest)
        | _ => none
      | _ => none
    | _ => none

end

def read? (s : String) : Option Json :=
  let cs := s.toList
  match readValue (2 * cs.length + 2) cs with
  | some (v, rest) => if (skipBlanks rest).isEmpty then some v else none
  | none => none

end Colloquy.Json
