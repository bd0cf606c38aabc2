import Colloquy.Numeral.Bounded
import Colloquy.Numeral.Binary64

/-!
# Colloquy.Numeral.Shortest

The shortest decimal that reads back as a given binary number.

Every decimal strictly inside the interval of reals that round to the number reads back as it; the
ends of the interval do so when the mantissa is even. Of the decimals with the fewest digits the
nearest is taken, and the larger of two equally near ones.
-/

namespace Colloquy.Numeral.Binary64

/-- The decimal `digits · 10 ^ power`. -/
structure Decimal where
  digits : Nat
  power : Int
  deriving DecidableEq, Repr

/-- The power of ten of the leading digit of `n / d`, for `0 < n`. -/
def leadingPower (n d : Nat) : Int :=
  if d ≤ n then ((Nat.toDigits 10 (n / d)).length : Int) - 1
  else -((Nat.toDigits 10 ((d - 1) / n)).length : Int)

/-- The decimal with exactly this power that lies nearest to `x` among those that read back as
`x`, if there is one. -/
def onGrid? (x : Binary64) (power : Int) : Option Decimal :=
  -- in units of `2 ^ (exponent - 2)`
  let value := 4 * x.mantissa
  let low := if x.mantissa = Nat.pow 2 52 ∧ -1074 < x.exponent then value - 1 else value - 2
  let high := value + 2
  -- `step` and `unit` bring the grid of tens and the units of twos to one scale
  let step := Nat.pow 10 power.toNat * Nat.pow 2 (2 - x.exponent).toNat
  let unit := Nat.pow 2 (x.exponent - 2).toNat * Nat.pow 10 (-power).toNat
  let inside (d : Nat) : Bool :=
    if x.mantissa % 2 = 0 then low * unit ≤ d * step && d * step ≤ high * unit
    else low * unit < d * step && d * step < high * unit
  let below := value * unit / step
  let above := below + 1
  match inside below, inside above with
  | true, true =>
    if value * unit - below * step < above * step - value * unit then some ⟨below, power⟩
    else some ⟨above, power⟩
  | true, false => some ⟨below, power⟩
  | false, true => some ⟨above, power⟩
  | false, false => none

/-- Tries `count` digits, then more, up to `fuel` more. -/
def shortestFrom (x : Binary64) (lead : Int) : (count fuel : Nat) → Option Decimal
  | count, 0 => x.onGrid? (lead + 1 - count)
  | count, fuel + 1 =>
    match x.onGrid? (lead + 1 - count) with
    | some d => some d
    | none => shortestFrom x lead (count + 1) fuel

/-- The shortest decimal of `x`; seventeen digits are always enough. -/
def shortest (x : Binary64) : Decimal :=
  if x.mantissa = 0 then ⟨0, 0⟩
  else (x.shortestFrom (leadingPower x.num x.den) 1 16).getD ⟨0, 0⟩

/-- Drops trailing zeros from the digits, which a step up to the next power of ten leaves. -/
def Decimal.trimmed (d : Decimal) : Nat → Decimal
  | 0 => d
  | fuel + 1 =>
    if d.digits % 10 = 0 ∧ d.digits ≠ 0 then Decimal.trimmed ⟨d.digits / 10, d.power + 1⟩ fuel else d

/-- The decimal without an exponent: a point only before places that are not zero. -/
def Decimal.text (d : Decimal) : String :=
  let s := Nat.toDigits 10 d.digits
  if 0 ≤ d.power then String.ofList (s ++ List.replicate d.power.toNat '0')
  else
    let places := (-d.power).toNat
    let padded := List.replicate (places + 1 - s.length) '0' ++ s
    let whole := padded.length - places
    String.ofList (padded.take whole ++ ['.'] ++ padded.drop whole)

/-- The text of a number: its shortest decimal, never with an exponent. -/
def text (negative : Bool) (x : Binary64) : String :=
  (if negative then "-" else "") ++ (x.shortest.trimmed 17).text

end Colloquy.Numeral.Binary64
