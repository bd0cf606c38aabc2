/-!
# Colloquy.Numeral.Binary64

Non-negative finite numbers of the binary 64-bit floating-point format, in exact arithmetic.

* `round?`   — the number nearest to a fraction, ties to the even one; nothing beyond the range.
* `mul?`, `div?` — the rounded product and quotient.
* `scale?`   — a number times a power of ten, with the power itself rounded first.
-/

namespace Colloquy.Numeral

/-- The number `mantissa · 2 ^ exponent`, with `mantissa < 2 ^ 53` and
`-1074 ≤ exponent ≤ 971`; the exponent is the least that the mantissa allows. -/
structure Binary64 where
  mantissa : Nat
  exponent : Int
  deriving DecidableEq, Repr

namespace Binary64

def zero : Binary64 := ⟨0, -1074⟩

/-- Numerator of the exact value. -/
def num (x : Binary64) : Nat :=
  x.mantissa * Nat.pow 2 x.exponent.toNat

/-- Denominator of the exact value. -/
def den (x : Binary64) : Nat :=
  Nat.pow 2 (-x.exponent).toNat

/-- `n / d` rounded to an integer, ties to even. -/
def roundDiv (n d : Nat) : Nat :=
  let q := n / d
  let r := n % d
  if d < 2 * r ∨ (2 * r = d ∧ q % 2 = 1) then q + 1 else q

/-- The quotient of `n / d` by `2 ^ e`, as a fraction. -/
def shifted (n d : Nat) (e : Int) : Nat × Nat :=
  (n * Nat.pow 2 (-e).toNat, d * Nat.pow 2 e.toNat)

/-- The exponent at which `n / d` has a mantissa of 53 bits, or the least exponent there is. -/
def exponentOf (n d : Nat) : Int :=
  let guess : Int := (Nat.log2 n : Int) - (Nat.log2 d : Int) - 52
  let (a, b) := shifted n d guess
  max (if a / b < Nat.pow 2 52 then guess - 1 else guess) (-1074)

/-- The number nearest to `n / d`. -/
def round? (n d : Nat) : Option Binary64 :=
  if n = 0 then some zero
  else
    let e := exponentOf n d
    let (a, b) := shifted n d e
    let m := roundDiv a b
    let (m, e) := if m = Nat.pow 2 53 then (Nat.pow 2 52, e + 1) else (m, e)
    if e ≤ 971 then some ⟨m, e⟩ else none

def mul? (x y : Binary64) : Option Binary64 :=
  round? (x.num * y.num) (x.den * y.den)

/-- The quotient by a number that is not zero. -/
def div? (x y : Binary64) : Option Binary64 :=
  round? (x.num * y.den) (x.den * y.num)

def ofNat? (n : Nat) : Option Binary64 :=
  round? n 1

/-- `x · 10 ^ e`. A power of ten that fits the format is applied in one step; one below is applied
in two, of which the first is `10 ^ -308`. -/
def scale? (x : Binary64) (e : Int) : Option Binary64 :=
  if x.mantissa = 0 then some zero
  else if 308 < e then none
  else if 0 ≤ e then (ofNat? (Nat.pow 10 e.toNat)).bind x.mul?
  else if -308 ≤ e then (ofNat? (Nat.pow 10 (-e).toNat)).bind x.div?
  else if -616 ≤ e then do
    let y ← (ofNat? (Nat.pow 10 308)).bind x.div?
    (ofNat? (Nat.pow 10 (-e - 308).toNat)).bind y.div?
  else some zero

end Binary64

end Colloquy.Numeral
