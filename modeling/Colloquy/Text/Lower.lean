import Colloquy.Text.Range
import Colloquy.Text.Table.Cased
import Colloquy.Text.Table.CaseIgnorable
import Colloquy.Text.Table.Lowercase

/-!
# Colloquy.Text.Lower

Full lower-casing of a text. One character maps to one, except the dotted capital `İ`, which
becomes two; the capital sigma takes its final form at the end of a word.
-/

namespace Colloquy.Text

def isCased (c : Char) : Bool :=
  inRanges c.toNat casedRanges

def isCaseIgnorable (c : Char) : Bool :=
  inRanges c.toNat caseIgnorableRanges

/-- The shift of code point `n` in an ordered table of runs; zero outside the runs. -/
def shiftIn (n : Nat) : List (Nat × Nat × Nat × Int) → Int
  | [] => 0
  | (first, last, step, shift) :: rest =>
    if n < first then 0
    else if n ≤ last then (if (n - first) % step = 0 then shift else 0)
    else shiftIn n rest

/-- Lower case of a character that stands alone. -/
def lowerChar (c : Char) : List Char :=
  if c = 'İ' then ['i', '\u0307']
  else [Char.ofNat ((c.toNat : Int) + shiftIn c.toNat lowercaseRuns).toNat]

/-- Is a cased letter seen first once the case-ignorable characters are passed over? -/
def seesCased : List Char → Bool
  | [] => false
  | c :: r => if isCaseIgnorable c then seesCased r else isCased c

/-- The form of a sigma between `before` (nearest character first) and `after`: final when a
letter comes before it and none after it. -/
def lowerSigma (before after : List Char) : Char :=
  if seesCased before && !seesCased after then 'ς' else 'σ'

/-- Lower case of the rest of a text whose characters so far, nearest first, are `before`. -/
def lowerAfter (before : List Char) : List Char → List Char
  | [] => []
  | c :: r =>
    (if c = 'Σ' then [lowerSigma before r] else lowerChar c) ++ lowerAfter (c :: before) r

def lowerChars (s : List Char) : List Char :=
  lowerAfter [] s

def lower (s : String) : String :=
  String.ofList (lowerChars s.toList)

@[simp] theorem toList_lower (s : String) : (lower s).toList = lowerChars s.toList := by
  simp [lower]

end Colloquy.Text
