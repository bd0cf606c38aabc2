import Colloquy.Text.Split
import Colloquy.Text.Table.Alphabetic
import Colloquy.Text.Table.Digit
import Colloquy.Text.Table.OtherNumber
import Colloquy.Text.Table.WordChar

/-!
# Colloquy.Text.Word

Words of a text and the characters they are made of.

* `isAlphanumeric` — letters and numbers; the characters of a spoken word.
* `isWordChar`     — what may continue a name: letters, marks, decimal digits, connecting
  punctuation and joiners.
* `words`          — the maximal runs of alphanumeric characters, in order.
-/

namespace Colloquy.Text

def isAlphabetic (c : Char) : Bool :=
  inRanges c.toNat alphabeticRanges

def isDigit (c : Char) : Bool :=
  inRanges c.toNat digitRanges

def isAlphanumeric (c : Char) : Bool :=
  isAlphabetic c || isDigit c || inRanges c.toNat otherNumberRanges

def isWordChar (c : Char) : Bool :=
  inRanges c.toNat wordCharRanges

def words (s : List Char) : List (List Char) :=
  (splitBy (fun c => !isAlphanumeric c) s).filter fun w => !w.isEmpty

end Colloquy.Text
