import Colloquy.Flag.Name
import Colloquy.Text.Blank
import Colloquy.Text.Lower
import Colloquy.Text.Word

/-!
# Colloquy.Keyword

Keywords of a rule and the utterances they are heard in.

* `Keyword.ofPattern` — the keywords of a written pattern: trimmed, in lower case, none empty.
* `Keyword.heardIn`   — whether a keyword is heard in an utterance. Case never matters, and the
  wildcard is heard in everything.
-/

namespace Colloquy

open Text

inductive MatchMode where
  /-- The keyword stands anywhere in the utterance. -/
  | substring
  /-- The words of the keyword are neighbouring whole words of the utterance. -/
  | exactToken
  deriving DecidableEq, Repr, Inhabited

namespace Keyword

/-- Stands between alternative keywords of a pattern. -/
def separator : Char := '|'

def ofPattern (pattern : String) : List String :=
  ((split separator pattern).map fun k => lower (trim k)).filter fun k => !k.toList.isEmpty

/-- The pattern of a list of keywords. -/
def pattern (keywords : List String) : String :=
  join "|" keywords

/-- Are the words of `keyword` neighbours in `utterance`? No keyword without words is. -/
def wordsOccur (keyword utterance : List Char) : Bool :=
  let wanted := words keyword
  !wanted.isEmpty && occurs wanted (words utterance)

def heardIn (mode : MatchMode) (keyword utterance : String) : Bool :=
  if keyword = Flag.wildcard then true
  else
    let keyword := lowerChars keyword.toList
    let utterance := lowerChars utterance.toList
    match mode with
    | .substring => occurs keyword utterance
    | .exactToken => wordsOccur keyword utterance

end Keyword

end Colloquy
