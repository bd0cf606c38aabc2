import Colloquy.Text.Word

/-!
# Colloquy.Placeholder

Names filled into a response. `$me` stands for the speaker and `$you` for the one spoken to, each
only where the word ends there. A filled-in name is not looked at again.
-/

namespace Colloquy.Placeholder

open Text

/-- Does a word end before this text? -/
def wordEnds : List Char → Bool
  | [] => true
  | c :: _ => !isWordChar c

def fillChars (me you : List Char) : List Char → List Char
  | [] => []
  | '$' :: 'm' :: 'e' :: r =>
    (if wordEnds r then me else ['$', 'm', 'e']) ++ fillChars me you r
  | '$' :: 'y' :: 'o' :: 'u' :: r =>
    (if wordEnds r then you else ['$', 'y', 'o', 'u']) ++ fillChars me you r
  | c :: r => c :: fillChars me you r

def fill (me you text : String) : String :=
  String.ofList (fillChars me.toList you.toList text.toList)

end Colloquy.Placeholder
