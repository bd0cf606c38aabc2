import Colloquy.Text.Split
import Colloquy.Text.Table.GraphemeExtend
import Colloquy.Text.Table.Unprintable

/-!
# Colloquy.Text.Quoted

Texts shown in messages between double quotes. Quotes, backslashes and the common controls get a
short escape; a character without a visible form of its own is shown by its code point.
-/

namespace Colloquy.Text

/-- Letters without a glyph: the fillers of Hangul syllables. -/
def isFiller (c : Char) : Bool :=
  inRanges c.toNat [(0x115F, 0x1160), (0x3164, 0x3164), (0xFFA0, 0xFFA0)]

/-- Letters that belong to the character before them and still take a place of their own: the
halfwidth sound marks. -/
def isSoundMark (c : Char) : Bool :=
  inRanges c.toNat [(0xFF9E, 0xFF9F)]

/-- Is the character drawn onto the one before it? -/
def isAttached (c : Char) : Bool :=
  inRanges c.toNat graphemeExtendRanges && !isSoundMark c

/-- Has the character no visible form of its own? -/
def isHidden (c : Char) : Bool :=
  isFiller c || isAttached c || inRanges c.toNat unprintableRanges

def quoteChar (c : Char) : List Char :=
  match c with
  | '\x00' => ['\\', '0']
  | '\t' => ['\\', 't']
  | '\r' => ['\\', 'r']
  | '\n' => ['\\', 'n']
  | '"' => ['\\', '"']
  | '\\' => ['\\', '\\']
  | c =>
    if isHidden c then ['\\', 'u', '\x7b'] ++ Nat.toDigits 16 c.toNat ++ ['\x7d'] else [c]

def quoted (s : String) : String :=
  String.ofList (['"'] ++ s.toList.flatMap quoteChar ++ ['"'])

/-- A list of already shown items between brackets. -/
def bracketed (items : List String) : String :=
  "[" ++ join ", " items ++ "]"

def quotedList (items : List String) : String :=
  bracketed (items.map quoted)

end Colloquy.Text
