import Colloquy.Numeral.Binary64
import Colloquy.Numeral.Bounded

/-!
# Colloquy.Toml.Lexeme

The leaves of TOML text: blanks, line ends, comments, keys, strings, numbers, dates and times.
A reader takes a text and gives what it read with the text after it, or nothing.
-/

namespace Colloquy.Toml

open Numeral (Binary64 digit? hexDigit? digitsValue fitsInt64)

abbrev Reader (α : Type) :=
  List Char → Option (α × List Char)

/-! ### Blanks and line ends -/

def isSpace (c : Char) : Bool :=
  c = ' ' || c = '\t'

def skipSpaces (s : List Char) : List Char :=
  s.dropWhile isSpace

def newline? : List Char → Option (List Char)
  | '\n' :: r => some r
  | '\r' :: '\n' :: r => some r
  | _ => none

/-- May the character stand in a comment? No control but the tab may. -/
def isCommentChar (c : Char) : Bool :=
  c = '\t' || (0x20 ≤ c.toNat && c.toNat ≠ 0x7F)

def skipComment : List Char → List Char
  | '#' :: r => r.dropWhile isCommentChar
  | s => s

/-- Skips what may end a line: spaces, a comment, and then the line end or the end of the text. -/
def lineEnd? (s : List Char) : Option (List Char) :=
  match skipComment (skipSpaces s) with
  | [] => some []
  | s => newline? s

/-- Skips spaces, line ends and comments. A comment must be followed by a line end. -/
def skipLines : (bound : Nat) → List Char → Option (List Char)
  | 0, _ => none
  | bound + 1, s =>
    match skipSpaces s with
    | '#' :: r => (newline? (skipComment ('#' :: r))).bind (skipLines bound)
    | s =>
      match newline? s with
      | some r => skipLines bound r
      | none => if s.head? = some '\r' then none else some s

/-! ### Strings -/

/-- May the character stand unescaped in a quoted string? Quotes, backslashes and controls are
looked at elsewhere. -/
def isPlain (c : Char) : Bool :=
  isCommentChar c

/-- The character whose code point is written with exactly `count` hexadecimal digits. -/
def codePoint? (count : Nat) (s : List Char) : Option (Char × List Char) := do
  let ds := s.take count
  if ds.length ≠ count then none
  let vs ← ds.mapM hexDigit?
  let n := digitsValue 16 vs
  if n < 0xD800 ∨ (0xDFFF < n ∧ n < 0x110000) then some (Char.ofNat n, s.drop count) else none

def escape? : Reader Char
  | 'b' :: r => some ('\x08', r)
  | 'f' :: r => some ('\x0c', r)
  | 'n' :: r => some ('\n', r)
  | 'r' :: r => some ('\r', r)
  | 't' :: r => some ('\t', r)
  | '\\' :: r => some ('\\', r)
  | '"' :: r => some ('"', r)
  | 'u' :: r => codePoint? 4 r
  | 'U' :: r => codePoint? 8 r
  | _ => none

def prepend (c : Char) : Option (List Char × List Char) → Option (List Char × List Char)
  | some (cs, rest) => some (c :: cs, rest)
  | none => none

/-- The rest of a string in double quotes. -/
def basicBody : (bound : Nat) → Reader (List Char)
  | 0, _ => none
  | _ + 1, [] => none
  | _ + 1, '"' :: r => some ([], r)
  | bound + 1, '\\' :: r => do
    let (c, r) ← escape? r
    prepend c (basicBody bound r)
  | bound + 1, c :: r => if isPlain c then prepend c (basicBody bound r) else none

/-- The rest of a string in single quotes; nothing is escaped. -/
def literalBody : Reader (List Char)
  | [] => none
  | '\'' :: r => some ([], r)
  | c :: r => if isPlain c then prepend c (literalBody r) else none

/-- Up to two quotes before the closing three belong to the string. -/
def closing (quote : Char) : List Char → List Char × List Char
  | a :: b :: r =>
    if a = quote ∧ b = quote then ([quote, quote], r)
    else if a = quote then ([quote], b :: r)
    else ([], a :: b :: r)
  | [a] => if a = quote then ([quote], []) else ([], [a])
  | [] => ([], [])

/-- Skips blanks and line ends after a backslash at the end of a line. -/
def skipBlankLines : List Char → List Char
  | '\r' :: '\n' :: r => skipBlankLines r
  | c :: r => if isSpace c || c = '\n' then skipBlankLines r else c :: r
  | [] => []

/-- The rest of a string in three double quotes. -/
def longBasicBody : (bound : Nat) → Reader (List Char)
  | 0, _ => none
  | _ + 1, [] => none
  | _ + 1, '"' :: '"' :: '"' :: r => some (closing '"' r)
  | bound + 1, '\\' :: r =>
    if (newline? (skipSpaces r)).isSome then longBasicBody bound (skipBlankLines r)
    else do
      let (c, r) ← escape? r
      prepend c (longBasicBody bound r)
  | bound + 1, '\n' :: r | bound + 1, '\r' :: '\n' :: r => prepend '\n' (longBasicBody bound r)
  | bound + 1, c :: r => if isPlain c then prepend c (longBasicBody bound r) else none

/-- The rest of a string in three single quotes. -/
def longLiteralBody : Reader (List Char)
  | [] => none
  | '\'' :: '\'' :: '\'' :: r => some (closing '\'' r)
  | '\n' :: r | '\r' :: '\n' :: r => prepend '\n' (longLiteralBody r)
  | c :: r => if isPlain c then prepend c (longLiteralBody r) else none

/-- A line end straight after three opening quotes is dropped. -/
def dropNewline (s : List Char) : List Char :=
  (newline? s).getD s

def string? (s : List Char) : Option (String × List Char) :=
  let found :=
    match s with
    | '"' :: '"' :: '"' :: r => longBasicBody (r.length + 1) (dropNewline r)
    | '"' :: r => basicBody (r.length + 1) r
    | '\'' :: '\'' :: '\'' :: r => longLiteralBody (dropNewline r)
    | '\'' :: r => literalBody r
    | _ => none
  found.map fun (cs, rest) => (String.ofList cs, rest)

/-! ### Keys -/

def isBareKeyChar (c : Char) : Bool :=
  ('a' ≤ c && c ≤ 'z') || ('A' ≤ c && c ≤ 'Z') || ('0' ≤ c && c ≤ '9') || c = '-' || c = '_'

def simpleKey? (s : List Char) : Option (String × List Char) :=
  match s with
  | '"' :: r => (basicBody (r.length + 1) r).map fun (cs, rest) => (String.ofList cs, rest)
  | '\'' :: r => (literalBody r).map fun (cs, rest) => (String.ofList cs, rest)
  | s =>
    match s.takeWhile isBareKeyChar with
    | [] => none
    | cs => some (String.ofList cs, s.dropWhile isBareKeyChar)

/-- Keys joined by points, with spaces around each. -/
def dottedKey? : (bound : Nat) → Reader (List String)
  | 0, _ => none
  | bound + 1, s => do
    let (k, r) ← simpleKey? (skipSpaces s)
    match skipSpaces r with
    | '.' :: r => do
      let (ks, rest) ← dottedKey? bound r
      some (k :: ks, rest)
    | rest => some ([k], rest)

/-- How deep values may nest, and how many keys a dotted key may have. -/
def depthLimit : Nat := 79

/-- The path of a dotted key: the keys before the last, and the last. -/
def keyPath? (s : List Char) : Option ((List String × String) × List Char) := do
  let (ks, rest) ← dottedKey? depthLimit s
  let last ← ks.getLast?
  some ((ks.dropLast, last), rest)

/-! ### Numbers -/

/-- Digits of a base after the first one; an underscore must stand between two of them. -/
def moreDigits (base : Nat) : Reader (List Nat)
  | '_' :: c :: r =>
    match hexDigit? c with
    | some d =>
      if d < base then (moreDigits base r).map fun (ds, rest) => (d :: ds, rest) else none
    | none => none
  | ['_'] => none
  | c :: r =>
    match hexDigit? c with
    | some d =>
      if d < base then (moreDigits base r).map fun (ds, rest) => (d :: ds, rest)
      else some ([], c :: r)
    | none => some ([], c :: r)
  | [] => some ([], [])

def someDigits? (base : Nat) : Reader (List Nat)
  | c :: r => do
    let d ← hexDigit? c
    if base ≤ d then none
    let (ds, rest) ← moreDigits base r
    some (d :: ds, rest)
  | [] => none

def sign : List Char → Bool × List Char
  | '-' :: r => (true, r)
  | '+' :: r => (false, r)
  | s => (false, s)

/-- A decimal number without leading zeros. -/
def wholeDigits? : Reader (List Nat)
  | '0' :: r => some ([0], r)
  | s => someDigits? 10 s

def fraction? : Reader (Option (List Nat))
  | '.' :: r => (someDigits? 10 r).map fun (ds, rest) => (some ds, rest)
  | s => some (none, s)

def exponent? : Reader (Option Int)
  | c :: r =>
    if c = 'e' ∨ c = 'E' then
      let (negative, r) := sign r
      (someDigits? 10 r).map fun (ds, rest) =>
        let n : Int := digitsValue 10 ds
        (some (if negative then -n else n), rest)
    else some (none, c :: r)
  | [] => some (none, [])

/-- Is `digits · 10 ^ power` nearest to a finite number of the binary 64-bit format? -/
def isFinite (digits : List Nat) (power : Int) : Bool :=
  let n := digitsValue 10 digits
  let size : Int := (Nat.toDigits 10 n).length + power
  if n = 0 ∨ size < -400 then true
  else if 400 < size then false
  else (Binary64.round? (n * Nat.pow 10 power.toNat) (Nat.pow 10 (-power).toNat)).isSome

def inRange? (n : Int) : Option Int :=
  if fitsInt64 n then some n else none

/-- What a number is: an integer, or something that is not kept. -/
inductive Number where
  | integer (n : Int)
  | real

def basedInteger? (base : Nat) (s : List Char) : Option (Number × List Char) := do
  let (ds, rest) ← someDigits? base s
  let n ← inRange? (digitsValue base ds)
  some (.integer n, rest)

def decimal? (s : List Char) : Option (Number × List Char) := do
  let (negative, s) := sign s
  let (whole, s) ← wholeDigits? s
  let (fraction, s) ← fraction? s
  let (exponent, s) ← exponent? s
  if fraction.isNone && exponent.isNone then
    let n : Int := digitsValue 10 whole
    let n ← inRange? (if negative then -n else n)
    some (.integer n, s)
  else
    let places := fraction.getD []
    if negative || isFinite (whole ++ places) (exponent.getD 0 - places.length) then some (.real, s)
    else none

/-- Infinity or not a number, without its sign. -/
def specialReal? : Reader Number
  | 'i' :: 'n' :: 'f' :: r | 'n' :: 'a' :: 'n' :: r => some (.real, r)
  | _ => none

def number? (s : List Char) : Option (Number × List Char) :=
  match s with
  | '0' :: 'x' :: r => basedInteger? 16 r
  | '0' :: 'o' :: r => basedInteger? 8 r
  | '0' :: 'b' :: r => basedInteger? 2 r
  | s => (specialReal? (sign s).2).orElse fun _ => decimal? s

/-! ### Dates and times -/

/-- A number of exactly `count` decimal digits between two bounds. -/
def fixedNumber? (count low high : Nat) (s : List Char) : Option (Nat × List Char) := do
  let ds ← (s.take count).mapM digit?
  if ds.length ≠ count then none
  let n := digitsValue 10 ds
  if low ≤ n ∧ n ≤ high then some (n, s.drop count) else none

def expect? (c : Char) : List Char → Option (List Char)
  | d :: r => if d = c then some r else none
  | [] => none

def daysIn (year month : Nat) : Nat :=
  if month = 2 then
    (if year % 4 = 0 ∧ (year % 100 ≠ 0 ∨ year % 400 = 0) then 29 else 28)
  else if month = 4 ∨ month = 6 ∨ month = 9 ∨ month = 11 then 30
  else 31

/-- Month and day after a year and its hyphen. -/
def monthDay? (year : Nat) (s : List Char) : Option (List Char) := do
  let (month, s) ← fixedNumber? 2 1 12 s
  let s ← expect? '-' s
  let (_, s) ← fixedNumber? 2 1 (daysIn year month) s
  some s

def secondFraction? : List Char → Option (List Char)
  | '.' :: r =>
    if (r.head?.bind digit?).isSome then some (r.dropWhile fun c => (digit? c).isSome) else none
  | s => some s

/-- Minutes, seconds and their fraction after an hour and its colon. -/
def minuteSecond? (s : List Char) : Option (List Char) := do
  let (_, s) ← fixedNumber? 2 0 59 s
  let s ← expect? ':' s
  let (_, s) ← fixedNumber? 2 0 60 s
  secondFraction? s

/-- The text after an hour and its colon: what is surely a time. -/
def hourMark? (s : List Char) : Option (List Char) := do
  let (_, s) ← fixedNumber? 2 0 23 s
  expect? ':' s

def offset? : List Char → Option (List Char)
  | 'Z' :: r | 'z' :: r => some r
  | '+' :: r | '-' :: r => do
    let r ← hourMark? r
    let (_, r) ← fixedNumber? 2 0 59 r
    some r
  | s => some s

/-- The time of day after a date, if there is one. A space that no time follows is left alone. -/
def timeAfterDate? (s : List Char) : Option (List Char) :=
  match s with
  | c :: r =>
    if c = 'T' ∨ c = 't' ∨ c = ' ' then
      match hourMark? r with
      | some r => (minuteSecond? r).bind offset?
      | none => some s
    else some s
  | [] => some []

/-- A date, a time, or both, if the text opens like one; the inner result tells whether it goes on
like one. -/
def dateTime? (s : List Char) : Option (Option (List Char)) :=
  match fixedNumber? 4 0 9999 s with
  | some (year, '-' :: r) => some ((monthDay? year r).bind timeAfterDate?)
  | _ => (hourMark? s).map minuteSecond?

end Colloquy.Toml
