import Colloquy.Numeral.Bounded
import Colloquy.Text.Blank
import Colloquy.Text.Split

/-!
# Colloquy.Calendar.Moment

Points in game time and their written form `year-month-day-hour-minute`.

* `Moment.text`  — the five fields joined by `-`.
* `Moment.read`  — the inverse; every field may have blanks around it and a plus sign. A bad field
  is reported before a wrong number of fields.
-/

namespace Colloquy

open Text

/-- A point in game time. No field is bounded by the calendar. -/
structure Moment where
  year : UInt32
  month : UInt32
  day : UInt32
  hour : UInt32
  minute : UInt32
  deriving DecidableEq, Repr, Inhabited

namespace Moment

def fields (t : Moment) : List UInt32 :=
  [t.year, t.month, t.day, t.hour, t.minute]

def ofFields? : List UInt32 → Option Moment
  | [year, month, day, hour, minute] => some ⟨year, month, day, hour, minute⟩
  | _ => none

/-- Lexicographic order on fields, the first one weighing most. -/
def compareFields : List UInt32 → List UInt32 → Ordering
  | [], [] => .eq
  | [], _ => .lt
  | _, [] => .gt
  | a :: as, b :: bs => if a < b then .lt else if b < a then .gt else compareFields as bs

def compare (a b : Moment) : Ordering :=
  compareFields a.fields b.fields

def isAfter (a b : Moment) : Bool :=
  a.compare b == .gt

def text (t : Moment) : String :=
  join "-" (t.fields.map Numeral.ofUInt32)

inductive Fault where
  | badField (cause : Numeral.Fault)
  | fieldCount (found : Nat)
  deriving DecidableEq, Repr

def Fault.message (source : String) : Fault → String
  | .badField cause => "parsing timestamp '" ++ source ++ "': " ++ cause.message
  | .fieldCount found =>
    "timestamp '" ++ source ++ "' needs exactly five fields, found " ++ Numeral.ofNat found

/-- Reads every field; the first bad one is the fault. -/
def readFields : List (List Char) → Except Numeral.Fault (List UInt32)
  | [] => .ok []
  | w :: ws =>
    match Numeral.readUInt32 (trimChars w) with
    | .error e => .error e
    | .ok n =>
      match readFields ws with
      | .error e => .error e
      | .ok ns => .ok (n :: ns)

def read (s : String) : Except Fault Moment :=
  match readFields (splitBy (· == '-') s.toList) with
  | .error e => .error (.badField e)
  | .ok ns =>
    match ofFields? ns with
    | some t => .ok t
    | none => .error (.fieldCount ns.length)

end Moment

end Colloquy
