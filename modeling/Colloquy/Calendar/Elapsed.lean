import Colloquy.Calendar.Moment

/-!
# Colloquy.Calendar.Elapsed

Lengths of game time and the time between two moments.

* `Span.minutesIn`    — the length of a span in minutes, every field carried upward.
* `Calendar.elapsed?` — field-wise subtraction, where a field below zero borrows one unit from the
  field above it.
* `Calendar.hasElapsed` — whether a given span has passed between two moments.
-/

namespace Colloquy

/-- A length of game time. A field may exceed its unit: 48 hours are fine. -/
structure Span where
  years : UInt32
  months : UInt32
  days : UInt32
  hours : UInt32
  minutes : UInt32
  deriving DecidableEq, Repr, Inhabited

structure Calendar where
  monthsPerYear : UInt32 := 17
  daysPerMonth : UInt32 := 28
  hoursPerDay : UInt32 := 28
  minutesPerHour : UInt32 := 60
  deriving DecidableEq, Repr, Inhabited

namespace Span

def fields (s : Span) : List UInt32 :=
  [s.years, s.months, s.days, s.hours, s.minutes]

def ofFields? : List UInt32 → Option Span
  | [years, months, days, hours, minutes] => some ⟨years, months, days, hours, minutes⟩
  | _ => none

def ofDays (n : UInt32) : Span :=
  ⟨0, 0, n, 0, 0⟩

end Span

namespace Calendar

/-- The mixed-radix value of five fields, in minutes. -/
def minutesOf (cal : Calendar) (years months days hours minutes : Nat) : Nat :=
  (((years * cal.monthsPerYear.toNat + months) * cal.daysPerMonth.toNat + days)
    * cal.hoursPerDay.toNat + hours) * cal.minutesPerHour.toNat + minutes

def minutesAt (cal : Calendar) (t : Moment) : Nat :=
  cal.minutesOf t.year.toNat t.month.toNat t.day.toNat t.hour.toNat t.minute.toNat

def gap (a b : UInt32) : Int :=
  (b.toNat : Int) - a.toNat

/-- A field below zero takes one unit from the next field up. -/
def borrow (unit : UInt32) (low high : Int) : Int × Int :=
  if low < 0 then (low + unit.toNat, high - 1) else (low, high)

def field? (v : Int) : Option UInt32 :=
  if 0 ≤ v ∧ v < UInt32.size then some (UInt32.ofNat v.toNat) else none

/-- The time from `a` to `b`: nothing when `a` is after `b`, or when one borrow per field does not
bring every field to zero or above. -/
def elapsed? (cal : Calendar) (a b : Moment) : Option Span :=
  if a.isAfter b then none
  else
    let (minutes, hours) := borrow cal.minutesPerHour (gap a.minute b.minute) (gap a.hour b.hour)
    let (hours, days) := borrow cal.hoursPerDay hours (gap a.day b.day)
    let (days, months) := borrow cal.daysPerMonth days (gap a.month b.month)
    let (months, years) := borrow cal.monthsPerYear months (gap a.year b.year)
    match field? years, field? months, field? days, field? hours, field? minutes with
    | some years, some months, some days, some hours, some minutes =>
      some ⟨years, months, days, hours, minutes⟩
    | _, _, _, _, _ => none

end Calendar

def Span.minutesIn (s : Span) (cal : Calendar) : Nat :=
  cal.minutesOf s.years.toNat s.months.toNat s.days.toNat s.hours.toNat s.minutes.toNat

def Calendar.hasElapsed (cal : Calendar) (a b : Moment) (threshold : Span) : Bool :=
  match cal.elapsed? a b with
  | some s => threshold.minutesIn cal ≤ s.minutesIn cal
  | none => false

end Colloquy
