import Colloquy.Proofs.Calendar.Elapsed

/-!
# Colloquy.Proofs.Calendar.Window

Moments whose fields lie in windows of their units' lengths. A window may start anywhere: months are
counted from 1 in one world and from 0 in another.

* `SharesWindow`            — two fields lie in one window of a unit's length.
* `Calendar.InWindows`      — the fields of two moments do, the years apart.
* `elapsed?_counts_minutes` — subtraction with borrowing, against moments counted in minutes.
-/

namespace Colloquy.Calendar

/-- Both fields lie in one stretch of a unit's length. -/
def SharesWindow (unit x y : UInt32) : Prop :=
  ∃ start : Nat, (start ≤ x.toNat ∧ x.toNat < start + unit.toNat) ∧
    start ≤ y.toNat ∧ y.toNat < start + unit.toNat

structure InWindows (cal : Calendar) (a b : Moment) : Prop where
  month : SharesWindow cal.monthsPerYear a.month b.month
  day : SharesWindow cal.daysPerMonth a.day b.day
  hour : SharesWindow cal.hoursPerDay a.hour b.hour
  minute : SharesWindow cal.minutesPerHour a.minute b.minute

theorem sharesWindow_iff {unit x y : UInt32} :
    SharesWindow unit x y ↔ (gap x y).natAbs < unit.toNat := by
  unfold gap
  constructor
  · rintro ⟨start, hx, hy⟩
    omega
  · intro hnear
    refine ⟨min x.toNat y.toNat, ?_, ?_⟩ <;> omega

variable {cal : Calendar} {a b : Moment}

theorem InWindows.near (h : cal.InWindows a b) : cal.Near a b where
  month := sharesWindow_iff.mp h.month
  day := sharesWindow_iff.mp h.day
  hour := sharesWindow_iff.mp h.hour
  minute := sharesWindow_iff.mp h.minute

/-- The time found between two moments is the difference of their minutes, whatever their fields.
If the fields lie in windows of the units' lengths, there is a time to every moment that is not
earlier, with each field below its unit, and a span has passed if and only if its minutes have. -/
theorem elapsed?_counts_minutes (cal : Calendar) (a b : Moment) :
    (∀ s, cal.elapsed? a b = some s →
      (s.minutesIn cal : Int) = cal.minutesAt b - cal.minutesAt a) ∧
    (cal.InWindows a b →
      (a.isAfter b = false → ∃ s, cal.elapsed? a b = some s ∧
        s.months < cal.monthsPerYear ∧ s.days < cal.daysPerMonth ∧
        s.hours < cal.hoursPerDay ∧ s.minutes < cal.minutesPerHour) ∧
      ∀ threshold, cal.hasElapsed a b threshold = true ↔
        cal.minutesAt a + threshold.minutesIn cal ≤ cal.minutesAt b) := by
  constructor
  · intro s hs
    have hexact := elapsed?_exact hs
    omega
  · intro hwindows
    have hnear : cal.Near a b := hwindows.near
    exact ⟨fun hle => exists_elapsed? hnear hle, fun threshold => hasElapsed_iff hnear threshold⟩

/-- Days and months are counted from 1 here: two minutes pass from the last minute of a year to the
second one of the next. -/
theorem elapsed?_counts_minutes_new_year :
    let cal : Calendar := {}
    let last : Moment := ⟨3, 17, 28, 27, 59⟩
    let first : Moment := ⟨4, 1, 1, 0, 1⟩
    cal.InWindows last first ∧ last.isAfter first = false ∧
    (∃ s, cal.elapsed? last first = some s ∧ s.minutes < cal.minutesPerHour ∧
      (s.minutesIn cal : Int) = 2) ∧
    cal.hasElapsed last first ⟨0, 0, 0, 0, 2⟩ = true ∧
    ¬cal.hasElapsed last first ⟨0, 0, 0, 0, 3⟩ = true := by
  intro cal last first
  have hwindows : cal.InWindows last first :=
    { month := ⟨1, by decide⟩
      day := ⟨1, by decide⟩
      hour := ⟨0, by decide⟩
      minute := ⟨0, by decide⟩ }
  obtain ⟨hexact, hin⟩ := elapsed?_counts_minutes cal last first
  obtain ⟨hexists, hpassed⟩ := hin hwindows
  obtain ⟨s, hs, -, -, -, hminutes⟩ := hexists (by decide)
  refine ⟨hwindows, by decide, ⟨s, hs, hminutes, ?_⟩, ?_, ?_⟩
  · rw [hexact s hs]
    decide
  · rw [hpassed]
    decide
  · rw [hpassed]
    decide

end Colloquy.Calendar
