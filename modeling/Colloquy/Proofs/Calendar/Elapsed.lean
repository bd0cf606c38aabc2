import Colloquy.Calendar.Elapsed

/-!
# Colloquy.Proofs.Calendar.Elapsed

The time between two moments, against moments counted in minutes.

* `signedMinutes`      — the value of five fields that may be below zero. Borrowing keeps it.
* `elapsed?_exact`     — the time between two moments is the difference of their minutes.
* `Calendar.Near`      — the fields of two moments differ by less than their units, as they do if
  both are in range. Then only a later moment has no time to it (`exists_elapsed?`).
* `hasElapsed_iff`     — whether a span has passed, in minutes.
-/

namespace Colloquy.Calendar

/-! ### One field on top of another -/

section Digit

variable {unit : Nat} {high low : Int}

theorem unit_le_mul (h : 0 < high) : (unit : Int) ≤ high * unit := by
  have hle : 1 * (unit : Int) ≤ high * unit :=
    Int.mul_le_mul_of_nonneg_right h (Int.natCast_nonneg unit)
  omega

theorem mul_le_neg_unit (h : high < 0) : high * unit ≤ -(unit : Int) := by
  have hle : high * unit ≤ -1 * (unit : Int) :=
    Int.mul_le_mul_of_nonneg_right (Int.le_sub_one_of_lt h) (Int.natCast_nonneg unit)
  omega

theorem digit_pos_iff (hlow : low.natAbs < unit) :
    0 < high * unit + low ↔ 0 < high ∨ high = 0 ∧ 0 < low := by
  rcases Int.lt_trichotomy high 0 with hneg | rfl | hpos
  · have hle : high * unit ≤ -(unit : Int) := mul_le_neg_unit hneg
    omega
  · omega
  · have hle : (unit : Int) ≤ high * unit := unit_le_mul hpos
    omega

theorem digit_eq_zero_iff (hlow : low.natAbs < unit) :
    high * unit + low = 0 ↔ high = 0 ∧ low = 0 := by
  rcases Int.lt_trichotomy high 0 with hneg | rfl | hpos
  · have hle : high * unit ≤ -(unit : Int) := mul_le_neg_unit hneg
    omega
  · omega
  · have hle : (unit : Int) ≤ high * unit := unit_le_mul hpos
    omega

theorem high_nonneg (hlow : low < unit) (h : 0 ≤ high * unit + low) : 0 ≤ high := by
  apply Int.not_lt.mp
  intro hneg
  have hle : high * unit ≤ -(unit : Int) := mul_le_neg_unit hneg
  omega

end Digit

section Borrow

variable {unit : UInt32} {low high l h : Int}

/-- What one field gains the other gives. -/
theorem borrow_value (hborrow : borrow unit low high = (l, h)) :
    h * unit.toNat + l = high * unit.toNat + low := by
  unfold borrow at hborrow
  split at hborrow
  · cases hborrow
    rw [Int.sub_mul]
    omega
  · cases hborrow
    rfl

theorem borrow_value_below (hborrow : borrow unit low high = (l, h)) (x : Int) :
    (x + h) * unit.toNat + l = (x + high) * unit.toNat + low := by
  rw [Int.add_mul, Int.add_mul, Int.add_assoc, Int.add_assoc, borrow_value hborrow]

theorem borrow_range (hborrow : borrow unit low high = (l, h)) (hmin : -(unit.toNat : Int) ≤ low)
    (hmax : low < unit.toNat) : 0 ≤ l ∧ l < unit.toNat ∧ high - 1 ≤ h ∧ h ≤ high := by
  unfold borrow at hborrow
  split at hborrow
  · cases hborrow
    omega
  · cases hborrow
    omega

end Borrow

theorem field?_eq_some_iff {v : Int} {n : UInt32} : field? v = some n ↔ v = n.toNat := by
  unfold field?
  constructor
  · intro h
    split at h
    · rename_i hrange
      cases h
      rw [UInt32.toNat_ofNat_of_lt' (by omega)]
      omega
    · cases h
  · rintro rfl
    have hrange : 0 ≤ (n.toNat : Int) ∧ (n.toNat : Int) < UInt32.size := by
      have hlt : n.toNat < UInt32.size := n.toNat_lt
      omega
    rw [if_pos hrange, Int.toNat_natCast, UInt32.ofNat_toNat]

/-! ### Five fields -/

/-- The value in minutes of five fields that may be below zero. -/
def signedMinutes (cal : Calendar) (years months days hours minutes : Int) : Int :=
  (((years * cal.monthsPerYear.toNat + months) * cal.daysPerMonth.toNat + days)
    * cal.hoursPerDay.toNat + hours) * cal.minutesPerHour.toNat + minutes

theorem coe_minutesOf (cal : Calendar) (years months days hours minutes : Nat) :
    (cal.minutesOf years months days hours minutes : Int) =
      cal.signedMinutes years months days hours minutes := by
  simp only [minutesOf, signedMinutes, Int.natCast_add, Int.natCast_mul]

theorem signedMinutes_gap (cal : Calendar) (a b : Moment) :
    cal.signedMinutes (gap a.year b.year) (gap a.month b.month) (gap a.day b.day)
      (gap a.hour b.hour) (gap a.minute b.minute) = cal.minutesAt b - cal.minutesAt a := by
  rw [minutesAt, minutesAt, coe_minutesOf, coe_minutesOf]
  simp only [signedMinutes, gap, Int.sub_mul, Int.add_mul]
  omega

variable {cal : Calendar} {a b : Moment}

/-- The fields of two moments differ by less than their units; years have none. -/
structure Near (cal : Calendar) (a b : Moment) : Prop where
  month : (gap a.month b.month).natAbs < cal.monthsPerYear.toNat
  day : (gap a.day b.day).natAbs < cal.daysPerMonth.toNat
  hour : (gap a.hour b.hour).natAbs < cal.hoursPerDay.toNat
  minute : (gap a.minute b.minute).natAbs < cal.minutesPerHour.toNat

structure InRange (cal : Calendar) (t : Moment) : Prop where
  month : t.month < cal.monthsPerYear
  day : t.day < cal.daysPerMonth
  hour : t.hour < cal.hoursPerDay
  minute : t.minute < cal.minutesPerHour

theorem Near.symm (h : cal.Near a b) : cal.Near b a := by
  have hswap : ∀ x y : UInt32, (gap y x).natAbs = (gap x y).natAbs := by
    intro x y
    unfold gap
    omega
  constructor
  · rw [hswap]
    exact h.month
  · rw [hswap]
    exact h.day
  · rw [hswap]
    exact h.hour
  · rw [hswap]
    exact h.minute

theorem natAbs_gap_lt {x y unit : UInt32} (hx : x < unit) (hy : y < unit) :
    (gap x y).natAbs < unit.toNat := by
  have hx' : x.toNat < unit.toNat := hx
  have hy' : y.toNat < unit.toNat := hy
  unfold gap
  omega

theorem InRange.near (ha : cal.InRange a) (hb : cal.InRange b) : cal.Near a b where
  month := natAbs_gap_lt ha.month hb.month
  day := natAbs_gap_lt ha.day hb.day
  hour := natAbs_gap_lt ha.hour hb.hour
  minute := natAbs_gap_lt ha.minute hb.minute

/-! ### Order -/

theorem gap_pos_iff {x y : UInt32} : 0 < gap x y ↔ x < y := by
  rw [UInt32.lt_iff_toNat_lt]
  unfold gap
  omega

theorem gap_eq_zero_iff {x y : UInt32} : gap x y = 0 ↔ x = y := by
  rw [← UInt32.toNat_inj]
  unfold gap
  omega

theorem compareFields_cons_eq_gt_iff {x y : UInt32} {xs ys : List UInt32} :
    (Moment.compareFields (y :: ys) (x :: xs) == .gt) = true ↔
      0 < gap x y ∨ gap x y = 0 ∧ (Moment.compareFields ys xs == .gt) = true := by
  rw [gap_pos_iff, gap_eq_zero_iff, Moment.compareFields]
  by_cases hback : y < x
  · have hnot : ¬x < y := UInt32.not_lt.mpr (UInt32.le_of_lt hback)
    have hne : x ≠ y := fun heq => hnot (heq ▸ hback)
    simp [hback, hnot, hne]
  · by_cases hafter : x < y
    · simp [hback, hafter]
    · have heq : x = y := UInt32.le_antisymm (UInt32.not_lt.mp hback) (UInt32.not_lt.mp hafter)
      simp [heq]

/-- The order of moments, field by field. -/
theorem isAfter_iff :
    b.isAfter a = true ↔
      0 < gap a.year b.year ∨ gap a.year b.year = 0 ∧
      (0 < gap a.month b.month ∨ gap a.month b.month = 0 ∧
      (0 < gap a.day b.day ∨ gap a.day b.day = 0 ∧
      (0 < gap a.hour b.hour ∨ gap a.hour b.hour = 0 ∧ 0 < gap a.minute b.minute))) := by
  rw [Moment.isAfter, Moment.compare, Moment.fields, Moment.fields]
  simp only [compareFields_cons_eq_gt_iff]
  simp [Moment.compareFields]

theorem minutesAt_lt_iff (h : cal.Near a b) :
    cal.minutesAt a < cal.minutesAt b ↔ b.isAfter a = true := by
  have hsign : cal.minutesAt a < cal.minutesAt b ↔
      0 < cal.signedMinutes (gap a.year b.year) (gap a.month b.month) (gap a.day b.day)
        (gap a.hour b.hour) (gap a.minute b.minute) := by
    rw [signedMinutes_gap]
    omega
  rw [hsign, signedMinutes, digit_pos_iff h.minute, digit_pos_iff h.hour, digit_eq_zero_iff h.hour,
    digit_pos_iff h.day, digit_eq_zero_iff h.day, digit_pos_iff h.month, digit_eq_zero_iff h.month,
    isAfter_iff]
  omega

theorem minutesAt_le_iff (h : cal.Near a b) :
    cal.minutesAt a ≤ cal.minutesAt b ↔ a.isAfter b = false := by
  rw [← Nat.not_lt, minutesAt_lt_iff h.symm, Bool.not_eq_true]

/-! ### Subtraction -/

/-- The span with the given fields, if they can be. -/
def spanOf? (years months days hours minutes : Int) : Option Span :=
  match field? years, field? months, field? days, field? hours, field? minutes with
  | some years, some months, some days, some hours, some minutes =>
    some ⟨years, months, days, hours, minutes⟩
  | _, _, _, _, _ => none

theorem spanOf?_eq_some_iff {years months days hours minutes : Int} {s : Span} :
    spanOf? years months days hours minutes = some s ↔
      years = s.years.toNat ∧ months = s.months.toNat ∧ days = s.days.toNat ∧
        hours = s.hours.toNat ∧ minutes = s.minutes.toNat := by
  simp only [← field?_eq_some_iff]
  unfold spanOf?
  constructor
  · intro h
    split at h
    · rename_i hyears hmonths hdays hhours hminutes
      cases h
      exact ⟨hyears, hmonths, hdays, hhours, hminutes⟩
    · cases h
  · rintro ⟨hyears, hmonths, hdays, hhours, hminutes⟩
    rw [hyears, hmonths, hdays, hhours, hminutes]

/-- The subtraction is a span with the value of the field-wise differences, and if these are small
each of its fields is below its unit. -/
theorem exists_elapsed?_eq (cal : Calendar) (h : a.isAfter b = false) :
    ∃ years months days hours minutes : Int,
      cal.elapsed? a b = spanOf? years months days hours minutes ∧
      cal.signedMinutes years months days hours minutes = cal.minutesAt b - cal.minutesAt a ∧
      (cal.Near a b → years ≤ gap a.year b.year ∧
        (0 ≤ months ∧ months < cal.monthsPerYear.toNat) ∧
        (0 ≤ days ∧ days < cal.daysPerMonth.toNat) ∧
        (0 ≤ hours ∧ hours < cal.hoursPerDay.toNat) ∧
        (0 ≤ minutes ∧ minutes < cal.minutesPerHour.toNat)) := by
  -- each borrow is given a name, the lowest first; an index marks a field that is still to lend
  obtain ⟨⟨minutes, hours₁⟩, hminutes⟩ : ∃ p, borrow cal.minutesPerHour (gap a.minute b.minute)
      (gap a.hour b.hour) = p := ⟨_, rfl⟩
  obtain ⟨⟨hours, days₁⟩, hhours⟩ : ∃ p, borrow cal.hoursPerDay hours₁ (gap a.day b.day) = p :=
    ⟨_, rfl⟩
  obtain ⟨⟨days, months₁⟩, hdays⟩ : ∃ p, borrow cal.daysPerMonth days₁ (gap a.month b.month) = p :=
    ⟨_, rfl⟩
  obtain ⟨⟨months, years⟩, hmonths⟩ :
      ∃ p, borrow cal.monthsPerYear months₁ (gap a.year b.year) = p := ⟨_, rfl⟩
  refine ⟨years, months, days, hours, minutes, ?_, ?_, ?_⟩
  · unfold elapsed?
    rw [h, hminutes]
    dsimp only
    rw [hhours]
    dsimp only
    rw [hdays]
    dsimp only
    rw [hmonths]
    rfl
  · rw [← signedMinutes_gap]
    unfold signedMinutes
    rw [borrow_value hmonths, borrow_value_below hdays, borrow_value_below hhours,
      borrow_value_below hminutes]
  · rintro ⟨hmonth, hday, hhour, hminute⟩
    have hminutes := borrow_range hminutes (by omega) (by omega)
    have hhours := borrow_range hhours (by omega) (by omega)
    have hdays := borrow_range hdays (by omega) (by omega)
    have hmonths := borrow_range hmonths (by omega) (by omega)
    omega

/-- For any two moments, whatever their fields: what is found is the exact time between them. -/
theorem elapsed?_exact {s : Span} (h : cal.elapsed? a b = some s) :
    cal.minutesAt a + s.minutesIn cal = cal.minutesAt b := by
  have hnot : a.isAfter b = false := by
    unfold elapsed? at h
    split at h
    · cases h
    · rename_i hnot
      exact eq_false_of_ne_true hnot
  obtain ⟨years, months, days, hours, minutes, heq, hvalue, -⟩ := exists_elapsed?_eq cal hnot
  rw [heq] at h
  obtain ⟨rfl, rfl, rfl, rfl, rfl⟩ := spanOf?_eq_some_iff.mp h
  rw [← coe_minutesOf] at hvalue
  change (s.minutesIn cal : Int) = _ at hvalue
  omega

theorem exists_toNat_eq {v : Int} {bound : UInt32} (hmin : 0 ≤ v) (hmax : v ≤ bound.toNat) :
    ∃ n : UInt32, v = n.toNat := by
  have hlt : v.toNat < UInt32.size := by
    have hbound : bound.toNat < UInt32.size := bound.toNat_lt
    omega
  have hn : (UInt32.ofNat v.toNat).toNat = v.toNat := UInt32.toNat_ofNat_of_lt' hlt
  exact ⟨UInt32.ofNat v.toNat, by omega⟩

/-- Between near moments only the later one has no time to the earlier one. -/
theorem exists_elapsed? (hnear : cal.Near a b) (h : a.isAfter b = false) :
    ∃ s, cal.elapsed? a b = some s ∧ s.months < cal.monthsPerYear ∧ s.days < cal.daysPerMonth ∧
      s.hours < cal.hoursPerDay ∧ s.minutes < cal.minutesPerHour := by
  obtain ⟨years, months, days, hours, minutes, heq, hvalue, hrange⟩ :=
    exists_elapsed?_eq cal h
  obtain ⟨hgap, hmonths, hdays, hhours, hminutes⟩ := hrange hnear
  have hle : cal.minutesAt a ≤ cal.minutesAt b := (minutesAt_le_iff hnear).mpr h
  -- there is no field that the years could borrow from: here it matters that `a` is not later
  have hnonneg : 0 ≤ years := by
    have htotal : 0 ≤ cal.signedMinutes years months days hours minutes := by omega
    exact high_nonneg hmonths.2
      (high_nonneg hdays.2 (high_nonneg hhours.2 (high_nonneg hminutes.2 htotal)))
  have hlast : years ≤ b.year.toNat := by
    unfold gap at hgap
    omega
  obtain ⟨y, rfl⟩ := exists_toNat_eq hnonneg hlast
  obtain ⟨m, rfl⟩ := exists_toNat_eq hmonths.1 (Int.le_of_lt hmonths.2)
  obtain ⟨d, rfl⟩ := exists_toNat_eq hdays.1 (Int.le_of_lt hdays.2)
  obtain ⟨h, rfl⟩ := exists_toNat_eq hhours.1 (Int.le_of_lt hhours.2)
  obtain ⟨n, rfl⟩ := exists_toNat_eq hminutes.1 (Int.le_of_lt hminutes.2)
  refine ⟨⟨y, m, d, h, n⟩, ?_, ?_, ?_, ?_, ?_⟩
  · rw [heq]
    exact spanOf?_eq_some_iff.mpr ⟨rfl, rfl, rfl, rfl, rfl⟩
  · exact Int.ofNat_lt.mp hmonths.2
  · exact Int.ofNat_lt.mp hdays.2
  · exact Int.ofNat_lt.mp hhours.2
  · exact Int.ofNat_lt.mp hminutes.2

/-- For near moments, whether a span has passed is a comparison of minutes. -/
theorem hasElapsed_iff (h : cal.Near a b) (s : Span) :
    cal.hasElapsed a b s = true ↔ cal.minutesAt a + s.minutesIn cal ≤ cal.minutesAt b := by
  unfold hasElapsed
  cases hafter : a.isAfter b with
  | true =>
    have hlt : cal.minutesAt b < cal.minutesAt a := (minutesAt_lt_iff h.symm).mpr hafter
    have hnone : cal.elapsed? a b = none := by rw [elapsed?, if_pos hafter]
    rw [hnone]
    exact iff_of_false Bool.false_ne_true (by omega)
  | false =>
    obtain ⟨passed, hpassed, -⟩ := exists_elapsed? h hafter
    have hexact := elapsed?_exact hpassed
    rw [hpassed]
    dsimp only
    rw [decide_eq_true_iff]
    omega

end Colloquy.Calendar
