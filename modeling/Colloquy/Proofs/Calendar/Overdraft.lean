import Colloquy.Proofs.Calendar.Elapsed

/-!
# Colloquy.Proofs.Calendar.Overdraft

When there is no time between two moments. Fields are not bounded by their units, so a field may
owe more than the one unit that it can borrow.

* `lent`      — what a field gives to the fields below it: one unit if they are later in the first
  moment than in the second.
* `Overdrawn` — some field of the first moment, with what it has lent, exceeds the field of the
  second by more than a unit.
* `elapsed?_eq_none_iff_overdrawn` — nothing is found between such moments, and between moments in
  the wrong order, but between all others.
-/

namespace Colloquy.Calendar

open Moment (compareFields)

/-- What the field above `xs` and `ys` lends when `xs` is taken from `ys`. -/
def lent (xs ys : List UInt32) : Nat :=
  if compareFields xs ys == .gt then 1 else 0

/-- A field of `a` exceeds that of `b` by more than the unit that may be borrowed for it. -/
inductive Overdrawn (cal : Calendar) (a b : Moment) : Prop where
  | minute : b.minute.toNat + cal.minutesPerHour.toNat < a.minute.toNat → Overdrawn cal a b
  | hour : b.hour.toNat + cal.hoursPerDay.toNat <
      a.hour.toNat + lent [a.minute] [b.minute] → Overdrawn cal a b
  | day : b.day.toNat + cal.daysPerMonth.toNat <
      a.day.toNat + lent [a.hour, a.minute] [b.hour, b.minute] → Overdrawn cal a b
  | month : b.month.toNat + cal.monthsPerYear.toNat <
      a.month.toNat + lent [a.day, a.hour, a.minute] [b.day, b.hour, b.minute] → Overdrawn cal a b

section Field

variable {unit x y : UInt32} {xs ys : List UInt32}

/-- A field comes out below zero exactly when it and the fields below it are later in the first
moment. -/
theorem gap_sub_lent_neg_iff :
    gap x y - lent xs ys < 0 ↔ (compareFields (x :: xs) (y :: ys) == .gt) = true := by
  have hswap : gap y x = -gap x y := by
    unfold gap
    omega
  rw [compareFields_cons_eq_gt_iff, hswap, lent]
  by_cases hlater : (compareFields xs ys == .gt) = true
  · rw [if_pos hlater]
    simp only [hlater, and_true]
    omega
  · rw [if_neg hlater]
    simp only [hlater, Bool.false_eq_true, and_false, or_false]
    omega

/-- What becomes of a field when it has lent and borrowed. -/
def balance (unit x y : UInt32) (xs ys : List UInt32) : Int :=
  gap x y - lent xs ys + lent (x :: xs) (y :: ys) * unit.toNat

theorem borrow_gap (unit : UInt32) (high : Int) :
    borrow unit (gap x y - lent xs ys) high =
      (balance unit x y xs ys, high - lent (x :: xs) (y :: ys)) := by
  unfold borrow balance
  by_cases hneg : gap x y - lent xs ys < 0
  · have hlent : lent (x :: xs) (y :: ys) = 1 := if_pos (gap_sub_lent_neg_iff.mp hneg)
    rw [if_pos hneg, hlent]
    simp
  · have hlent : lent (x :: xs) (y :: ys) = 0 :=
      if_neg fun hlater => hneg (gap_sub_lent_neg_iff.mpr hlater)
    rw [if_neg hneg, hlent]
    simp

theorem field?_eq_none_iff {v : Int} : field? v = none ↔ v < 0 ∨ UInt32.size ≤ v := by
  unfold field?
  split
  · rename_i hrange
    simp only [reduceCtorEq, false_iff]
    omega
  · rename_i hrange
    simp only [true_iff]
    omega

/-- A unit is borrowed only where it leaves the field below that unit, so that the one way to fail
is to owe more. -/
theorem field?_balance_eq_none_iff :
    field? (balance unit x y xs ys) = none ↔
      y.toNat + unit.toNat < x.toNat + lent xs ys := by
  have hy : y.toNat < UInt32.size := y.toNat_lt
  have hunit : unit.toNat < UInt32.size := unit.toNat_lt
  rw [field?_eq_none_iff, balance]
  by_cases hneg : gap x y - lent xs ys < 0
  · have hlent : lent (x :: xs) (y :: ys) = 1 := if_pos (gap_sub_lent_neg_iff.mp hneg)
    rw [hlent]
    unfold gap at hneg ⊢
    omega
  · have hlent : lent (x :: xs) (y :: ys) = 0 :=
      if_neg fun hlater => hneg (gap_sub_lent_neg_iff.mpr hlater)
    rw [hlent]
    unfold gap at hneg ⊢
    omega

end Field

variable {cal : Calendar} {a b : Moment}

theorem spanOf?_eq_none_iff {years months days hours minutes : Int} :
    spanOf? years months days hours minutes = none ↔
      field? years = none ∨ field? months = none ∨ field? days = none ∨ field? hours = none ∨
        field? minutes = none := by
  unfold spanOf?
  cases field? years <;> cases field? months <;> cases field? days <;> cases field? hours <;>
    cases field? minutes <;> simp

theorem elapsed?_eq_spanOf? (cal : Calendar) (h : a.isAfter b = false) :
    cal.elapsed? a b = spanOf?
      (gap a.year b.year -
        lent [a.month, a.day, a.hour, a.minute] [b.month, b.day, b.hour, b.minute])
      (balance cal.monthsPerYear a.month b.month [a.day, a.hour, a.minute]
        [b.day, b.hour, b.minute])
      (balance cal.daysPerMonth a.day b.day [a.hour, a.minute] [b.hour, b.minute])
      (balance cal.hoursPerDay a.hour b.hour [a.minute] [b.minute])
      (balance cal.minutesPerHour a.minute b.minute [] []) := by
  have hminute : gap a.minute b.minute = gap a.minute b.minute - lent [] [] := by
    rw [show lent [] [] = 0 from rfl]
    omega
  rw [elapsed?, h, hminute]
  simp only [borrow_gap]
  rfl

/-- The years have nothing to borrow from and never need to. -/
theorem field?_years_ne_none (h : a.isAfter b = false) :
    field? (gap a.year b.year -
      lent [a.month, a.day, a.hour, a.minute] [b.month, b.day, b.hour, b.minute]) ≠ none := by
  have hnonneg : ¬gap a.year b.year -
      lent [a.month, a.day, a.hour, a.minute] [b.month, b.day, b.hour, b.minute] < 0 := by
    intro hneg
    have hafter : a.isAfter b = true := gap_sub_lent_neg_iff.mp hneg
    rw [h] at hafter
    cases hafter
  have hb : b.year.toNat < UInt32.size := b.year.toNat_lt
  rw [Ne, field?_eq_none_iff]
  unfold gap at hnonneg ⊢
  omega

theorem elapsed?_eq_none_iff_of_not_isAfter (h : a.isAfter b = false) :
    cal.elapsed? a b = none ↔ cal.Overdrawn a b := by
  rw [elapsed?_eq_spanOf? cal h, spanOf?_eq_none_iff, field?_balance_eq_none_iff,
    field?_balance_eq_none_iff, field?_balance_eq_none_iff, field?_balance_eq_none_iff]
  constructor
  · rintro (hyear | hmonth | hday | hhour | hminute)
    · exact absurd hyear (field?_years_ne_none h)
    · exact .month hmonth
    · exact .day hday
    · exact .hour hhour
    · exact .minute hminute
  · rintro (hminute | hhour | hday | hmonth)
    · exact .inr (.inr (.inr (.inr hminute)))
    · exact .inr (.inr (.inr (.inl hhour)))
    · exact .inr (.inr (.inl hday))
    · exact .inr (.inl hmonth)

/-- Nothing is found between two moments if and only if the first is later or some field of it owes
more than one unit. No calendar is free of the second case. -/
theorem elapsed?_eq_none_iff_overdrawn (cal : Calendar) :
    (∀ a b : Moment, cal.elapsed? a b = none ↔ a.isAfter b = true ∨ cal.Overdrawn a b) ∧
      ∃ a b : Moment, a.isAfter b = false ∧ cal.elapsed? a b = none := by
  refine ⟨fun a b => ?_, ⟨0, 0, 0, cal.hoursPerDay, 1⟩, ⟨0, 0, 1, 0, 0⟩, ?_⟩
  · cases hafter : a.isAfter b with
    | true =>
      rw [elapsed?, if_pos hafter]
      simp
    | false =>
      rw [elapsed?_eq_none_iff_of_not_isAfter hafter]
      simp
  · have hafter : Moment.isAfter ⟨0, 0, 0, cal.hoursPerDay, 1⟩ ⟨0, 0, 1, 0, 0⟩ = false := rfl
    refine ⟨hafter, (elapsed?_eq_none_iff_of_not_isAfter hafter).mpr (.hour ?_)⟩
    have hlent : lent [1] [0] = 1 := rfl
    rw [hlent]
    exact Nat.lt_succ_of_le (Nat.le_of_eq (Nat.zero_add _))

/-- Minute 100 was stamped in a world of longer hours. Twenty minutes later, at the second full
hour, there is no time to it. -/
theorem no_time_twenty_minutes_later :
    let cal : Calendar := {}
    let stamp : Moment := ⟨0, 0, 0, 0, 100⟩
    let now : Moment := ⟨0, 0, 0, 2, 0⟩
    stamp.isAfter now = false ∧ cal.minutesAt now = cal.minutesAt stamp + 20 ∧
    cal.elapsed? stamp now = none ∧
    ¬∀ a b : Moment, cal.elapsed? a b = none ↔ a.isAfter b = true := by
  intro cal stamp now
  have hnone : cal.elapsed? stamp now = none := by decide
  refine ⟨by decide, by decide, hnone, fun h => ?_⟩
  exact absurd ((h stamp now).mp hnone) (by decide)

end Colloquy.Calendar
