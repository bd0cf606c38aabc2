import Mathlib.Algebra.Group.Nat.Defs
import Colloquy.Numeral.Shortest

/-!
# Colloquy.Proofs.Numeral.Rounded

Integers from `2 ^ 63` to `2 ^ 64`, rounded to the binary format and written as shortest decimals.
The format steps by 2048 there, so every number of it has a multiple of 1000 among the decimals
that read back as it: the shortest one ends in three zeros (`dvd_of_text_eq`).

* `IsLarge` — the numbers that those integers are rounded to.
-/

namespace Colloquy.Numeral.Binary64

inductive IsLarge : Binary64 → Prop where
  | below {m : Nat} : 2 ^ 52 ≤ m → m < 2 ^ 53 → IsLarge ⟨m, 11⟩
  | last : IsLarge ⟨2 ^ 52, 12⟩

/-! ### Rounding -/

section Rounding

variable {n : Nat}

theorem exponentOf_large (hmin : 2 ^ 63 ≤ n) (hmax : n < 2 ^ 64) : exponentOf n 1 = 11 := by
  have hlog : Nat.log2 n = 63 := (Nat.log2_eq_iff (by omega)).mpr ⟨hmin, hmax⟩
  have hone : Nat.log2 1 = 0 := by decide
  have hguess : shifted n 1 ((63 : Nat) - (0 : Nat) - 52) = (n, 2048) := by simp [shifted]
  have hfull : ¬n / 2048 < Nat.pow 2 52 := by
    rw [Nat.pow_eq]
    omega
  rw [exponentOf, hlog, hone]
  simp only [hguess, if_neg hfull]
  rfl

theorem roundDiv_bounds (hmin : 2 ^ 63 ≤ n) (hmax : n < 2 ^ 64) :
    2 ^ 52 ≤ roundDiv n 2048 ∧ roundDiv n 2048 ≤ 2 ^ 53 := by
  simp only [roundDiv]
  split <;> omega

theorem exists_ofNat?_eq (hmin : 2 ^ 63 ≤ n) (hmax : n < 2 ^ 64) :
    ∃ x, ofNat? n = some x ∧ IsLarge x := by
  obtain ⟨hlow, hhigh⟩ := roundDiv_bounds hmin hmax
  have hne : n ≠ 0 := by omega
  have hshifted : shifted n 1 11 = (n, 2048) := by simp [shifted]
  simp only [ofNat?, round?, if_neg hne, exponentOf_large hmin hmax, hshifted]
  by_cases hcarry : roundDiv n 2048 = Nat.pow 2 53
  · simp only [if_pos hcarry]
    exact ⟨⟨2 ^ 52, 12⟩, by decide, .last⟩
  · have hbelow : roundDiv n 2048 < 2 ^ 53 := Nat.lt_of_le_of_ne hhigh hcarry
    simp only [if_neg hcarry]
    exact ⟨⟨roundDiv n 2048, 11⟩, rfl, .below hlow hbelow⟩

end Rounding

/-! ### Shortest decimals -/

section Shortest

variable {x : Binary64} {d : Decimal} {lead power : Int}

theorem power_of_onGrid? (h : x.onGrid? power = some d) : d.power = power := by
  simp only [onGrid?] at h
  split at h
  · split at h <;> cases h <;> rfl
  · cases h
    rfl
  · cases h
    rfl
  · cases h

/-- The search begins with few digits, so what it finds is no longer than anything there is. -/
theorem exists_shortestFrom_eq (hgrid : ∃ d, x.onGrid? power = some d) {count fuel : Nat}
    (hmin : power + count ≤ lead + 1) (hmax : lead + 1 ≤ power + count + fuel) :
    ∃ d, x.shortestFrom lead count fuel = some d ∧ power ≤ d.power := by
  induction fuel generalizing count with
  | zero =>
    have hpower : lead + 1 - count = power := by omega
    obtain ⟨d, hd⟩ := hgrid
    refine ⟨d, ?_, Int.le_of_eq (power_of_onGrid? hd).symm⟩
    rw [shortestFrom, hpower, hd]
  | succ fuel ih =>
    rw [shortestFrom]
    split
    · rename_i d hd
      have hpower : d.power = lead + 1 - count := power_of_onGrid? hd
      exact ⟨d, rfl, by omega⟩
    · rename_i hnone
      have hne : power ≠ lead + 1 - count := by
        rintro rfl
        obtain ⟨d, hd⟩ := hgrid
        rw [hd] at hnone
        cases hnone
      exact ih (by omega) (by omega)

theorem power_le_power_trimmed (d : Decimal) (fuel : Nat) : d.power ≤ (d.trimmed fuel).power := by
  induction fuel generalizing d with
  | zero => exact Int.le_refl _
  | succ fuel ih =>
    rw [Decimal.trimmed]
    split
    · have hrest := ih ⟨d.digits / 10, d.power + 1⟩
      dsimp only at hrest
      omega
    · exact Int.le_refl _

theorem leadingPower_bounds {n : Nat} (hmin : 10 ^ 18 ≤ n) (hmax : n < 10 ^ 20) :
    18 ≤ leadingPower n 1 ∧ leadingPower n 1 ≤ 19 := by
  have hlow : ¬(Nat.toDigits 10 n).length ≤ 18 := by
    rw [Nat.length_toDigits_le_iff (by decide) (by decide)]
    omega
  have hhigh : (Nat.toDigits 10 n).length ≤ 20 := by
    rw [Nat.length_toDigits_le_iff (by decide) (by decide)]
    exact hmax
  rw [leadingPower, if_pos (by omega), Nat.div_one]
  omega

/-- There is a multiple of 1000 that reads back as the number. -/
theorem IsLarge.exists_onGrid? (h : IsLarge x) : ∃ d, x.onGrid? 3 = some d := by
  cases h with
  | last => exact ⟨⟨18446744073709552, 3⟩, by decide⟩
  | @below m hmin hmax =>
    by_cases hfirst : m = 2 ^ 52
    · subst hfirst
      exact ⟨⟨9223372036854776, 3⟩, by decide⟩
    · cases hgrid : onGrid? ⟨m, 11⟩ 3 with
      | some d => exact ⟨d, rfl⟩
      | none =>
        exfalso
        simp only [onGrid?] at hgrid
        split at hgrid
        · split at hgrid <;> cases hgrid
        · cases hgrid
        · cases hgrid
        · -- the multiple next below lies within 1000, and the interval reaches 1024 down
          rename_i hbelow _
          have hinner : ¬m = Nat.pow 2 52 := hfirst
          simp [hinner] at hbelow
          split at hbelow <;> omega

theorem IsLarge.three_le_power (h : IsLarge x) : 3 ≤ x.shortest.power := by
  have hne : x.mantissa ≠ 0 := by
    cases h <;> dsimp only <;> omega
  have hden : x.den = 1 := by
    cases h <;> rfl
  have hnum : 10 ^ 18 ≤ x.num ∧ x.num < 10 ^ 20 := by
    cases h with
    | below hmin hmax =>
      simp [num]
      omega
    | last => decide
  obtain ⟨hlow, hhigh⟩ := leadingPower_bounds hnum.1 hnum.2
  rw [← hden] at hlow hhigh
  obtain ⟨d, hd, hpower⟩ : ∃ d, x.shortestFrom (leadingPower x.num x.den) 1 16 = some d ∧
      3 ≤ d.power := exists_shortestFrom_eq h.exists_onGrid? (by omega) (by omega)
  rw [shortest, if_neg hne, hd]
  exact hpower

/-! ### Texts -/

theorem Decimal.dvd_of_text_eq {d : Decimal} {n : Nat} (hpower : 3 ≤ d.power)
    (h : d.text = ofNat n) : 1000 ∣ n := by
  have hdigits : Nat.toDigits 10 d.digits ++ List.replicate d.power.toNat '0' =
      Nat.toDigits 10 n := by
    simp only [Decimal.text, if_pos (show 0 ≤ d.power by omega)] at h
    exact String.ofList_inj.mp h
  have hvalue : 10 ^ d.power.toNat * d.digits = n := by
    calc 10 ^ d.power.toNat * d.digits
      _ = Nat.ofDigitChars 10 (Nat.toDigits 10 d.digits ++ List.replicate d.power.toNat '0') 0 := by
        rw [Nat.ofDigitChars_append, Nat.ofDigitChars_ten_toDigits, Nat.ofDigitChars_replicate_zero]
      _ = n := by rw [hdigits, Nat.ofDigitChars_ten_toDigits]
  have hpow : 10 ^ 3 ∣ 10 ^ d.power.toNat := Nat.pow_dvd_pow 10 (by omega)
  rw [← hvalue]
  exact Nat.dvd_trans hpow (Nat.dvd_mul_right _ _)

/-- A large number is written with its own digits only if it is a multiple of 1000. -/
theorem IsLarge.dvd_of_text_eq {n : Nat} (h : IsLarge x) (htext : x.text false = ofNat n) :
    1000 ∣ n := by
  have hpower : 3 ≤ (x.shortest.trimmed 17).power :=
    Int.le_trans h.three_le_power (power_le_power_trimmed _ _)
  apply Decimal.dvd_of_text_eq hpower
  simpa [text] using htext

end Shortest

end Colloquy.Numeral.Binary64
