import Colloquy.Numeral.Bounded
import Colloquy.Text.Blank

/-!
# Colloquy.Proofs.Numeral

Written numbers are read back: `readUInt32_ofUInt32`, `readUInt64_ofUInt64`, `readInt64_ofInt64`.
A numeral holds no blank, so trimming it changes nothing (`trimChars_ofNat`, `trimChars_ofInt`).

* `readDigits_toDigits_append` — the reader, started at zero on the digits of `n`, gets to whatever
  follows them with `n` in hand. The rest of the text is general, which carries the induction.
-/

namespace Colloquy.Numeral

open Text (isBlank blankRanges inRanges_eq_false trimChars trimChars_of_forall_not)

/-! ### Digits -/

theorem digit?_digitChar {d : Nat} (h : d < 10) : digit? (Nat.digitChar d) = some d := by
  rcases d with _ | _ | _ | _ | _ | _ | _ | _ | _ | _ | d
  all_goals first | rfl | omega

theorem toNat_bounds_of_isDigit {c : Char} (h : c.isDigit = true) :
    48 ≤ c.toNat ∧ c.toNat ≤ 57 := by
  simpa [Char.isDigit, UInt32.le_iff_toNat_le] using h

theorem not_isBlank_of_isDigit {c : Char} (h : c.isDigit = true) : isBlank c = false := by
  have hc := toNat_bounds_of_isDigit h
  apply inRanges_eq_false
  simp only [blankRanges, List.forall_mem_cons, List.not_mem_nil, false_imp_iff, implies_true,
    and_true]
  omega

theorem isDigit_of_mem_toDigits {n : Nat} {c : Char} (h : c ∈ Nat.toDigits 10 n) :
    c.isDigit = true :=
  Nat.isDigit_of_mem_toDigits (by decide) (by decide) h

theorem readDigits_toDigits_append {max : Nat} {excess : Fault} {n : Nat} (h : n ≤ max)
    (rest : List Char) :
    readDigits max excess 0 (Nat.toDigits 10 n ++ rest) = readDigits max excess n rest := by
  induction n using Nat.strongRecOn generalizing rest with
  | ind n ih =>
    by_cases hn : n < 10
    · rw [Nat.toDigits_of_lt_base hn, List.singleton_append, readDigits, digit?_digitChar hn]
      simp [h]
    · have hlt : n / 10 < n := by omega
      have hmod : n % 10 < 10 := Nat.mod_lt n (by omega)
      rw [Nat.toDigits_of_base_le (by omega) (by omega), List.append_assoc, List.singleton_append,
        ih (n / 10) hlt (by omega), readDigits, digit?_digitChar hmod]
      simp only [Nat.div_add_mod, if_pos h]

theorem readUnsigned_toDigits {max : Nat} {excess : Fault} {n : Nat} (h : n ≤ max) :
    readUnsigned max excess (Nat.toDigits 10 n) = .ok n := by
  rw [readUnsigned]
  · have hread : readDigits max excess 0 (Nat.toDigits 10 n ++ []) = readDigits max excess n [] :=
      readDigits_toDigits_append h []
    rw [List.append_nil] at hread
    rw [hread, readDigits]
  · exact Nat.toDigits_ne_nil

theorem exists_toDigits_eq_cons (n : Nat) :
    ∃ c r, Nat.toDigits 10 n = c :: r ∧ c ≠ '+' ∧ c ≠ '-' := by
  obtain ⟨c, r, hr⟩ := List.exists_cons_of_ne_nil (Nat.toDigits_ne_nil (n := n) (b := 10))
  have hc : c.isDigit = true := isDigit_of_mem_toDigits (by rw [hr]; exact List.mem_cons_self)
  refine ⟨c, r, hr, ?_, ?_⟩
  · rintro rfl
    exact absurd hc (by decide)
  · rintro rfl
    exact absurd hc (by decide)

/-! ### Numbers -/

theorem readNat_toDigits {max n : Nat} (h : n ≤ max) : readNat max (Nat.toDigits 10 n) = .ok n := by
  have hread : readUnsigned max .tooLarge (Nat.toDigits 10 n) = .ok n := readUnsigned_toDigits h
  obtain ⟨c, r, hr, hplus, _⟩ := exists_toDigits_eq_cons n
  rw [hr] at hread ⊢
  rw [readNat]
  · exact hread
  · simp
  · intro r' heq
    exact hplus (List.cons.inj heq).1

theorem readInt_toDigits {max n : Nat} (h : n ≤ max) :
    readInt max (Nat.toDigits 10 n) = .ok (n : Int) := by
  have hread : readUnsigned max .tooLarge (Nat.toDigits 10 n) = .ok n := readUnsigned_toDigits h
  obtain ⟨c, r, hr, hplus, hminus⟩ := exists_toDigits_eq_cons n
  rw [hr] at hread ⊢
  rw [readInt, hread]
  · rfl
  · simp
  · intro r' heq
    exact hplus (List.cons.inj heq).1
  · intro r' heq
    exact hminus (List.cons.inj heq).1

theorem readInt_minus_toDigits {max n : Nat} (h : n ≤ max + 1) :
    readInt max ('-' :: Nat.toDigits 10 n) = .ok (-(n : Int)) := by
  rw [readInt, readUnsigned_toDigits h]
  rfl

@[simp] theorem toList_ofNat (n : Nat) : (ofNat n).toList = Nat.toDigits 10 n := by
  simp [ofNat]

@[simp] theorem readUInt32_ofUInt32 (n : UInt32) : readUInt32 (ofUInt32 n).toList = .ok n := by
  have hn := n.toNat_lt_size
  rw [readUInt32, ofUInt32, toList_ofNat, readNat_toDigits (by omega)]
  simp [Except.map]

@[simp] theorem readUInt64_ofUInt64 (n : UInt64) : readUInt64 (ofUInt64 n).toList = .ok n := by
  have hn := n.toNat_lt_size
  rw [readUInt64, ofUInt64, toList_ofNat, readNat_toDigits (by omega)]
  simp [Except.map]

theorem readInt_ofInt {max : Nat} {n : Int} (hlo : -(max + 1 : Int) ≤ n) (hhi : n ≤ max) :
    readInt max (ofInt n).toList = .ok n := by
  unfold ofInt
  split
  · rw [String.toList_append, toList_ofNat]
    change readInt max ('-' :: Nat.toDigits 10 n.natAbs) = .ok n
    rw [readInt_minus_toDigits (by omega)]
    congr 1
    omega
  · rw [toList_ofNat, readInt_toDigits (by omega)]
    congr 1
    omega

@[simp] theorem readInt64_ofInt64 (n : Int64) : readInt64 (ofInt64 n).toList = .ok n := by
  have hlo := n.le_toInt
  have hhi := n.toInt_lt
  rw [readInt64, ofInt64, readInt_ofInt (by omega) (by omega)]
  simp [Except.map]

theorem fitsInt64_toInt (n : Int64) : fitsInt64 n.toInt = true := by
  have hlo := n.le_toInt
  have hhi := n.toInt_lt
  have hmin := Int64.toInt_minValue
  have hmax := Int64.toInt_maxValue
  refine decide_eq_true ⟨?_, ?_⟩
  · omega
  · omega

/-! ### The characters of a numeral -/

theorem isDigit_of_mem_ofNat {n : Nat} {c : Char} (h : c ∈ (ofNat n).toList) : c.isDigit = true := by
  rw [toList_ofNat] at h
  exact isDigit_of_mem_toDigits h

theorem not_isBlank_of_mem_ofInt {n : Int} {c : Char} (h : c ∈ (ofInt n).toList) :
    isBlank c = false := by
  unfold ofInt at h
  split at h
  · rw [String.toList_append, List.mem_append] at h
    rcases h with h | h
    · rw [List.mem_singleton.mp h]
      decide
    · exact not_isBlank_of_isDigit (isDigit_of_mem_ofNat h)
  · exact not_isBlank_of_isDigit (isDigit_of_mem_ofNat h)

theorem trimChars_ofNat (n : Nat) : trimChars (ofNat n).toList = (ofNat n).toList :=
  trimChars_of_forall_not fun _ h => not_isBlank_of_isDigit (isDigit_of_mem_ofNat h)

theorem trimChars_ofInt (n : Int) : trimChars (ofInt n).toList = (ofInt n).toList :=
  trimChars_of_forall_not fun _ h => not_isBlank_of_mem_ofInt h

end Colloquy.Numeral
