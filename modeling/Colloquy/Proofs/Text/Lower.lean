import Colloquy.Text.Blank
import Colloquy.Text.Lower

/-!
# Colloquy.Proofs.Text.Lower

Lower-casing, once done, is done (`lowerChars_lowerChars`), and it makes no blank, so a trimmed
text stays trimmed (`trimChars_lowerChars_trimChars`).

What these need to know about the table is checked run by run in `runs_settle`: no run maps onto
another one, onto a blank, or onto one of the few other characters asked for below. The check
counts in `Nat` and `Bool` only, so that the kernel evaluates it quickly.

* `IsLower c` — lower-casing leaves `c` alone wherever it stands.
-/

namespace Colloquy.Text

/-! ### The table -/

/-- Are the code points `lo, lo + step, …, hi` all outside the runs? A run of step two may be
interleaved with them. -/
def outsideRuns (lo hi step : Nat) : List (Nat × Nat × Nat × Int) → Bool
  | [] => true
  | (first, last, gap, _) :: rest =>
    Nat.blt hi first ||
      ((Nat.blt last lo ||
        (gap == 2 && (step % 2 == 0 || lo == hi) && Nat.ble first lo && (lo - first) % 2 == 1))
        && outsideRuns lo hi step rest)

/-- What lower-casing must not yield: blanks, the bar `|`, and the dotted capital. -/
def neverLower : List (Nat × Nat) :=
  (0x7C, 0x7C) :: (0x130, 0x130) :: blankRanges

/-- The run maps to characters that are mapped no further and are not among `neverLower`. -/
def runSettles : Nat × Nat × Nat × Int → Bool
  | (first, last, step, shift) =>
    let lo := ((first : Int) + shift).toNat
    let hi := ((last : Int) + shift).toNat
    decide (0 ≤ (first : Int) + shift)
      && (Nat.blt hi 0xD800 || (Nat.blt 0xDFFF lo && Nat.blt hi 0x110000))
      && outsideRuns lo hi step lowercaseRuns
      && neverLower.all fun r => Nat.blt hi r.1 || Nat.blt r.2 lo

theorem runs_settle : lowercaseRuns.all runSettles = true := by
  decide +kernel

theorem shiftIn_of_outsideRuns {lo hi step m : Nat} (hlo : lo ≤ m) (hhi : m ≤ hi)
    (hstep : (m - lo) % step = 0) {runs : List (Nat × Nat × Nat × Int)}
    (h : outsideRuns lo hi step runs = true) : shiftIn m runs = 0 := by
  induction runs with
  | nil => rfl
  | cons run rest ih =>
    obtain ⟨first, last, gap, shift⟩ := run
    simp only [outsideRuns, Bool.or_eq_true, Bool.and_eq_true, Nat.blt_eq, Nat.ble_eq,
      beq_iff_eq] at h
    unfold shiftIn
    split
    · rfl
    · rename_i hfirst
      rcases h with h | ⟨h, hrest⟩
      · omega
      · split
        · rename_i hlast
          rcases h with h | ⟨⟨⟨hgap, heven⟩, hle⟩, hodd⟩
          · omega
          · have hm : (m - lo) % 2 = 0 := by
              rcases heven with heven | heq
              · have h2 : 2 ∣ step := Nat.dvd_of_mod_eq_zero heven
                exact Nat.mod_eq_zero_of_dvd (Nat.dvd_trans h2 (Nat.dvd_of_mod_eq_zero hstep))
              · rw [show m - lo = 0 by omega]
            rw [if_neg (by rw [hgap]; omega)]
        · exact ih hrest

theorem exists_run_of_shiftIn_ne_zero {n : Nat} {runs : List (Nat × Nat × Nat × Int)}
    (h : shiftIn n runs ≠ 0) :
    ∃ first last step, (first, last, step, shiftIn n runs) ∈ runs ∧ first ≤ n ∧ n ≤ last ∧
      (n - first) % step = 0 := by
  induction runs with
  | nil => simp [shiftIn] at h
  | cons run rest ih =>
    obtain ⟨first, last, step, shift⟩ := run
    unfold shiftIn at h ⊢
    split at h
    · exact absurd rfl h
    · rename_i hfirst
      rw [if_neg hfirst]
      split at h
      · rename_i hlast
        split at h
        · rename_i hstep
          rw [if_pos hlast, if_pos hstep]
          exact ⟨first, last, step, List.mem_cons_self, by omega, hlast, hstep⟩
        · exact absurd rfl h
      · rename_i hlast
        rw [if_neg hlast]
        obtain ⟨f, l, s, hmem, hf, hl, hs⟩ := ih h
        exact ⟨f, l, s, List.mem_cons_of_mem _ hmem, hf, hl, hs⟩

theorem toNat_ofNat_of_valid {n : Nat} (h : n.isValidChar) : (Char.ofNat n).toNat = n := by
  rw [Char.ofNat, dif_pos h]
  rfl

/-! ### One character -/

/-- Lower-casing leaves the character alone wherever it stands. -/
def IsLower (c : Char) : Prop :=
  c ≠ 'Σ' ∧ lowerChar c = [c]

theorem isLower_sigma : IsLower 'σ' := by
  refine ⟨by decide, ?_⟩
  decide +kernel

theorem isLower_finalSigma : IsLower 'ς' := by
  refine ⟨by decide, ?_⟩
  decide +kernel

theorem lowerChar_of_shiftIn_eq_zero {c : Char} (hc : c ≠ 'İ')
    (h : shiftIn c.toNat lowercaseRuns = 0) : lowerChar c = [c] := by
  rw [lowerChar, if_neg hc, h, Int.add_zero, Int.toNat_natCast, Char.ofNat_toNat]

theorem lowerChar_of_shiftIn_ne_zero {c : Char} (hc : c ≠ 'İ')
    (h : shiftIn c.toNat lowercaseRuns ≠ 0) :
    ∃ d, lowerChar c = [d] ∧ IsLower d ∧ ∀ r ∈ neverLower, d.toNat < r.1 ∨ r.2 < d.toNat := by
  obtain ⟨first, last, step, hmem, hfirst, hlast, hstep⟩ := exists_run_of_shiftIn_ne_zero h
  have hrun := List.all_eq_true.mp runs_settle _ hmem
  obtain ⟨shift, hshift⟩ : ∃ k, shiftIn c.toNat lowercaseRuns = k := ⟨_, rfl⟩
  simp only [runSettles, hshift, Bool.and_eq_true, Bool.or_eq_true, decide_eq_true_eq, Nat.blt_eq,
    List.all_eq_true] at hrun
  obtain ⟨⟨⟨hpos, hvalid⟩, hout⟩, hnever⟩ := hrun
  obtain ⟨n, hn⟩ : ∃ n, ((c.toNat : Int) + shift).toNat = n := ⟨_, rfl⟩
  have hd : (Char.ofNat n).toNat = n := by
    apply toNat_ofNat_of_valid
    unfold Nat.isValidChar
    omega
  have hzero : shiftIn n lowercaseRuns = 0 := by
    apply shiftIn_of_outsideRuns (by omega) (by omega) _ hout
    rw [show n - ((first : Int) + shift).toNat = c.toNat - first by omega]
    exact hstep
  have hfree : ∀ r ∈ neverLower, (Char.ofNat n).toNat < r.1 ∨ r.2 < (Char.ofNat n).toNat := by
    intro r hr
    have := hnever r hr
    omega
  refine ⟨Char.ofNat n, by rw [lowerChar, if_neg hc, hshift, hn], ⟨?_, ?_⟩, hfree⟩
  · intro hsigma
    rw [← hd, hsigma] at hzero
    exact absurd hzero (by decide +kernel)
  · refine lowerChar_of_shiftIn_eq_zero ?_ (by rw [hd]; exact hzero)
    intro hdotted
    have := hfree (0x130, 0x130) (by decide)
    rw [hdotted] at this
    exact absurd this (by decide)

/-- A character is its own lower case, or becomes settled ones. -/
theorem lowerChar_cases (c : Char) :
    lowerChar c = [c] ∨
      lowerChar c ≠ [] ∧ ∀ d ∈ lowerChar c,
        IsLower d ∧ ∀ r ∈ neverLower, d.toNat < r.1 ∨ r.2 < d.toNat := by
  by_cases hc : c = 'İ'
  · subst hc
    right
    have hi : lowerChar 'İ' = ['i', '\u0307'] := rfl
    rw [hi]
    refine ⟨by simp, fun d hd => ?_⟩
    simp only [List.mem_cons, List.not_mem_nil, or_false] at hd
    rcases hd with rfl | rfl
    · exact ⟨⟨by decide, by decide +kernel⟩, by decide +kernel⟩
    · exact ⟨⟨by decide, by decide +kernel⟩, by decide +kernel⟩
  · by_cases h : shiftIn c.toNat lowercaseRuns = 0
    · exact .inl (lowerChar_of_shiftIn_eq_zero hc h)
    · obtain ⟨d, hd, hlower, hfree⟩ := lowerChar_of_shiftIn_ne_zero hc h
      right
      rw [hd]
      refine ⟨by simp, fun e he => ?_⟩
      rw [List.mem_singleton.mp he]
      exact ⟨hlower, hfree⟩

theorem lowerChar_ne_nil (c : Char) : lowerChar c ≠ [] := by
  rcases lowerChar_cases c with h | h
  · simp [h]
  · exact h.1

theorem isLower_of_mem_lowerChar {c d : Char} (hc : c ≠ 'Σ') (h : d ∈ lowerChar c) :
    IsLower d := by
  rcases lowerChar_cases c with hself | ⟨_, hall⟩
  · rw [hself, List.mem_singleton] at h
    subst h
    exact ⟨hc, hself⟩
  · exact (hall d h).1

theorem not_isBlank_of_mem_lowerChar {c d : Char} (hc : isBlank c = false)
    (h : d ∈ lowerChar c) : isBlank d = false := by
  rcases lowerChar_cases c with hself | ⟨_, hall⟩
  · rw [hself, List.mem_singleton] at h
    rw [h, hc]
  · exact inRanges_eq_false fun r hr =>
      (hall d h).2 r (List.mem_cons_of_mem _ (List.mem_cons_of_mem _ hr))

theorem eq_bar_of_mem_lowerChar {c : Char} (h : '|' ∈ lowerChar c) : c = '|' := by
  rcases lowerChar_cases c with hself | ⟨_, hall⟩
  · rw [hself, List.mem_singleton] at h
    exact h.symm
  · have := (hall '|' h).2 (0x7C, 0x7C) List.mem_cons_self
    exact absurd this (by decide)

/-! ### Texts -/

theorem exists_of_mem_lowerAfter {d : Char} {s before : List Char} (h : d ∈ lowerAfter before s) :
    ∃ c ∈ s, (c = 'Σ' ∧ (d = 'ς' ∨ d = 'σ')) ∨ (c ≠ 'Σ' ∧ d ∈ lowerChar c) := by
  induction s generalizing before with
  | nil => simp [lowerAfter] at h
  | cons c r ih =>
    rw [lowerAfter, List.mem_append] at h
    rcases h with h | h
    · refine ⟨c, List.mem_cons_self, ?_⟩
      split at h
      · rename_i hc
        rw [List.mem_singleton, lowerSigma] at h
        refine .inl ⟨hc, ?_⟩
        split at h
        · exact .inl h
        · exact .inr h
      · rename_i hc
        exact .inr ⟨hc, h⟩
    · obtain ⟨e, he, hd⟩ := ih h
      exact ⟨e, List.mem_cons_of_mem _ he, hd⟩

theorem isLower_of_mem_lowerChars {d : Char} {s : List Char} (h : d ∈ lowerChars s) :
    IsLower d := by
  obtain ⟨c, _, ⟨_, rfl | rfl⟩ | ⟨hc, hd⟩⟩ := exists_of_mem_lowerAfter h
  · exact isLower_finalSigma
  · exact isLower_sigma
  · exact isLower_of_mem_lowerChar hc hd

theorem lowerAfter_of_isLower {s : List Char} (h : ∀ c ∈ s, IsLower c) (before : List Char) :
    lowerAfter before s = s := by
  induction s generalizing before with
  | nil => rfl
  | cons c r ih =>
    obtain ⟨hsigma, hself⟩ := h c List.mem_cons_self
    rw [lowerAfter, if_neg hsigma, hself, ih fun e he => h e (List.mem_cons_of_mem _ he)]
    rfl

@[simp] theorem lowerChars_lowerChars (s : List Char) :
    lowerChars (lowerChars s) = lowerChars s :=
  lowerAfter_of_isLower (fun _ h => isLower_of_mem_lowerChars h) []

theorem bar_not_mem_lowerChars {s : List Char} (h : '|' ∉ s) : '|' ∉ lowerChars s := by
  intro hmem
  obtain ⟨c, hc, ⟨_, hd | hd⟩ | ⟨_, hd⟩⟩ := exists_of_mem_lowerAfter hmem
  · exact absurd hd (by decide)
  · exact absurd hd (by decide)
  · exact h (eq_bar_of_mem_lowerChar hd ▸ hc)

/-! ### Trimmed texts -/

theorem lowerAfter_cons {c : Char} (hc : isBlank c = false) (before r : List Char) :
    ∃ w, w ≠ [] ∧ (∀ d ∈ w, isBlank d = false) ∧
      lowerAfter before (c :: r) = w ++ lowerAfter (c :: before) r := by
  by_cases hs : c = 'Σ'
  · refine ⟨[lowerSigma before r], by simp, ?_, by rw [lowerAfter, if_pos hs]⟩
    intro d hd
    rw [List.mem_singleton.mp hd, lowerSigma]
    split <;> decide
  · exact ⟨lowerChar c, lowerChar_ne_nil c, fun d hd => not_isBlank_of_mem_lowerChar hc hd,
      by rw [lowerAfter, if_neg hs]⟩

theorem not_isBlank_head?_lowerAfter {s before : List Char}
    (h : ∀ c ∈ s.head?, isBlank c = false) :
    ∀ d ∈ (lowerAfter before s).head?, isBlank d = false := by
  cases s with
  | nil => intro d hd; cases hd
  | cons c r =>
    intro d hd
    obtain ⟨w, hne, hw, heq⟩ := lowerAfter_cons (h c rfl) before r
    obtain ⟨x, w', rfl⟩ := List.exists_cons_of_ne_nil hne
    rw [heq] at hd
    cases hd
    exact hw _ List.mem_cons_self

theorem not_isBlank_getLast?_lowerAfter {s before : List Char}
    (h : ∀ c ∈ s.getLast?, isBlank c = false) :
    ∀ d ∈ (lowerAfter before s).getLast?, isBlank d = false := by
  induction s generalizing before with
  | nil => intro d hd; cases hd
  | cons c r ih =>
    intro d hd
    cases r with
    | nil =>
      obtain ⟨w, hne, hw, heq⟩ := lowerAfter_cons (h c rfl) before []
      rw [heq, lowerAfter, List.append_nil] at hd
      exact hw d (List.mem_of_getLast? hd)
    | cons e r =>
      have hrest : lowerAfter (c :: before) (e :: r) ≠ [] := by
        rw [lowerAfter]
        split
        · simp
        · simp [lowerChar_ne_nil]
      rw [lowerAfter, List.getLast?_append, List.getLast?_eq_some_getLast hrest, Option.some_or,
        ← List.getLast?_eq_some_getLast hrest] at hd
      exact ih (fun x hx => h x (by rw [List.getLast?_cons_cons]; exact hx)) d hd

/-- A trimmed text stays trimmed in lower case. -/
theorem trimChars_lowerChars_trimChars (s : List Char) :
    trimChars (lowerChars (trimChars s)) = lowerChars (trimChars s) :=
  stripEnds_eq_self
    (not_isBlank_head?_lowerAfter fun _ hc => not_of_mem_head?_stripEnds hc)
    (not_isBlank_getLast?_lowerAfter fun _ hc => not_of_mem_getLast?_stripEnds hc)

end Colloquy.Text
