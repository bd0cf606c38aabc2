/-!
# Colloquy.Text.Range

Classes of characters given as ordered, disjoint ranges of code points. The tables hold the
properties of Unicode 17.0 where they name no other version.
-/

namespace Colloquy.Text

/-- Is `n` in one of the ranges? The ranges are in rising order, so the search stops early. -/
def inRanges (n : Nat) : List (Nat × Nat) → Bool
  | [] => false
  | (lo, hi) :: rest => if n < lo then false else n ≤ hi || inRanges n rest

theorem inRanges_eq_false {n : Nat} {ranges : List (Nat × Nat)}
    (h : ∀ r ∈ ranges, n < r.1 ∨ r.2 < n) : inRanges n ranges = false := by
  induction ranges with
  | nil => rfl
  | cons r rest ih =>
    obtain ⟨lo, hi⟩ := r
    unfold inRanges
    split
    · rfl
    · rename_i hlo
      have hr : n < lo ∨ hi < n := h (lo, hi) List.mem_cons_self
      have hrest : inRanges n rest = false := ih fun q hq => h q (List.mem_cons_of_mem _ hq)
      rw [hrest, Bool.or_false, decide_eq_false_iff_not]
      omega

end Colloquy.Text
