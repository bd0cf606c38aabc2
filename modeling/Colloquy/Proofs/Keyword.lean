import Colloquy.Keyword
import Colloquy.Proofs.Text.Lower

/-!
# Colloquy.Proofs.Keyword

Keywords and their pattern. Keywords that were once read from a pattern are read again from the
pattern they are joined to (`ofPattern_pattern`), whatever blanks, capitals and empty alternatives
the first pattern had.

* `IsNormal` — what reading makes of an alternative: not empty, trimmed, in lower case, and free
  of the bar that stands between alternatives.
-/

namespace Colloquy.Keyword

open Text

/-- What reading makes of one alternative of a pattern. -/
structure IsNormal (k : String) : Prop where
  ne_nil : k.toList ≠ []
  fixed : lower (trim k) = k
  no_bar : separator ∉ k.toList

theorem lower_trim_lower_trim (s : String) : lower (trim (lower (trim s))) = lower (trim s) := by
  apply String.toList_inj.mp
  rw [toList_lower, toList_trim, toList_lower, toList_trim, trimChars_lowerChars_trimChars,
    lowerChars_lowerChars]

theorem isNormal_of_mem_ofPattern {p k : String} (h : k ∈ ofPattern p) : IsNormal k := by
  obtain ⟨hmem, hne⟩ := List.mem_filter.mp h
  obtain ⟨part, hpart, rfl⟩ := List.mem_map.mp hmem
  refine ⟨by simpa using hne, lower_trim_lower_trim part, ?_⟩
  rw [toList_lower, toList_trim]
  exact bar_not_mem_lowerChars fun hbar =>
    sep_not_mem_of_mem_split hpart (mem_of_mem_stripEnds hbar)

theorem ofPattern_pattern_of_isNormal {ks : List String} (hne : ks ≠ [])
    (h : ∀ k ∈ ks, IsNormal k) : ofPattern (pattern ks) = ks := by
  have hsplit : split separator (pattern ks) = ks :=
    split_join rfl hne fun k hk => (h k hk).no_bar
  have hmap : ks.map (fun k => lower (trim k)) = ks := by
    calc ks.map (fun k => lower (trim k))
      _ = ks.map id := List.map_congr_left fun k hk => (h k hk).fixed
      _ = ks := List.map_id ks
  rw [ofPattern, hsplit, hmap, List.filter_eq_self]
  intro k hk
  simpa using (h k hk).ne_nil

/-- Joining the keywords of a pattern and reading them again gives the same keywords. -/
theorem ofPattern_pattern (p : String) : ofPattern (pattern (ofPattern p)) = ofPattern p := by
  by_cases hne : ofPattern p = []
  · rw [hne]
    decide
  · exact ofPattern_pattern_of_isNormal hne fun _ hk => isNormal_of_mem_ofPattern hk

theorem ofPattern_eq_nil_of_isBlankText {p : String} (h : isBlankText p = true) :
    ofPattern p = [] := by
  rw [ofPattern, List.filter_eq_nil_iff]
  intro k hk
  obtain ⟨part, hpart, rfl⟩ := List.mem_map.mp hk
  obtain ⟨w, hw, rfl⟩ := List.mem_map.mp hpart
  have hblank : isBlankText (String.ofList w) = true := by
    rw [isBlankText, String.toList_ofList, List.all_eq_true]
    intro c hc
    exact List.all_eq_true.mp h c (mem_of_mem_splitBy hw hc)
  rw [toList_lower, (trim_eq_empty_iff _).mpr hblank]
  decide

end Colloquy.Keyword
