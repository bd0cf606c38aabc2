import Colloquy.Proofs.Document.Acceptance
import Colloquy.Proofs.Text.Surroundings
import Colloquy.Proofs.Text.Word

/-!
# Colloquy.Proofs.Keyword.Anywhere

Keywords that are heard inside words. A keyword is heard in every utterance that contains it as it
is written if and only if its sigmas are settled (`heard_anywhere_iff_isSettled`); otherwise a
single letter before or after it is enough for it not to be heard.
-/

namespace Colloquy.Keyword

open Text

/-! ### Blocks in a list that is longer by one -/

section Infix

variable {α : Type} {w l : List α} {x : α}

theorem not_isInfix_cons (hlength : l.length = w.length) (hne : l ≠ w) (hhead : w.head? ≠ some x) :
    ¬w <:+: x :: l := by
  intro hblock
  rcases List.infix_cons_iff.mp hblock with hfront | hrest
  · cases w with
    | nil => exact hne (List.eq_nil_of_length_eq_zero hlength)
    | cons y w => exact hhead (congrArg some (List.cons_prefix_cons.mp hfront).1)
  · exact hne (hrest.eq_of_length hlength.symm).symm

theorem not_isInfix_concat (hlength : l.length = w.length) (hne : l ≠ w)
    (hlast : w.getLast? ≠ some x) : ¬w <:+: l ++ [x] := by
  rw [← List.reverse_infix, List.reverse_append, List.reverse_singleton, List.singleton_append]
  apply not_isInfix_cons
  · rw [List.length_reverse, List.length_reverse, hlength]
  · exact fun heq => hne (List.reverse_inj.mp heq)
  · rwa [List.head?_reverse]

end Infix

/-! ### Letters beside a keyword -/

theorem isLowerLetter_of_mem {c : Char} (h : c ∈ ['a', 'b', 'c']) : IsLowerLetter c := by
  simp only [List.mem_cons, List.not_mem_nil, or_false] at h
  rcases h with rfl | rfl | rfl
  · exact ⟨⟨by decide, by decide⟩, by decide, by decide⟩
  · exact ⟨⟨by decide, by decide⟩, by decide, by decide⟩
  · exact ⟨⟨by decide, by decide⟩, by decide, by decide⟩

/-- Of three letters one is neither the first nor the last of a text. -/
theorem exists_isLowerLetter (w : List Char) :
    ∃ c, IsLowerLetter c ∧ w.head? ≠ some c ∧ w.getLast? ≠ some c := by
  obtain ⟨c, hc, hends⟩ :
      ∃ c ∈ ['a', 'b', 'c'], w.head? ≠ some c ∧ w.getLast? ≠ some c := by
    simp only [List.mem_cons, List.not_mem_nil, or_false, exists_eq_or_imp, exists_eq_left]
    grind
  exact ⟨c, isLowerLetter_of_mem hc, hends⟩

theorem lowerChars_cons_letter {c : Char} (hc : IsLowerLetter c) (s : List Char) :
    lowerChars (c :: s) = c :: lowerBetween [c] [] s := by
  rw [lowerChars_eq_lowerBetween, lowerBetween, if_neg hc.isLower.1, hc.isLower.2,
    List.singleton_append]

theorem lowerChars_concat_letter {c : Char} (hc : IsLowerLetter c) (s : List Char) :
    lowerChars (s ++ [c]) = lowerBetween [] [c] s ++ [c] := by
  rw [lowerChars_eq_lowerBetween, lowerBetween_append, List.append_nil, lowerBetween,
    if_neg hc.isLower.1, hc.isLower.2]
  rfl

/-! ### Being heard -/

theorem isSettled_wildcard : isSettled Flag.wildcard.toList = true := by
  decide

theorem heardIn_substring_iff {k u : String} (hk : k ≠ Flag.wildcard) :
    heardIn .substring k u = true ↔ lowerChars k.toList <:+: lowerChars u.toList := by
  rw [heardIn, if_neg hk]
  exact occurs_iff_isInfix

theorem heardIn_of_isInfix {k u : String} (h : lowerChars k.toList <:+: lowerChars u.toList) :
    heardIn .substring k u = true := by
  by_cases hk : k = Flag.wildcard
  · rw [heardIn, if_pos hk]
  · exact (heardIn_substring_iff hk).mpr h

theorem isInfix_lowerChars_of_isSettled {s : List Char} (h : isSettled s = true)
    (p q : List Char) : lowerChars s <:+: lowerChars (p ++ s ++ q) := by
  rw [List.append_assoc, lowerChars_eq_lowerBetween (p ++ (s ++ q)), lowerBetween_append,
    lowerBetween_append, lowerBetween_of_isSettled h, ← List.append_assoc]
  exact List.infix_append _ _ _

/-- One letter beside a keyword that is not settled hides it. -/
theorem exists_not_heardIn {k : String} (h : isSettled k.toList = false) :
    ∃ p s : String, heardIn .substring k (p ++ k ++ s) = false := by
  have hk : k ≠ Flag.wildcard := by
    rintro rfl
    rw [isSettled_wildcard] at h
    cases h
  obtain ⟨c, hc, hhead, hlast⟩ := exists_isLowerLetter (lowerChars k.toList)
  have hlength : ∀ before after, (lowerBetween before after k.toList).length =
      (lowerChars k.toList).length := by
    intro before after
    rw [lowerChars_eq_lowerBetween]
    exact length_lowerBetween before after [] [] k.toList
  rcases lowerBetween_ne_of_not_isSettled hc h with hne | hne
  · refine ⟨String.singleton c, "", ?_⟩
    rw [Bool.eq_false_iff, Ne, heardIn_substring_iff hk]
    simp only [String.append_empty, String.toList_append, String.toList_singleton,
      List.singleton_append, lowerChars_cons_letter hc]
    exact not_isInfix_cons (hlength _ _) hne hhead
  · refine ⟨"", String.singleton c, ?_⟩
    rw [Bool.eq_false_iff, Ne, heardIn_substring_iff hk]
    simp only [String.empty_append, String.toList_append, String.toList_singleton,
      lowerChars_concat_letter hc]
    exact not_isInfix_concat (hlength _ _) hne hlast

/-! ### Keywords of a rule -/

theorem exists_append_trimChars (s : List Char) :
    ∃ front back, s = front ++ trimChars s ++ back := by
  obtain ⟨front, hfront⟩ := List.dropWhile_suffix (l := s) isBlank
  obtain ⟨back, hback⟩ := List.dropWhile_suffix (l := (s.dropWhile isBlank).reverse) isBlank
  refine ⟨front, back.reverse, ?_⟩
  have hrest : s.dropWhile isBlank = trimChars s ++ back.reverse := by
    rw [trimChars, stripEnds, ← List.reverse_append, hback, List.reverse_reverse]
  rw [List.append_assoc, ← hrest, hfront]

theorem heardIn_lower_trim {k : String} (h : isSettled (trim k).toList = true) (p s : String) :
    heardIn .substring (lower (trim k)) (p ++ k ++ s) = true := by
  apply heardIn_of_isInfix
  obtain ⟨front, back, hk⟩ := exists_append_trimChars k.toList
  have hlist : (p ++ k ++ s).toList =
      (p.toList ++ front) ++ trimChars k.toList ++ (back ++ s.toList) := by
    calc (p ++ k ++ s).toList
      _ = p.toList ++ k.toList ++ s.toList := by rw [String.toList_append, String.toList_append]
      _ = p.toList ++ (front ++ trimChars k.toList ++ back) ++ s.toList := by rw [← hk]
      _ = _ := by simp only [List.append_assoc]
  rw [toList_trim] at h
  rw [toList_lower, toList_trim, lowerChars_lowerChars, hlist]
  exact isInfix_lowerChars_of_isSettled h _ _

theorem lower_trim_mem_ofPattern {pattern k : String} (hk : k ∈ split separator pattern)
    (hblank : isBlankText k = false) : lower (trim k) ∈ ofPattern pattern := by
  rw [ofPattern, List.mem_filter]
  refine ⟨List.mem_map_of_mem hk, ?_⟩
  have hne : (trim k).toList ≠ [] := by
    rw [Ne, trim_eq_empty_iff, hblank]
    simp
  obtain ⟨c, r, hr⟩ := List.exists_cons_of_ne_nil hne
  have hlower : (lower (trim k)).toList ≠ [] := by
    rw [toList_lower, hr, lowerChars, lowerAfter]
    split
    · simp
    · simp [lowerChar_ne_nil]
  simpa using hlower

/-- A keyword is heard in every utterance that contains it as it is written if and only if its
sigmas are settled. A rule whose author has written a settled keyword, with blanks around it or
not, answers to every utterance that contains it. -/
theorem heard_anywhere_iff_isSettled (k : String) :
    ((∀ p s : String, heardIn .substring k (p ++ k ++ s) = true) ↔ isSettled k.toList = true) ∧
    ∀ (pattern : String) (responses : List String) (r : Rule),
      Rule.make pattern responses = .ok r → k ∈ split separator pattern →
      isBlankText k = false → isSettled (trim k).toList = true →
      ∀ p s : String, r.hears .substring (p ++ k ++ s) = true := by
  constructor
  · constructor
    · intro hheard
      by_contra hnot
      obtain ⟨p, s, hsilent⟩ := exists_not_heardIn (Bool.eq_false_iff.mpr hnot)
      rw [hheard p s] at hsilent
      cases hsilent
    · intro hsettled p s
      apply heardIn_of_isInfix
      rw [String.toList_append, String.toList_append]
      exact isInfix_lowerChars_of_isSettled hsettled p.toList s.toList
  · intro pattern responses r hmake hk hblank hsettled p s
    obtain ⟨-, -, rfl⟩ := Rule.make_eq_ok_iff.mp hmake
    exact List.any_eq_true.mpr
      ⟨lower (trim k), lower_trim_mem_ofPattern hk hblank, heardIn_lower_trim hsettled p s⟩

/-- The sigma at the beginning is followed by a letter, so it is settled. -/
theorem heard_anywhere_iff_isSettled_wisdom :
    let r : Rule := ⟨["λογος", "σοφια"], ["Ναί."], [], []⟩
    Rule.make "ΛΟΓΟΣ|ΣΟΦΙΑ " ["Ναί."] = .ok r ∧
    isSettled "ΣΟΦΙΑ ".toList = true ∧
    heardIn .substring "ΣΟΦΙΑ " "ΦΙΛΟΣΟΦΙΑ Α" = true ∧
    r.hears .substring "ΦΙΛΟΣΟΦΙΑ Α" = true := by
  intro r
  have hmake : Rule.make "ΛΟΓΟΣ|ΣΟΦΙΑ " ["Ναί."] = .ok r := by decide
  have hsettled : isSettled "ΣΟΦΙΑ ".toList = true := by decide
  obtain ⟨hiff, hrule⟩ := heard_anywhere_iff_isSettled "ΣΟΦΙΑ "
  refine ⟨hmake, hsettled, hiff.mpr hsettled "ΦΙΛΟ" "Α", ?_⟩
  exact hrule _ _ r hmake (by decide) (by decide) (by decide) "ΦΙΛΟ" "Α"

/-- The sigma at the end of `ΦΩΣ`, light, is final there and not so within `ΦΩΣΦΟΡΟΣ`. -/
theorem light_unheard_in_phosphorus :
    isSettled "ΦΩΣ".toList = false ∧
    heardIn .substring "ΦΩΣ" ("" ++ "ΦΩΣ" ++ "ΦΟΡΟΣ") = false ∧
    ¬∀ k p s : String, heardIn .substring k (p ++ k ++ s) = true := by
  have hsilent : heardIn .substring "ΦΩΣ" ("" ++ "ΦΩΣ" ++ "ΦΟΡΟΣ") = false := by decide
  refine ⟨by decide, hsilent, fun h => ?_⟩
  rw [h "ΦΩΣ" "" "ΦΟΡΟΣ"] at hsilent
  cases hsilent

end Colloquy.Keyword
