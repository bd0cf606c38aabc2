import Colloquy.Proofs.Text.Lower

/-!
# Colloquy.Proofs.Text.Surroundings

Lower-casing a part of a text. Only its sigmas depend on what stands around the part, and they only
on whether a letter is seen there.

* `lowerBetween before after s` — lower case of `s` where it stands between `before` and `after`.
* `lowerChars_append_break` — a character that is neither a letter nor passed over keeps its two
  sides apart.
* `isSettled s` — the sigmas of `s` have the same form wherever `s` stands. Then, and only then, it
  is lower-cased everywhere as it is alone (`lowerBetween_of_isSettled`,
  `lowerBetween_ne_of_not_isSettled`).
-/

namespace Colloquy.Text

/-- Lower case of a text between `before` (nearest character first) and `after`. -/
def lowerBetween (before after : List Char) : List Char → List Char
  | [] => []
  | c :: r =>
    (if c = 'Σ' then [lowerSigma before (r ++ after)] else lowerChar c)
      ++ lowerBetween (c :: before) after r

theorem lowerAfter_eq_lowerBetween (before s : List Char) :
    lowerAfter before s = lowerBetween before [] s := by
  induction s generalizing before with
  | nil => rfl
  | cons c r ih => rw [lowerAfter, lowerBetween, ih, List.append_nil]

theorem lowerChars_eq_lowerBetween (s : List Char) : lowerChars s = lowerBetween [] [] s :=
  lowerAfter_eq_lowerBetween [] s

theorem lowerBetween_append (before after s t : List Char) :
    lowerBetween before after (s ++ t) =
      lowerBetween before (t ++ after) s ++ lowerBetween (s.reverse ++ before) after t := by
  induction s generalizing before with
  | nil => rfl
  | cons c s ih =>
    rw [List.cons_append, lowerBetween, lowerBetween, ih, List.reverse_cons, List.append_assoc,
      List.append_assoc, List.append_assoc, List.singleton_append]

theorem length_lowerBetween (before after before' after' s : List Char) :
    (lowerBetween before after s).length = (lowerBetween before' after' s).length := by
  induction s generalizing before before' with
  | nil => rfl
  | cons c s ih =>
    rw [lowerBetween, lowerBetween, List.length_append, List.length_append,
      ih (c :: before) (c :: before')]
    split <;> rfl

/-! ### What a sigma sees -/

/-- Nothing in the text keeps one from looking beyond it. -/
def isOpen (s : List Char) : Bool :=
  s.all isCaseIgnorable

theorem seesCased_append (s t : List Char) :
    seesCased (s ++ t) = if isOpen s then seesCased t else seesCased s := by
  induction s with
  | nil => rfl
  | cons c s ih =>
    rw [List.cons_append, seesCased, seesCased, isOpen, List.all_cons]
    cases isCaseIgnorable c with
    | true => exact ih
    | false => rfl

theorem seesCased_of_isOpen {s : List Char} (h : isOpen s = true) : seesCased s = false := by
  have happend := seesCased_append s []
  rwa [List.append_nil, if_pos h] at happend

theorem lowerSigma_congr {before before' after after' : List Char}
    (hbefore : seesCased before = seesCased before') (hafter : seesCased after = seesCased after') :
    lowerSigma before after = lowerSigma before' after' := by
  rw [lowerSigma, lowerSigma, hbefore, hafter]

/-- What stands around a text matters only for whether a letter is seen in it. -/
theorem lowerBetween_congr {before before' after after' : List Char}
    (hbefore : seesCased before = seesCased before') (hafter : seesCased after = seesCased after')
    (s : List Char) : lowerBetween before after s = lowerBetween before' after' s := by
  induction s generalizing before before' with
  | nil => rfl
  | cons c r ih =>
    have hhere : seesCased (c :: before) = seesCased (c :: before') := by
      rw [seesCased, seesCased, hbefore]
    have hrest : seesCased (r ++ after) = seesCased (r ++ after') := by
      rw [seesCased_append, seesCased_append, hafter]
    rw [lowerBetween, lowerBetween, lowerSigma_congr hbefore hrest, ih hhere]

/-! ### Breaks -/

structure IsBreak (c : Char) : Prop where
  not_sigma : c ≠ 'Σ'
  not_ignorable : isCaseIgnorable c = false
  not_cased : isCased c = false

theorem isBreak_space : IsBreak ' ' :=
  ⟨by decide, by decide, by decide⟩

theorem IsBreak.seesCased_cons {c : Char} (h : IsBreak c) (s : List Char) :
    seesCased (c :: s) = false := by
  rw [seesCased, h.not_ignorable, h.not_cased]
  rfl

/-- A text is lower-cased on both sides of a break by itself. -/
theorem lowerChars_append_break {c : Char} (h : IsBreak c) (s t : List Char) :
    lowerChars (s ++ c :: t) = lowerChars s ++ (lowerChar c ++ lowerChars t) := by
  have hleft : lowerBetween [] (c :: t) s = lowerBetween [] [] s :=
    lowerBetween_congr rfl (h.seesCased_cons t) s
  have hright : lowerBetween (c :: s.reverse) [] t = lowerBetween [] [] t :=
    lowerBetween_congr (h.seesCased_cons s.reverse) rfl t
  simp only [lowerChars_eq_lowerBetween]
  rw [lowerBetween_append, List.append_nil, List.append_nil, hleft, lowerBetween,
    if_neg h.not_sigma, hright]

/-! ### Settled texts -/

/-- A sigma between these texts has the same form whatever stands beyond them: it is followed by a
letter, or it comes after something that is none, or both sides are closed. -/
def sigmaIsSettled (before after : List Char) : Bool :=
  seesCased after || (!isOpen before && (!seesCased before || !isOpen after))

/-- Is every sigma settled in the rest of a text whose characters so far are `before`? -/
def isSettledAfter (before : List Char) : List Char → Bool
  | [] => true
  | c :: r => (c != 'Σ' || sigmaIsSettled before r) && isSettledAfter (c :: before) r

def isSettled (s : List Char) : Bool :=
  isSettledAfter [] s

theorem lowerSigma_of_sigmaIsSettled {before after : List Char}
    (h : sigmaIsSettled before after = true) (x y : List Char) :
    lowerSigma (before ++ x) (after ++ y) = lowerSigma before after := by
  unfold sigmaIsSettled at h
  unfold lowerSigma
  rw [seesCased_append, seesCased_append]
  cases hafter : isOpen after with
  | true =>
    rw [hafter, seesCased_of_isOpen hafter] at h
    simp_all
  | false =>
    cases hbefore : isOpen before <;> simp_all

theorem lowerBetween_of_isSettledAfter {before s : List Char}
    (h : isSettledAfter before s = true) (x y : List Char) :
    lowerBetween (before ++ x) y s = lowerBetween before [] s := by
  induction s generalizing before with
  | nil => rfl
  | cons c r ih =>
    rw [isSettledAfter, Bool.and_eq_true, Bool.or_eq_true, bne_iff_ne] at h
    obtain ⟨hhere, hrest⟩ := h
    have htail : lowerBetween (c :: (before ++ x)) y r = lowerBetween (c :: before) [] r := ih hrest
    rw [lowerBetween, lowerBetween, htail, List.append_nil]
    split
    · rename_i hsigma
      have hsettled : sigmaIsSettled before r = true := hhere.resolve_left fun hne => hne hsigma
      rw [lowerSigma_of_sigmaIsSettled hsettled]
    · rfl

/-- A settled text is lower-cased anywhere as it is alone. -/
theorem lowerBetween_of_isSettled {s : List Char} (h : isSettled s = true)
    (before after : List Char) : lowerBetween before after s = lowerChars s := by
  have hall : lowerBetween ([] ++ before) after s = lowerBetween [] [] s :=
    lowerBetween_of_isSettledAfter h before after
  rwa [List.nil_append, ← lowerChars_eq_lowerBetween] at hall

structure IsLowerLetter (c : Char) : Prop where
  isLower : IsLower c
  not_ignorable : isCaseIgnorable c = false
  cased : isCased c = true

theorem IsLowerLetter.seesCased_cons {c : Char} (h : IsLowerLetter c) (s : List Char) :
    seesCased (c :: s) = true := by
  rw [seesCased, h.not_ignorable, h.cased]
  rfl

/-- A letter on one side or on the other changes a sigma that is not settled. -/
theorem lowerSigma_ne_of_not_sigmaIsSettled {before after : List Char} {c : Char}
    (hc : IsLowerLetter c) (h : sigmaIsSettled before after = false) :
    lowerSigma (before ++ [c]) after ≠ lowerSigma before after ∨
      lowerSigma before (after ++ [c]) ≠ lowerSigma before after := by
  have hsees : seesCased [c] = true := hc.seesCased_cons []
  unfold sigmaIsSettled at h
  rw [Bool.or_eq_false_iff] at h
  obtain ⟨hafter, hbefore⟩ := h
  unfold lowerSigma
  rw [seesCased_append, seesCased_append, hsees, hafter]
  cases hopen : isOpen before with
  | true =>
    rw [seesCased_of_isOpen hopen]
    left
    simp
  | false =>
    simp only [hopen, Bool.not_false, Bool.true_and, Bool.or_eq_false_iff,
      Bool.not_eq_false'] at hbefore
    obtain ⟨hletter, hclear⟩ := hbefore
    rw [hletter, hclear]
    right
    simp

theorem lowerBetween_ne_of_not_isSettledAfter {before s : List Char} {c : Char}
    (hc : IsLowerLetter c) (h : isSettledAfter before s = false) :
    lowerBetween (before ++ [c]) [] s ≠ lowerBetween before [] s ∨
      lowerBetween before [c] s ≠ lowerBetween before [] s := by
  induction s generalizing before with
  | nil => cases h
  | cons d r ih =>
    rw [isSettledAfter, Bool.and_eq_false_iff] at h
    simp only [lowerBetween, List.append_nil]
    rcases h with hhere | hrest
    · rw [Bool.or_eq_false_iff, bne_eq_false_iff_eq] at hhere
      obtain ⟨rfl, hsigma⟩ := hhere
      refine (lowerSigma_ne_of_not_sigmaIsSettled hc hsigma).imp (fun hne heq => ?_)
        (fun hne heq => ?_)
      · exact hne (List.cons.inj heq).1
      · exact hne (List.cons.inj heq).1
    · have hlength : ∀ x y : Char, (if d = 'Σ' then [x] else lowerChar d).length =
          (if d = 'Σ' then [y] else lowerChar d).length := by
        intro x y
        split <;> rfl
      refine (ih hrest).imp (fun hne heq => ?_) (fun hne heq => ?_)
      · exact hne (List.append_inj heq (hlength _ _)).2
      · exact hne (List.append_inj heq (hlength _ _)).2

/-- Any letter tells a text that is not settled: with the letter on one of its sides the text is
lower-cased in another way than alone. -/
theorem lowerBetween_ne_of_not_isSettled {s : List Char} {c : Char} (hc : IsLowerLetter c)
    (h : isSettled s = false) :
    lowerBetween [c] [] s ≠ lowerChars s ∨ lowerBetween [] [c] s ≠ lowerChars s := by
  rw [lowerChars_eq_lowerBetween]
  exact lowerBetween_ne_of_not_isSettledAfter hc h

end Colloquy.Text
