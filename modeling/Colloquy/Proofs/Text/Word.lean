import Colloquy.Text.Word

/-!
# Colloquy.Proofs.Text.Word

Words of texts that are put together. A character that belongs to no word separates what stands
before it from what stands after it (`words_append_cons`), and words joined by one are found again
(`words_intercalate`). A block of neighbours is an infix (`occurs_iff_isInfix`).
-/

namespace Colloquy.Text

theorem occurs_iff_isInfix {α : Type} [BEq α] [LawfulBEq α] {w s : List α} :
    occurs w s = true ↔ w <:+: s := by
  induction s with
  | nil => rw [occurs, List.isEmpty_iff, List.infix_nil]
  | cons c r ih => rw [occurs, Bool.or_eq_true, List.isPrefixOf_iff_prefix, ih, List.infix_cons_iff]

section Split

variable {α : Type} {p : α → Bool}

theorem splitBy_ne_nil (s : List α) : splitBy p s ≠ [] := by
  cases s with
  | nil => simp [splitBy]
  | cons c r =>
    unfold splitBy
    split
    · simp
    · split <;> simp

theorem splitBy_append_marked {c : α} (hc : p c = true) (s r : List α) :
    splitBy p (s ++ c :: r) = splitBy p s ++ splitBy p r := by
  induction s with
  | nil => simp [splitBy, hc]
  | cons d s ih =>
    rw [List.cons_append, splitBy, splitBy, ih]
    split
    · rfl
    · obtain ⟨w, ws, hws⟩ := List.exists_cons_of_ne_nil (splitBy_ne_nil (p := p) s)
      rw [hws]
      rfl

theorem exists_mem_splitBy {c : α} (hc : p c = false) {s : List α} (h : c ∈ s) :
    ∃ w ∈ splitBy p s, c ∈ w := by
  obtain ⟨before, after, rfl⟩ := List.append_of_mem h
  clear h
  induction before with
  | nil =>
    obtain ⟨w, ws, hws⟩ := List.exists_cons_of_ne_nil (splitBy_ne_nil (p := p) after)
    rw [List.nil_append, splitBy, hc, hws]
    exact ⟨c :: w, List.mem_cons_self, List.mem_cons_self⟩
  | cons d before ih =>
    obtain ⟨w, hw, hcw⟩ := ih
    rw [List.cons_append, splitBy]
    split
    · exact ⟨w, List.mem_cons_of_mem _ hw, hcw⟩
    · cases hsplit : splitBy p (before ++ c :: after) with
      | nil =>
        rw [hsplit] at hw
        cases hw
      | cons v vs =>
        rw [hsplit] at hw
        rcases List.mem_cons.mp hw with rfl | hw
        · exact ⟨d :: w, List.mem_cons_self, List.mem_cons_of_mem _ hcw⟩
        · exact ⟨w, List.mem_cons_of_mem _ hw, hcw⟩

end Split

/-! ### Words -/

/-- Two texts with a character between them that belongs to no word. -/
theorem words_append_cons {c : Char} (hc : isAlphanumeric c = false) (s r : List Char) :
    words (s ++ c :: r) = words s ++ words r := by
  have hmark : (!isAlphanumeric c) = true := by rw [hc, Bool.not_false]
  rw [words, splitBy_append_marked (p := fun d => !isAlphanumeric d) hmark, List.filter_append]
  rfl

structure IsWord (w : List Char) : Prop where
  ne_nil : w ≠ []
  alphanumeric : ∀ c ∈ w, isAlphanumeric c = true

theorem isWord_of_mem_words {s w : List Char} (h : w ∈ words s) : IsWord w := by
  obtain ⟨hmem, hne⟩ := List.mem_filter.mp h
  refine ⟨by simpa using hne, fun c hc => ?_⟩
  have hmark := not_mem_of_mem_splitBy hmem hc
  rwa [Bool.not_eq_false'] at hmark

theorem mem_of_mem_words {s w : List Char} {c : Char} (h : w ∈ words s) (hc : c ∈ w) : c ∈ s :=
  mem_of_mem_splitBy (List.mem_filter.mp h).1 hc

theorem words_ne_nil {s : List Char} {c : Char} (h : c ∈ s) (hc : isAlphanumeric c = true) :
    words s ≠ [] := by
  have hmark : (!isAlphanumeric c) = false := by rw [hc, Bool.not_true]
  obtain ⟨w, hw, hcw⟩ := exists_mem_splitBy (p := fun d => !isAlphanumeric d) hmark h
  apply List.ne_nil_of_mem (a := w)
  rw [words, List.mem_filter]
  refine ⟨hw, ?_⟩
  cases w with
  | nil => cases hcw
  | cons d w => rfl

theorem words_of_isWord {w : List Char} (h : IsWord w) : words w = [w] := by
  have hmark : ∀ c ∈ w, (!isAlphanumeric c) = false := by
    intro c hc
    rw [h.alphanumeric c hc, Bool.not_true]
  obtain ⟨c, r, rfl⟩ := List.exists_cons_of_ne_nil h.ne_nil
  rw [words, splitBy_of_forall_not hmark]
  rfl

/-- Words that are joined by a character of no word are the words of what results. -/
theorem words_intercalate {c : Char} (hc : isAlphanumeric c = false) {ws : List (List Char)}
    (h : ∀ w ∈ ws, IsWord w) : words ([c].intercalate ws) = ws := by
  induction ws with
  | nil => rfl
  | cons w rest ih =>
    have hw : IsWord w := h w List.mem_cons_self
    cases rest with
    | nil => rw [List.intercalate_singleton, words_of_isWord hw]
    | cons v rest =>
      rw [List.intercalate_cons_cons, List.append_assoc, List.singleton_append,
        words_append_cons hc, words_of_isWord hw, ih fun u hu => h u (List.mem_cons_of_mem _ hu),
        List.singleton_append]

end Colloquy.Text
