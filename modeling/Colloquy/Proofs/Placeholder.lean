import Colloquy.Placeholder

/-!
# Colloquy.Proofs.Placeholder

Names filled into a text, described place by place. What a place gives to the result depends on the
text alone, not on what was filled in before it.

* `Opens`  — a mark stands at the beginning of a text, and no word goes on behind it.
* `Inside` — a place belongs to a mark that opens before it.
* `share`  — what a place gives: a name where a mark opens, nothing inside a mark, and its own
  character everywhere else.
* `fill_in_one_pass` — the filled text is what its places give, in order. Texts that meet where no
  word goes on can be filled apart.
-/

namespace Colloquy.Placeholder

open Text

def speakerMark : List Char := ['$', 'm', 'e']

def actorMark : List Char := ['$', 'y', 'o', 'u']

def marks : List (List Char) := [speakerMark, actorMark]

/-- The text begins with the mark, and no word goes on behind it. -/
def Opens (mark text : List Char) : Prop :=
  mark <+: text ∧ wordEnds (text.drop mark.length) = true

instance (mark text : List Char) : Decidable (Opens mark text) :=
  inferInstanceAs (Decidable (_ ∧ _))

/-- The place belongs to a mark that opens before it. -/
def Inside (text : List Char) (i : Nat) : Prop :=
  ∃ mark ∈ marks, ∃ j < i, i < j + mark.length ∧ Opens mark (text.drop j)

instance (text : List Char) (i : Nat) : Decidable (Inside text i) :=
  inferInstanceAs (Decidable (∃ mark ∈ marks, _))

/-- What a place of the text gives to the filled text. -/
def share (me you text : List Char) (i : Nat) : List Char :=
  if Opens speakerMark (text.drop i) then me
  else if Opens actorMark (text.drop i) then you
  else if Inside text i then []
  else text[i]?.toList

variable {me you mark mark' text r : List Char} {c : Char} {i k n : Nat}

/-! ### Marks -/

theorem mem_marks : mark ∈ marks ↔ mark = speakerMark ∨ mark = actorMark := by
  simp [marks]

theorem speakerMark_mem : speakerMark ∈ marks :=
  mem_marks.mpr (.inl rfl)

theorem actorMark_mem : actorMark ∈ marks :=
  mem_marks.mpr (.inr rfl)

theorem opens_append (h : wordEnds r = true) : Opens mark (mark ++ r) :=
  ⟨List.prefix_append mark r, by rwa [List.drop_left]⟩

theorem Opens.eq_append (h : Opens mark text) : ∃ r, text = mark ++ r ∧ wordEnds r = true := by
  obtain ⟨⟨r, rfl⟩, hends⟩ := h
  rw [List.drop_left] at hends
  exact ⟨r, rfl, hends⟩

theorem Opens.head?_eq (h : Opens mark text) (hmark : mark ∈ marks) : text.head? = some '$' := by
  obtain ⟨r, rfl, -⟩ := h.eq_append
  rcases mem_marks.mp hmark with rfl | rfl
  · rfl
  · rfl

/-- Two marks never open in one place. -/
theorem Opens.unique (h : Opens mark text) (h' : Opens mark' text) (hmark : mark ∈ marks)
    (hmark' : mark' ∈ marks) : mark = mark' := by
  have hapart : ∀ m ∈ marks, ∀ m' ∈ marks, m <+: m' → m = m' := by decide
  rcases List.prefix_or_prefix_of_prefix h.1 h'.1 with hle | hle
  · exact hapart mark hmark mark' hmark' hle
  · exact (hapart mark' hmark' mark hmark hle).symm

/-- No mark opens inside a mark. -/
theorem not_opens_within (hmark : mark ∈ marks) (hdrop : text.drop i = mark ++ r) (hpos : 0 < k)
    (hk : k < mark.length) (hmark' : mark' ∈ marks) : ¬Opens mark' (text.drop (i + k)) := by
  intro hopens
  have hdollar : ∀ m ∈ marks, ∀ j < m.length, 0 < j → m[j]? ≠ some '$' := by decide
  have hhead : (text.drop (i + k)).head? = mark[k]? := by
    rw [List.head?_drop, ← List.getElem?_drop, hdrop, List.getElem?_append_left hk]
  exact hdollar mark hmark k hk hpos (by rw [← hhead, hopens.head?_eq hmark'])

/-- Every text is empty, or begins with a mark, or with a character that stands for itself. -/
theorem opens_induction {P : List Char → Prop} (nil : P [])
    (speaker : ∀ r, wordEnds r = true → P r → P (speakerMark ++ r))
    (actor : ∀ r, wordEnds r = true → P r → P (actorMark ++ r))
    (plain : ∀ c r, ¬Opens speakerMark (c :: r) → ¬Opens actorMark (c :: r) → P r → P (c :: r))
    (text : List Char) : P text := by
  induction hn : text.length using Nat.strongRecOn generalizing text with
  | ind n ih =>
    subst hn
    by_cases hspeaker : Opens speakerMark text
    · obtain ⟨r, rfl, hends⟩ := hspeaker.eq_append
      exact speaker r hends (ih r.length (by simp [speakerMark]; omega) r rfl)
    by_cases hactor : Opens actorMark text
    · obtain ⟨r, rfl, hends⟩ := hactor.eq_append
      exact actor r hends (ih r.length (by simp [actorMark]; omega) r rfl)
    cases text with
    | nil => exact nil
    | cons c r => exact plain c r hspeaker hactor (ih r.length (by simp) r rfl)

theorem fillChars_speakerMark (h : wordEnds r = true) :
    fillChars me you (speakerMark ++ r) = me ++ fillChars me you r := by
  simp [speakerMark, fillChars, h]

theorem fillChars_actorMark (h : wordEnds r = true) :
    fillChars me you (actorMark ++ r) = you ++ fillChars me you r := by
  simp [actorMark, fillChars, h]

theorem fillChars_cons (hspeaker : ¬Opens speakerMark (c :: r))
    (hactor : ¬Opens actorMark (c :: r)) :
    fillChars me you (c :: r) = c :: fillChars me you r := by
  rw [fillChars.eq_def]
  split
  · rename_i heq
    cases heq
  · rename_i r' heq
    obtain ⟨rfl, rfl⟩ := List.cons.inj heq
    have hends : ¬wordEnds r' = true := fun h => hspeaker (opens_append h)
    simp [hends, fillChars]
  · rename_i r' heq
    obtain ⟨rfl, rfl⟩ := List.cons.inj heq
    have hends : ¬wordEnds r' = true := fun h => hactor (opens_append h)
    simp [hends, fillChars]
  · rename_i heq
    obtain ⟨rfl, rfl⟩ := List.cons.inj heq
    rfl

/-! ### Places -/

theorem inside_within (hmark : mark ∈ marks) (hopens : Opens mark (text.drop i)) (hpos : 0 < k)
    (hk : k < mark.length) : Inside text (i + k) :=
  ⟨mark, hmark, i, by omega, by omega, hopens⟩

/-- Beyond some places no mark reaches that opens in them, if none reaches them from before. -/
theorem not_inside_add (hfree : ¬Inside text i)
    (h : ∀ mark ∈ marks, ∀ k < n, Opens mark (text.drop (i + k)) → k + mark.length ≤ n) :
    ¬Inside text (i + n) := by
  rintro ⟨mark, hmark, j, hj, hreach, hopens⟩
  by_cases hbefore : j < i
  · exact hfree ⟨mark, hmark, j, hbefore, by omega, hopens⟩
  · obtain ⟨k, rfl⟩ := Nat.exists_eq_add_of_le (Nat.le_of_not_lt hbefore)
    have hle := h mark hmark k (by omega) hopens
    omega

theorem not_inside_of_opens (hfree : ¬Inside text i) (hmark : mark ∈ marks)
    (hdrop : text.drop i = mark ++ r) (hends : wordEnds r = true) :
    ¬Inside text (i + mark.length) := by
  refine not_inside_add hfree fun mark' hmark' k hk hopens => ?_
  rcases Nat.eq_zero_or_pos k with rfl | hpos
  · rw [Nat.add_zero, hdrop] at hopens
    obtain rfl := hopens.unique (opens_append hends) hmark' hmark
    exact Nat.le_of_eq (Nat.zero_add _)
  · exact absurd hopens (not_opens_within hmark hdrop hpos hk hmark')

/-- All places of a mark together give what its first place gives. -/
theorem flatMap_share_mark (hmark : mark ∈ marks) (hdrop : text.drop i = mark ++ r)
    (hends : wordEnds r = true) :
    (List.range' i mark.length).flatMap (share me you text) = share me you text i := by
  have hopens : Opens mark (text.drop i) := by
    rw [hdrop]
    exact opens_append hends
  have hpos : mark.length = mark.length - 1 + 1 := by
    rcases mem_marks.mp hmark with rfl | rfl
    · rfl
    · rfl
  rw [hpos, List.range'_succ, List.flatMap_cons, List.append_right_eq_self, List.flatMap_eq_nil_iff]
  intro j hj
  obtain ⟨hlow, hhigh⟩ := List.mem_range'_1.mp hj
  obtain ⟨k, rfl⟩ := Nat.exists_eq_add_of_le (Nat.le_of_succ_le hlow)
  have hnone : ∀ mark' ∈ marks, ¬Opens mark' (text.drop (i + k)) := fun mark' hmark' =>
    not_opens_within hmark hdrop (by omega) (by omega) hmark'
  rw [share, if_neg (hnone speakerMark speakerMark_mem), if_neg (hnone actorMark actorMark_mem),
    if_pos (inside_within hmark hopens (by omega) (by omega))]

/-- From a place on that lies inside no mark, the filled text is what the places give. -/
theorem fillChars_drop (hfree : ¬Inside text i) :
    fillChars me you (text.drop i) =
      (List.range' i (text.drop i).length).flatMap (share me you text) := by
  generalize hrest : text.drop i = rest
  induction rest using opens_induction generalizing i with
  | nil => rfl
  | speaker r hends ih =>
    have hnext : text.drop (i + speakerMark.length) = r := by
      rw [← List.drop_drop, hrest, List.drop_left]
    have hopens : Opens speakerMark (text.drop i) := by
      rw [hrest]
      exact opens_append hends
    have hfree' := not_inside_of_opens hfree speakerMark_mem hrest hends
    rw [fillChars_speakerMark hends, ih hfree' hnext, List.length_append, ← List.range'_append_1,
      List.flatMap_append, flatMap_share_mark speakerMark_mem hrest hends, share, if_pos hopens]
  | actor r hends ih =>
    have hnext : text.drop (i + actorMark.length) = r := by
      rw [← List.drop_drop, hrest, List.drop_left]
    have hopens : Opens actorMark (text.drop i) := by
      rw [hrest]
      exact opens_append hends
    have hother : ¬Opens speakerMark (text.drop i) := fun h =>
      absurd (h.unique hopens speakerMark_mem actorMark_mem) (by decide)
    have hfree' := not_inside_of_opens hfree actorMark_mem hrest hends
    rw [fillChars_actorMark hends, ih hfree' hnext, List.length_append, ← List.range'_append_1,
      List.flatMap_append, flatMap_share_mark actorMark_mem hrest hends, share, if_neg hother,
      if_pos hopens]
  | plain c r hspeaker hactor ih =>
    have hnext : text.drop (i + 1) = r := by
      rw [← List.drop_drop, hrest]
      rfl
    have hchar : text[i]? = some c := by
      rw [← List.head?_drop, hrest]
      rfl
    have hnot : ∀ mark ∈ marks, ¬Opens mark (text.drop i) := by
      rw [hrest]
      simp [marks, hspeaker, hactor]
    have hfree' : ¬Inside text (i + 1) := by
      refine not_inside_add hfree fun mark hmark k hk hopens => ?_
      obtain rfl : k = 0 := by omega
      exact absurd hopens (hnot mark hmark)
    rw [fillChars_cons hspeaker hactor, ih hfree' hnext, List.length_cons, List.range'_succ,
      List.flatMap_cons, share, hrest, if_neg hspeaker, if_neg hactor, if_neg hfree, hchar]
    rfl

theorem fillChars_eq_flatMap (me you text : List Char) :
    fillChars me you text = (List.range text.length).flatMap (share me you text) := by
  have hfree : ¬Inside text 0 := by
    rintro ⟨mark, -, j, hj, -⟩
    cases hj
  have hall : fillChars me you (text.drop 0) = _ := fillChars_drop hfree
  rwa [List.drop_zero, ← List.range_eq_range'] at hall

/-! ### Texts that meet -/

theorem wordEnds_append (hr : wordEnds r = true) (h : wordEnds text = true) :
    wordEnds (r ++ text) = true := by
  cases r with
  | nil => exact h
  | cons c r => exact hr

theorem wordEnds_of_append (h : wordEnds (text ++ r) = true) : wordEnds text = true := by
  cases text with
  | nil => rfl
  | cons c text => exact h

theorem isWordChar_of_mem_tail (hmark : mark ∈ marks) (hc : c ∈ mark.tail) :
    isWordChar c = true := by
  have hall : marks.all (fun m => m.tail.all isWordChar) = true := rfl
  exact List.all_eq_true.mp (List.all_eq_true.mp hall mark hmark) c hc

theorem Opens.of_append (hends : wordEnds r = true) (hmark : mark ∈ marks)
    (h : Opens mark (c :: text ++ r)) : Opens mark (c :: text) := by
  have hprefix : mark <+: c :: text := by
    rcases List.prefix_or_prefix_of_prefix h.1 (List.prefix_append (c :: text) r) with hle | hle
    · exact hle
    · obtain ⟨rest, rfl⟩ := hle
      cases rest with
      | nil => simp
      | cons d rest =>
        -- `d` is a letter of the mark and the first character of `r`
        have hletter : isWordChar d = true := isWordChar_of_mem_tail hmark (by simp)
        obtain ⟨u, rfl⟩ := (List.prefix_append_right_inj (c :: text)).mp h.1
        have hnot : (!isWordChar d) = true := hends
        rw [hletter] at hnot
        cases hnot
  obtain ⟨s, hs⟩ := hprefix
  rw [← hs] at h ⊢
  obtain ⟨u, hu, hu'⟩ := h.eq_append
  obtain rfl : s ++ r = u := by simpa using hu
  exact opens_append (wordEnds_of_append hu')

theorem fillChars_append (me you : List Char) (a b : List Char) (hb : wordEnds b = true) :
    fillChars me you (a ++ b) = fillChars me you a ++ fillChars me you b := by
  induction a using opens_induction with
  | nil => rfl
  | speaker r hends ih =>
    rw [List.append_assoc, fillChars_speakerMark (wordEnds_append hends hb), ih,
      fillChars_speakerMark hends, List.append_assoc]
  | actor r hends ih =>
    rw [List.append_assoc, fillChars_actorMark (wordEnds_append hends hb), ih,
      fillChars_actorMark hends, List.append_assoc]
  | plain c r hspeaker hactor ih =>
    have hspeaker' : ¬Opens speakerMark (c :: r ++ b) :=
      fun h => hspeaker (h.of_append hb speakerMark_mem)
    have hactor' : ¬Opens actorMark (c :: r ++ b) := fun h => hactor (h.of_append hb actorMark_mem)
    rw [List.cons_append] at hspeaker' hactor' ⊢
    rw [fillChars_cons hspeaker' hactor', ih, fillChars_cons hspeaker hactor, List.cons_append]

/-- Every place of a text gives its share to the filled text: a name where a mark opens, nothing
inside a mark, and its own character elsewhere. So a text that carries on no word is filled apart
from what stands before it. -/
theorem fill_in_one_pass (speaker actor : String) :
    (∀ text : String, fill speaker actor text = String.ofList
      ((List.range text.length).flatMap (share speaker.toList actor.toList text.toList))) ∧
    ∀ a b : String, wordEnds b.toList = true →
      fill speaker actor (a ++ b) = fill speaker actor a ++ fill speaker actor b := by
  refine ⟨fun text => ?_, fun a b hb => ?_⟩
  · rw [fill, fillChars_eq_flatMap, String.length_toList]
  · rw [fill, String.toList_append, fillChars_append _ _ _ _ hb, String.ofList_append]
    rfl

/-- Names that look like marks stay as they are, and so does a mark that a word carries on. -/
theorem fill_in_one_pass_greeting :
    wordEnds "$you".toList = true ∧
    fill "$you" "Ada" "$$me and $me_too, $me$you" = "$$you and $me_too, $youAda" ∧
    fill "$you" "Ada" ("$$me and $me_too, $me" ++ "$you") =
      fill "$you" "Ada" "$$me and $me_too, $me" ++ fill "$you" "Ada" "$you" := by
  obtain ⟨hplaces, happart⟩ := fill_in_one_pass "$you" "Ada"
  have hends : wordEnds "$you".toList = true := by decide
  refine ⟨hends, ?_, happart "$$me and $me_too, $me" "$you" hends⟩
  rw [hplaces]
  decide +kernel

end Colloquy.Placeholder
