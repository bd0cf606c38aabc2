/-!
# Colloquy.Text.Split

Cutting lists at marked elements, joining texts, and searching for a block.

* `splitBy p s` — the parts of `s` between the elements satisfying `p`, empty parts included.
* `occurs w s`  — `w` stands somewhere in `s` as a block of neighbours.
-/

namespace Colloquy.Text

def splitBy {α : Type} (p : α → Bool) : List α → List (List α)
  | [] => [[]]
  | c :: r =>
    if p c then [] :: splitBy p r
    else
      match splitBy p r with
      | [] => [[c]]
      | w :: ws => (c :: w) :: ws

/-- The parts of a text between the occurrences of one character. -/
def split (sep : Char) (s : String) : List String :=
  (splitBy (· == sep) s.toList).map String.ofList

def join (sep : String) (parts : List String) : String :=
  sep.intercalate parts

def occurs {α : Type} [BEq α] (w : List α) : List α → Bool
  | [] => w.isEmpty
  | c :: r => w.isPrefixOf (c :: r) || occurs w r

/-- The part before the first element satisfying `p`, and the part after it, if there is one. -/
def cutAt {α : Type} (p : α → Bool) : List α → Option (List α × List α)
  | [] => none
  | c :: r => if p c then some ([], r) else (cutAt p r).map fun (a, b) => (c :: a, b)

theorem not_mem_of_mem_splitBy {α : Type} {p : α → Bool} {s w : List α} {c : α}
    (hw : w ∈ splitBy p s) (hc : c ∈ w) : p c = false := by
  induction s generalizing w with
  | nil => simp_all [splitBy]
  | cons d r ih =>
    unfold splitBy at hw
    split at hw
    · rcases List.mem_cons.1 hw with rfl | hw
      · cases hc
      · exact ih hw hc
    · rename_i hd
      split at hw
      · simp_all
      · rename_i v vs hv
        rcases List.mem_cons.1 hw with rfl | hw
        · rcases List.mem_cons.1 hc with rfl | hc
          · simpa using hd
          · exact ih (by simp [hv]) hc
        · exact ih (by simp [hv, hw]) hc

theorem mem_of_mem_splitBy {α : Type} {p : α → Bool} {s w : List α} {c : α}
    (hw : w ∈ splitBy p s) (hc : c ∈ w) : c ∈ s := by
  induction s generalizing w with
  | nil => simp_all [splitBy]
  | cons d r ih =>
    unfold splitBy at hw
    split at hw
    · rcases List.mem_cons.1 hw with rfl | hw
      · cases hc
      · exact List.mem_cons_of_mem _ (ih hw hc)
    · split at hw
      · simp_all
      · rename_i v vs hv
        rcases List.mem_cons.1 hw with rfl | hw
        · rcases List.mem_cons.1 hc with rfl | hc
          · exact List.mem_cons_self
          · exact List.mem_cons_of_mem _ (ih (by simp [hv]) hc)
        · exact List.mem_cons_of_mem _ (ih (by simp [hv, hw]) hc)

theorem splitBy_of_forall_not {α : Type} {p : α → Bool} {w : List α}
    (h : ∀ x ∈ w, p x = false) : splitBy p w = [w] := by
  induction w with
  | nil => rfl
  | cons x w ih =>
    unfold splitBy
    rw [h x List.mem_cons_self, ih fun y hy => h y (List.mem_cons_of_mem _ hy)]
    rfl

theorem splitBy_append_cons {α : Type} {p : α → Bool} {w r : List α} {c : α}
    (h : ∀ x ∈ w, p x = false) (hc : p c = true) :
    splitBy p (w ++ c :: r) = w :: splitBy p r := by
  induction w with
  | nil => rw [List.nil_append, splitBy, if_pos hc]
  | cons x w ih =>
    rw [List.cons_append, splitBy, h x List.mem_cons_self,
      ih fun y hy => h y (List.mem_cons_of_mem _ hy)]
    rfl

/-- Parts without separators are found again once they are joined by one. -/
theorem splitBy_intercalate {α : Type} {p : α → Bool} {c : α} (hc : p c = true)
    {ws : List (List α)} (hne : ws ≠ []) (h : ∀ w ∈ ws, ∀ x ∈ w, p x = false) :
    splitBy p ([c].intercalate ws) = ws := by
  induction ws with
  | nil => exact absurd rfl hne
  | cons w rest ih =>
    have hw : ∀ x ∈ w, p x = false := h w List.mem_cons_self
    cases rest with
    | nil => rw [List.intercalate_singleton, splitBy_of_forall_not hw]
    | cons v rest =>
      rw [List.intercalate_cons_cons, List.append_assoc, List.singleton_append,
        splitBy_append_cons hw hc,
        ih (by simp) fun u hu => h u (List.mem_cons_of_mem _ hu)]

theorem mem_of_mem_intercalate {α : Type} {sep : List α} {parts : List (List α)} {c : α}
    (h : c ∈ sep.intercalate parts) : c ∈ sep ∨ ∃ part ∈ parts, c ∈ part := by
  induction parts with
  | nil => cases h
  | cons part rest ih =>
    cases rest with
    | nil =>
      rw [List.intercalate_singleton] at h
      exact .inr ⟨part, List.mem_cons_self, h⟩
    | cons next rest =>
      rw [List.intercalate_cons_cons, List.append_assoc, List.mem_append, List.mem_append] at h
      rcases h with h | h | h
      · exact .inr ⟨part, List.mem_cons_self, h⟩
      · exact .inl h
      · rcases ih h with h | ⟨p, hp, h⟩
        · exact .inl h
        · exact .inr ⟨p, List.mem_cons_of_mem _ hp, h⟩

theorem split_join {sep : Char} {glue : String} (hglue : glue.toList = [sep])
    {parts : List String} (hne : parts ≠ []) (h : ∀ part ∈ parts, sep ∉ part.toList) :
    split sep (join glue parts) = parts := by
  rw [split, join, String.toList_intercalate, hglue, splitBy_intercalate (by simp) (by simpa)]
  · simp
  · intro w hw x hx
    obtain ⟨part, hpart, rfl⟩ := List.mem_map.mp hw
    rw [beq_eq_false_iff_ne]
    rintro rfl
    exact h part hpart hx

theorem map_toList_split (sep : Char) (s : String) :
    (split sep s).map String.toList = splitBy (· == sep) s.toList := by
  simp [split]

theorem sep_not_mem_of_mem_split {sep : Char} {s part : String} (h : part ∈ split sep s) :
    sep ∉ part.toList := by
  obtain ⟨w, hw, rfl⟩ := List.mem_map.mp h
  intro hmem
  rw [String.toList_ofList] at hmem
  simpa using not_mem_of_mem_splitBy hw hmem

theorem cutAt_eq_some {α : Type} {p : α → Bool} {s a b : List α} (h : cutAt p s = some (a, b)) :
    ∃ c, p c = true ∧ s = a ++ c :: b ∧ ∀ x ∈ a, p x = false := by
  induction s generalizing a with
  | nil => simp [cutAt] at h
  | cons c r ih =>
    unfold cutAt at h
    split at h
    · rename_i hc
      simp only [Option.some.injEq, Prod.mk.injEq] at h
      obtain ⟨rfl, rfl⟩ := h
      exact ⟨c, hc, rfl, by simp⟩
    · rename_i hc
      simp only [Option.map_eq_some_iff, Prod.exists, Prod.mk.injEq] at h
      obtain ⟨a', b', h', rfl, rfl⟩ := h
      obtain ⟨d, hd, rfl, hn⟩ := ih h'
      refine ⟨d, hd, rfl, ?_⟩
      intro x hx
      rcases List.mem_cons.1 hx with rfl | hx
      · simpa using hc
      · exact hn x hx

theorem cutAt_append_cons {α : Type} {p : α → Bool} {a b : List α} {c : α}
    (h : ∀ x ∈ a, p x = false) (hc : p c = true) : cutAt p (a ++ c :: b) = some (a, b) := by
  induction a with
  | nil => rw [List.nil_append, cutAt, if_pos hc]
  | cons x a ih =>
    rw [List.cons_append, cutAt, h x List.mem_cons_self,
      ih fun y hy => h y (List.mem_cons_of_mem _ hy)]
    rfl

end Colloquy.Text
