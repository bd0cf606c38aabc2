import Colloquy.Text.Range

/-!
# Colloquy.Text.Blank

Blank characters (the Unicode property `White_Space`) and trimming.

* `trim`    — drops blanks at both ends, none inside.
* `isBlankText` — holds exactly when trimming leaves nothing.
-/

namespace Colloquy.Text

def blankRanges : List (Nat × Nat) :=
  [(0x9, 0xD), (0x20, 0x20), (0x85, 0x85), (0xA0, 0xA0), (0x1680, 0x1680), (0x2000, 0x200A),
   (0x2028, 0x2029), (0x202F, 0x202F), (0x205F, 0x205F), (0x3000, 0x3000)]

def isBlank (c : Char) : Bool :=
  inRanges c.toNat blankRanges

/-- Drops the elements satisfying `p` at both ends. -/
def stripEnds {α : Type} (p : α → Bool) (s : List α) : List α :=
  ((s.dropWhile p).reverse.dropWhile p).reverse

def trimChars (s : List Char) : List Char :=
  stripEnds isBlank s

def trim (s : String) : String :=
  String.ofList (trimChars s.toList)

def isBlankText (s : String) : Bool :=
  s.toList.all isBlank

@[simp] theorem toList_trim (s : String) : (trim s).toList = trimChars s.toList := by
  simp [trim]

theorem dropWhile_eq_nil {α : Type} (p : α → Bool) (s : List α) :
    s.dropWhile p = [] ↔ s.all p = true := by
  induction s with
  | nil => simp
  | cons c r ih => by_cases h : p c = true <;> simp_all

theorem all_dropWhile {α : Type} (p : α → Bool) (s : List α) :
    (s.dropWhile p).all p = s.all p := by
  induction s with
  | nil => rfl
  | cons c r ih => by_cases h : p c = true <;> simp_all

theorem stripEnds_eq_nil_iff {α : Type} (p : α → Bool) (s : List α) :
    stripEnds p s = [] ↔ s.all p = true := by
  rw [stripEnds, List.reverse_eq_nil_iff, dropWhile_eq_nil, List.all_reverse, all_dropWhile]

theorem not_of_mem_head?_stripEnds {α : Type} {p : α → Bool} {s : List α} {c : α}
    (h : c ∈ (stripEnds p s).head?) : p c = false := by
  rw [stripEnds, List.head?_reverse] at h
  have hfirst : (s.dropWhile p).head? = some c := by
    obtain ⟨t, ht⟩ := List.dropWhile_suffix (l := (s.dropWhile p).reverse) p
    rw [← List.getLast?_reverse, ← ht, List.getLast?_append, h]
    rfl
  have hnot := List.head?_dropWhile_not p s
  rw [hfirst] at hnot
  exact hnot

theorem not_of_mem_getLast?_stripEnds {α : Type} {p : α → Bool} {s : List α} {c : α}
    (h : c ∈ (stripEnds p s).getLast?) : p c = false := by
  rw [stripEnds, List.getLast?_reverse] at h
  have hnot := List.head?_dropWhile_not p (s.dropWhile p).reverse
  rw [h] at hnot
  exact hnot

theorem stripEnds_eq_self {α : Type} {p : α → Bool} {s : List α}
    (hfirst : ∀ c ∈ s.head?, p c = false) (hlast : ∀ c ∈ s.getLast?, p c = false) :
    stripEnds p s = s := by
  have hfront : s.dropWhile p = s := by
    cases s with
    | nil => rfl
    | cons c r => rw [List.dropWhile_cons_of_neg (by simp [hfirst c rfl])]
  have hback : s.reverse.dropWhile p = s.reverse := by
    cases hr : s.reverse with
    | nil => rfl
    | cons c r =>
      have hc : c ∈ s.getLast? := by rw [← List.head?_reverse, hr]; rfl
      rw [List.dropWhile_cons_of_neg (by simp [hlast c hc])]
  rw [stripEnds, hfront, hback, List.reverse_reverse]

theorem mem_of_mem_stripEnds {α : Type} {p : α → Bool} {s : List α} {c : α}
    (h : c ∈ stripEnds p s) : c ∈ s := by
  rw [stripEnds, List.mem_reverse] at h
  have hfront := List.dropWhile_subset p h
  rw [List.mem_reverse] at hfront
  exact List.dropWhile_subset p hfront

theorem trimChars_of_forall_not {s : List Char} (h : ∀ c ∈ s, isBlank c = false) :
    trimChars s = s :=
  stripEnds_eq_self (fun c hc => h c (List.mem_of_mem_head? hc))
    (fun c hc => h c (List.mem_of_getLast? hc))

theorem trim_eq_empty_iff (s : String) : (trim s).toList = [] ↔ isBlankText s = true := by
  rw [toList_trim, trimChars, stripEnds_eq_nil_iff, isBlankText]

theorem isBlankText_eq_false_iff (s : String) :
    isBlankText s = false ↔ ∃ c ∈ s.toList, isBlank c = false := by
  rw [isBlankText, List.all_eq_false]
  simp only [Bool.not_eq_true]

end Colloquy.Text
