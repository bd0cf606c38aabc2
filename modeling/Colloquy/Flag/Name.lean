/-!
# Colloquy.Flag.Name

Flag names, and the two characters that flags are packed with.
-/

namespace Colloquy.Flag

/-- Stands between a name and its value. -/
def valueSeparator : Char := ':'

/-- Stands between two flags. -/
def entrySeparator : Char := ';'

def isSeparator (c : Char) : Bool :=
  c = valueSeparator || c = entrySeparator

def hasSeparator (s : String) : Bool :=
  s.toList.any isSeparator

/-- May the text name a flag? -/
def isName (s : String) : Bool :=
  !s.toList.isEmpty && !hasSeparator s

theorem hasSeparator_eq_false_iff {s : String} :
    hasSeparator s = false ↔ valueSeparator ∉ s.toList ∧ entrySeparator ∉ s.toList := by
  rw [hasSeparator, List.any_eq_false]
  constructor
  · intro h
    constructor
    · intro hmem
      exact absurd (h _ hmem) (by decide)
    · intro hmem
      exact absurd (h _ hmem) (by decide)
  · rintro ⟨hvalue, hentry⟩ c hc
    have hc₁ : c ≠ valueSeparator := by
      rintro rfl
      exact hvalue hc
    have hc₂ : c ≠ entrySeparator := by
      rintro rfl
      exact hentry hc
    simp [isSeparator, hc₁, hc₂]

theorem not_hasSeparator_of_isName {s : String} (h : isName s = true) :
    hasSeparator s = false := by
  simp only [isName, Bool.and_eq_true, Bool.not_eq_true'] at h
  exact h.2

/-- The value of a flag that was never written. -/
def unset : String := "0"

/-- As an accepted value: any value. As a new value: the old one. -/
def wildcard : String := "*"

structure Name where
  text : String
  valid : isName text = true
  deriving DecidableEq

def Name.ofText? (s : String) : Option Name :=
  if h : isName s = true then some ⟨s, h⟩ else none

end Colloquy.Flag
