import Colloquy.Proofs.Keyword
import Colloquy.Proofs.Text.Surroundings
import Colloquy.Proofs.Text.Word

/-!
# Colloquy.Proofs.Keyword.Spoken

Keywords that are heard word by word. Spoken between other words a keyword is always heard, and of
an utterance only the words count (`heardIn_exactToken_spoken`).

* `spoken u` — the words of `u` in lower case, one space between them.
-/

namespace Colloquy.Keyword

open Text

/-- What remains of an utterance when only its words are told apart. -/
def spoken (utterance : String) : String :=
  join " " ((words (lowerChars utterance.toList)).map String.ofList)

theorem isAlphanumeric_space : isAlphanumeric ' ' = false := by
  decide

theorem isLower_space : IsLower ' ' :=
  ⟨by decide, by decide⟩

theorem toList_spoken (u : String) :
    (spoken u).toList = [' '].intercalate (words (lowerChars u.toList)) := by
  rw [spoken, join, String.toList_intercalate, List.map_map]
  simp

/-- Lower-casing once more changes nothing: the words are in lower case already. -/
theorem lowerChars_spoken (u : String) : lowerChars (spoken u).toList = (spoken u).toList := by
  apply lowerAfter_of_isLower
  intro c hc
  rw [toList_spoken] at hc
  rcases mem_of_mem_intercalate hc with hspace | ⟨w, hw, hcw⟩
  · rw [List.mem_singleton.mp hspace]
    exact isLower_space
  · exact isLower_of_mem_lowerChars (mem_of_mem_words hw hcw)

theorem words_lowerChars_spoken (u : String) :
    words (lowerChars (spoken u).toList) = words (lowerChars u.toList) := by
  rw [lowerChars_spoken, toList_spoken,
    words_intercalate isAlphanumeric_space fun _ hw => isWord_of_mem_words hw]

theorem words_lowerChars_append_space (s t : List Char) :
    words (lowerChars (s ++ ' ' :: t)) = words (lowerChars s) ++ words (lowerChars t) := by
  rw [lowerChars_append_break isBreak_space, isLower_space.2, List.singleton_append,
    words_append_cons isAlphanumeric_space]

theorem wordsOccur_congr {keyword u v : List Char} (h : words u = words v) :
    wordsOccur keyword u = wordsOccur keyword v := by
  rw [wordsOccur, wordsOccur, h]

theorem wordsOccur_of_isInfix {keyword utterance : List Char} (hne : words keyword ≠ [])
    (h : words keyword <:+: words utterance) : wordsOccur keyword utterance = true := by
  have hoccurs : occurs (words keyword) (words utterance) = true := occurs_iff_isInfix.mpr h
  simpa [wordsOccur, hoccurs] using hne

/-- A keyword with a letter or number in it is heard wherever it is spoken with a space before and
after it. For every keyword an utterance is as good as its words alone. -/
theorem heardIn_exactToken_spoken (k : String) :
    ((∃ c ∈ (lower k).toList, isAlphanumeric c = true) →
      ∀ p s : String, heardIn .exactToken k (p ++ " " ++ k ++ " " ++ s) = true) ∧
    ∀ u : String, heardIn .exactToken k (spoken u) = heardIn .exactToken k u := by
  constructor
  · rintro ⟨c, hc, halpha⟩ p s
    rw [toList_lower] at hc
    have hlist : (p ++ " " ++ k ++ " " ++ s).toList =
        p.toList ++ ' ' :: (k.toList ++ ' ' :: s.toList) := by
      simp
    have hwords : words (lowerChars (p ++ " " ++ k ++ " " ++ s).toList) =
        words (lowerChars p.toList) ++ words (lowerChars k.toList) ++
          words (lowerChars s.toList) := by
      rw [hlist, words_lowerChars_append_space, words_lowerChars_append_space, List.append_assoc]
    have hinfix : words (lowerChars k.toList) <:+:
        words (lowerChars (p ++ " " ++ k ++ " " ++ s).toList) := by
      rw [hwords]
      exact List.infix_append _ _ _
    unfold heardIn
    split
    · rfl
    · exact wordsOccur_of_isInfix (words_ne_nil hc halpha) hinfix
  · intro u
    unfold heardIn
    split
    · rfl
    · exact wordsOccur_congr (words_lowerChars_spoken u)

/-- The last sigma of a keyword is final between spaces as well, whatever comes next. -/
theorem heardIn_exactToken_spoken_streets :
    (∃ c ∈ (lower "Ὁ ΟΔΟΣ").toList, isAlphanumeric c = true) ∧
    heardIn .exactToken "Ὁ ΟΔΟΣ" "ποῦ ἐστιν Ὁ ΟΔΟΣ ΑΣΤΥ;" = true ∧
    heardIn .exactToken "Ὁ ΟΔΟΣ" "ὁ οδος" = heardIn .exactToken "Ὁ ΟΔΟΣ" "«ὁ» -- οδοΣ!" := by
  have hletter : ∃ c ∈ (lower "Ὁ ΟΔΟΣ").toList, isAlphanumeric c = true :=
    ⟨'δ', by decide, by decide⟩
  obtain ⟨heard, hspoken⟩ := heardIn_exactToken_spoken "Ὁ ΟΔΟΣ"
  refine ⟨hletter, heard hletter "ποῦ ἐστιν" "ΑΣΤΥ;", ?_⟩
  have hwords : spoken "«ὁ» -- οδοΣ!" = "ὁ οδος" := by decide +kernel
  rw [← hspoken "«ὁ» -- οδοΣ!", hwords]

end Colloquy.Keyword
