import Colloquy.Calendar.Moment
import Colloquy.Flag.Name
import Colloquy.Proofs.Numeral

/-!
# Colloquy.Proofs.Calendar.Moment

The written form of a moment is made of digits and dashes, so that a flag can hold it, and it is
read back as that moment (`read_text`). What a flag reads as before it is written is no moment.
-/

namespace Colloquy.Moment

open Text (mem_of_mem_intercalate splitBy splitBy_intercalate trimChars)

theorem dash_or_digit_of_mem_text {t : Moment} {c : Char} (h : c ∈ t.text.toList) :
    c = '-' ∨ c.isDigit = true := by
  rw [text, Text.join, String.toList_intercalate] at h
  rcases mem_of_mem_intercalate h with h | ⟨part, hpart, hc⟩
  · exact .inl (List.mem_singleton.mp h)
  · obtain ⟨field, hfield, rfl⟩ := List.mem_map.mp hpart
    obtain ⟨n, _, rfl⟩ := List.mem_map.mp hfield
    exact .inr (Numeral.isDigit_of_mem_ofNat hc)

theorem not_mem_text {t : Moment} {c : Char} (hdash : c ≠ '-') (hdigit : c.isDigit = false) :
    c ∉ t.text.toList := by
  intro h
  rcases dash_or_digit_of_mem_text h with heq | hdig
  · exact hdash heq
  · rw [hdigit] at hdig
    cases hdig

theorem hasSeparator_text (t : Moment) : Flag.hasSeparator t.text = false := by
  rw [Flag.hasSeparator_eq_false_iff]
  constructor
  · exact not_mem_text (by decide) (by decide)
  · exact not_mem_text (by decide) (by decide)

theorem text_ne_wildcard (t : Moment) : t.text ≠ Flag.wildcard := by
  intro h
  have hstar : '*' ∉ t.text.toList := not_mem_text (by decide) (by decide)
  rw [h] at hstar
  exact hstar (by decide)

theorem splitBy_text (t : Moment) :
    splitBy (· == '-') t.text.toList = t.fields.map fun n => (Numeral.ofUInt32 n).toList := by
  have hdigits : ∀ w ∈ t.fields.map fun n => (Numeral.ofUInt32 n).toList, ∀ c ∈ w,
      (c == '-') = false := by
    intro w hw c hc
    obtain ⟨n, -, rfl⟩ := List.mem_map.mp hw
    have hdigit : c.isDigit = true := Numeral.isDigit_of_mem_ofNat hc
    rw [beq_eq_false_iff_ne]
    rintro rfl
    exact absurd hdigit (by decide)
  rw [text, Text.join, String.toList_intercalate, List.map_map]
  exact splitBy_intercalate rfl (List.cons_ne_nil _ _) hdigits

theorem readFields_map (ns : List UInt32) :
    readFields (ns.map fun n => (Numeral.ofUInt32 n).toList) = .ok ns := by
  induction ns with
  | nil => rfl
  | cons n ns ih =>
    have htrim : trimChars (Numeral.ofUInt32 n).toList = (Numeral.ofUInt32 n).toList :=
      Numeral.trimChars_ofNat _
    rw [List.map_cons, readFields, htrim, Numeral.readUInt32_ofUInt32, ih]

/-- A moment is read back from its written form. -/
@[simp] theorem read_text (t : Moment) : read t.text = .ok t := by
  rw [read, splitBy_text, readFields_map]
  rfl

theorem read_unset : read Flag.unset = .error (.fieldCount 1) := rfl

end Colloquy.Moment
