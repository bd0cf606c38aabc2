import Mathlib.Data.List.Forall2
import Colloquy.Proofs.Calendar.Moment
import Colloquy.Proofs.Numeral.Grammar

/-!
# Colloquy.Proofs.Calendar.Grammar

Which texts are moments, and what all others are refused for.

* `IsField`, `IsFlawed` — a part of the text denotes a number of 32 bits; why it denotes none.
* `FailsBy`             — the fault of a text that is no moment.
* `read_grammar`        — reading accepts just the texts of five fields, the written form of a
  moment among them, and refuses each other text for its fault.
-/

namespace Colloquy.Moment

open Text (map_toList_split split splitBy trim trimChars)

def IsField (part : String) (n : UInt32) : Prop :=
  Numeral.Denotes (trim part).toList n.toNat

def IsFlawed (part : String) (cause : Numeral.Fault) : Prop :=
  Numeral.Flaw (UInt32.size - 1) (trim part).toList cause

/-- The first bad field counts, however many fields there are. Their number is the fault only when
all of them are good. -/
inductive FailsBy (s : String) : Fault → Prop where
  | badField {good rest : List String} {bad : String} {cause : Numeral.Fault}
      (h : split '-' s = good ++ bad :: rest) (hgood : ∀ part ∈ good, ∃ n, IsField part n)
      (hbad : IsFlawed bad cause) : FailsBy s (.badField cause)
  | fieldCount (hgood : ∀ part ∈ split '-' s, ∃ n, IsField part n)
      (hcount : (split '-' s).length ≠ 5) : FailsBy s (.fieldCount (split '-' s).length)

variable {s part : String} {parts : List String} {n : UInt32} {ns : List UInt32} {t : Moment}
  {cause : Numeral.Fault} {fault : Fault}

/-! ### Fields -/

theorem readUInt32_eq_ok_iff :
    Numeral.readUInt32 (trimChars part.toList) = .ok n ↔ IsField part n := by
  rw [Numeral.readUInt32_eq_ok_iff, IsField, Text.toList_trim]

theorem readUInt32_eq_error_iff :
    Numeral.readUInt32 (trimChars part.toList) = .error cause ↔ IsFlawed part cause := by
  rw [Numeral.readUInt32_eq_error_iff, IsFlawed, Text.toList_trim]

theorem exists_isFlawed_iff (part : String) :
    (∃ cause, IsFlawed part cause) ↔ ¬ ∃ n, IsField part n := by
  simp only [← readUInt32_eq_ok_iff, ← readUInt32_eq_error_iff]
  cases Numeral.readUInt32 (trimChars part.toList) <;> simp

theorem readFields_eq_ok_iff :
    readFields (parts.map String.toList) = .ok ns ↔ List.Forall₂ IsField parts ns := by
  induction parts generalizing ns with
  | nil => rw [List.map_nil, readFields, List.forall₂_nil_left_iff, Except.ok.injEq, eq_comm]
  | cons part rest ih =>
    rw [List.map_cons, readFields, List.forall₂_cons_left_iff]
    constructor
    · intro h
      split at h
      · cases h
      · rename_i n hn
        split at h
        · cases h
        · rename_i ns' hns
          cases h
          exact ⟨n, ns', readUInt32_eq_ok_iff.mp hn, ih.mp hns, rfl⟩
    · rintro ⟨n, ns', hn, hns, rfl⟩
      rw [readUInt32_eq_ok_iff.mpr hn, ih.mpr hns]

theorem exists_readFields (h : ∀ part ∈ parts, ∃ n, IsField part n) :
    ∃ ns, readFields (parts.map String.toList) = .ok ns := by
  induction parts with
  | nil => exact ⟨[], rfl⟩
  | cons part rest ih =>
    obtain ⟨⟨n, hn⟩, hrest⟩ := List.forall_mem_cons.mp h
    obtain ⟨ns, hns⟩ := ih hrest
    refine ⟨n :: ns, ?_⟩
    rw [List.map_cons, readFields, readUInt32_eq_ok_iff.mpr hn, hns]

theorem readFields_eq_error_iff :
    readFields (parts.map String.toList) = .error cause ↔
      ∃ good bad rest, parts = good ++ bad :: rest ∧ (∀ part ∈ good, ∃ n, IsField part n) ∧
        IsFlawed bad cause := by
  constructor
  · intro h
    induction parts with
    | nil => cases h
    | cons part rest ih =>
      rw [List.map_cons, readFields] at h
      split at h
      · rename_i e he
        cases h
        exact ⟨[], part, rest, rfl, by simp, readUInt32_eq_error_iff.mp he⟩
      · rename_i n hn
        split at h
        · rename_i e he
          cases h
          obtain ⟨good, bad, rest', rfl, hgood, hbad⟩ := ih he
          have hpart : ∃ n, IsField part n := ⟨n, readUInt32_eq_ok_iff.mp hn⟩
          exact ⟨part :: good, bad, rest', rfl, List.forall_mem_cons.mpr ⟨hpart, hgood⟩, hbad⟩
        · cases h
  · rintro ⟨good, bad, rest, rfl, hgood, hbad⟩
    induction good with
    | nil =>
      rw [List.nil_append, List.map_cons, readFields, readUInt32_eq_error_iff.mpr hbad]
    | cons part good ih =>
      obtain ⟨⟨n, hn⟩, hrest⟩ := List.forall_mem_cons.mp hgood
      rw [List.cons_append, List.map_cons, readFields, readUInt32_eq_ok_iff.mpr hn, ih hrest]

/-! ### Moments -/

theorem ofFields?_eq_some_iff : ofFields? ns = some t ↔ ns = t.fields := by
  unfold ofFields?
  split
  · cases t
    simp [fields]
  · rename_i hns
    constructor
    · intro h
      cases h
    · rintro rfl
      exact absurd rfl (hns _ _ _ _ _)

theorem length_fields (t : Moment) : t.fields.length = 5 := rfl

theorem ofFields?_eq_none_iff : ofFields? ns = none ↔ ns.length ≠ 5 := by
  constructor
  · intro h hlen
    match ns, hlen with
    | [_, _, _, _, _], _ => cases h
  · intro hlen
    cases h : ofFields? ns with
    | none => rfl
    | some t =>
      rw [ofFields?_eq_some_iff.mp h] at hlen
      exact absurd (length_fields t) hlen

theorem read_eq_ok_iff : read s = .ok t ↔ List.Forall₂ IsField (split '-' s) t.fields := by
  rw [← readFields_eq_ok_iff, map_toList_split]
  unfold read
  cases readFields (splitBy (· == '-') s.toList) with
  | error e => simp
  | ok ns =>
    dsimp only
    rw [Except.ok.injEq, ← ofFields?_eq_some_iff]
    cases ofFields? ns with
    | none => simp
    | some t' => simp

theorem read_eq_error_iff : read s = .error fault ↔ FailsBy s fault := by
  unfold read
  rw [← map_toList_split]
  constructor
  · intro h
    split at h
    · rename_i e he
      cases h
      obtain ⟨good, bad, rest, hsplit, hgood, hbad⟩ := readFields_eq_error_iff.mp he
      exact .badField hsplit hgood hbad
    · rename_i ns hns
      split at h
      · cases h
      · rename_i hnone
        cases h
        have hfields := readFields_eq_ok_iff.mp hns
        rw [← hfields.length_eq]
        have hboth : List.Forall₂ (fun part n => (∃ n, IsField part n) ∧ IsField part n) _ ns :=
          hfields.imp fun _ n hn => ⟨⟨n, hn⟩, hn⟩
        refine .fieldCount ((List.forall₂_and_left _ _).mp hboth).1 ?_
        rw [hfields.length_eq]
        exact ofFields?_eq_none_iff.mp hnone
  · intro h
    cases h with
    | badField hsplit hgood hbad =>
      rw [readFields_eq_error_iff.mpr ⟨_, _, _, hsplit, hgood, hbad⟩]
    | fieldCount hgood hcount =>
      obtain ⟨ns, hns⟩ := exists_readFields hgood
      have hlen : (split '-' s).length = ns.length := (readFields_eq_ok_iff.mp hns).length_eq
      rw [hlen] at hcount ⊢
      rw [hns]
      dsimp only
      rw [ofFields?_eq_none_iff.mpr hcount]

/-- A text is read as a moment if and only if it is five fields with dashes between them. The
written form of a moment is read as that moment, and can be the value of a flag. A text that is no
moment is refused for its first bad part, with what is wrong with it, and for the number of its
parts if none is bad. A part is bad if and only if it denotes no number. -/
theorem read_grammar :
    (∀ s t, read s = .ok t ↔ List.Forall₂ IsField (split '-' s) t.fields) ∧
    (∀ t : Moment, read t.text = .ok t ∧ ':' ∉ t.text.toList ∧ ';' ∉ t.text.toList ∧
      t.text ≠ "*") ∧
    (∀ s fault, read s = .error fault ↔ FailsBy s fault) ∧
    (∀ s cause, (Fault.badField cause).message s =
      "parsing timestamp '" ++ s ++ "': " ++ cause.message) ∧
    ∀ part, (∃ cause, IsFlawed part cause) ↔ ¬∃ n, IsField part n := by
  refine ⟨fun s t => read_eq_ok_iff, fun t => ?_, fun s fault => read_eq_error_iff,
    fun _ _ => rfl, exists_isFlawed_iff⟩
  have hflag := Flag.hasSeparator_eq_false_iff.mp (hasSeparator_text t)
  exact ⟨read_text t, hflag.1, hflag.2, text_ne_wildcard t⟩

example : read " 1-+2-003-0-4294967295 " = .ok ⟨1, 2, 3, 0, 4294967295⟩ := rfl

example : FailsBy "1-x-4294967296" (.badField .invalidDigit) := read_eq_error_iff.mp rfl

end Colloquy.Moment
