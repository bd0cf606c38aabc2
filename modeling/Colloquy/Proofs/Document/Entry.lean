import Colloquy.Document.Entry
import Colloquy.Document.Problem
import Colloquy.Proofs.Numeral

/-!
# Colloquy.Proofs.Document.Entry

Which conditions and effects survive being written as an entry and read again.

* `Condition.IsWritable`, `Effect.IsWritable` — the ones that do.
* `Condition.ofEntry_entry`, `Effect.ofEntry_entry` — their entries are read back as they were.
* `Condition.ofEntry_cases`, `Effect.ofEntry_cases` — what an entry is read as: something about a
  flag, which `flagCheck?` and `flagWrite?` see as well, or something that can always be written.
  So reading yields no others, if the values about flags are plain; it does not look at these.
-/

namespace Colloquy

open Colloquy.Flag (isName hasSeparator)

/-! ### Numbers and names -/

theorem bind_eq_ok_iff {ε α β : Type} {x : Except ε α} {f : α → Except ε β} {b : β} :
    (x >>= f) = .ok b ↔ ∃ a, x = .ok a ∧ f a = .ok b := by
  cases x with
  | error e =>
    constructor
    · intro h
      cases h
    · rintro ⟨a, h, _⟩
      cases h
  | ok a =>
    constructor
    · intro h
      exact ⟨a, rfl, h⟩
    · rintro ⟨a', h, hf⟩
      cases h
      exact hf

theorem readFlagName_of_isName {text : String} (h : isName text = true) :
    readFlagName text = .ok text := by
  rw [readFlagName, if_pos h]

theorem readFlagName_eq_ok {text name : String} (h : readFlagName text = .ok name) :
    name = text ∧ isName text = true := by
  unfold readFlagName at h
  split at h
  · rename_i hname
    cases h
    exact ⟨rfl, hname⟩
  · cases h

theorem readNumber_of_read {α : Type} {read : List Char → Except Numeral.Fault α}
    {role : NumberRole} {text : String} {n : α} (htrim : Text.trimChars text.toList = text.toList)
    (h : read text.toList = .ok n) : readNumber read role text = .ok n := by
  rw [readNumber, htrim, h]

@[simp] theorem readNumber_ofUInt32 (role : NumberRole) (n : UInt32) :
    readNumber Numeral.readUInt32 role (Numeral.ofUInt32 n) = .ok n :=
  readNumber_of_read (Numeral.trimChars_ofNat _) (Numeral.readUInt32_ofUInt32 n)

@[simp] theorem readNumber_ofUInt64 (role : NumberRole) (n : UInt64) :
    readNumber Numeral.readUInt64 role (Numeral.ofUInt64 n) = .ok n :=
  readNumber_of_read (Numeral.trimChars_ofNat _) (Numeral.readUInt64_ofUInt64 n)

@[simp] theorem readNumber_ofInt64 (role : NumberRole) (n : Int64) :
    readNumber Numeral.readInt64 role (Numeral.ofInt64 n) = .ok n :=
  readNumber_of_read (Numeral.trimChars_ofInt _) (Numeral.readInt64_ofInt64 n)

/-! ### Conditions -/

namespace Condition

/-- No value of a flag check holds a separator. -/
def ValuesPlain : Condition → Prop
  | flag _ values => ∀ v ∈ values, hasSeparator v = false
  | _ => True

/-- The written form of the condition is read back. -/
def IsWritable : Condition → Prop
  | flag name values =>
    isName name = true ∧ values ≠ [] ∧ ∀ v ∈ values, hasSeparator v = false
  | age name _ => isName name = true
  | _ => True

instance : DecidablePred IsWritable
  | flag name values =>
    inferInstanceAs (Decidable (isName name = true ∧ values ≠ [] ∧
      ∀ v ∈ values, hasSeparator v = false))
  | age name _ => inferInstanceAs (Decidable (isName name = true))
  | item _ _ | quest _ _ | level _ _ => inferInstanceAs (Decidable True)

theorem valuesPlain_of_isWritable {c : Condition} (h : c.IsWritable) : c.ValuesPlain := by
  cases c with
  | flag name values => exact h.2.2
  | _ => trivial

theorem ofFlagCheck_of_isName {name : String} {values : List String} (hname : isName name = true)
    (hne : values ≠ []) : ofFlagCheck (name :: values) = .ok (.flag name values) := by
  rw [ofFlagCheck]
  · rw [readFlagName_of_isName hname]
    rfl
  · exact hne

theorem ofFlagCheck_eq_ok {fields : List String} {c : Condition}
    (h : ofFlagCheck fields = .ok c) :
    ∃ name values, fields = name :: values ∧ values ≠ [] ∧ isName name = true ∧
      c = .flag name values := by
  unfold ofFlagCheck at h
  split at h
  · cases h
  · cases h
  · rename_i name values hne
    obtain ⟨text, htext, hc⟩ := bind_eq_ok_iff.mp h
    obtain ⟨rfl, hname⟩ := readFlagName_eq_ok htext
    cases hc
    exact ⟨text, values, rfl, by simpa using hne, hname, rfl⟩

theorem ofItem_eq_ok {args : List String} {c : Condition} (h : ofItem args = .ok c) :
    ∃ name count, c = .item name count := by
  unfold ofItem at h
  split at h
  · cases h
    exact ⟨_, _, rfl⟩
  · obtain ⟨count, _, hc⟩ := bind_eq_ok_iff.mp h
    cases hc
    exact ⟨_, _, rfl⟩
  · cases h

theorem ofQuest_eq_ok {args : List String} {c : Condition} (h : ofQuest args = .ok c) :
    ∃ name stage, c = .quest name stage := by
  unfold ofQuest at h
  split at h
  · obtain ⟨stage, _, hc⟩ := bind_eq_ok_iff.mp h
    cases hc
    exact ⟨_, _, rfl⟩
  · cases h

theorem ofLevel_eq_ok {args : List String} {c : Condition} (h : ofLevel args = .ok c) :
    ∃ skill least, c = .level skill least := by
  unfold ofLevel at h
  split at h
  · obtain ⟨least, _, hc⟩ := bind_eq_ok_iff.mp h
    cases hc
    exact ⟨_, _, rfl⟩
  · obtain ⟨least, _, hc⟩ := bind_eq_ok_iff.mp h
    cases hc
    exact ⟨_, _, rfl⟩
  · cases h

theorem ofAge_eq_ok {args : List String} {c : Condition} (h : ofAge args = .ok c) :
    ∃ name span, isName name = true ∧ c = .age name span := by
  unfold ofAge at h
  split at h
  · cases h
  · obtain ⟨name, hname, hyears⟩ := bind_eq_ok_iff.mp h
    obtain ⟨years, _, hmonths⟩ := bind_eq_ok_iff.mp hyears
    obtain ⟨months, _, hdays⟩ := bind_eq_ok_iff.mp hmonths
    obtain ⟨days, _, hhours⟩ := bind_eq_ok_iff.mp hdays
    obtain ⟨hours, _, hminutes⟩ := bind_eq_ok_iff.mp hhours
    obtain ⟨minutes, _, hc⟩ := bind_eq_ok_iff.mp hminutes
    obtain ⟨rfl, hvalid⟩ := readFlagName_eq_ok hname
    cases hc
    exact ⟨_, _, hvalid, rfl⟩
  · cases h

theorem ofEntry_cases {entry : List String} {c : Condition} (h : ofEntry entry = .ok c) :
    (∃ name values, flagCheck? entry = some (name :: values) ∧ isName name = true ∧
        values ≠ [] ∧ c = .flag name values) ∨
      (c.IsWritable ∧ ∀ name values, c ≠ .flag name values) := by
  cases entry with
  | nil => cases h
  | cons head rest =>
    rw [ofEntry] at h
    rw [flagCheck?]
    split at h
    · rename_i htag
      obtain ⟨name, values, rfl, hne, hname, rfl⟩ := ofFlagCheck_eq_ok h
      rw [htag]
      exact .inl ⟨name, values, rfl, hname, hne, rfl⟩
    · obtain ⟨name, count, rfl⟩ := ofItem_eq_ok h
      exact .inr ⟨trivial, by simp⟩
    · obtain ⟨name, stage, rfl⟩ := ofQuest_eq_ok h
      exact .inr ⟨trivial, by simp⟩
    · obtain ⟨skill, least, rfl⟩ := ofLevel_eq_ok h
      exact .inr ⟨trivial, by simp⟩
    · obtain ⟨name, span, hname, rfl⟩ := ofAge_eq_ok h
      exact .inr ⟨hname, by simp⟩
    · rename_i htag
      obtain ⟨name, values, hfields, hne, hname, rfl⟩ := ofFlagCheck_eq_ok h
      rw [htag, hfields]
      exact .inl ⟨name, values, rfl, hname, hne, rfl⟩

theorem isWritable_of_ofEntry {entry : List String} {c : Condition} (h : ofEntry entry = .ok c)
    (hplain : c.ValuesPlain) : c.IsWritable := by
  rcases ofEntry_cases h with ⟨name, values, _, hname, hne, rfl⟩ | ⟨hwritable, _⟩
  · exact ⟨hname, hne, hplain⟩
  · exact hwritable

theorem flagCheck?_of_ofEntry {entry values : List String} {name : String}
    (h : ofEntry entry = .ok (.flag name values)) : flagCheck? entry = some (name :: values) := by
  rcases ofEntry_cases h with ⟨_, _, hfields, _, _, heq⟩ | ⟨_, hne⟩
  · cases heq
    exact hfields
  · exact absurd rfl (hne name values)

theorem ofEntry_entry {c : Condition} (h : c.IsWritable) : ofEntry c.entry = .ok c := by
  cases c with
  | flag name values =>
    obtain ⟨hname, hne, _⟩ := h
    rw [entry]
    split
    · rw [ofEntry, ConditionTag.ofText?_text]
      exact ofFlagCheck_of_isName hname hne
    · rename_i htag
      rw [ofEntry, Option.not_isSome_iff_eq_none.mp htag]
      exact ofFlagCheck_of_isName hname hne
  | item name count => simp [entry, ofEntry, ofItem, bind, Except.bind]
  | quest name stage => simp [entry, ofEntry, ofQuest, bind, Except.bind]
  | level skill least =>
    cases skill <;> simp [entry, ofEntry, ofLevel, bind, Except.bind]
  | age name span =>
    simp [entry, ofEntry, ofAge, Span.fields, readFlagName_of_isName h, bind, Except.bind]

end Condition

/-! ### Effects -/

namespace Effect

/-- The value that a flag is set to holds no separator. -/
def ValuePlain : Effect → Prop
  | setFlag _ value => hasSeparator value = false
  | _ => True

/-- The written form of the effect is read back. -/
def IsWritable : Effect → Prop
  | setFlag name value => isName name = true ∧ hasSeparator value = false
  | markTime name => isName name = true
  | custom kind args => isEffectTag kind = false ∧ args.length ≠ 1
  | _ => True

instance : DecidablePred IsWritable
  | setFlag name value =>
    inferInstanceAs (Decidable (isName name = true ∧ hasSeparator value = false))
  | markTime name => inferInstanceAs (Decidable (isName name = true))
  | custom kind args =>
    inferInstanceAs (Decidable (isEffectTag kind = false ∧ args.length ≠ 1))
  | advanceQuest _ _ | giveItem _ _ | takeItem _ _ | connection _ | callback =>
    inferInstanceAs (Decidable True)

theorem valuePlain_of_isWritable {e : Effect} (h : e.IsWritable) : e.ValuePlain := by
  cases e with
  | setFlag name value => exact h.2
  | _ => trivial

theorem ofFlagWrite_of_isName {name : String} (value : String) (h : isName name = true) :
    ofFlagWrite name value = .ok (.setFlag name value) := by
  rw [ofFlagWrite, readFlagName_of_isName h]
  rfl

theorem ofFlagWrite_eq_ok {name value : String} {e : Effect}
    (h : ofFlagWrite name value = .ok e) : isName name = true ∧ e = .setFlag name value := by
  obtain ⟨text, htext, he⟩ := bind_eq_ok_iff.mp h
  obtain ⟨rfl, hname⟩ := readFlagName_eq_ok htext
  cases he
  exact ⟨hname, rfl⟩

theorem ofEntry_of_tag {head : String} {tag : EffectTag} (h : EffectTag.ofText? head = some tag)
    (rest : List String) : ofEntry (head :: rest) = ofTagged tag rest := by
  unfold ofEntry
  simp only [h]

theorem ofEntry_pair {head : String} (h : EffectTag.ofText? head = none) (value : String) :
    ofEntry [head, value] = ofFlagWrite head value := by
  unfold ofEntry
  simp only [h]

theorem ofEntry_custom {head : String} {rest : List String} (h : EffectTag.ofText? head = none)
    (hlen : rest.length ≠ 1) : ofEntry (head :: rest) = .ok (.custom head rest) := by
  match rest with
  | [] => simp only [ofEntry, h]
  | [_] => exact absurd rfl hlen
  | _ :: _ :: _ => simp only [ofEntry, h]

/-- What follows a tag is read as the effect that the tag names: a flag change, or an effect that
can be written again whatever its parts are. -/
theorem ofTagged_cases {tag : EffectTag} {args : List String} {e : Effect}
    (h : ofTagged tag args = .ok e) :
    (∃ name value, tag = .setFlag ∧ args = [name, value] ∧ isName name = true ∧
        e = .setFlag name value) ∨
      (e.IsWritable ∧ ∀ name value, e ≠ .setFlag name value) := by
  unfold ofTagged at h
  split at h
  · obtain ⟨hname, rfl⟩ := ofFlagWrite_eq_ok h
    exact .inl ⟨_, _, rfl, rfl, hname, rfl⟩
  · cases h
  · obtain ⟨stage, _, he⟩ := bind_eq_ok_iff.mp h
    cases he
    exact .inr ⟨trivial, by simp⟩
  · cases h
  · obtain ⟨stack, _, he⟩ := bind_eq_ok_iff.mp h
    cases he
    exact .inr ⟨trivial, by simp⟩
  · obtain ⟨stack, _, he⟩ := bind_eq_ok_iff.mp h
    cases he
    exact .inr ⟨trivial, by simp⟩
  · obtain ⟨id, _, he⟩ := bind_eq_ok_iff.mp h
    cases he
    exact .inr ⟨trivial, by simp⟩
  · cases h
  · obtain ⟨flag, hflag, he⟩ := bind_eq_ok_iff.mp h
    cases he
    obtain ⟨rfl, hname⟩ := readFlagName_eq_ok hflag
    exact .inr ⟨hname, by simp⟩
  · cases h
  · cases h
    exact .inr ⟨trivial, by simp⟩
  · cases h

theorem ofEntry_cases {entry : List String} {e : Effect} (h : ofEntry entry = .ok e) :
    (∃ name value, flagWrite? entry = some [name, value] ∧ isName name = true ∧
        e = .setFlag name value) ∨
      (e.IsWritable ∧ ∀ name value, e ≠ .setFlag name value) := by
  cases entry with
  | nil => cases h
  | cons head rest =>
    rw [flagWrite?]
    cases htag : EffectTag.ofText? head with
    | some tag =>
      rw [ofEntry_of_tag htag] at h
      rcases ofTagged_cases h with ⟨name, value, rfl, rfl, hname, rfl⟩ | hother
      · exact .inl ⟨name, value, rfl, hname, rfl⟩
      · exact .inr hother
    | none =>
      by_cases hlen : rest.length = 1
      · obtain ⟨value, rfl⟩ := List.length_eq_one_iff.mp hlen
        rw [ofEntry_pair htag] at h
        obtain ⟨hname, rfl⟩ := ofFlagWrite_eq_ok h
        exact .inl ⟨head, value, rfl, hname, rfl⟩
      · rw [ofEntry_custom htag hlen] at h
        cases h
        exact .inr ⟨⟨by rw [isEffectTag, htag]; rfl, hlen⟩, by simp⟩

theorem isWritable_of_ofEntry {entry : List String} {e : Effect} (h : ofEntry entry = .ok e)
    (hplain : e.ValuePlain) : e.IsWritable := by
  rcases ofEntry_cases h with ⟨name, value, _, hname, rfl⟩ | ⟨hwritable, _⟩
  · exact ⟨hname, hplain⟩
  · exact hwritable

theorem flagWrite?_of_ofEntry {entry : List String} {name value : String}
    (h : ofEntry entry = .ok (.setFlag name value)) : flagWrite? entry = some [name, value] := by
  rcases ofEntry_cases h with ⟨_, _, hfields, _, heq⟩ | ⟨_, hne⟩
  · cases heq
    exact hfields
  · exact absurd rfl (hne name value)

theorem readStack_ofUInt64 (tag : EffectTag) (item : String) (quantity : UInt64) :
    readStack tag [item, Numeral.ofUInt64 quantity] = .ok (item, quantity) := by
  simp [readStack, bind, Except.bind]

theorem ofEntry_entry {e : Effect} (h : e.IsWritable) : ofEntry e.entry = .ok e := by
  cases e with
  | setFlag name value =>
    rw [entry]
    split
    · rw [ofEntry_of_tag (EffectTag.ofText?_text _)]
      exact ofFlagWrite_of_isName value h.1
    · rename_i htag
      rw [ofEntry_pair (Option.not_isSome_iff_eq_none.mp htag)]
      exact ofFlagWrite_of_isName value h.1
  | advanceQuest quest stage =>
    rw [entry, ofEntry_of_tag (EffectTag.ofText?_text _)]
    simp [ofTagged, bind, Except.bind]
  | giveItem item quantity =>
    rw [entry, ofEntry_of_tag (EffectTag.ofText?_text _), ofTagged, readStack_ofUInt64]
    rfl
  | takeItem item quantity =>
    rw [entry, ofEntry_of_tag (EffectTag.ofText?_text _), ofTagged, readStack_ofUInt64]
    rfl
  | connection id =>
    rw [entry, ofEntry_of_tag (EffectTag.ofText?_text _)]
    simp [ofTagged, bind, Except.bind]
  | markTime name =>
    rw [entry, ofEntry_of_tag (EffectTag.ofText?_text _), ofTagged, readFlagName_of_isName h]
    rfl
  | callback => rw [entry, ofEntry_of_tag (EffectTag.ofText?_text _), ofTagged]
  | custom kind args =>
    obtain ⟨hkind, hlen⟩ := h
    rw [isEffectTag, Option.isSome_eq_false_iff, Option.isNone_iff_eq_none] at hkind
    exact ofEntry_custom hkind hlen

end Effect

end Colloquy
