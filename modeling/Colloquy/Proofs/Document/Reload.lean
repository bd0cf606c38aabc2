import Colloquy.Proofs.Document.Acceptance
import Colloquy.Proofs.Document.Entry
import Colloquy.Proofs.Document.Json

/-!
# Colloquy.Proofs.Document.Reload

Rule sets written as documents and read again.

* `Rule.IsMade`     — the keywords and responses are such as `Rule.make` gives them.
* `Rule.IsWritable` — every condition and every effect survives being written as an entry.
* `toText_isReadAs` — the written form of a made rule stands for that rule exactly when the rule is
  writable.

Rules made inline are all made, but they may hold conditions and effects that have no written form.
Rules read from a document are both, so they are read back as they were.
-/

namespace Colloquy

/-! ### Single entries -/

theorem Condition.isReadFrom_entry_iff {c : Condition} :
    c.IsReadFrom c.entry ↔ c.IsWritable := by
  constructor
  · intro h
    exact isWritable_of_ofEntry h.1 h.2
  · intro h
    exact ⟨ofEntry_entry h, valuesPlain_of_isWritable h⟩

theorem Effect.isReadFrom_entry_iff {e : Effect} : e.IsReadFrom e.entry ↔ e.IsWritable := by
  constructor
  · intro h
    exact isWritable_of_ofEntry h.1 h.2
  · intro h
    exact ⟨ofEntry_entry h, valuePlain_of_isWritable h⟩

theorem Effect.isWritable_of_mem_connection {connected : Option Int64} {e : Effect}
    (h : e ∈ (connected.map Effect.connection).toList) : e.IsWritable := by
  obtain ⟨id, _, rfl⟩ := Option.map_eq_some_iff.mp (Option.mem_toList.mp h)
  trivial

theorem forall₂_map_self_iff {α β : Type} {R : β → α → Prop} {write : α → β} {as : List α} :
    List.Forall₂ R (as.map write) as ↔ ∀ a ∈ as, R (write a) a := by
  rw [List.forall₂_map_left_iff, List.forall₂_same]

/-! ### Rules -/

namespace Rule

def IsMade (r : Rule) : Prop :=
  ∃ pattern, make pattern r.responses = .ok ⟨r.keywords, r.responses, [], []⟩

/-- Does every condition and effect survive being written as an entry? -/
structure IsWritable (r : Rule) : Prop where
  conditions : ∀ c ∈ r.conditions, c.IsWritable
  effects : ∀ e ∈ r.effects, e.IsWritable

instance (r : Rule) : Decidable r.IsWritable :=
  decidable_of_iff ((∀ c ∈ r.conditions, c.IsWritable) ∧ ∀ e ∈ r.effects, e.IsWritable)
    ⟨fun h => ⟨h.1, h.2⟩, fun h => ⟨h.conditions, h.effects⟩⟩

theorem isMade_iff {r : Rule} :
    r.IsMade ↔
      (∃ pattern, r.keywords = Keyword.ofPattern pattern) ∧ r.keywords ≠ [] ∧
        r.responses ≠ [] := by
  constructor
  · rintro ⟨pattern, hmake⟩
    obtain ⟨hheard, hanswered, heq⟩ := make_eq_ok_iff.mp hmake
    have hkeywords : r.keywords = Keyword.ofPattern pattern := congrArg keywords heq
    exact ⟨⟨pattern, hkeywords⟩, hkeywords ▸ hheard, hanswered⟩
  · rintro ⟨⟨pattern, hkeywords⟩, hheard, hanswered⟩
    exact ⟨pattern, make_eq_ok_iff.mpr ⟨hkeywords ▸ hheard, hanswered, by rw [hkeywords]⟩⟩

theorem ofPattern_pattern {r : Rule} (h : r.IsMade) :
    Keyword.ofPattern r.pattern = r.keywords := by
  obtain ⟨⟨p, hkeywords⟩, _, _⟩ := isMade_iff.mp h
  rw [pattern, hkeywords]
  exact Keyword.ofPattern_pattern p

theorem splitConnection_append (es : List Effect) :
    (RuleSet.splitConnection es).1
      ++ ((RuleSet.splitConnection es).2.map Effect.connection).toList = es := by
  fun_induction RuleSet.splitConnection es with
  | case1 => rfl
  | case2 id => rfl
  | case3 e rest _ effects connected hsplit ih =>
    rw [hsplit] at ih
    rw [List.cons_append, ih]

theorem forall_isWritable_splitConnection_iff {es : List Effect} :
    (∀ e ∈ (RuleSet.splitConnection es).1, e.IsWritable) ↔ ∀ e ∈ es, e.IsWritable := by
  have hmem : ∀ e, e ∈ es ↔ e ∈ (RuleSet.splitConnection es).1 ∨
      e ∈ ((RuleSet.splitConnection es).2.map Effect.connection).toList := by
    intro e
    rw [← List.mem_append, splitConnection_append]
  constructor
  · intro h e he
    rcases (hmem e).mp he with he | he
    · exact h e he
    · exact Effect.isWritable_of_mem_connection he
  · exact fun h e he => h e ((hmem e).mpr (.inl he))

/-- The written form of a made rule stands for that rule exactly when the rule is writable. -/
theorem toText_isReadAs {r : Rule} (hmade : r.IsMade) :
    r.toText.IsReadAs r ↔ r.IsWritable := by
  have hpattern : Keyword.ofPattern r.toText.pattern = r.keywords := ofPattern_pattern hmade
  obtain ⟨_, hheard, hanswered⟩ := isMade_iff.mp hmade
  have hsplit := splitConnection_append r.effects
  constructor
  · intro h
    obtain ⟨effects, heffects, hall⟩ := h.effects
    have hsame : effects = (RuleSet.splitConnection r.effects).1 :=
      List.append_cancel_right (hall.symm.trans hsplit.symm)
    rw [hsame] at heffects
    refine ⟨fun c hc => ?_, forall_isWritable_splitConnection_iff.mp fun e he => ?_⟩
    · exact Condition.isReadFrom_entry_iff.mp (forall₂_map_self_iff.mp h.conditions c hc)
    · exact Effect.isReadFrom_entry_iff.mp (forall₂_map_self_iff.mp heffects e he)
  · intro h
    have heffects := forall_isWritable_splitConnection_iff.mpr h.effects
    exact
      { heard := hpattern ▸ hheard
        answered := hanswered
        keywords := hpattern.symm
        responses := rfl
        conditions := forall₂_map_self_iff.mpr fun c hc =>
          Condition.isReadFrom_entry_iff.mpr (h.conditions c hc)
        effects := ⟨_, forall₂_map_self_iff.mpr fun e he =>
          Effect.isReadFrom_entry_iff.mpr (heffects e he), hsplit.symm⟩ }

end Rule

theorem RuleText.isMade_and_isWritable {t : RuleText} {r : Rule} (h : t.IsReadAs r) :
    r.IsMade ∧ r.IsWritable := by
  obtain ⟨effects, heffects, hall⟩ := h.effects
  have hmade : r.IsMade :=
    Rule.isMade_iff.mpr ⟨⟨_, h.keywords⟩, h.keywords ▸ h.heard, h.responses ▸ h.answered⟩
  have hconditions : ∀ c ∈ r.conditions, ∃ entry, c.IsReadFrom entry :=
    exists_forall₂_iff.mp ⟨_, h.conditions.flip⟩
  have hread : ∀ e ∈ effects, ∃ entry, e.IsReadFrom entry :=
    exists_forall₂_iff.mp ⟨_, heffects.flip⟩
  refine ⟨hmade, fun c hc => ?_, fun e he => ?_⟩
  · obtain ⟨entry, hentry⟩ := hconditions c hc
    exact Condition.isWritable_of_ofEntry hentry.1 hentry.2
  · rw [hall, List.mem_append] at he
    rcases he with he | he
    · obtain ⟨entry, hentry⟩ := hread e he
      exact Effect.isWritable_of_ofEntry hentry.1 hentry.2
    · exact Effect.isWritable_of_mem_connection he

/-! ### Rule sets -/

theorem RuleSet.bareRules_map_plain (location : String) (rules : List Rule) :
    (RuleSet.mk location (rules.map Rule.plain)).bareRules = rules :=
  Rule.map_toRule_map_plain rules

theorem Document.isMade_and_isWritable_of_mem {d : Document} {s : RuleSet}
    (h : d.toRuleSet = .ok s) {r : HookedRule} (hr : r ∈ s.rules) :
    r.toRule.IsMade ∧ r.toRule.IsWritable := by
  obtain ⟨-, hrules, -⟩ := of_toRuleSet_eq_ok h
  have hread : ∀ rule ∈ s.rules.map (·.toRule), ∃ t : RuleText, t.IsReadAs rule :=
    exists_forall₂_iff.mp ⟨_, hrules.flip⟩
  obtain ⟨t, ht⟩ := hread r.toRule (List.mem_map_of_mem hr)
  exact RuleText.isMade_and_isWritable ht

/-- What a document is read as is read back from its own document. -/
theorem Document.toRuleSet_toDocument {d : Document} {s : RuleSet} (h : d.toRuleSet = .ok s) :
    s.toDocument.toRuleSet = .ok s := by
  obtain ⟨hlocation, rules, _, rfl⟩ := toRuleSet_eq_ok_iff.mp h
  refine toRuleSet_eq_ok_iff.mpr ⟨hlocation, rules, ?_, rfl⟩
  rw [RuleSet.toDocument, List.map_map]
  refine forall₂_map_self_iff.mpr fun r hr => ?_
  obtain ⟨hmade, hwritable⟩ := isMade_and_isWritable_of_mem h (List.mem_map_of_mem hr)
  exact (Rule.toText_isReadAs hmade).mpr hwritable

namespace RuleSet

/-- A rule set made inline is read back from its document exactly when its location is not blank
and each of its rules is writable. -/
theorem reload_iff (location : String) (rules : List HookedRule)
    (hmade : ∀ r ∈ rules, r.toRule.IsMade) :
    (∃ t, (mk location rules).toDocument.toRuleSet = .ok t ∧
        t.agrees ⟨location, rules⟩ = true) ↔
      (∃ c ∈ location.toList, Text.isBlank c = false) ∧
        ∀ r ∈ rules, r.toRule.IsWritable := by
  have hread : List.Forall₂ RuleText.IsReadAs (mk location rules).toDocument.rules
      (mk location rules).bareRules ↔ ∀ r ∈ rules, r.toRule.IsWritable := by
    rw [toDocument, bareRules, List.forall₂_map_right_iff, forall₂_map_self_iff]
    exact forall₂_congr fun r hr => Rule.toText_isReadAs (hmade r hr)
  rw [← Text.isBlankText_eq_false_iff, ← hread]
  constructor
  · rintro ⟨t, ht, hagrees⟩
    obtain ⟨hlocation, rules', hrules, rfl⟩ := Document.toRuleSet_eq_ok_iff.mp ht
    obtain ⟨_, hsame⟩ := of_decide_eq_true hagrees
    rw [bareRules_map_plain] at hsame
    exact ⟨hlocation, hsame ▸ hrules⟩
  · rintro ⟨hlocation, hrules⟩
    refine ⟨_, Document.toRuleSet_eq_ok_iff.mpr ⟨hlocation, _, hrules, rfl⟩, ?_⟩
    exact decide_eq_true ⟨rfl, bareRules_map_plain _ _⟩

/-- Flags named like tags and a connection at the end are read back; an effect of the world with
one argument is not, since its entry sets a flag. -/
theorem reload_tag_names :
    (∃ t, (mk "gork" [Rule.plain ⟨["gate"], ["Go on."], [.flag "token" ["1", "*"]],
          [.setFlag "connection" "", .connection 12]⟩]).toDocument.toRuleSet = .ok t ∧
        t.agrees ⟨"gork", [Rule.plain ⟨["gate"], ["Go on."], [.flag "token" ["1", "*"]],
          [.setFlag "connection" "", .connection 12]⟩]⟩ = true) ∧
      ¬ ∃ t, (mk "gork" [Rule.plain ⟨["gate"], ["Go on."], [],
          [.custom "ring" ["bell"]]⟩]).toDocument.toRuleSet = .ok t ∧
        t.agrees ⟨"gork", [Rule.plain ⟨["gate"], ["Go on."], [],
          [.custom "ring" ["bell"]]⟩]⟩ = true := by
  constructor
  · refine (reload_iff _ _ ?_).mpr ⟨⟨'g', by decide, by decide⟩, by decide⟩
    intro r hr
    rw [List.mem_singleton.mp hr]
    exact ⟨"Gate|", rfl⟩
  · intro h
    refine absurd ((reload_iff _ _ ?_).mp h).2 (by decide)
    intro r hr
    rw [List.mem_singleton.mp hr]
    exact ⟨"Gate|", rfl⟩

/-- A rule set read from a JSON value or text is read back from the JSON form of its document, and
so has the same document again. -/
theorem ofJson_toDocument_toJson {s : RuleSet}
    (h : (∃ v, ofJson v = .ok s) ∨ ∃ text, ofText text = .ok s) :
    ofJson s.toDocument.toJson = .ok s := by
  have hd : ∃ d : Document, d.toRuleSet = .ok s := by
    rcases h with ⟨v, hv⟩ | ⟨text, htext⟩
    · rw [ofJson] at hv
      split at hv
      · cases hv
      · exact ⟨_, hv⟩
    · rw [ofText] at htext
      split at htext
      · cases htext
      · exact ⟨_, htext⟩
  obtain ⟨d, hd⟩ := hd
  rw [ofJson, Document.ofJson?_toJson]
  exact Document.toRuleSet_toDocument hd

/-- A document with padded keywords, a padded number, a quantity left out and a connection written
among the effects. -/
theorem ofJson_toDocument_toJson_padded :
    ofJson (toDocument ⟨"gork", [Rule.plain ⟨["hello", "hi"], ["Hi!"],
        [.flag "item" ["1"], .item "key" 7],
        [.setFlag "greeted" "1", .takeItem "key" 1, .connection 3]⟩]⟩).toJson =
      .ok ⟨"gork", [Rule.plain ⟨["hello", "hi"], ["Hi!"],
        [.flag "item" ["1"], .item "key" 7],
        [.setFlag "greeted" "1", .takeItem "key" 1, .connection 3]⟩]⟩ := by
  refine ofJson_toDocument_toJson (.inl ⟨.object [("location", .text "gork"), ("rules", .array
    [.object
      [("match", .text " Hello ||HI"),
        ("pre", .array [.array [.text "token", .text "item", .integer 1],
          .array [.text "item", .text "key", .text " +007"]]),
        ("post", .array [.array [.text "setflag", .text "greeted", .integer 1],
          .array [.text "takeitem", .text "key"], .array [.text "connection", .text "03"]]),
        ("msg", .array [.text "Hi!"])]])], ?_⟩)
  rfl

end RuleSet

end Colloquy
