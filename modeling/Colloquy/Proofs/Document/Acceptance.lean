import Mathlib.Data.List.Forall2
import Colloquy.Proofs.Document.Problem
import Colloquy.Proofs.Keyword
import Colloquy.RuleSet

/-!
# Colloquy.Proofs.Document.Acceptance

Which documents become rule sets, and which rule sets they become.

* `Document.IsReadable`  — what the readers of entries, patterns and responses ask for, and that no
  value about a flag holds a separator.
* `RuleText.IsReadAs`    — the rule that a written rule stands for, part by part and in order.
* `Problem.Concerns`     — what a problem of a document can be about.
* `toRuleSet_eq_ok_iff`  — the rule sets that come of a document; later modules start from it.
* `toRuleSet_exact`      — a document is read as a whole or refused as a whole, and looking for
  problems first refuses no more than reading and the check of values do.
-/

namespace Colloquy

open Colloquy.Flag (hasSeparator)
open Text (isBlank isBlankText)

/-! ### Lists read item by item -/

section Lists

variable {α β γ : Type}

theorem exists_forall₂_iff {R : α → β → Prop} {as : List α} :
    (∃ bs, List.Forall₂ R as bs) ↔ ∀ a ∈ as, ∃ b, R a b := by
  induction as with
  | nil => simp
  | cons a as ih =>
    rw [List.forall_mem_cons, ← ih]
    constructor
    · rintro ⟨_, h⟩
      cases h with
      | cons hab hrest => exact ⟨⟨_, hab⟩, _, hrest⟩
    · rintro ⟨⟨b, hab⟩, bs, hrest⟩
      exact ⟨b :: bs, .cons hab hrest⟩

theorem readEntries_eq_ok_iff {read : List String → Except EntryFault α}
    {fault : List String → EntryFault → RuleTextFault} {entries : List (List String)}
    {as : List α} :
    readEntries read fault entries = .ok as ↔
      List.Forall₂ (fun entry a => read entry = .ok a) entries as := by
  induction entries generalizing as with
  | nil => rw [readEntries, List.forall₂_nil_left_iff, Except.ok.injEq, eq_comm]
  | cons entry rest ih =>
    rw [readEntries, List.forall₂_cons_left_iff]
    constructor
    · intro h
      split at h
      · cases h
      · rename_i a ha
        split at h
        · cases h
        · rename_i bs hbs
          cases h
          exact ⟨a, bs, ha, ih.mp hbs, rfl⟩
    · rintro ⟨a, bs, ha, hbs, rfl⟩
      rw [ha, ih.mpr hbs]

theorem readRules_eq_ok_iff {location : String} {rs : List RuleText} {rules : List Rule} {i : Nat} :
    readRules location i rs = .ok rules ↔
      List.Forall₂ (fun r rule => r.toRule = .ok rule) rs rules := by
  induction rs generalizing rules i with
  | nil => rw [readRules, List.forall₂_nil_left_iff, Except.ok.injEq, eq_comm]
  | cons r rest ih =>
    rw [readRules, List.forall₂_cons_left_iff]
    constructor
    · intro h
      split at h
      · cases h
      · rename_i rule hrule
        split at h
        · cases h
        · rename_i rules' hrules
          cases h
          exact ⟨rule, rules', hrule, ih.mp hrules, rfl⟩
    · rintro ⟨rule, rules', hrule, hrules, rfl⟩
      rw [hrule, ih.mpr hrules]

/-- Items that are read one by one and have no problem are read as plain ones. -/
theorem forall₂_and_problems_iff {read : α → Except β γ} {problems : Nat → α → List Problem}
    {Plain : α → γ → Prop}
    (hplain : ∀ {a c}, read a = .ok c → ∀ n, problems n a = [] ↔ Plain a c)
    {as : List α} {cs : List γ} {i : Nat} :
    List.Forall₂ (fun a c => read a = .ok c) as cs ∧ indexedProblems problems i as = [] ↔
      List.Forall₂ (fun a c => read a = .ok c ∧ Plain a c) as cs := by
  induction as generalizing cs i with
  | nil => simp [indexedProblems]
  | cons a as ih =>
    rw [indexedProblems, List.append_eq_nil_iff]
    constructor
    · rintro ⟨h, hhead, htail⟩
      cases h with
      | cons hread hrest =>
        exact .cons ⟨hread, (hplain hread i).mp hhead⟩ (ih.mp ⟨hrest, htail⟩)
    · intro h
      cases h with
      | cons hread hrest =>
        obtain ⟨hrest, htail⟩ := (ih (i := i + 1)).mpr hrest
        exact ⟨.cons hread.1 hrest, (hplain hread.1 i).mpr hread.2, htail⟩

end Lists

/-! ### Rules -/

theorem Rule.make_eq_ok_iff {pattern : String} {responses : List String} {rule : Rule} :
    Rule.make pattern responses = .ok rule ↔
      Keyword.ofPattern pattern ≠ [] ∧ responses ≠ [] ∧
        rule = ⟨Keyword.ofPattern pattern, responses, [], []⟩ := by
  unfold Rule.make
  split
  · rename_i hnil
    simp [hnil]
  · rename_i k ks hks
    split
    · simp
    · simp [hks, eq_comm]

theorem Rule.map_toRule_map_plain (rules : List Rule) :
    (rules.map Rule.plain).map (·.toRule) = rules := by
  rw [List.map_map]
  exact List.map_id rules

/-- The entry is read as the condition, and no value of a flag check holds a separator. -/
def Condition.IsReadFrom (c : Condition) (entry : List String) : Prop :=
  Condition.ofEntry entry = .ok c ∧ c.ValuesPlain

/-- The entry is read as the effect, and no value that a flag is set to holds a separator. -/
def Effect.IsReadFrom (e : Effect) (entry : List String) : Prop :=
  Effect.ofEntry entry = .ok e ∧ e.ValuePlain

namespace RuleText

structure IsReadable (r : RuleText) : Prop where
  heard : Keyword.ofPattern r.pattern ≠ []
  answered : r.responses ≠ []
  conditions : ∀ entry ∈ r.conditions, ∃ c : Condition, c.IsReadFrom entry
  effects : ∀ entry ∈ r.effects, ∃ e : Effect, e.IsReadFrom entry

/-- The rule that a written rule stands for. Conditions and effects come from the entries in their
order; a connection written apart is signalled after all other effects. -/
structure IsReadAs (r : RuleText) (rule : Rule) : Prop where
  heard : Keyword.ofPattern r.pattern ≠ []
  answered : r.responses ≠ []
  keywords : rule.keywords = Keyword.ofPattern r.pattern
  responses : rule.responses = r.responses
  conditions : List.Forall₂ (fun entry c => Condition.IsReadFrom c entry) r.conditions
    rule.conditions
  effects : ∃ effects, List.Forall₂ (fun entry e => Effect.IsReadFrom e entry) r.effects effects ∧
    rule.effects = effects ++ (r.connected.map Effect.connection).toList

theorem isReadable_iff {r : RuleText} : r.IsReadable ↔ ∃ rule, r.IsReadAs rule := by
  constructor
  · intro h
    obtain ⟨conditions, hconditions⟩ := exists_forall₂_iff.mpr h.conditions
    obtain ⟨effects, heffects⟩ := exists_forall₂_iff.mpr h.effects
    exact ⟨⟨_, _, conditions, _⟩, h.heard, h.answered, rfl, rfl, hconditions, effects, heffects, rfl⟩
  · rintro ⟨rule, h⟩
    obtain ⟨effects, heffects, _⟩ := h.effects
    exact ⟨h.heard, h.answered, exists_forall₂_iff.mp ⟨_, h.conditions⟩,
      exists_forall₂_iff.mp ⟨_, heffects⟩⟩

theorem toRule_eq_ok_iff {r : RuleText} {rule : Rule} :
    r.toRule = .ok rule ↔
      ∃ effects, Keyword.ofPattern r.pattern ≠ [] ∧ r.responses ≠ [] ∧
        rule.keywords = Keyword.ofPattern r.pattern ∧ rule.responses = r.responses ∧
        List.Forall₂ (fun entry c => Condition.ofEntry entry = .ok c) r.conditions rule.conditions ∧
        List.Forall₂ (fun entry e => Effect.ofEntry entry = .ok e) r.effects effects ∧
        rule.effects = effects ++ (r.connected.map Effect.connection).toList := by
  rw [toRule]
  constructor
  · intro h
    split at h
    · cases h
    · rename_i conditions hconditions
      split at h
      · cases h
      · rename_i effects heffects
        split at h
        · cases h
        · rename_i made hmade
          obtain ⟨hheard, hanswered, rfl⟩ := Rule.make_eq_ok_iff.mp hmade
          cases h
          exact ⟨effects, hheard, hanswered, rfl, rfl, readEntries_eq_ok_iff.mp hconditions,
            readEntries_eq_ok_iff.mp heffects, rfl⟩
  · rintro ⟨effects, hheard, hanswered, hkeywords, hresponses, hconditions, heffects, hall⟩
    rw [readEntries_eq_ok_iff.mpr hconditions, readEntries_eq_ok_iff.mpr heffects,
      Rule.make_eq_ok_iff.mpr ⟨hheard, hanswered, rfl⟩]
    simp only [← hkeywords, ← hresponses, ← hall]

theorem toRule_of_isReadAs {r : RuleText} {rule : Rule} (h : r.IsReadAs rule) :
    r.toRule = .ok rule := by
  obtain ⟨effects, heffects, hall⟩ := h.effects
  exact toRule_eq_ok_iff.mpr ⟨effects, h.heard, h.answered, h.keywords, h.responses,
    h.conditions.imp fun _ _ hc => hc.1, heffects.imp fun _ _ he => he.1, hall⟩

theorem problems_eq_nil_iff {r : RuleText} {rule : Rule} (hrule : r.toRule = .ok rule) (i : Nat) :
    r.problems i = [] ↔ r.IsReadAs rule := by
  obtain ⟨effects, hheard, hanswered, hkeywords, hresponses, hconditions, heffects, hall⟩ :=
    toRule_eq_ok_iff.mp hrule
  have hpattern : ¬ isBlankText r.pattern = true :=
    fun hblank => hheard (Keyword.ofPattern_eq_nil_of_isBlankText hblank)
  have hempty : ¬ r.responses.isEmpty = true := by simpa using hanswered
  rw [problems, if_neg hpattern, if_neg hempty, List.nil_append, List.nil_append,
    List.append_eq_nil_iff]
  constructor
  · rintro ⟨hc, he⟩
    exact ⟨hheard, hanswered, hkeywords, hresponses,
      (forall₂_and_problems_iff fun hread _ => Condition.problems_eq_nil_iff hread _).mp
        ⟨hconditions, hc⟩,
      effects,
      (forall₂_and_problems_iff fun hread _ => Effect.problems_eq_nil_iff hread _).mp
        ⟨heffects, he⟩,
      hall⟩
  · intro h
    obtain ⟨effects', heffects', hall'⟩ := h.effects
    exact ⟨((forall₂_and_problems_iff fun hread _ => Condition.problems_eq_nil_iff hread _).mpr
        h.conditions).2,
      ((forall₂_and_problems_iff fun hread _ => Effect.problems_eq_nil_iff hread _).mpr
        heffects').2⟩

end RuleText

/-! ### Documents -/

namespace Document

def IsReadable (d : Document) : Prop :=
  (∃ c ∈ d.location.toList, isBlank c = false) ∧ ∀ r ∈ d.rules, r.IsReadable

theorem problems_eq_nil_iff {d : Document} :
    d.problems = [] ↔
      isBlankText d.location = false ∧ indexedProblems RuleText.problems 0 d.rules = [] := by
  rw [problems, List.append_eq_nil_iff]
  cases isBlankText d.location <;> simp

/-- The rule sets that come of a document. -/
theorem toRuleSet_eq_ok_iff {d : Document} {s : RuleSet} :
    d.toRuleSet = .ok s ↔
      isBlankText d.location = false ∧ ∃ rules, List.Forall₂ RuleText.IsReadAs d.rules rules ∧
        s = ⟨d.location, rules.map Rule.plain⟩ := by
  have hrules : ∀ rules, readRules d.location 0 d.rules = .ok rules ∧
      indexedProblems RuleText.problems 0 d.rules = [] ↔
        List.Forall₂ RuleText.IsReadAs d.rules rules := by
    intro rules
    rw [readRules_eq_ok_iff, forall₂_and_problems_iff RuleText.problems_eq_nil_iff]
    constructor
    · exact fun h => h.imp fun _ _ hr => hr.2
    · exact fun h => h.imp fun _ _ hr => ⟨RuleText.toRule_of_isReadAs hr, hr⟩
  rw [toRuleSet]
  constructor
  · intro h
    split at h
    · rename_i hnil
      obtain ⟨hlocation, hindexed⟩ := problems_eq_nil_iff.mp hnil
      split at h
      · cases h
      · rename_i rules hread
        cases h
        exact ⟨hlocation, rules, (hrules rules).mp ⟨hread, hindexed⟩, rfl⟩
    · cases h
  · rintro ⟨hlocation, rules, h, rfl⟩
    obtain ⟨hread, hindexed⟩ := (hrules rules).mpr h
    rw [problems_eq_nil_iff.mpr ⟨hlocation, hindexed⟩, hread]

theorem of_toRuleSet_eq_ok {d : Document} {s : RuleSet} (h : d.toRuleSet = .ok s) :
    s.location = d.location ∧ List.Forall₂ RuleText.IsReadAs d.rules (s.rules.map (·.toRule)) ∧
      ∀ r ∈ s.rules, r.guard = none ∧ r.continuation = none := by
  obtain ⟨_, rules, hrules, rfl⟩ := toRuleSet_eq_ok_iff.mp h
  refine ⟨rfl, by rwa [Rule.map_toRule_map_plain], fun r hr => ?_⟩
  obtain ⟨rule, _, rfl⟩ := List.mem_map.mp hr
  exact ⟨rfl, rfl⟩

theorem isReadable_iff {d : Document} : d.IsReadable ↔ ∃ s, d.toRuleSet = .ok s := by
  have hrules : (∀ r ∈ d.rules, r.IsReadable) ↔
      ∃ rules, List.Forall₂ RuleText.IsReadAs d.rules rules := by
    rw [exists_forall₂_iff]
    exact forall_congr' fun r => imp_congr_right fun _ => RuleText.isReadable_iff
  rw [IsReadable, ← Text.isBlankText_eq_false_iff, hrules]
  constructor
  · rintro ⟨hlocation, rules, h⟩
    exact ⟨_, toRuleSet_eq_ok_iff.mpr ⟨hlocation, rules, h, rfl⟩⟩
  · rintro ⟨s, hs⟩
    obtain ⟨hlocation, rules, h, _⟩ := toRuleSet_eq_ok_iff.mp hs
    exact ⟨hlocation, rules, h⟩

end Document

/-! ### What problems are about -/

/-- What a problem of a document can be about: a field that reading refuses as well or does not
look at, an entry that reading refuses, or a value about a flag that holds a separator. -/
inductive Problem.Concerns (d : Document) : Problem → Prop where
  | blankLocation : isBlankText d.location = true → Concerns d (.emptyField .location)
  | noResponses {i : Nat} {r : RuleText} : d.rules[i]? = some r → r.responses = [] →
      Concerns d (.emptyField (.responses i))
  | refusedPattern {i : Nat} {r : RuleText} : d.rules[i]? = some r →
      Keyword.ofPattern r.pattern = [] → Concerns d (.emptyField (.pattern i))
  | refusedCondition {i j : Nat} {r : RuleText} {entry : List String} {fault : EntryFault}
      {p : Problem} : d.rules[i]? = some r → r.conditions[j]? = some entry →
      Condition.ofEntry entry = .error fault → p.place = .condition i j → Concerns d p
  | refusedEffect {i j : Nat} {r : RuleText} {entry : List String} {fault : EntryFault}
      {p : Problem} : d.rules[i]? = some r → r.effects[j]? = some entry →
      Effect.ofEntry entry = .error fault → p.place = .effect i j → Concerns d p
  | conditionValue {i j : Nat} {r : RuleText} {entry values : List String} {name value : String} :
      d.rules[i]? = some r → r.conditions[j]? = some entry →
      Condition.ofEntry entry = .ok (.flag name values) → value ∈ values →
      hasSeparator value = true → Concerns d (.separator (.condition i j) value)
  | effectValue {i j : Nat} {r : RuleText} {entry : List String} {name value : String} :
      d.rules[i]? = some r → r.effects[j]? = some entry →
      Effect.ofEntry entry = .ok (.setFlag name value) → hasSeparator value = true →
      Concerns d (.separator (.effect i j) value)

theorem RuleText.concerns_of_mem_problems {d : Document} {i : Nat} {r : RuleText} {p : Problem}
    (hr : d.rules[i]? = some r) (h : p ∈ r.problems i) : p.Concerns d := by
  simp only [problems, List.mem_append] at h
  rcases h with ((h | h) | h) | h
  · split at h
    · rename_i hblank
      rw [List.mem_singleton.mp h]
      exact .refusedPattern hr (Keyword.ofPattern_eq_nil_of_isBlankText hblank)
    · cases h
  · split at h
    · rename_i hempty
      rw [List.mem_singleton.mp h]
      exact .noResponses hr (List.isEmpty_iff.mp hempty)
    · cases h
  · obtain ⟨j, entry, hentry, hp⟩ := mem_indexedProblems.mp h
    rw [Nat.zero_add] at hp
    rcases Condition.problem_cases hp with ⟨fault, hfault⟩ | ⟨name, values, value, hok, hv, hsep, rfl⟩
    · exact .refusedCondition hr hentry hfault (Condition.place_of_mem_problems hp)
    · exact .conditionValue hr hentry hok hv hsep
  · obtain ⟨j, entry, hentry, hp⟩ := mem_indexedProblems.mp h
    rw [Nat.zero_add] at hp
    rcases Effect.problem_cases hp with ⟨fault, hfault⟩ | ⟨name, value, hok, hsep, rfl⟩
    · exact .refusedEffect hr hentry hfault (Effect.place_of_mem_problems hp)
    · exact .effectValue hr hentry hok hsep

theorem Document.concerns_of_mem_problems {d : Document} {p : Problem} (h : p ∈ d.problems) :
    p.Concerns d := by
  rw [problems, List.mem_append] at h
  rcases h with h | h
  · split at h
    · rename_i hblank
      rw [List.mem_singleton.mp h]
      exact .blankLocation hblank
    · cases h
  · obtain ⟨i, r, hr, hp⟩ := mem_indexedProblems.mp h
    rw [Nat.zero_add] at hp
    exact RuleText.concerns_of_mem_problems hr hp

/-- A readable document is read rule by rule, with no code attached, and any other is refused as a
whole. A problem found beforehand is either one that reading itself would stumble over, or one of
the few that `IsReadable` names on its own: a blank location, no responses, a value that holds a
separator. -/
theorem Document.toRuleSet_exact (d : Document) :
    ((d.IsReadable ∧ ∃ s, d.toRuleSet = .ok s ∧ s.location = d.location ∧
        List.Forall₂ RuleText.IsReadAs d.rules (s.rules.map (·.toRule)) ∧
        ∀ r ∈ s.rules, r.guard = none ∧ r.continuation = none) ∨
      (¬ d.IsReadable ∧ ∃ cause, d.toRuleSet = .error cause)) ∧
    ∀ p ∈ d.problems, p.Concerns d := by
  refine ⟨?_, fun p hp => concerns_of_mem_problems hp⟩
  by_cases hd : d.IsReadable
  · obtain ⟨s, hs⟩ := isReadable_iff.mp hd
    exact .inl ⟨hd, s, hs, of_toRuleSet_eq_ok hs⟩
  · cases hs : d.toRuleSet with
    | ok s => exact absurd (isReadable_iff.mpr ⟨s, hs⟩) hd
    | error cause => exact .inr ⟨hd, cause, rfl⟩

end Colloquy
