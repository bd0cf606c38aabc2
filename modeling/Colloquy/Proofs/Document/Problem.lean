import Colloquy.Document.Problem
import Colloquy.Proofs.Document.Entry

/-!
# Colloquy.Proofs.Document.Problem

The two passes over an entry agree. The search for problems and the reader take an entry apart on
their own; here they are shown to see a flag in the same entries and with the same fields.

* `Condition.problem_cases`, `Effect.problem_cases` — a problem of an entry either tells nothing
  that reading the entry does not, or names a value that holds a separator.
* `Condition.problems_eq_nil_iff`, `Effect.problems_eq_nil_iff` — an entry that can be read has no
  problem exactly when its values are plain.
-/

namespace Colloquy

open Colloquy.Flag (isName hasSeparator not_hasSeparator_of_isName)

/-- Where the problem lies. -/
def Problem.place : Problem → Place
  | .emptyField place | .emptyEntry place | .separator place _ | .shortFlagCheck place
  | .flagWriteArity place => place

theorem mem_indexedProblems {α : Type} {f : Nat → α → List Problem} {as : List α} {p : Problem} :
    ∀ {i : Nat}, p ∈ indexedProblems f i as ↔ ∃ j a, as[j]? = some a ∧ p ∈ f (i + j) a := by
  induction as with
  | nil => simp [indexedProblems]
  | cons a as ih =>
    intro i
    rw [indexedProblems, List.mem_append, ih]
    constructor
    · rintro (h | ⟨j, b, hb, h⟩)
      · exact ⟨0, a, rfl, h⟩
      · exact ⟨j + 1, b, hb, by rw [← Nat.add_assoc, Nat.add_right_comm]; exact h⟩
    · rintro ⟨j, b, hb, h⟩
      cases j with
      | zero =>
        cases hb
        exact .inl h
      | succ j => exact .inr ⟨j, b, hb, by rw [Nat.add_right_comm, Nat.add_assoc]; exact h⟩

theorem mem_fieldProblems {place : Place} {wrongCount : Bool} {arity p : Problem}
    {fields : List String} :
    p ∈ fieldProblems place wrongCount arity fields ↔
      (wrongCount = true ∧ p = arity) ∨
        ∃ field ∈ fields, hasSeparator field = true ∧ p = .separator place field := by
  rw [fieldProblems, List.mem_append]
  refine or_congr ?_ ?_
  · split <;> simp_all
  · simp only [List.mem_map, List.mem_filter, and_assoc, eq_comm (a := p)]

theorem place_of_mem_fieldProblems {place : Place} {wrongCount : Bool} {arity p : Problem}
    {fields : List String} (harity : arity.place = place)
    (h : p ∈ fieldProblems place wrongCount arity fields) : p.place = place := by
  rcases mem_fieldProblems.mp h with ⟨_, rfl⟩ | ⟨field, _, _, rfl⟩
  · exact harity
  · rfl

/-! ### Conditions -/

namespace Condition

theorem ofEntry_of_flagCheck? {entry fields : List String} (h : flagCheck? entry = some fields) :
    ofEntry entry = ofFlagCheck fields := by
  cases entry with
  | nil => cases h
  | cons head rest =>
    rw [flagCheck?] at h
    rw [ofEntry]
    split at h
    · rename_i htag
      cases h
      rw [htag]
    · cases h
    · rename_i htag
      cases h
      rw [htag]

/-- A problem of an entry that can be read names a value that holds a separator. -/
theorem problem_cases {place : Place} {entry : List String} {p : Problem}
    (h : p ∈ conditionProblems place entry) :
    (∃ fault, ofEntry entry = .error fault) ∨
      ∃ name values value, ofEntry entry = .ok (.flag name values) ∧ value ∈ values ∧
        hasSeparator value = true ∧ p = .separator place value := by
  cases hread : ofEntry entry with
  | error fault => exact .inl ⟨fault, rfl⟩
  | ok c =>
    right
    cases entry with
    | nil => cases hread
    | cons head rest =>
      rw [conditionProblems, List.isEmpty_cons, if_neg (by decide)] at h
      split at h
      · rename_i fields hfields
        rw [ofEntry_of_flagCheck? hfields] at hread
        obtain ⟨name, values, rfl, hne, hname, rfl⟩ := ofFlagCheck_eq_ok hread
        rcases mem_fieldProblems.mp h with ⟨hshort, _⟩ | ⟨field, hfield, hsep, hp⟩
        · have hlen := List.length_pos_iff.mpr hne
          simp only [List.length_cons, decide_eq_true_eq] at hshort
          omega
        · rcases List.mem_cons.mp hfield with rfl | hvalue
          · rw [not_hasSeparator_of_isName hname] at hsep
            cases hsep
          · exact ⟨name, values, field, rfl, hvalue, hsep, hp⟩
      · cases h

theorem problems_eq_nil_iff {entry : List String} {c : Condition} (h : ofEntry entry = .ok c)
    (place : Place) : conditionProblems place entry = [] ↔ c.ValuesPlain := by
  constructor
  · intro hnil
    cases c with
    | flag name values =>
      intro value hvalue
      cases hsep : hasSeparator value with
      | false => rfl
      | true =>
        have hp : Problem.separator place value ∈ conditionProblems place entry := by
          cases entry with
          | nil => cases h
          | cons head rest =>
            rw [conditionProblems, List.isEmpty_cons, if_neg (by decide), flagCheck?_of_ofEntry h]
            exact mem_fieldProblems.mpr (.inr ⟨value, List.mem_cons_of_mem _ hvalue, hsep, rfl⟩)
        rw [hnil] at hp
        cases hp
    | _ => trivial
  · intro hplain
    refine List.eq_nil_iff_forall_not_mem.mpr fun p hp => ?_
    rcases problem_cases hp with ⟨fault, hfault⟩ | ⟨name, values, value, hok, hvalue, hsep, _⟩
    · rw [h] at hfault
      cases hfault
    · rw [h] at hok
      cases hok
      rw [hplain value hvalue] at hsep
      cases hsep

theorem place_of_mem_problems {place : Place} {entry : List String} {p : Problem}
    (h : p ∈ conditionProblems place entry) : p.place = place := by
  unfold conditionProblems at h
  split at h
  · rw [List.mem_singleton.mp h]
    rfl
  · split at h
    · exact place_of_mem_fieldProblems rfl h
    · cases h

end Condition

/-! ### Effects -/

namespace Effect

theorem ofEntry_of_flagWrite? {entry fields : List String} (h : flagWrite? entry = some fields) :
    ofEntry entry = ofTagged .setFlag fields := by
  cases entry with
  | nil => cases h
  | cons head rest =>
    rw [flagWrite?] at h
    split at h
    · rename_i htag
      cases h
      exact ofEntry_of_tag htag _
    · cases h
    · rename_i htag
      split at h
      · rename_i hlen
        cases h
        obtain ⟨value, rfl⟩ := List.length_eq_one_iff.mp hlen
        exact ofEntry_pair htag value
      · cases h

theorem ofTagged_setFlag_eq_ok {fields : List String} {e : Effect}
    (h : ofTagged .setFlag fields = .ok e) :
    ∃ name value, fields = [name, value] ∧ isName name = true ∧ e = .setFlag name value := by
  match fields with
  | [name, value] =>
    obtain ⟨hname, he⟩ := ofFlagWrite_eq_ok h
    exact ⟨name, value, rfl, hname, he⟩
  | [] | [_] | _ :: _ :: _ :: _ => cases h

/-- A problem of an entry that can be read names a value that holds a separator. -/
theorem problem_cases {place : Place} {entry : List String} {p : Problem}
    (h : p ∈ effectProblems place entry) :
    (∃ fault, ofEntry entry = .error fault) ∨
      ∃ name value, ofEntry entry = .ok (.setFlag name value) ∧ hasSeparator value = true ∧
        p = .separator place value := by
  cases hread : ofEntry entry with
  | error fault => exact .inl ⟨fault, rfl⟩
  | ok e =>
    right
    cases entry with
    | nil => cases hread
    | cons head rest =>
      rw [effectProblems, List.isEmpty_cons, if_neg (by decide)] at h
      split at h
      · rename_i fields hfields
        rw [ofEntry_of_flagWrite? hfields] at hread
        obtain ⟨name, value, rfl, hname, rfl⟩ := ofTagged_setFlag_eq_ok hread
        rcases mem_fieldProblems.mp h with ⟨hcount, _⟩ | ⟨field, hfield, hsep, hp⟩
        · simp at hcount
        · rcases List.mem_cons.mp hfield with rfl | hvalue
          · rw [not_hasSeparator_of_isName hname] at hsep
            cases hsep
          · rw [List.mem_singleton.mp hvalue] at hsep hp
            exact ⟨name, value, rfl, hsep, hp⟩
      · cases h

theorem problems_eq_nil_iff {entry : List String} {e : Effect} (h : ofEntry entry = .ok e)
    (place : Place) : effectProblems place entry = [] ↔ e.ValuePlain := by
  constructor
  · intro hnil
    cases e with
    | setFlag name value =>
      cases hsep : hasSeparator value with
      | false => exact hsep
      | true =>
        have hp : Problem.separator place value ∈ effectProblems place entry := by
          cases entry with
          | nil => cases h
          | cons head rest =>
            rw [effectProblems, List.isEmpty_cons, if_neg (by decide), flagWrite?_of_ofEntry h]
            exact mem_fieldProblems.mpr (.inr ⟨value, by simp, hsep, rfl⟩)
        rw [hnil] at hp
        cases hp
    | _ => trivial
  · intro hplain
    refine List.eq_nil_iff_forall_not_mem.mpr fun p hp => ?_
    rcases problem_cases hp with ⟨fault, hfault⟩ | ⟨name, value, hok, hsep, _⟩
    · rw [h] at hfault
      cases hfault
    · rw [h] at hok
      cases hok
      rw [hplain] at hsep
      cases hsep

theorem place_of_mem_problems {place : Place} {entry : List String} {p : Problem}
    (h : p ∈ effectProblems place entry) : p.place = place := by
  unfold effectProblems at h
  split at h
  · rw [List.mem_singleton.mp h]
    rfl
  · split at h
    · exact place_of_mem_fieldProblems rfl h
    · cases h

end Effect

end Colloquy
