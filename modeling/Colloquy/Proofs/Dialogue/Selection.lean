import Colloquy.Dialogue.Basic

/-!
# Colloquy.Proofs.Dialogue.Selection

Which rule answers an utterance: the first that hears it and may fire.

* `HookedRule.Answers` — a keyword is heard, every condition holds, and the guard agrees.
* `value_firstRule`    — the search is `List.find?` for such a rule among the numbered rules.
* `Selection.IsFirst`  — a selection is of the first rule that answers.
-/

namespace Colloquy

namespace Condition

theorem value_allHold (o : Outlook) (cs : List Condition) :
    (allHold o cs).value = cs.all fun c => (c.holds o).value := by
  induction cs with
  | nil => rfl
  | cons c cs ih =>
    rw [allHold, Noted.value_bind, List.all_cons]
    cases (c.holds o).value with
    | true => exact ih
    | false => rfl

end Condition

namespace HookedRule

structure Answers (r : HookedRule) (o : Outlook) (utterance : String) : Prop where
  heard : ∃ k ∈ r.keywords, Keyword.heardIn o.settings.matchMode k utterance = true
  holds : ∀ c ∈ r.conditions, (c.holds o).value = true
  allowed : ∀ guard ∈ r.guard, (guard o.conversation r.toRule o.world).value = true

variable {r : HookedRule} {o : Outlook} {utterance : String}

theorem hears_iff {mode : MatchMode} :
    r.hears mode utterance = true ↔ ∃ k ∈ r.keywords, Keyword.heardIn mode k utterance = true := by
  rw [Rule.hears, List.any_eq_true]

theorem guardAgrees_iff :
    (r.guardAgrees o).value = true ↔
      ∀ guard ∈ r.guard, (guard o.conversation r.toRule o.world).value = true := by
  unfold guardAgrees
  cases r.guard with
  | none => simp
  | some guard => simp

theorem isEligible_iff :
    (r.isEligible o).value = true ↔
      (∀ c ∈ r.conditions, (c.holds o).value = true) ∧
        ∀ guard ∈ r.guard, (guard o.conversation r.toRule o.world).value = true := by
  rw [← guardAgrees_iff, ← List.all_eq_true, ← Condition.value_allHold, isEligible,
    Noted.value_bind]
  cases (Condition.allHold o r.conditions).value with
  | true => simp
  | false => simp

theorem answers_iff :
    r.Answers o utterance ↔
      (r.hears o.settings.matchMode utterance && (r.isEligible o).value) = true := by
  rw [Bool.and_eq_true, hears_iff, isEligible_iff]
  constructor
  · intro h
    exact ⟨h.heard, h.holds, h.allowed⟩
  · rintro ⟨hheard, hholds, hallowed⟩
    exact ⟨hheard, hholds, hallowed⟩

instance : Decidable (r.Answers o utterance) :=
  decidable_of_iff _ answers_iff.symm

end HookedRule

variable {d : Dialogue} {w : World} {conv : Conversation} {utterance : String} {draw : UInt32}

namespace Dialogue

/-- What the rules see of the world before they answer. -/
def outlook (d : Dialogue) (w : World) (conv : Conversation) : Outlook :=
  ⟨w, conv, (d.flags w conv).value, d.settings⟩

theorem value_firstRule_cons (o : Outlook) (utterance : String) (i : Nat) (r : HookedRule)
    (rs : List HookedRule) :
    (firstRule o utterance i (r :: rs)).value =
      if r.Answers o utterance then some (i, r)
      else (firstRule o utterance (i + 1) rs).value := by
  rw [firstRule]
  simp only [HookedRule.answers_iff, Bool.and_eq_true]
  by_cases hheard : r.hears o.settings.matchMode utterance = true
  · rw [if_pos hheard, Noted.value_bind]
    by_cases hmay : (r.isEligible o).value = true
    · rw [if_pos hmay, if_pos ⟨hheard, hmay⟩]
      rfl
    · rw [if_neg hmay, if_neg fun h => hmay h.2]
      rfl
  · rw [if_neg hheard, if_neg fun h => hheard h.1]

theorem value_firstRule (o : Outlook) (utterance : String) (i : Nat) (rs : List HookedRule) :
    (firstRule o utterance i rs).value =
      ((rs.zipIdx i).find? fun x => decide (x.1.Answers o utterance)).map Prod.swap := by
  induction rs generalizing i with
  | nil => rfl
  | cons r rs ih =>
    rw [value_firstRule_cons, List.zipIdx_cons, List.find?_cons]
    by_cases h : r.Answers o utterance
    · simp [h]
    · simp [h, ih]

def withRules (d : Dialogue) (rules : List HookedRule) : Dialogue :=
  { d with rules := rules }

theorem value_select (d : Dialogue) (w : World) (conv : Conversation) (utterance : String)
    (draw : UInt32) :
    (d.select w conv utterance draw).value =
      (d.rules.zipIdx.find? fun x => decide (x.1.Answers (d.outlook w conv) utterance)).map
        fun x => selectionOf conv draw x.2 x.1 := by
  rw [select, Noted.value_bind, Noted.value_bind, value_firstRule, Noted.value_pure, Option.map_map]
  rfl

theorem select_eq_none_iff :
    (d.select w conv utterance draw).value = none ↔
      ∀ r ∈ d.rules, ¬r.Answers (d.outlook w conv) utterance := by
  rw [value_select, Option.map_eq_none_iff, List.find?_eq_none]
  constructor
  · intro h r hr
    obtain ⟨i, hi⟩ := List.mem_iff_getElem?.mp hr
    simpa using h (r, i) (List.mem_zipIdx_iff_getElem?.mpr hi)
  · intro h x hx
    simpa using h x.1 (List.mem_of_getElem? (List.mem_zipIdx_iff_getElem?.mp hx))

end Dialogue

/-! ### Joining lists of rules -/

/-- The same selection when `n` rules are put before. -/
def Selection.shift (n : Nat) (s : Selection) : Selection :=
  { s with index := s.index + n }

@[simp] theorem Selection.shift_shift (m n : Nat) (s : Selection) :
    (s.shift m).shift n = s.shift (m + n) := by
  simp [shift, Nat.add_assoc]

namespace Dialogue

/-- Rules later in the list are only asked when none before them answers. -/
theorem value_select_append (as bs : List HookedRule) :
    ((d.withRules (as ++ bs)).select w conv utterance draw).value =
      ((d.withRules as).select w conv utterance draw).value.or
        (((d.withRules bs).select w conv utterance draw).value.map (·.shift as.length)) := by
  have hlater : bs.zipIdx (0 + as.length) =
      bs.zipIdx.map (Prod.map id (· + as.length)) := by
    rw [List.map_snd_add_zipIdx_eq_zipIdx, Nat.add_comm]
  simp only [value_select, withRules, outlook, flags]
  rw [List.zipIdx_append, List.find?_append, Option.map_or, hlater, List.find?_map,
    Option.map_map, Option.map_map]
  rfl

end Dialogue

/-! ### The first rule that answers -/

structure Selection.IsFirst (s : Selection) (r : HookedRule) (d : Dialogue) (w : World)
    (conv : Conversation) (utterance : String) : Prop where
  rule : d.rules[s.index]? = some r
  answers : r.Answers (d.outlook w conv) utterance
  least : ∀ (j : Nat) (earlier : HookedRule), j < s.index → d.rules[j]? = some earlier →
    ¬earlier.Answers (d.outlook w conv) utterance
  effects : s.effects = r.effects
  response : r.responses ≠ [] → ∃ line ∈ r.responses,
    s.response = Placeholder.fill conv.speaker.name conv.actor.name line

theorem Rule.response_mem {r : Rule} (h : r.responses ≠ []) (draw : UInt32) :
    r.response draw ∈ r.responses := by
  have hpos : 0 < r.responses.length := List.length_pos_iff.mpr h
  have hlt : draw.toNat * r.responses.length / UInt32.size < r.responses.length := by
    rw [Nat.div_lt_iff_lt_mul (by decide), Nat.mul_comm]
    exact Nat.mul_lt_mul_of_pos_left draw.toNat_lt hpos
  rw [response, List.getElem?_eq_getElem hlt]
  exact List.getElem_mem hlt

namespace Dialogue

theorem exists_isFirst {s : Selection} (h : (d.select w conv utterance draw).value = some s) :
    ∃ r, s.IsFirst r d w conv utterance := by
  rw [value_select, Option.map_eq_some_iff] at h
  obtain ⟨⟨r, i⟩, hfind, rfl⟩ := h
  rw [List.find?_eq_some_iff_getElem] at hfind
  obtain ⟨hanswers, k, hk, hat, hleast⟩ := hfind
  rw [List.getElem_zipIdx, Nat.zero_add] at hat
  obtain ⟨rfl, rfl⟩ := Prod.mk.inj hat
  rw [List.length_zipIdx] at hk
  refine ⟨d.rules[k], List.getElem?_eq_getElem hk, of_decide_eq_true hanswers, ?_, rfl, ?_⟩
  · intro j earlier hj hearlier
    obtain ⟨hlt, rfl⟩ := List.getElem?_eq_some_iff.mp hearlier
    simpa using hleast j hj
  · intro hlines
    exact ⟨_, Rule.response_mem hlines draw, rfl⟩

theorem lt_length_of_select {s : Selection}
    (h : (d.select w conv utterance draw).value = some s) : s.index < d.rules.length := by
  obtain ⟨r, hfirst⟩ := exists_isFirst h
  exact (List.getElem?_eq_some_iff.mp hfirst.rule).1

/-! ### Inserted rules -/

theorem insertIdx_append (as bs : List HookedRule) (r : HookedRule) :
    (as ++ bs).insertIdx as.length r = as ++ r :: bs := by
  induction as with
  | nil => rfl
  | cons a as ih => exact congrArg (a :: ·) ih

/-- A rule that does not answer moves the rules behind it, and nothing else. -/
theorem value_select_insertRule {r : HookedRule}
    (h : ¬r.Answers (d.outlook w conv) utterance) (i : Nat) :
    ((d.insertRule i r).select w conv utterance draw).value =
      (d.select w conv utterance draw).value.map fun s =>
        if min i d.rules.length ≤ s.index then s.shift 1 else s := by
  obtain ⟨before, behind, hrules, hlength⟩ :
      ∃ before behind, d.rules = before ++ behind ∧ before.length = min i d.rules.length :=
    ⟨d.rules.take (min i d.rules.length), d.rules.drop (min i d.rules.length),
      (List.take_append_drop _ _).symm, List.length_take_of_le (Nat.min_le_right _ _)⟩
  have hself : (d.select w conv utterance draw).value =
      ((d.withRules before).select w conv utterance draw).value.or
        (((d.withRules behind).select w conv utterance draw).value.map (·.shift before.length)) := by
    rw [← value_select_append, ← hrules]
    rfl
  have hinsert : d.insertRule i r = d.withRules (before ++ ([r] ++ behind)) := by
    rw [insertRule, ← hlength, hrules, insertIdx_append]
    rfl
  have hnone : ((d.withRules [r]).select w conv utterance draw).value = none := by
    rw [select_eq_none_iff]
    intro r' hr'
    rw [List.mem_singleton.mp hr']
    exact h
  rw [hinsert, value_select_append, value_select_append, hnone, Option.none_or, hself, ← hlength]
  cases hbefore : ((d.withRules before).select w conv utterance draw).value with
  | some s =>
    have hlt : s.index < before.length := lt_length_of_select hbefore
    rw [Option.some_or, Option.some_or, Option.map_some, if_neg (Nat.not_le_of_lt hlt)]
  | none =>
    rw [Option.none_or, Option.none_or, Option.map_map, Option.map_map]
    congr 1
    funext s
    have hle : before.length ≤ (s.shift before.length).index := Nat.le_add_left _ _
    simp [hle, Nat.add_comm]

theorem value_speak_of_select_eq_none (h : (d.select w conv utterance draw).value = none) :
    (d.speak w conv utterance draw).value = .ok (.unhandled, w) := by
  rw [speak, Noted.value_bind, h]
  rfl

/-- The first rule that answers is selected, and no other rule matters: rules behind it are not
asked, rules before it and rules put in that do not answer only move its index, and where there is
none nothing is done. -/
theorem select_first (d : Dialogue) (w : World) (conv : Conversation) (utterance : String)
    (draw : UInt32) :
    (∀ as bs, ((d.withRules (as ++ bs)).select w conv utterance draw).value =
      ((d.withRules as).select w conv utterance draw).value.or
        (((d.withRules bs).select w conv utterance draw).value.map (·.shift as.length))) ∧
    ((d.select w conv utterance draw).value = none ↔
      ∀ r ∈ d.rules, ¬r.Answers (d.outlook w conv) utterance) ∧
    (∀ s, (d.select w conv utterance draw).value = some s →
      ∃ r, s.IsFirst r d w conv utterance) ∧
    (∀ r i, ¬r.Answers (d.outlook w conv) utterance →
      ((d.insertRule i r).select w conv utterance draw).value =
        (d.select w conv utterance draw).value.map fun s =>
          if min i d.rules.length ≤ s.index then s.shift 1 else s) ∧
    ((d.select w conv utterance draw).value = none →
      (d.speak w conv utterance draw).value = .ok (.unhandled, w)) :=
  ⟨value_select_append, select_eq_none_iff, fun _ h => exists_isFirst h,
    fun _ i h => value_select_insertRule h i, value_speak_of_select_eq_none⟩

/-- A rule that hears everything is passed over while its condition fails. -/
theorem select_first_passed_over :
    let conv : Conversation := ⟨⟨⟨7#128⟩, "ada"⟩, ⟨⟨8#128⟩, "gork"⟩, "hall"⟩
    let gated := Rule.plain ⟨["*"], ["Again?"], [.flag "greeted" ["1"]], []⟩
    let greeting := Rule.plain ⟨["*"], ["Hi.", "Hi, $you."], [], [.setFlag "greeted" "1"]⟩
    let d : Dialogue := { rules := [gated, greeting] }
    let s : Selection := ⟨1, "Hi, ada.", [.setFlag "greeted" "1"]⟩
    (d.select {} conv "hello" 0xC0000000).value = some s ∧
    (∃ r, s.IsFirst r d {} conv "hello") ∧
    ¬gated.Answers (d.outlook {} conv) "hello" ∧
    ((d.insertRule 9 gated).select {} conv "hello" 0xC0000000).value = some s ∧
    ((d.insertRule 1 gated).select {} conv "hello" 0xC0000000).value = some (s.shift 1) ∧
    ((d.withRules [gated]).speak {} conv "hello" 0).value = .ok (.unhandled, {}) := by
  intro conv gated greeting d s
  obtain ⟨-, -, hfirst, hinsert, -⟩ := select_first d {} conv "hello" 0xC0000000
  obtain ⟨-, hnone, -, -, hunhandled⟩ := select_first (d.withRules [gated]) {} conv "hello" 0
  have hselect : (d.select {} conv "hello" 0xC0000000).value = some s := by decide +kernel
  have hgated : ¬gated.Answers (d.outlook {} conv) "hello" := by decide
  refine ⟨hselect, hfirst s hselect, hgated, ?_, ?_, hunhandled (hnone.mpr ?_)⟩
  · rw [hinsert gated 9 hgated, hselect]
    rfl
  · rw [hinsert gated 1 hgated, hselect]
    rfl
  · intro r hr
    rw [List.mem_singleton.mp hr]
    exact hgated

end Dialogue

end Colloquy
