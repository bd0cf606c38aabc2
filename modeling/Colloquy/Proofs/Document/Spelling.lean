import Mathlib.Algebra.Group.Int.Defs
import Mathlib.Data.List.Forall2
import Colloquy.Proofs.Document.Acceptance
import Colloquy.Proofs.Numeral
import Colloquy.Proofs.Numeral.Rounded

/-!
# Colloquy.Proofs.Document.Spelling

Documents that differ in how a number inside an entry is spelled: bare, or as the text of its
digits.

* `RuleText.Spelled R`, `Document.Spelled R` — documents that agree but for values inside entries,
  which are related by `R`.
* `Document.ofJson?_of_spelled` — if related values stand for the same text, such documents are
  the same.
* `RuleSet.LoadAlike`, `RuleSet.LoadsAsDigits` — what must not change when numbers are spelled out.
* `loadsAsDigits_iff` — a check of a flag for the number is enough to tell.
* `bare_integer_loads_as_digits_iff` — a bare integer may be spelled out exactly as long as
  rounding does not make another one of it.
-/

namespace Colloquy

open Colloquy.Flag (hasSeparator)
open Text (isBlankText)
open Numeral (Binary64 fitsInt64 ofInt ofNat)

/-! ### Related values -/

theorem mapM_congr_of_forall₂ {α β γ : Type} {R : α → β → Prop} {f : α → Option γ}
    {g : β → Option γ} (hR : ∀ a b, R a b → f a = g b) {as : List α} {bs : List β}
    (h : List.Forall₂ R as bs) : as.mapM f = bs.mapM g := by
  induction h with
  | nil => rfl
  | cons hab _ ih => rw [List.mapM_cons, List.mapM_cons, hR _ _ hab, ih]

theorem bind_congr_of_rel {α β γ : Type} {R : α → β → Prop} {x : Option α} {y : Option β}
    {f : α → Option γ} {g : β → Option γ} (h : Option.Rel R x y) (hR : ∀ a b, R a b → f a = g b) :
    x.bind f = y.bind g := by
  cases h with
  | none => rfl
  | some hab => exact hR _ _ hab

theorem eq_of_rel {α : Type} {x y : Option α} (h : Option.Rel Eq x y) : x = y := by
  cases h with
  | none => rfl
  | some heq => rw [heq]

namespace Json

inductive Itemwise (R : Json → Json → Prop) : Json → Json → Prop where
  | same (v : Json) : Itemwise R v v
  | array {vs ws : List Json} : List.Forall₂ R vs ws → Itemwise R (.array vs) (.array ws)

/-- Objects with the same field names in the same order, whose values are related. -/
def Fieldwise (R : String → Json → Json → Prop) (fs gs : List (String × Json)) : Prop :=
  List.Forall₂ (fun f g => f.1 = g.1 ∧ R f.1 f.2 g.2) fs gs

variable {R : Json → Json → Prop} {Q : String → Json → Json → Prop}

theorem entry?_of_itemwise (hR : ∀ v w, R v w → v.entryText? = w.entryText?) {v w : Json}
    (h : Itemwise R v w) : v.entry? = w.entry? := by
  cases h with
  | same => rfl
  | array h => exact mapM_congr_of_forall₂ hR h

theorem entries?_of_itemwise (hR : ∀ v w, R v w → v.entryText? = w.entryText?) {v w : Json}
    (h : Itemwise (Itemwise R) v w) : v.entries? = w.entries? := by
  cases h with
  | same => rfl
  | array h => exact mapM_congr_of_forall₂ (fun _ _ hvw => entry?_of_itemwise hR hvw) h

theorem valuesOf_of_fieldwise {fs gs : List (String × Json)} (h : Fieldwise Q fs gs)
    (name : String) : List.Forall₂ (Q name) (valuesOf name fs) (valuesOf name gs) := by
  induction h with
  | nil => exact .nil
  | @cons f g fs gs hfg _ ih =>
    obtain ⟨hname, hvalue⟩ := hfg
    unfold valuesOf at ih ⊢
    rw [List.filter_cons, List.filter_cons, ← hname]
    split
    · rename_i hf
      rw [beq_iff_eq] at hf
      subst hf
      exact .cons hvalue ih
    · exact ih

theorem once?_of_fieldwise {fs gs : List (String × Json)} (h : Fieldwise Q fs gs) (name : String) :
    Option.Rel (Option.Rel (Q name)) (once? name fs) (once? name gs) := by
  have hvalues := valuesOf_of_fieldwise h name
  unfold once?
  generalize valuesOf name fs = vs at hvalues
  generalize valuesOf name gs = ws at hvalues
  cases hvalues with
  | nil => exact .some .none
  | cons hvw hrest =>
    cases hrest with
    | nil => exact .some (.some hvw)
    | cons => exact .none

theorem required?_of_fieldwise {fs gs : List (String × Json)} (h : Fieldwise Q fs gs)
    (name : String) : Option.Rel (Q name) (required? name fs) (required? name gs) := by
  have honce := once?_of_fieldwise h name
  unfold required?
  generalize once? name fs = v at honce
  generalize once? name gs = w at honce
  cases honce with
  | none => exact .none
  | some hvw => exact hvw

theorem optionalEntries?_of_rel (hR : ∀ v w, R v w → v.entryText? = w.entryText?)
    {v w : Option Json} (h : Option.Rel (Itemwise (Itemwise R)) v w) :
    optionalEntries? v = optionalEntries? w := by
  cases h with
  | none => rfl
  | some h => exact entries?_of_itemwise hR h

end Json

/-! ### Related documents -/

/-- How the fields of a written rule are related: its entries but for the values inside them, and
all else strictly. -/
def RuleText.FieldSpelled (R : Json → Json → Prop) (name : String) : Json → Json → Prop :=
  if name = "pre" ∨ name = "post" then Json.Itemwise (Json.Itemwise R) else Eq

/-- Written rules that agree but for the values inside their entries. -/
inductive RuleText.Spelled (R : Json → Json → Prop) : Json → Json → Prop where
  | same (v : Json) : Spelled R v v
  | object {fs gs : List (String × Json)} : Json.Fieldwise (FieldSpelled R) fs gs →
      Spelled R (.object fs) (.object gs)
  | array {pattern cs cs' es es' : Json} {rest : List Json} :
      Json.Itemwise (Json.Itemwise R) cs cs' → Json.Itemwise (Json.Itemwise R) es es' →
      Spelled R (.array (pattern :: cs :: es :: rest)) (.array (pattern :: cs' :: es' :: rest))

def Document.FieldSpelled (R : Json → Json → Prop) (name : String) : Json → Json → Prop :=
  if name = "rules" then Json.Itemwise (RuleText.Spelled R) else Eq

inductive Document.Spelled (R : Json → Json → Prop) : Json → Json → Prop where
  | object {fs gs : List (String × Json)} : Json.Fieldwise (FieldSpelled R) fs gs →
      Spelled R (.object fs) (.object gs)
  | array {location rules rules' : Json} {rest : List Json} :
      Json.Itemwise (RuleText.Spelled R) rules rules' →
      Spelled R (.array (location :: rules :: rest)) (.array (location :: rules' :: rest))

section Reading

variable {R : Json → Json → Prop} {v w : Json}

theorem RuleText.ofFields?_congr {pattern responses : Json} {cs cs' es es' connected : Option Json}
    (hcs : Json.optionalEntries? cs = Json.optionalEntries? cs')
    (hes : Json.optionalEntries? es = Json.optionalEntries? es') :
    ofFields? pattern responses cs es connected =
      ofFields? pattern responses cs' es' connected := by
  rw [ofFields?, ofFields?, hcs, hes]

theorem RuleText.ofJson?_of_spelled (hR : ∀ v w, R v w → v.entryText? = w.entryText?)
    (h : Spelled R v w) : ofJson? v = ofJson? w := by
  cases h with
  | same => rfl
  | @object fs gs h =>
    have hsame : ∀ name, ¬(name = "pre" ∨ name = "post") → FieldSpelled R name = Eq :=
      fun name hname => if_neg hname
    have hpre : FieldSpelled R "pre" = Json.Itemwise (Json.Itemwise R) := if_pos (.inl rfl)
    have hpost : FieldSpelled R "post" = Json.Itemwise (Json.Itemwise R) := if_pos (.inr rfl)
    have hpattern := Json.required?_of_fieldwise h "match"
    have hconditions := Json.once?_of_fieldwise h "pre"
    have heffects := Json.once?_of_fieldwise h "post"
    have hresponses := Json.required?_of_fieldwise h "msg"
    have hconnected := Json.once?_of_fieldwise h "connected"
    rw [hsame _ (by decide)] at hpattern hresponses hconnected
    rw [hpre] at hconditions
    rw [hpost] at heffects
    refine bind_congr_of_rel hpattern fun pattern _ hp => ?_
    refine bind_congr_of_rel hconditions fun cs cs' hcs => ?_
    refine bind_congr_of_rel heffects fun es es' hes => ?_
    refine bind_congr_of_rel hresponses fun responses _ hr => ?_
    refine bind_congr_of_rel hconnected fun connected _ hc => ?_
    rw [← hp, ← hr, ← eq_of_rel hc]
    exact ofFields?_congr (Json.optionalEntries?_of_rel hR hcs)
      (Json.optionalEntries?_of_rel hR hes)
  | @array pattern cs cs' es es' rest hcs hes =>
    have hcs := Json.entries?_of_itemwise hR hcs
    have hes := Json.entries?_of_itemwise hR hes
    match rest with
    | [responses] => exact ofFields?_congr hcs hes
    | [responses, connected] => exact ofFields?_congr hcs hes
    | [] => rfl
    | _ :: _ :: _ :: _ => rfl

theorem Document.ofFields?_of_itemwise (hR : ∀ v w, R v w → v.entryText? = w.entryText?)
    (location : Json) (h : Json.Itemwise (RuleText.Spelled R) v w) :
    ofFields? location v = ofFields? location w := by
  cases h with
  | same => rfl
  | @array vs ws h =>
    have hrules : vs.mapM RuleText.ofJson? = ws.mapM RuleText.ofJson? :=
      mapM_congr_of_forall₂ (fun _ _ hvw => RuleText.ofJson?_of_spelled hR hvw) h
    simp only [ofFields?, Json.asArray?, Option.bind_eq_bind, Option.bind_some, hrules]

/-- Documents whose entries hold the same texts, spelled one way or another, are the same. -/
theorem Document.ofJson?_of_spelled (hR : ∀ v w, R v w → v.entryText? = w.entryText?)
    (h : Spelled R v w) : ofJson? v = ofJson? w := by
  cases h with
  | @object fs gs h =>
    have hlocation := Json.required?_of_fieldwise h "location"
    have hrules := Json.required?_of_fieldwise h "rules"
    rw [show FieldSpelled R "location" = Eq from if_neg (by decide)] at hlocation
    rw [show FieldSpelled R "rules" = Json.Itemwise (RuleText.Spelled R) from if_pos rfl] at hrules
    refine bind_congr_of_rel hlocation fun location _ hl => ?_
    refine bind_congr_of_rel hrules fun rules rules' hr => ?_
    rw [← hl]
    exact ofFields?_of_itemwise hR location hr
  | @array location rules rules' rest h =>
    match rest with
    | [] => exact ofFields?_of_itemwise hR location h
    | _ :: _ => rfl

end Reading

/-! ### Numbers -/

/-- A bare integer and the text of its digits, or twice the same value. -/
inductive Json.Digits (n : Int) : Json → Json → Prop where
  | same (v : Json) : Digits n v v
  | digits : Digits n (.integer n) (.text (ofInt n))

theorem Json.entryText?_text (s : String) : (Json.text s).entryText? = some s :=
  rfl

theorem Json.entryText?_of_digits {n : Int} (hn : (Json.integer n).entryText? = some (ofInt n))
    (v w : Json) (h : Json.Digits n v w) : v.entryText? = w.entryText? := by
  cases h with
  | same => rfl
  | digits => exact hn

theorem Numeral.fitsInt64_iff {n : Int} : fitsInt64 n = true ↔ -2 ^ 63 ≤ n ∧ n < 2 ^ 63 := by
  rw [fitsInt64, decide_eq_true_iff, Int64.toInt_minValue, Int64.toInt_maxValue]
  omega

theorem Numeral.ofInt_of_nonneg {n : Int} (h : 0 ≤ n) : ofInt n = ofNat n.toNat := by
  rw [ofInt, if_neg (by omega), show n.natAbs = n.toNat by omega]

/-- From `2 ^ 63` on, an integer is rounded before it is written. -/
theorem Json.entryText?_integer_eq_ofInt_iff {n : Int} (hmin : -2 ^ 63 ≤ n) :
    (Json.integer n).entryText? = some (ofInt n) ↔
      n < 2 ^ 63 ∨ ∃ x, Binary64.ofNat? n.toNat = some x ∧ x.text false = ofInt n := by
  by_cases hfits : n < 2 ^ 63
  · simp only [Json.entryText?, if_pos (Numeral.fitsInt64_iff.mpr ⟨hmin, hfits⟩), hfits, true_or]
  · have hlarge : fitsInt64 n ≠ true := fun h => hfits (Numeral.fitsInt64_iff.mp h).2
    have hneg : ¬n < 0 := by omega
    have habs : n.natAbs = n.toNat := by omega
    simp only [Json.entryText?, if_neg hlarge, hfits, false_or, habs, hneg, decide_false,
      Option.map_eq_some_iff]

theorem Numeral.hasSeparator_ofInt (n : Int) : hasSeparator (ofInt n) = false := by
  have hdigit : ∀ c ∈ (ofNat n.natAbs).toList, c.isDigit = true := fun _ h => isDigit_of_mem_ofNat h
  have hvalue : Flag.valueSeparator ∉ (ofNat n.natAbs).toList :=
    fun h => absurd (hdigit _ h) (by decide)
  have hentry : Flag.entrySeparator ∉ (ofNat n.natAbs).toList :=
    fun h => absurd (hdigit _ h) (by decide)
  rw [Flag.hasSeparator_eq_false_iff, ofInt]
  split
  · rw [String.toList_append, List.mem_append, List.mem_append]
    exact ⟨fun h => h.elim (by decide) hvalue, fun h => h.elim (by decide) hentry⟩
  · exact ⟨hvalue, hentry⟩

namespace RuleSet

/-- The two values make the same rule set, or none; so do all texts that are read as them. -/
def LoadAlike (v w : Json) : Prop :=
  (∀ s, ofJson v = .ok s ↔ ofJson w = .ok s) ∧
    ∀ a b, Json.read? a = some v → Json.read? b = some w → ∀ s, ofText a = .ok s ↔ ofText b = .ok s

/-- Nothing changes when the integer is spelled out inside the entries of a document. -/
def LoadsAsDigits (n : Int) : Prop :=
  ∀ v w, Document.Spelled (Json.Digits n) v w → LoadAlike v w

theorem loadAlike_of_ofJson?_eq {v w : Json} (h : Document.ofJson? v = Document.ofJson? w) :
    LoadAlike v w := by
  refine ⟨fun s => by rw [ofJson, ofJson, h], fun a b ha hb s => ?_⟩
  rw [ofText, ofText, documentOfText?, documentOfText?, ha, hb, Option.bind_some, Option.bind_some,
    h]

/-- A document with one rule. -/
def soleRule (conditions effects : List Json) : Json :=
  .object [("location", .text "hall"), ("rules", .array [.object [("match", .text "gem"),
    ("pre", .array conditions), ("post", .array effects), ("msg", .array [.text "Here."])]])]

theorem spelled_soleRule {R : Json → Json → Prop} {cs cs' es es' : List Json}
    (hcs : List.Forall₂ (Json.Itemwise R) cs cs') (hes : List.Forall₂ (Json.Itemwise R) es es') :
    Document.Spelled R (soleRule cs es) (soleRule cs' es') := by
  have hrule : List.Forall₂ (fun f g => f.1 = g.1 ∧ RuleText.FieldSpelled R f.1 f.2 g.2)
      [("match", .text "gem"), ("pre", .array cs), ("post", .array es),
        ("msg", .array [.text "Here."])]
      [("match", .text "gem"), ("pre", .array cs'), ("post", .array es'),
        ("msg", .array [.text "Here."])] := by
    simp [RuleText.FieldSpelled, Json.Itemwise.array hcs, Json.Itemwise.array hes]
  have hrules := Json.Itemwise.array (.cons (RuleText.Spelled.object hrule) .nil)
  exact .object (by simpa [Json.Fieldwise, Document.FieldSpelled] using hrules)

theorem ofJson?_soleRule (cs es : List Json) :
    Document.ofJson? (soleRule cs es) =
      (Json.array cs).entries?.bind fun conditions => (Json.array es).entries?.bind fun effects =>
        some ⟨"hall", [⟨"gem", conditions, effects, ["Here."], none⟩]⟩ := by
  have hrule : RuleText.ofJson? (.object [("match", .text "gem"), ("pre", .array cs),
      ("post", .array es), ("msg", .array [.text "Here."])]) =
      RuleText.ofFields? (.text "gem") (.array [.text "Here."]) (some (.array cs))
        (some (.array es)) none := rfl
  have hread : Document.ofJson? (soleRule cs es) =
      (RuleText.ofFields? (.text "gem") (.array [.text "Here."]) (some (.array cs))
        (some (.array es)) none).bind fun r => some ⟨"hall", [r]⟩ := by
    simp [soleRule, Document.ofJson?, Document.ofFields?, hrule, Json.required?, Json.once?,
      Json.valuesOf, Json.asText?, Json.asArray?, Option.bind_assoc]
  simp [hread, RuleText.ofFields?, Json.optionalEntries?, Json.optionalId?, Json.asText?,
    Json.asTexts?, Json.asArray?, Option.bind_assoc]

/-- A document whose rule checks a flag for one value. -/
def flagCheck (value : Json) : Json :=
  soleRule [.array [.text "met", value]] []

theorem ofJson?_flagCheck (value : Json) :
    Document.ofJson? (flagCheck value) = value.entryText?.map fun t =>
      ⟨"hall", [⟨"gem", [["met", t]], [], ["Here."], none⟩]⟩ := by
  rw [flagCheck, ofJson?_soleRule]
  simp only [Json.entries?, Json.entry?, Json.asArray?, Option.bind_some, List.mapM_cons,
    List.mapM_nil, Json.entryText?_text]
  cases value.entryText? <;> rfl

theorem isReadAs_flagCheck_iff {t : String} {rule : Rule} :
    RuleText.IsReadAs ⟨"gem", [["met", t]], [], ["Here."], none⟩ rule ↔
      hasSeparator t = false ∧ rule = ⟨["gem"], ["Here."], [.flag "met" [t]], []⟩ := by
  have hheard : Keyword.ofPattern "gem" = ["gem"] := by decide
  have hentry : Condition.ofEntry ["met", t] = .ok (.flag "met" [t]) := rfl
  constructor
  · intro h
    obtain ⟨keywords, responses, conditions, effects⟩ := rule
    obtain ⟨_, heffects, hall⟩ := h.effects
    have hkeywords := h.keywords
    have hresponses := h.responses
    have hconditions := h.conditions
    cases heffects
    simp only [hheard] at hkeywords hresponses hall
    subst hkeywords hresponses hall
    cases hconditions with
    | cons hread hrest =>
      cases hrest
      obtain ⟨hok, hplain⟩ := hread
      cases hentry.symm.trans hok
      exact ⟨hplain t (by simp), rfl⟩
  · rintro ⟨hplain, rfl⟩
    refine ⟨by simp [hheard], by simp, hheard.symm, rfl, .cons ⟨hentry, ?_⟩ .nil, [], .nil, rfl⟩
    simpa [Condition.ValuesPlain] using hplain

theorem ofJson_flagCheck_eq_ok_iff {value : Json} {s : RuleSet} :
    ofJson (flagCheck value) = .ok s ↔
      ∃ t, value.entryText? = some t ∧ hasSeparator t = false ∧
        s = ⟨"hall", [Rule.plain ⟨["gem"], ["Here."], [.flag "met" [t]], []⟩]⟩ := by
  have hplace : isBlankText "hall" = false := by decide
  rw [ofJson, ofJson?_flagCheck]
  cases value.entryText? with
  | none => simp
  | some t =>
    simp only [Option.map_some, Document.toRuleSet_eq_ok_iff, List.forall₂_cons_left_iff,
      List.forall₂_nil_left_iff, isReadAs_flagCheck_iff]
    simp [hplace]

theorem loadsAsDigits_iff {n : Int} :
    LoadsAsDigits n ↔ (Json.integer n).entryText? = some (ofInt n) := by
  constructor
  · intro h
    have hentry : Json.Itemwise (Json.Digits n) (.array [.text "met", .integer n])
        (.array [.text "met", .text (ofInt n)]) :=
      .array (.cons (.same _) (.cons .digits .nil))
    obtain ⟨hsame, -⟩ := h (flagCheck (.integer n)) (flagCheck (.text (ofInt n)))
      (spelled_soleRule (.cons hentry .nil) .nil)
    have hspelled := ofJson_flagCheck_eq_ok_iff.mpr
      ⟨ofInt n, Json.entryText?_text _, Numeral.hasSeparator_ofInt n, rfl⟩
    obtain ⟨t, ht, -, hs⟩ := ofJson_flagCheck_eq_ok_iff.mp ((hsame _).mpr hspelled)
    have heq : ofInt n = t := by simpa [Rule.plain] using hs
    rw [ht, heq]
  · intro hn v w h
    exact loadAlike_of_ofJson?_eq (Document.ofJson?_of_spelled (Json.entryText?_of_digits hn) h)

/-- Below `2 ^ 63` a bare integer means what its digits say. From there on it does so only if it is
written with the same digits after rounding, which takes a multiple of 1000. -/
theorem bare_integer_loads_as_digits_iff {n : Int} (hmin : -2 ^ 63 ≤ n) (hmax : n < 2 ^ 64) :
    (LoadsAsDigits n ↔
      n < 2 ^ 63 ∨ ∃ x, Binary64.ofNat? n.toNat = some x ∧ x.text false = ofInt n) ∧
    (LoadsAsDigits n → 2 ^ 63 ≤ n → 1000 ∣ n) := by
  have hiff := loadsAsDigits_iff.trans (Json.entryText?_integer_eq_ofInt_iff hmin)
  refine ⟨hiff, fun h hlarge => ?_⟩
  rcases hiff.mp h with hsmall | ⟨x, hx, htext⟩
  · omega
  · obtain ⟨_, hround, hx'⟩ := Binary64.exists_ofNat?_eq (n := n.toNat) (by omega) (by omega)
    cases hx.symm.trans hround
    rw [Numeral.ofInt_of_nonneg (by omega)] at htext
    have hdvd : 1000 ∣ n.toNat := hx'.dvd_of_text_eq htext
    omega

/-- The largest signed number is left as it is, the largest unsigned one is rounded up and out of
range, and `10 ^ 19` is beyond the signed range without being changed by rounding. -/
theorem bare_integer_loads_as_digits_iff_extremes :
    LoadsAsDigits (2 ^ 63 - 1) ∧ ¬LoadsAsDigits (2 ^ 64 - 1) ∧ LoadsAsDigits (10 ^ 19) := by
  refine ⟨?_, fun h => ?_, ?_⟩
  · exact (bare_integer_loads_as_digits_iff (by decide) (by decide)).1.mpr (.inl (by decide))
  · have hdvd := (bare_integer_loads_as_digits_iff (by decide) (by decide)).2 h (by decide)
    revert hdvd
    decide
  · exact (bare_integer_loads_as_digits_iff (by decide) (by decide)).1.mpr
      (.inr ⟨⟨4882812500000000, 11⟩, by decide, by decide⟩)

/-- A document whose rule hands out gems. -/
def gift (quantity : Json) : Json :=
  soleRule [] [.array [.text "giveitem", .text "gem", quantity]]

/-- `2 ^ 63` gems become 192 more when the quantity is bare. -/
theorem bare_quantity_of_gems_rounded :
    let n : Int := 9223372036854775808
    let bare := gift (.integer n)
    let spelled := gift (.text "9223372036854775808")
    Document.Spelled (Json.Digits n) bare spelled ∧
    (ofJson bare).map bareRules =
      .ok [⟨["gem"], ["Here."], [], [.giveItem "gem" 9223372036854776000]⟩] ∧
    (ofJson spelled).map bareRules =
      .ok [⟨["gem"], ["Here."], [], [.giveItem "gem" 9223372036854775808]⟩] ∧
    ¬∀ m : Int, -2 ^ 63 ≤ m → m < 2 ^ 64 → LoadsAsDigits m := by
  intro n bare spelled
  have hdigits : ofInt n = "9223372036854775808" := by decide
  have hentry : Json.Itemwise (Json.Digits n) (.array [.text "giveitem", .text "gem", .integer n])
      (.array [.text "giveitem", .text "gem", .text "9223372036854775808"]) := by
    rw [← hdigits]
    exact .array (.cons (.same _) (.cons (.same _) (.cons .digits .nil)))
  have hpair : Document.Spelled (Json.Digits n) bare spelled :=
    spelled_soleRule .nil (.cons hentry .nil)
  have hbare : (ofJson bare).map bareRules =
      .ok [⟨["gem"], ["Here."], [], [.giveItem "gem" 9223372036854776000]⟩] := by decide
  have hspelled : (ofJson spelled).map bareRules =
      .ok [⟨["gem"], ["Here."], [], [.giveItem "gem" 9223372036854775808]⟩] := by decide
  refine ⟨hpair, hbare, hspelled, fun h => ?_⟩
  obtain ⟨hsame, -⟩ := h n (by decide) (by decide) bare spelled hpair
  cases hs : ofJson spelled with
  | error cause =>
    rw [hs] at hspelled
    cases hspelled
  | ok s =>
    rw [(hsame s).mpr hs] at hbare
    rw [hs] at hspelled
    have heq := Except.ok.inj (hspelled.symm.trans hbare)
    revert heq
    decide

end RuleSet

end Colloquy
