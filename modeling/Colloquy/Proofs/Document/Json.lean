import Colloquy.Document.Basic
import Colloquy.Proofs.Numeral

/-!
# Colloquy.Proofs.Document.Json

Documents and their JSON form: what `toJson` writes is read back by `ofJson?` as it was.
-/

namespace Colloquy

theorem mapM_map_eq_some {α β : Type} {write : α → β} {read : β → Option α}
    (h : ∀ a, read (write a) = some a) (as : List α) : (as.map write).mapM read = some as := by
  induction as with
  | nil => rfl
  | cons a as ih =>
    rw [List.map_cons, List.mapM_cons, h, ih]
    rfl

@[simp] theorem Json.asInt64?_toInt (id : Int64) :
    Json.asInt64? (.integer id.toInt) = some id := by
  rw [Json.asInt64?, if_pos (Numeral.fitsInt64_toInt id), Int64.ofInt_toInt]

namespace RuleText

@[simp] theorem asTexts?_jsonTexts (texts : List String) :
    (jsonTexts texts).asTexts? = some texts := by
  have htext : ∀ s : String, Json.asText? (.text s) = some s := fun _ => rfl
  exact mapM_map_eq_some htext texts

theorem entry?_jsonTexts (texts : List String) : Json.entry? (jsonTexts texts) = some texts := by
  have htext : ∀ s : String, Json.entryText? (.text s) = some s := fun _ => rfl
  exact mapM_map_eq_some htext texts

@[simp] theorem optionalEntries?_jsonTexts (entries : List (List String)) :
    Json.optionalEntries? (some (.array (entries.map jsonTexts))) = some entries :=
  mapM_map_eq_some entry?_jsonTexts entries

theorem ofJson?_toJson (r : RuleText) : ofJson? r.toJson = some r := by
  obtain ⟨pattern, conditions, effects, responses, connected⟩ := r
  cases connected with
  | none =>
    simp [toJson, ofJson?, ofFields?, Json.required?, Json.once?, Json.valuesOf, Json.asText?,
      Json.optionalId?]
  | some id =>
    simp [toJson, ofJson?, ofFields?, Json.required?, Json.once?, Json.valuesOf, Json.asText?,
      Json.optionalId?]

end RuleText

theorem Document.ofJson?_toJson (d : Document) : Document.ofJson? d.toJson = some d := by
  simp [toJson, ofJson?, ofFields?, Json.required?, Json.once?, Json.valuesOf, Json.asText?,
    Json.asArray?, mapM_map_eq_some RuleText.ofJson?_toJson]

end Colloquy
