import Colloquy.Json.Value

/-!
# Colloquy.Document.Basic

Rule documents as authors write them, and their JSON form.

* `Document.ofJson?` — an object, or an array of its fields in order. Known fields must not be
  written twice; unknown ones are passed over. A bare number inside an entry stands for its text.
* `Document.toJson`  — the object form.
-/

namespace Colloquy

structure RuleText where
  pattern : String
  conditions : List (List String) := []
  effects : List (List String) := []
  responses : List String
  /-- A connection to signal after the other effects. -/
  connected : Option Int64 := none
  deriving DecidableEq, Repr

structure Document where
  /-- Where the conversation takes place; its flags are kept under this name. -/
  location : String
  rules : List RuleText
  deriving DecidableEq, Repr

/-- The text of a value inside an entry. An integer beyond the signed 64-bit range is read as a
floating-point number first. -/
def Json.entryText? : Json → Option String
  | .text s => some s
  | .integer n =>
    if Numeral.fitsInt64 n then some (Numeral.ofInt n)
    else (Numeral.Binary64.ofNat? n.natAbs).map (·.text (n < 0))
  | .real negative x => some (x.text negative)
  | _ => none

def Json.entry? (v : Json) : Option (List String) :=
  v.asArray?.bind fun items => items.mapM Json.entryText?

def Json.entries? (v : Json) : Option (List (List String)) :=
  v.asArray?.bind fun items => items.mapM Json.entry?

/-- A value that is left out means no entries. -/
def Json.optionalEntries? : Option Json → Option (List (List String))
  | none => some []
  | some v => v.entries?

/-- A value that is left out, or null, means no connection. -/
def Json.optionalId? : Option Json → Option (Option Int64)
  | none | some .null => some none
  | some v => v.asInt64?.map some

namespace RuleText

def ofFields? (pattern responses : Json) (conditions effects connected : Option Json) :
    Option RuleText := do
  let pattern ← pattern.asText?
  let conditions ← Json.optionalEntries? conditions
  let effects ← Json.optionalEntries? effects
  let responses ← responses.asTexts?
  let connected ← Json.optionalId? connected
  some ⟨pattern, conditions, effects, responses, connected⟩

def ofJson? : Json → Option RuleText
  | .object fields => do
    let pattern ← Json.required? "match" fields
    let conditions ← Json.once? "pre" fields
    let effects ← Json.once? "post" fields
    let responses ← Json.required? "msg" fields
    let connected ← Json.once? "connected" fields
    ofFields? pattern responses conditions effects connected
  | .array [pattern, conditions, effects, responses] =>
    ofFields? pattern responses (some conditions) (some effects) none
  | .array [pattern, conditions, effects, responses, connected] =>
    ofFields? pattern responses (some conditions) (some effects) (some connected)
  | _ => none

def jsonTexts (texts : List String) : Json :=
  .array (texts.map .text)

def toJson (r : RuleText) : Json :=
  .object
    ([("match", .text r.pattern),
      ("pre", .array (r.conditions.map jsonTexts)),
      ("post", .array (r.effects.map jsonTexts)),
      ("msg", jsonTexts r.responses)]
      ++ (r.connected.map fun id => ("connected", Json.integer id.toInt)).toList)

end RuleText

namespace Document

def ofFields? (location rules : Json) : Option Document := do
  let location ← location.asText?
  let rules ← rules.asArray?
  let rules ← rules.mapM RuleText.ofJson?
  some ⟨location, rules⟩

def ofJson? : Json → Option Document
  | .object fields => do
    let location ← Json.required? "location" fields
    let rules ← Json.required? "rules" fields
    ofFields? location rules
  | .array [location, rules] => ofFields? location rules
  | _ => none

def toJson (d : Document) : Json :=
  .object [("location", .text d.location), ("rules", .array (d.rules.map RuleText.toJson))]

end Document

end Colloquy
