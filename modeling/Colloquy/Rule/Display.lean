import Colloquy.Rule.Hooked

/-!
# Colloquy.Rule.Display

Rules and registries shown with the names of all their parts, for people who look for mistakes in
them.
-/

namespace Colloquy

open Text (quoted quotedList bracketed join)

/-- A name with labelled parts. -/
def shownParts (name : String) (parts : List (String × String)) : String :=
  name ++ " \x7b " ++ join ", " (parts.map fun (label, part) => label ++ ": " ++ part) ++ " \x7d"

def shownOption : Option String → String
  | none => "None"
  | some s => "Some(" ++ quoted s ++ ")"

def shownBool (b : Bool) : String :=
  if b then "true" else "false"

def Span.display (s : Span) : String :=
  shownParts "GameSpan"
    [("years", Numeral.ofUInt32 s.years), ("months", Numeral.ofUInt32 s.months),
     ("days", Numeral.ofUInt32 s.days), ("hours", Numeral.ofUInt32 s.hours),
     ("minutes", Numeral.ofUInt32 s.minutes)]

def Condition.display : Condition → String
  | .flag name values => shownParts "Flag" [("name", quoted name), ("values", quotedList values)]
  | .item name count => shownParts "Item" [("item", quoted name), ("count", Numeral.ofUInt64 count)]
  | .quest name stage =>
    shownParts "Quest" [("quest", quoted name), ("stage", Numeral.ofUInt32 stage)]
  | .level skill least =>
    shownParts "Level" [("skill", shownOption skill), ("level", Numeral.ofUInt32 least)]
  | .age name span => shownParts "Age" [("flag", quoted name), ("span", span.display)]

def Effect.display : Effect → String
  | .setFlag name value => shownParts "SetFlag" [("name", quoted name), ("value", quoted value)]
  | .advanceQuest quest stage =>
    shownParts "AdvanceQuest" [("quest", quoted quest), ("stage", Numeral.ofUInt32 stage)]
  | .giveItem item quantity =>
    shownParts "GiveItem" [("item", quoted item), ("quantity", Numeral.ofUInt64 quantity)]
  | .takeItem item quantity =>
    shownParts "TakeItem" [("item", quoted item), ("quantity", Numeral.ofUInt64 quantity)]
  | .connection id => shownParts "TriggerConnection" [("id", Numeral.ofInt64 id)]
  | .markTime flag => shownParts "MarkTimestamp" [("flag", quoted flag)]
  | .callback => "Callback"
  | .custom kind args => shownParts "Custom" [("kind", quoted kind), ("args", quotedList args)]

/-- The rule, and whether code is attached before and after it. -/
def Rule.display (r : Rule) (guarded continued : Bool) : String :=
  shownParts "Rule"
    [("keywords", quotedList r.keywords), ("responses", quotedList r.responses),
     ("preconditions", bracketed (r.conditions.map Condition.display)),
     ("effects", bracketed (r.effects.map Effect.display)),
     ("guard", shownBool guarded), ("continuation", shownBool continued)]

def HookedRule.display (r : HookedRule) : String :=
  r.toRule.display r.guard.isSome r.continuation.isSome

def Registry.display (r : Registry) : String :=
  shownParts "EffectRegistry" [("kinds", quotedList r.kinds)]

end Colloquy
