import Colloquy.Calendar.Elapsed
import Colloquy.Rule.Tag
import Colloquy.Text.Quoted

/-!
# Colloquy.Rule.Condition

What must hold for a rule to fire, and its written form.
-/

namespace Colloquy

inductive Condition where
  /-- The flag has one of the values; the wildcard among them accepts every value. -/
  | flag (name : String) (values : List String)
  /-- The actor holds at least so many. -/
  | item (name : String) (count : UInt64)
  /-- The actor has reached the stage of the quest. -/
  | quest (name : String) (stage : UInt32)
  /-- The actor's level, overall or in one skill, is at least so high. -/
  | level (skill : Option String) (least : UInt32)
  /-- So much time has passed since the moment stored in the flag. -/
  | age (name : String) (span : Span)
  deriving DecidableEq, Repr

namespace Condition

/-- The written form. A flag named like a tag is written with the tag `token`. -/
def entry : Condition → List String
  | .flag name values =>
    if isConditionTag name then ConditionTag.token.text :: name :: values else name :: values
  | .item name count => [ConditionTag.item.text, name, Numeral.ofUInt64 count]
  | .quest name stage => [ConditionTag.quest.text, name, Numeral.ofUInt32 stage]
  | .level skill least => ConditionTag.level.text :: skill.toList ++ [Numeral.ofUInt32 least]
  | .age name span => ConditionTag.age.text :: name :: span.fields.map Numeral.ofUInt32

def text (c : Condition) : String :=
  Text.bracketed c.entry

end Condition

end Colloquy
