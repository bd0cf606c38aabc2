/-!
# Colloquy.Rule.Tag

The words that open a condition or an effect in its written form. An entry that opens with another
word is about a flag of that name, or is an effect the world defines.
-/

namespace Colloquy

inductive ConditionTag where
  | token
  | item
  | quest
  | level
  | age
  deriving DecidableEq, Repr

namespace ConditionTag

def text : ConditionTag → String
  | .token => "token"
  | .item => "item"
  | .quest => "quest"
  | .level => "level"
  | .age => "age"

def ofText? : String → Option ConditionTag
  | "token" => some .token
  | "item" => some .item
  | "quest" => some .quest
  | "level" => some .level
  | "age" => some .age
  | _ => none

@[simp] theorem ofText?_text (t : ConditionTag) : ofText? t.text = some t := by
  cases t <;> rfl

end ConditionTag

inductive EffectTag where
  | setFlag
  | setQuest
  | giveItem
  | takeItem
  | connection
  | markTime
  | callback
  deriving DecidableEq, Repr

namespace EffectTag

def text : EffectTag → String
  | .setFlag => "setflag"
  | .setQuest => "setquest"
  | .giveItem => "giveitem"
  | .takeItem => "takeitem"
  | .connection => "connection"
  | .markTime => "marktime"
  | .callback => "callback"

def ofText? : String → Option EffectTag
  | "setflag" => some .setFlag
  | "setquest" => some .setQuest
  | "giveitem" => some .giveItem
  | "takeitem" => some .takeItem
  | "connection" => some .connection
  | "marktime" => some .markTime
  | "callback" => some .callback
  | _ => none

@[simp] theorem ofText?_text (t : EffectTag) : ofText? t.text = some t := by
  cases t <;> rfl

end EffectTag

def isConditionTag (s : String) : Bool :=
  (ConditionTag.ofText? s).isSome

def isEffectTag (s : String) : Bool :=
  (EffectTag.ofText? s).isSome

end Colloquy
