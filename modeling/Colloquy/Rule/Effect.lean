import Colloquy.Numeral.Bounded
import Colloquy.Rule.Tag
import Colloquy.Text.Quoted

/-!
# Colloquy.Rule.Effect

What a rule does after its response, and its written form.
-/

namespace Colloquy

inductive Effect where
  /-- Stores a value in a flag; the wildcard leaves the flag as it is. -/
  | setFlag (name value : String)
  /-- Starts a quest at a stage, or moves it forward to it. -/
  | advanceQuest (quest : String) (stage : UInt32)
  /-- Hands items from the speaker to the actor, zero meaning one. Currency is minted instead. -/
  | giveItem (item : String) (quantity : UInt64)
  /-- Destroys items of the actor, zero meaning all. -/
  | takeItem (item : String) (quantity : UInt64)
  | connection (id : Int64)
  | markTime (flag : String)
  | callback
  | custom (kind : String) (args : List String)
  deriving DecidableEq, Repr

namespace Effect

/-- The word that names the effect in documents and in the log. -/
def kind : Effect → String
  | .setFlag _ _ => EffectTag.setFlag.text
  | .advanceQuest _ _ => EffectTag.setQuest.text
  | .giveItem _ _ => EffectTag.giveItem.text
  | .takeItem _ _ => EffectTag.takeItem.text
  | .connection _ => EffectTag.connection.text
  | .markTime _ => EffectTag.markTime.text
  | .callback => EffectTag.callback.text
  | .custom kind _ => kind

/-- The written form. Setting a flag named like a tag is written with the tag `setflag`. -/
def entry : Effect → List String
  | .setFlag name value =>
    if isEffectTag name then [EffectTag.setFlag.text, name, value] else [name, value]
  | .advanceQuest quest stage => [EffectTag.setQuest.text, quest, Numeral.ofUInt32 stage]
  | .giveItem item quantity => [EffectTag.giveItem.text, item, Numeral.ofUInt64 quantity]
  | .takeItem item quantity => [EffectTag.takeItem.text, item, Numeral.ofUInt64 quantity]
  | .connection id => [EffectTag.connection.text, Numeral.ofInt64 id]
  | .markTime flag => [EffectTag.markTime.text, flag]
  | .callback => [EffectTag.callback.text]
  | .custom kind args => kind :: args

def text (e : Effect) : String :=
  Text.bracketed e.entry

def isCallback (e : Effect) : Bool :=
  e = .callback

end Effect

end Colloquy
