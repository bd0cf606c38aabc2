import Colloquy.Note
import Colloquy.World.Basic

/-!
# Colloquy.World.Quest

Quests of the world's actors. A quest is started at a stage and then set to others.
-/

namespace Colloquy.World

def stage? (w : World) (actor : Ident) (quest : String) : Option UInt32 :=
  w.quests actor quest

def putStage (w : World) (actor : Ident) (quest : String) (stage : UInt32) : World :=
  { w with quests := w.quests.put actor quest (some stage) }

def startQuest (w : World) (actor : Entity) (quest : String) (stage : UInt32) :
    Noted (Answer Refusal) :=
  if allows w.knownQuests quest then
    ⟨.ok () (w.putStage actor.id quest stage),
      [⟨.info, "quest '" ++ quest ++ "' started for '" ++ actor.name ++ "' at stage "
        ++ Numeral.ofUInt32 stage⟩]⟩
  else ⟨.error (.unknownQuest quest) w, []⟩

def setStage (actor : Entity) (quest : String) (stage : UInt32) : Request Refusal Unit := do
  match (← get).stage? actor.id quest with
  | none => throw (.questNotStarted quest actor.name)
  | some _ => modify (·.putStage actor.id quest stage)

end Colloquy.World
