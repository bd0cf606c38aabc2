import Colloquy.Note
import Colloquy.Rule.Basic
import Colloquy.World.Basic

/-!
# Colloquy.Rule.Hooked

Rules with code of the world attached: a guard that may keep the rule from firing, and a
continuation that runs after its effects. Also the effects that the world defines.
-/

namespace Colloquy

/-- Who talks to whom, and where. Flags, items and quests are the actor's; the speaker answers. -/
structure Conversation where
  actor : Entity
  speaker : Entity
  place : String
  deriving DecidableEq, Repr

abbrev Guard :=
  Conversation → Rule → World → Noted Bool

abbrev Action :=
  Conversation → Rule → World → Noted World

/-- An effect defined by the world, applied to the arguments of the effect. It leaves a world
behind in any case, and a complaint if it failed. -/
abbrev Handler :=
  Conversation → List String → World → Noted (World × Option String)

structure HookedRule extends Rule where
  guard : Option Guard := none
  continuation : Option Action := none

def Rule.plain (r : Rule) : HookedRule :=
  { r with }

structure Registry where
  handlers : List (String × Handler) := []

namespace Registry

def find? (r : Registry) (kind : String) : Option Handler :=
  (r.handlers.find? fun h => h.1 == kind).map (·.2)

def contains (r : Registry) (kind : String) : Bool :=
  (r.find? kind).isSome

/-- Adds a handler, in place of an earlier one of its kind. A kind must have a name that is not
a tag. -/
def register (r : Registry) (kind : String) (handler : Handler) : Noted (Except String Registry) :=
  if kind.toList.isEmpty || isEffectTag kind then
    ⟨.error ("cannot register custom effect kind '" ++ kind ++ "': empty or built in"), []⟩
  else
    let others := r.handlers.filter fun h => h.1 != kind
    ⟨.ok ⟨(kind, handler) :: others⟩,
      [⟨.info, "custom effect kind '" ++ kind ++ "' registered"⟩]⟩

/-- The registered kinds in order of code points. -/
def kinds (r : Registry) : List String :=
  (r.handlers.map (·.1)).mergeSort fun a b => !(b < a)

end Registry

end Colloquy
