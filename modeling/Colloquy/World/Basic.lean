import Colloquy.Calendar.Moment
import Colloquy.World.Table

/-!
# Colloquy.World.Basic

The game world that conversations read and change, and what it may refuse to do.
-/

namespace Colloquy

structure Coin where
  name : String
  value : Nat
  deriving DecidableEq, Repr

structure Line where
  speaker : Ident
  listener : Ident
  text : String
  deriving DecidableEq, Repr

structure Signal where
  id : Int64
  state : Bool
  source : Ident
  deriving DecidableEq, Repr

structure World where
  keys : Table String (Option String) := fun _ _ => none
  /-- Whether the last write of a stored text asked to be saved at once. -/
  persisted : Table String Bool := fun _ _ => false
  /-- The items that can be created; none listed means all. -/
  catalog : List String := []
  holdings : Table String Nat := fun _ _ => 0
  /-- The coins of the realm, the most valuable first. -/
  coins : List Coin := []
  /-- The quests that can be started; none listed means all. -/
  knownQuests : List String := []
  quests : Table String (Option UInt32) := fun _ _ => none
  /-- Levels, overall or per skill. -/
  levels : Table (Option String) (Option UInt32) := fun _ _ => none
  /-- The connections of the map; none listed means all. -/
  wired : List Int64 := []
  fired : List Signal := []
  clock : Moment := ⟨0, 0, 0, 0, 0⟩
  spoken : List Line := []

inductive Refusal where
  | unknownItem (item : String)
  | tooFew (holder item : String) (held quantity : Nat)
  | noCoins
  | noChange (amount : Nat)
  | tooPoor (holder : String) (total amount : Nat)
  | unknownQuest (quest : String)
  | questNotStarted (quest actor : String)
  | notWired (id : Int64)
  deriving DecidableEq, Repr

open Numeral (ofNat ofInt64) in
def Refusal.message : Refusal → String
  | .unknownItem item => "item '" ++ item ++ "' is not in the host catalog"
  | .tooFew holder item held quantity =>
    "'" ++ holder ++ "' holds " ++ ofNat held ++ " of '" ++ item ++ "', cannot destroy "
      ++ ofNat quantity
  | .noCoins => "no currency denominations registered"
  | .noChange amount =>
    "cannot represent " ++ ofNat amount ++ " with the registered denominations"
  | .tooPoor holder total amount =>
    "'" ++ holder ++ "' has " ++ ofNat total ++ " in currency, cannot pay " ++ ofNat amount
  | .unknownQuest quest => "quest '" ++ quest ++ "' is not registered"
  | .questNotStarted quest actor =>
    "quest '" ++ quest ++ "' was never started for '" ++ actor ++ "'"
  | .notWired id => "nothing on the map is wired to connection " ++ ofInt64 id

/-- What ends a whole conversation instead of one effect. -/
inductive Crash where
  | divisionByZero
  deriving DecidableEq, Repr

def Crash.message : Crash → String
  | .divisionByZero => "attempt to divide by zero"

inductive Stop where
  | refused (cause : Refusal)
  | crashed (cause : Crash)
  deriving DecidableEq, Repr

/-- A change asked of the world. What was changed before it is refused stays changed. -/
abbrev Request (ε α : Type) :=
  EStateM ε World α

/-- What a request came to: the world as it is left, and why the request was refused if it was. -/
abbrev Answer (ε : Type) :=
  EStateM.Result ε World Unit

def Answer.world {ε : Type} : Answer ε → World
  | .ok _ w => w
  | .error _ w => w

namespace World

/-- Does a list that is empty when everything is allowed allow `x`? -/
def allows {α : Type} [BEq α] (allowed : List α) (x : α) : Bool :=
  allowed.isEmpty || allowed.contains x

/-- Stores a text and notes whether it is to be saved at once. -/
def writeKey (w : World) (owner : Ident) (key value : String) (persist : Bool) : World :=
  { w with
    keys := w.keys.put owner key (some value)
    persisted := w.persisted.put owner key persist }

def level? (w : World) (actor : Ident) (skill : Option String) : Option UInt32 :=
  w.levels actor skill

def setLevel (w : World) (actor : Ident) (skill : Option String) (level : UInt32) : World :=
  { w with levels := w.levels.put actor skill (some level) }

def signal (id : Int64) (state : Bool) (source : Ident) : Request Refusal Unit := do
  if allows (← get).wired id then
    modify fun w => { w with fired := w.fired ++ [⟨id, state, source⟩] }
  else throw (.notWired id)

def say (w : World) (speaker listener : Ident) (text : String) : World :=
  { w with spoken := w.spoken ++ [⟨speaker, listener, text⟩] }

def transcript (w : World) : List String :=
  w.spoken.map (·.text)

end World

end Colloquy
