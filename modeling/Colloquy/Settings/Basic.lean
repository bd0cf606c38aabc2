import Colloquy.Calendar.Elapsed
import Colloquy.Flag.Store
import Colloquy.Keyword

/-!
# Colloquy.Settings.Basic

What a game decides for all its conversations.
-/

namespace Colloquy

structure Settings where
  matchMode : MatchMode := .substring
  /-- Opens the key of every stored text of flags. -/
  flagKeyPrefix : String := "dialog_"
  persistImmediately : Bool := true
  /-- The item that stands for coins of any kind. -/
  currencyItem : String := "money"
  calendar : Calendar := {}
  deriving DecidableEq, Repr

def Settings.store (s : Settings) : Flag.Store :=
  ⟨s.flagKeyPrefix, s.persistImmediately⟩

def MatchMode.text : MatchMode → String
  | .substring => "substring"
  | .exactToken => "exact_token"

def MatchMode.ofText? : String → Option MatchMode
  | "substring" => some .substring
  | "exact_token" => some .exactToken
  | _ => none

/-- Reads a field that is written; one that is left out has its default. -/
def readOr {α β : Type} (read : β → Option α) (default : α) : Option β → Option α
  | none => some default
  | some v => read v

end Colloquy
