import Colloquy.Keyword
import Colloquy.Rule.Condition
import Colloquy.Rule.Effect

/-!
# Colloquy.Rule.Basic

Rules: keywords that are listened for, responses to choose from, conditions that must hold, and
effects that follow.
-/

namespace Colloquy

structure Rule where
  keywords : List String
  responses : List String
  conditions : List Condition := []
  effects : List Effect := []
  deriving DecidableEq, Repr

inductive RuleFault where
  | noKeywords
  | noResponses (keywords : List String)
  deriving DecidableEq, Repr

def RuleFault.message : RuleFault → String
  | .noKeywords => "rule has no keywords"
  | .noResponses keywords => "rule '" ++ Keyword.pattern keywords ++ "' has no responses"

namespace Rule

/-- A rule without conditions and effects. -/
def make (pattern : String) (responses : List String) : Except RuleFault Rule :=
  match Keyword.ofPattern pattern with
  | [] => .error .noKeywords
  | k :: ks =>
    match responses with
    | [] => .error (.noResponses (k :: ks))
    | r :: rs => .ok ⟨k :: ks, r :: rs, [], []⟩

def pattern (r : Rule) : String :=
  Keyword.pattern r.keywords

def hears (r : Rule) (mode : MatchMode) (utterance : String) : Bool :=
  r.keywords.any fun k => Keyword.heardIn mode k utterance

def hasCallback (r : Rule) : Bool :=
  r.effects.any Effect.isCallback

/-- The response for a draw: the 32-bit draws are split evenly among the responses. -/
def response (r : Rule) (draw : UInt32) : String :=
  (r.responses[draw.toNat * r.responses.length / UInt32.size]?).getD ""

end Rule

end Colloquy
