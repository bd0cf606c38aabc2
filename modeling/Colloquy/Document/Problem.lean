import Colloquy.Document.Basic
import Colloquy.Flag.Name
import Colloquy.Rule.Tag
import Colloquy.Text.Blank

/-!
# Colloquy.Document.Problem

Structural problems of a document, all of them at once, so that an author can mend them in one go.
Only entries about flags are looked into; the other tagged entries are judged when they are read.
-/

namespace Colloquy

open Colloquy.Flag (hasSeparator)

inductive Place where
  | location
  | pattern (rule : Nat)
  | responses (rule : Nat)
  | condition (rule entry : Nat)
  | effect (rule entry : Nat)
  deriving DecidableEq, Repr

def Place.text : Place → String
  | .location => "rule set location"
  | .pattern rule => "rule " ++ Numeral.ofNat rule ++ " match"
  | .responses rule => "rule " ++ Numeral.ofNat rule ++ " msg"
  | .condition rule entry =>
    "rule " ++ Numeral.ofNat rule ++ " pre[" ++ Numeral.ofNat entry ++ "]"
  | .effect rule entry =>
    "rule " ++ Numeral.ofNat rule ++ " post[" ++ Numeral.ofNat entry ++ "]"

inductive Problem where
  | emptyField (place : Place)
  | emptyEntry (place : Place)
  | separator (place : Place) (field : String)
  | shortFlagCheck (place : Place)
  | flagWriteArity (place : Place)
  deriving DecidableEq, Repr

namespace Problem

def context : Problem → String
  | .emptyField place | .emptyEntry place | .separator place _ => place.text
  | .shortFlagCheck place => place.text ++ ": a flag check needs a name and at least one value"
  | .flagWriteArity place => place.text ++ ": setting a flag needs exactly a name and a value"

/-- The text found fault with, if one is named. -/
def field? : Problem → Option String
  | .separator _ field => some field
  | _ => none

def message (p : Problem) : String :=
  match p with
  | .emptyField _ => "empty field (" ++ p.context ++ ")"
  | .emptyEntry _ => "empty condition array (" ++ p.context ++ ")"
  | .separator _ field => "'" ++ field ++ "' contains a reserved ':' or ';' (" ++ p.context ++ ")"
  | .shortFlagCheck _ | .flagWriteArity _ => "invalid value (" ++ p.context ++ ")"

end Problem

/-- The problems with the fields of an entry about a flag, the wrong number of them first. -/
def fieldProblems (place : Place) (wrongCount : Bool) (arity : Problem) (fields : List String) :
    List Problem :=
  (if wrongCount then [arity] else []) ++ (fields.filter hasSeparator).map (.separator place)

/-- The name and values of a written flag check; nothing for another condition. -/
def flagCheck? : List String → Option (List String)
  | [] => none
  | head :: rest =>
    match ConditionTag.ofText? head with
    | some .token => some rest
    | some _ => none
    | none => some (head :: rest)

/-- The name and value of a written flag change; nothing for another effect. -/
def flagWrite? : List String → Option (List String)
  | [] => none
  | head :: rest =>
    match EffectTag.ofText? head with
    | some .setFlag => some rest
    | some _ => none
    | none => if rest.length = 1 then some (head :: rest) else none

def conditionProblems (place : Place) (entry : List String) : List Problem :=
  if entry.isEmpty then [.emptyEntry place]
  else
    match flagCheck? entry with
    | some fields => fieldProblems place (fields.length < 2) (.shortFlagCheck place) fields
    | none => []

def effectProblems (place : Place) (entry : List String) : List Problem :=
  if entry.isEmpty then [.emptyEntry place]
  else
    match flagWrite? entry with
    | some fields => fieldProblems place (fields.length ≠ 2) (.flagWriteArity place) fields
    | none => []

/-- The problems of each element with its index, in order. -/
def indexedProblems {α : Type} (f : Nat → α → List Problem) (i : Nat) : List α → List Problem
  | [] => []
  | a :: as => f i a ++ indexedProblems f (i + 1) as

def RuleText.problems (index : Nat) (r : RuleText) : List Problem :=
  (if Text.isBlankText r.pattern then [.emptyField (.pattern index)] else [])
    ++ (if r.responses.isEmpty then [.emptyField (.responses index)] else [])
    ++ indexedProblems (fun n => conditionProblems (.condition index n)) 0 r.conditions
    ++ indexedProblems (fun n => effectProblems (.effect index n)) 0 r.effects

def Document.problems (d : Document) : List Problem :=
  (if Text.isBlankText d.location then [.emptyField .location] else [])
    ++ indexedProblems RuleText.problems 0 d.rules

end Colloquy
