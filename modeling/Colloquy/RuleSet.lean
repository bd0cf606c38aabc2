import Colloquy.Document.Basic
import Colloquy.Fault
import Colloquy.Json.Reader
import Colloquy.Rule.Hooked

/-!
# Colloquy.RuleSet

Rule sets: the rules of one place, made inline or read from a document.

* `Document.toRuleSet` — all or nothing: the problems of the document first, all of them; then
  its rules in order, where the first that cannot be read is the fault.
* `RuleSet.toDocument` — the document of a rule set. A connection at the end of the effects is
  written apart from them.
* `RuleSet.ofJson`, `ofText`, `ofFile` — rule sets from JSON values, texts and files.
-/

namespace Colloquy

structure RuleSet where
  location : String
  rules : List HookedRule

/-! ### Reading -/

/-- Reads every entry of a list; the first one that cannot be read is the fault. -/
def readEntries {α : Type} (read : List String → Except EntryFault α)
    (fault : List String → EntryFault → RuleTextFault) :
    List (List String) → Except RuleTextFault (List α)
  | [] => .ok []
  | entry :: rest =>
    match read entry with
    | .error e => .error (fault entry e)
    | .ok a =>
      match readEntries read fault rest with
      | .error e => .error e
      | .ok as => .ok (a :: as)

def RuleText.toRule (r : RuleText) : Except RuleTextFault Rule :=
  match readEntries Condition.ofEntry .condition r.conditions with
  | .error e => .error e
  | .ok conditions =>
    match readEntries Effect.ofEntry .effect r.effects with
    | .error e => .error e
    | .ok effects =>
      match Rule.make r.pattern r.responses with
      | .error e => .error (.rule e)
      | .ok rule =>
        .ok { rule with
          conditions := conditions
          effects := effects ++ (r.connected.map Effect.connection).toList }

/-- Reads the rules of a document from index `i` on. -/
def readRules (location : String) (i : Nat) : List RuleText → Except Malformation (List Rule)
  | [] => .ok []
  | r :: rest =>
    match r.toRule with
    | .error e => .error (.inRule i r.pattern location e)
    | .ok rule =>
      match readRules location (i + 1) rest with
      | .error e => .error e
      | .ok rules => .ok (rule :: rules)

def Document.toRuleSet (d : Document) : Except Malformation RuleSet :=
  match d.problems with
  | [] =>
    match readRules d.location 0 d.rules with
    | .error e => .error e
    | .ok rules => .ok ⟨d.location, rules.map Rule.plain⟩
  | found => .error (.problems d.location found)

namespace RuleSet

def ofJson (v : Json) : Except Malformation RuleSet :=
  match Document.ofJson? v with
  | none => .error .misshapenValue
  | some d => d.toRuleSet

def documentOfText? (s : String) : Option Document :=
  (Json.read? s).bind Document.ofJson?

def ofText (s : String) : Except Malformation RuleSet :=
  match documentOfText? s with
  | none => .error .unparsedText
  | some d => d.toRuleSet

/-- From the bytes of a file, if there are any. -/
def ofFile (content : Option ByteArray) : Except Malformation RuleSet :=
  match content.bind String.fromUTF8? with
  | none => .error .unreadableFile
  | some s => ofText s

/-! ### Writing -/

/-- Splits a connection off the end of a list of effects. -/
def splitConnection : List Effect → List Effect × Option Int64
  | [] => ([], none)
  | [.connection id] => ([], some id)
  | e :: rest =>
    let (effects, connected) := splitConnection rest
    (e :: effects, connected)

end RuleSet

def Rule.toText (r : Rule) : RuleText :=
  let (effects, connected) := RuleSet.splitConnection r.effects
  ⟨r.pattern, r.conditions.map Condition.entry, effects.map Effect.entry, r.responses, connected⟩

namespace RuleSet

def toDocument (s : RuleSet) : Document :=
  ⟨s.location, s.rules.map fun r => r.toRule.toText⟩

def bareRules (s : RuleSet) : List Rule :=
  s.rules.map (·.toRule)

/-- Do two rule sets have the same location and rules? Attached code is not compared. -/
def agrees (a b : RuleSet) : Bool :=
  a.location = b.location ∧ a.bareRules = b.bareRules

/-! ### Attaching code -/

def modifyRule (s : RuleSet) (index : Nat) (f : HookedRule → HookedRule) :
    Except Malformation RuleSet :=
  if index < s.rules.length then .ok { s with rules := s.rules.modify index f }
  else .error (.noSuchRule index s.rules.length)

def attachGuard (s : RuleSet) (index : Nat) (guard : Guard) : Except Malformation RuleSet :=
  s.modifyRule index fun r => { r with guard := some guard }

def attachContinuation (s : RuleSet) (index : Nat) (action : Action) :
    Except Malformation RuleSet :=
  s.modifyRule index fun r => { r with continuation := some action }

def conversation (s : RuleSet) (actor speaker : Entity) : Conversation :=
  ⟨actor, speaker, s.location⟩

end RuleSet

end Colloquy
