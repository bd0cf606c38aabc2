import Colloquy.Dialogue.Apply
import Colloquy.Dialogue.Eligible
import Colloquy.Placeholder
import Colloquy.RuleSet

/-!
# Colloquy.Dialogue.Basic

Answering what is said, in two steps.

* `Dialogue.select` — finds the first rule that hears the utterance and may fire, and fills in its
  response. Nothing changes.
* `Dialogue.commit` — says the response, carries out the effects in order, and runs the
  continuation unless an effect of the rule asks for it. An effect that fails is noted and the
  effects after it still run.
* `Dialogue.speak`  — both.
-/

namespace Colloquy

structure Dialogue where
  rules : List HookedRule := []
  settings : Settings := {}
  registry : Registry := {}

structure Selection where
  index : Nat
  /-- The response with the names filled in. -/
  response : String
  effects : List Effect
  deriving DecidableEq, Repr

inductive Reply where
  | handled (index : Nat) (response : String)
  | unhandled
  deriving DecidableEq, Repr

namespace Dialogue

/-- Inserts a rule at an index, or at the end if the index is past it. -/
def insertRule (d : Dialogue) (index : Nat) (r : HookedRule) : Dialogue :=
  { d with rules := d.rules.insertIdx (min index d.rules.length) r }

def pushRule (d : Dialogue) (r : HookedRule) : Dialogue :=
  { d with rules := d.rules ++ [r] }

def flags (d : Dialogue) (w : World) (conv : Conversation) : Noted Flag.Entries :=
  d.settings.store.flags w conv.actor.id conv.place

/-- The first rule that hears the utterance and may fire, with its index; the list starts at index
`i`. -/
def firstRule (o : Outlook) (utterance : String) (i : Nat) :
    List HookedRule → Noted (Option (Nat × HookedRule))
  | [] => pure none
  | r :: rs =>
    if r.hears o.settings.matchMode utterance then do
      let ok ← r.isEligible o
      if ok then pure (some (i, r))
      else do
        Noted.line .debug
          ("rule " ++ Numeral.ofNat i ++ " ('" ++ r.pattern ++ "') matched but is not eligible")
        firstRule o utterance (i + 1) rs
    else firstRule o utterance (i + 1) rs

def selectionOf (conv : Conversation) (draw : UInt32) (i : Nat) (r : HookedRule) : Selection :=
  ⟨i, Placeholder.fill conv.speaker.name conv.actor.name (r.response draw), r.effects⟩

def select (d : Dialogue) (w : World) (conv : Conversation) (utterance : String)
    (draw : UInt32) : Noted (Option Selection) := do
  let flags ← d.flags w conv
  let found ← firstRule ⟨w, conv, flags, d.settings⟩ utterance 0 d.rules
  return found.map fun (i, r) => selectionOf conv draw i r

def reportFailure (conv : Conversation) (index : Nat) (e : Effect) (fault : Fault) : Noted Unit :=
  Noted.line (if fault.isCorrectable then .warn else .error)
    ("[" ++ conv.place ++ "] rule " ++ Numeral.ofNat index ++ ", effect '" ++ e.kind ++ "': "
      ++ fault.message)

def runEffects (sc : Scene) (index : Nat) : List Effect → World → Noted (Except Crash World)
  | [], w => pure (.ok w)
  | e :: es, w => do
    match ← e.apply sc w with
    | .done w => runEffects sc index es w
    | .failed w fault => do
      reportFailure sc.conversation index e fault
      runEffects sc index es w
    | .crashed c => return .error c

def commit (d : Dialogue) (w : World) (conv : Conversation) (s : Selection) :
    Noted (Except Crash World) := do
  let w := w.say conv.speaker.id conv.actor.id s.response
  match d.rules[s.index]? with
  | none => do
    Noted.line .error
      ("[" ++ conv.place ++ "] selected rule " ++ Numeral.ofNat s.index ++ " no longer exists")
    return .ok w
  | some rule =>
    let sc : Scene := ⟨conv, d.settings, d.registry, rule⟩
    match ← runEffects sc s.index s.effects w with
    | .error c => return .error c
    | .ok w =>
      if rule.hasCallback then return .ok w
      else do
        let w ← Effect.runContinuation sc w
        return .ok w

def speak (d : Dialogue) (w : World) (conv : Conversation) (utterance : String)
    (draw : UInt32) : Noted (Except Crash (Reply × World)) := do
  match ← d.select w conv utterance draw with
  | none => do
    Noted.line .debug ("[" ++ conv.place ++ "] no rule answers \"" ++ utterance ++ "\"")
    return .ok (.unhandled, w)
  | some s => do
    Noted.line .info
      ("[" ++ conv.place ++ "] rule " ++ Numeral.ofNat s.index ++ " answers \"" ++ utterance
        ++ "\"")
    match ← d.commit w conv s with
    | .error c => return .error c
    | .ok w => return .ok (.handled s.index s.response, w)

end Dialogue

end Colloquy
