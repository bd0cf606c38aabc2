import Colloquy.Fault
import Colloquy.Rule.Hooked
import Colloquy.Settings.Basic
import Colloquy.World.Holdings
import Colloquy.World.Quest

/-!
# Colloquy.Dialogue.Apply

Carrying out one effect. An effect that is carried out leaves one note that opens with `marker`,
save for two that change nothing: a quest that is at its stage already, and a callback of a rule
without a continuation, leave a debug note instead. One that fails comes back with the fault, and
with the world as the failing request left it.
-/

namespace Colloquy

/-- What an effect needs besides the world. -/
structure Scene where
  conversation : Conversation
  settings : Settings
  registry : Registry
  rule : HookedRule

inductive Outcome where
  | done (world : World)
  | failed (world : World) (fault : Fault)
  | crashed (cause : Crash)

namespace Scene

variable (sc : Scene)

def actor : Entity :=
  sc.conversation.actor

def speaker : Entity :=
  sc.conversation.speaker

def place : String :=
  sc.conversation.place

end Scene

namespace Effect

/-- Opens the note that records an effect as carried out. -/
def marker : String := "└─ effect: "

def record (sc : Scene) (what : String) : Noted Unit :=
  Noted.line .info (marker ++ what ++ " [" ++ sc.place ++ "]")

def done (sc : Scene) (what : String) (w : World) : Noted Outcome := do
  record sc what
  return .done w

def lacking (w : World) (what : Missing) (name : String) (cause : Refusal) : Noted Outcome :=
  pure (.failed w (.missing what name cause.message))

/-- Writes a flag of the conversation, and notes it as `what`. -/
def writeFlag (sc : Scene) (w : World) (name value what : String) : Noted Outcome :=
  match Flag.Name.ofText? name with
  | none => pure (.failed w (.separator name))
  | some flag => do
    match ← sc.settings.store.write w sc.actor.id sc.place flag value with
    | .error text w => pure (.failed w (.separator text))
    | .ok _ w => done sc what w

def applySetFlag (sc : Scene) (w : World) (name value : String) : Noted Outcome :=
  writeFlag sc w name value ("SetFlag(\"" ++ name ++ "\", \"" ++ value ++ "\")")

def applyMarkTime (sc : Scene) (w : World) (name : String) : Noted Outcome :=
  writeFlag sc w name w.clock.text ("MarkTimestamp(\"" ++ name ++ "\" = " ++ w.clock.text ++ ")")

def advanced (sc : Scene) (quest : String) (stage : UInt32) (w : World) : Noted Outcome :=
  done sc ("AdvanceQuest(\"" ++ quest ++ "\", " ++ Numeral.ofUInt32 stage ++ ")") w

def applyAdvanceQuest (sc : Scene) (w : World) (quest : String) (stage : UInt32) :
    Noted Outcome :=
  match w.stage? sc.actor.id quest with
  | none => do
    match ← w.startQuest sc.actor quest stage with
    | .error e w => lacking w .quest quest e
    | .ok _ w => advanced sc quest stage w
  | some current =>
    if stage < current then pure (.failed w (.questRegression quest current stage))
    else if current = stage then do
      Noted.line .debug
        ("quest '" ++ quest ++ "' already at stage " ++ Numeral.ofUInt32 stage)
      return .done w
    else
      match World.setStage sc.actor quest stage w with
      | .error e w => lacking w .quest quest e
      | .ok _ w => advanced sc quest stage w

def settled (sc : Scene) (lack : Missing) (name what : String) : Answer Stop → Noted Outcome
  | .error (.crashed c) _ => pure (.crashed c)
  | .error (.refused e) w => lacking w lack name e
  | .ok _ w => done sc what w

def refusable (r : Request Refusal Unit) : Request Stop Unit :=
  EStateM.adaptExcept .refused r

def applyGiveItem (sc : Scene) (w : World) (item : String) (quantity : UInt64) : Noted Outcome :=
  let n := max quantity.toNat 1
  let what := "GiveItem(\"" ++ item ++ "\" x" ++ Numeral.ofNat n ++ ", " ++ sc.speaker.name
    ++ " -> " ++ sc.actor.name ++ ")"
  if item = sc.settings.currencyItem then
    settled sc .currency item what (World.deposit sc.actor.id n w)
  else
    settled sc .item item what (refusable (World.transfer sc.speaker sc.actor item n) w)

/-- How many are to be taken: zero stands for all. -/
def quantityTaken (sc : Scene) (w : World) (item : String) (quantity : UInt64) : Nat :=
  if quantity ≠ 0 then quantity.toNat
  else if item = sc.settings.currencyItem then w.purse sc.actor.id
  else w.count sc.actor.id item

def applyTakeItem (sc : Scene) (w : World) (item : String) (quantity : UInt64) : Noted Outcome :=
  let n := quantityTaken sc w item quantity
  let what := "TakeItem(\"" ++ item ++ "\" x" ++ Numeral.ofNat n ++ ", from " ++ sc.actor.name ++ ")"
  if n = 0 then pure (.failed w (.missing .item item ("'" ++ sc.actor.name ++ "' holds none")))
  else if item = sc.settings.currencyItem then
    settled sc .item item what (World.withdraw sc.actor n w)
  else
    settled sc .item item what (refusable (World.destroy sc.actor item n) w)

def applyConnection (sc : Scene) (w : World) (id : Int64) : Noted Outcome :=
  match World.signal id true sc.speaker.id w with
  | .error e w => lacking w .connection (Numeral.ofInt64 id) e
  | .ok _ w => done sc ("TriggerConnection(" ++ Numeral.ofInt64 id ++ ")") w

def runContinuation (sc : Scene) (w : World) : Noted World :=
  match sc.rule.continuation with
  | none => do
    Noted.line .debug "callback effect on a rule without a continuation"
    return w
  | some action => do
    record sc "Callback"
    action sc.conversation sc.rule.toRule w

def applyCustom (sc : Scene) (w : World) (kind : String) (args : List String) : Noted Outcome :=
  match sc.registry.find? kind with
  | none => pure (.failed w (.unknownEffect kind))
  | some handler => do
    match ← handler sc.conversation args w with
    | (w, some complaint) => return .failed w (.missing .effectTarget kind complaint)
    | (w, none) => done sc (kind ++ "(" ++ Text.join ", " args ++ ")") w

def apply (sc : Scene) (w : World) : Effect → Noted Outcome
  | .setFlag name value => applySetFlag sc w name value
  | .advanceQuest quest stage => applyAdvanceQuest sc w quest stage
  | .giveItem item quantity => applyGiveItem sc w item quantity
  | .takeItem item quantity => applyTakeItem sc w item quantity
  | .connection id => applyConnection sc w id
  | .markTime name => applyMarkTime sc w name
  | .callback => do
    let w ← runContinuation sc w
    return .done w
  | .custom kind args => applyCustom sc w kind args

end Effect

end Colloquy
