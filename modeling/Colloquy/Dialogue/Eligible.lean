import Colloquy.Rule.Hooked
import Colloquy.Settings.Basic
import Colloquy.World.Holdings
import Colloquy.World.Quest

/-!
# Colloquy.Dialogue.Eligible

Whether a rule may fire: every condition holds, checked in order up to the first that does not, and
then the guard agrees. Nothing here changes the world.
-/

namespace Colloquy

/-- What conditions look at. -/
structure Outlook where
  world : World
  conversation : Conversation
  flags : Flag.Entries
  settings : Settings

namespace Outlook

def actor (o : Outlook) : Ident :=
  o.conversation.actor.id

/-- How many of an item the actor has; of the currency item, what the purse is worth. -/
def held (o : Outlook) (item : String) : Nat :=
  if item = o.settings.currencyItem then o.world.purse o.actor else o.world.count o.actor item

end Outlook

namespace Condition

/-- Has enough time passed since the moment stored in a flag? -/
def holdsAge (o : Outlook) (name : String) (span : Span) : Noted Bool :=
  let stamp := Flag.get name o.flags
  match Moment.read stamp with
  | .ok since => pure (o.settings.calendar.hasElapsed since o.world.clock span)
  | .error fault => do
    Noted.line .debug
      ("age check on '" ++ name ++ "' fails: no usable timestamp (" ++ fault.message stamp ++ ")")
    return false

def holds (o : Outlook) : Condition → Noted Bool
  | .flag name values =>
    pure (values.any fun v => v == Flag.wildcard || v == Flag.get name o.flags)
  | .item name count => pure (decide (count.toNat ≤ o.held name))
  | .quest name stage => pure ((o.world.stage? o.actor name).any fun s => decide (stage ≤ s))
  | .level skill least => pure ((o.world.level? o.actor skill).any fun l => decide (least ≤ l))
  | .age name span => holdsAge o name span

def allHold (o : Outlook) : List Condition → Noted Bool
  | [] => pure true
  | c :: cs => do
    let ok ← c.holds o
    if ok then allHold o cs else pure false

end Condition

def HookedRule.guardAgrees (r : HookedRule) (o : Outlook) : Noted Bool :=
  match r.guard with
  | none => pure true
  | some guard => guard o.conversation r.toRule o.world

def HookedRule.isEligible (r : HookedRule) (o : Outlook) : Noted Bool := do
  let ok ← Condition.allHold o r.conditions
  if ok then r.guardAgrees o else pure false

end Colloquy
