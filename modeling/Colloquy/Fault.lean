import Colloquy.Document.Entry
import Colloquy.Document.Problem
import Colloquy.Rule.Basic

/-!
# Colloquy.Fault

What goes wrong, as callers see it: rule sets that cannot be had, and effects that cannot be
carried out.
-/

namespace Colloquy

inductive RuleTextFault where
  | condition (entry : List String) (cause : EntryFault)
  | effect (entry : List String) (cause : EntryFault)
  | rule (cause : RuleFault)
  deriving DecidableEq, Repr

inductive Malformation where
  | unreadableFile
  /-- The text is not the JSON text of a document. -/
  | unparsedText
  /-- The value is not the JSON value of a document. -/
  | misshapenValue
  | noSuchRule (index count : Nat)
  | rule (cause : RuleFault)
  | problems (location : String) (found : List Problem)
  | inRule (index : Nat) (pattern location : String) (cause : RuleTextFault)
  deriving DecidableEq, Repr

/-- The services of the world that an effect may miss. -/
inductive Missing where
  | quest
  | currency
  | item
  | connection
  | effectTarget
  deriving DecidableEq, Repr

def Missing.text : Missing → String
  | .quest => "quest"
  | .currency => "currency"
  | .item => "item"
  | .connection => "connection"
  | .effectTarget => "effect target"

inductive Fault where
  | malformed (cause : Malformation)
  | unknownEffect (kind : String)
  | questRegression (quest : String) (current requested : UInt32)
  | missing (what : Missing) (name detail : String)
  | separator (text : String)
  deriving DecidableEq, Repr

/-- Opens every message about a rule set. -/
def malformedMessage (detail : String) : String :=
  "malformed rule set: " ++ detail

def RuleTextFault.message : RuleTextFault → String
  | .condition entry cause => "precondition " ++ Text.quotedList entry ++ ": " ++ cause.message
  | .effect entry cause => "postcondition " ++ Text.quotedList entry ++ ": " ++ cause.message
  | .rule cause => malformedMessage cause.message

def Malformation.message : Malformation → String
  | .unreadableFile => "reading rule set from"
  | .unparsedText => "parsing rule-set document"
  | .misshapenValue => "reading rule-set document"
  | .noSuchRule index count =>
    "rule index " ++ Numeral.ofNat index ++ " out of range (" ++ Numeral.ofNat count ++ " rules)"
  | .rule cause => cause.message
  | .problems location found =>
    "rule set '" ++ location ++ "' failed validation:\n"
      ++ Text.join "\n" (found.map fun p => "- " ++ p.message)
  | .inRule index pattern location cause =>
    "rule " ++ Numeral.ofNat index ++ " ('" ++ pattern ++ "') of '" ++ location ++ "': "
      ++ cause.message

namespace Fault

def message : Fault → String
  | .malformed cause => malformedMessage cause.message
  | .unknownEffect kind => "unknown effect kind '" ++ kind ++ "'"
  | .questRegression quest current requested =>
    "quest '" ++ quest ++ "' is already at stage " ++ Numeral.ofUInt32 current
      ++ "; refusing to move it back to " ++ Numeral.ofUInt32 requested
  | .missing what name detail => "missing " ++ what.text ++ " '" ++ name ++ "': " ++ detail
  | .separator text => separatorMessage text

/-- Is the fault worth a warning only? -/
def isCorrectable : Fault → Bool
  | .questRegression _ _ _ => true
  | _ => false

end Fault

end Colloquy
