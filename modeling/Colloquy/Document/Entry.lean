import Colloquy.Calendar.Elapsed
import Colloquy.Flag.Name
import Colloquy.Rule.Condition
import Colloquy.Rule.Effect

/-!
# Colloquy.Document.Entry

Conditions and effects read from their written form, a list of texts. The first text may be a tag;
what follows it must fit the tag. Without a tag a condition is a flag check, and an effect of two
texts sets a flag; any other effect is left to the world.
-/

namespace Colloquy

open Text (quotedList trimChars)

inductive NumberRole where
  | itemCount
  | questStage
  | level
  | ageField
  | connectionId
  | itemQuantity
  deriving DecidableEq, Repr

def NumberRole.text : NumberRole → String
  | .itemCount => "item count"
  | .questStage => "quest stage"
  | .level => "level"
  | .ageField => "age field"
  | .connectionId => "connection id"
  | .itemQuantity => "item quantity"

inductive EntryFault where
  | emptyCondition
  | noFlagName
  | noFlagValues (name : String)
  | badFlagName (name : String)
  | itemArity (args : List String)
  | questArity (args : List String)
  | levelArity (args : List String)
  | noAgeFlag
  | ageArity (flag : String)
  | badNumber (role : NumberRole) (text : String) (cause : Numeral.Fault)
  | emptyEffect
  | setFlagArity (args : List String)
  | setQuestArity (args : List String)
  | stackArity (tag : EffectTag) (args : List String)
  | connectionArity (args : List String)
  | markTimeArity (args : List String)
  | callbackArity (args : List String)
  deriving DecidableEq, Repr

/-- Said of a text that the packed form of flags cannot hold. -/
def separatorMessage (text : String) : String :=
  "'" ++ text ++ "' contains a reserved ':' or ';' character"

def EntryFault.message : EntryFault → String
  | .emptyCondition => "empty precondition"
  | .noFlagName => "flag precondition without a flag name"
  | .noFlagValues name => "flag precondition '" ++ name ++ "' lists no accepted values"
  | .badFlagName name => separatorMessage name
  | .itemArity args =>
    "item precondition takes a name and an optional count, got " ++ quotedList args
  | .questArity args =>
    "quest precondition takes a quest name and a stage, got " ++ quotedList args
  | .levelArity args =>
    "level precondition takes an optional skill and a level, got " ++ quotedList args
  | .noAgeFlag => "age precondition without a flag name"
  | .ageArity flag =>
    "age precondition on '" ++ flag ++ "' needs years, months, days, hours and minutes"
  | .badNumber role text cause =>
    role.text ++ " '" ++ text ++ "' is not a valid number: " ++ cause.message
  | .emptyEffect => "empty postcondition"
  | .setFlagArity args => "setflag takes a flag name and a value, got " ++ quotedList args
  | .setQuestArity args => "setquest takes a quest name and a stage, got " ++ quotedList args
  | .stackArity tag args =>
    tag.text ++ " takes an item name and an optional quantity, got " ++ quotedList args
  | .connectionArity args => "connection takes one connection id, got " ++ quotedList args
  | .markTimeArity args => "marktime takes one flag name, got " ++ quotedList args
  | .callbackArity args => "callback takes no arguments, got " ++ quotedList args

/-- Reads a number with blanks around it. -/
def readNumber {α : Type} (read : List Char → Except Numeral.Fault α) (role : NumberRole)
    (text : String) : Except EntryFault α :=
  match read (trimChars text.toList) with
  | .ok n => .ok n
  | .error cause => .error (.badNumber role text cause)

def readFlagName (text : String) : Except EntryFault String :=
  if Flag.isName text then .ok text else .error (.badFlagName text)

namespace Condition

def ofFlagCheck : List String → Except EntryFault Condition
  | [] => .error .noFlagName
  | [name] => .error (.noFlagValues name)
  | name :: values => do
    let name ← readFlagName name
    .ok (.flag name values)

def ofItem : List String → Except EntryFault Condition
  | [name] => .ok (.item name 1)
  | [name, count] => do
    let count ← readNumber Numeral.readUInt64 .itemCount count
    .ok (.item name count)
  | args => .error (.itemArity args)

def ofQuest : List String → Except EntryFault Condition
  | [name, stage] => do
    let stage ← readNumber Numeral.readUInt32 .questStage stage
    .ok (.quest name stage)
  | args => .error (.questArity args)

def ofLevel : List String → Except EntryFault Condition
  | [least] => do
    let least ← readNumber Numeral.readUInt32 .level least
    .ok (.level none least)
  | [skill, least] => do
    let least ← readNumber Numeral.readUInt32 .level least
    .ok (.level (some skill) least)
  | args => .error (.levelArity args)

def ofAge : List String → Except EntryFault Condition
  | [] => .error .noAgeFlag
  | [name, years, months, days, hours, minutes] => do
    let name ← readFlagName name
    let years ← readNumber Numeral.readUInt32 .ageField years
    let months ← readNumber Numeral.readUInt32 .ageField months
    let days ← readNumber Numeral.readUInt32 .ageField days
    let hours ← readNumber Numeral.readUInt32 .ageField hours
    let minutes ← readNumber Numeral.readUInt32 .ageField minutes
    .ok (.age name ⟨years, months, days, hours, minutes⟩)
  | name :: _ => .error (.ageArity name)

def ofEntry : List String → Except EntryFault Condition
  | [] => .error .emptyCondition
  | head :: rest =>
    match ConditionTag.ofText? head with
    | some .token => ofFlagCheck rest
    | some .item => ofItem rest
    | some .quest => ofQuest rest
    | some .level => ofLevel rest
    | some .age => ofAge rest
    | none => ofFlagCheck (head :: rest)

end Condition

namespace Effect

def ofFlagWrite (name value : String) : Except EntryFault Effect := do
  let name ← readFlagName name
  .ok (.setFlag name value)

/-- An item with its quantity, which is one unless it is given. -/
def readStack (tag : EffectTag) : List String → Except EntryFault (String × UInt64)
  | [item] => .ok (item, 1)
  | [item, quantity] => do
    let quantity ← readNumber Numeral.readUInt64 .itemQuantity quantity
    .ok (item, quantity)
  | args => .error (.stackArity tag args)

def ofTagged : EffectTag → List String → Except EntryFault Effect
  | .setFlag, [name, value] => ofFlagWrite name value
  | .setFlag, args => .error (.setFlagArity args)
  | .setQuest, [quest, stage] => do
    let stage ← readNumber Numeral.readUInt32 .questStage stage
    .ok (.advanceQuest quest stage)
  | .setQuest, args => .error (.setQuestArity args)
  | .giveItem, args => do
    let (item, quantity) ← readStack .giveItem args
    .ok (.giveItem item quantity)
  | .takeItem, args => do
    let (item, quantity) ← readStack .takeItem args
    .ok (.takeItem item quantity)
  | .connection, [id] => do
    let id ← readNumber Numeral.readInt64 .connectionId id
    .ok (.connection id)
  | .connection, args => .error (.connectionArity args)
  | .markTime, [flag] => do
    let flag ← readFlagName flag
    .ok (.markTime flag)
  | .markTime, args => .error (.markTimeArity args)
  | .callback, [] => .ok .callback
  | .callback, args => .error (.callbackArity args)

def ofEntry : List String → Except EntryFault Effect
  | [] => .error .emptyEffect
  | head :: rest =>
    match EffectTag.ofText? head, rest with
    | some tag, args => ofTagged tag args
    | none, [value] => ofFlagWrite head value
    | none, args => .ok (.custom head args)

end Effect

end Colloquy
