import Colloquy.Settings.Basic
import Colloquy.Toml.Reader

/-!
# Colloquy.Settings.Toml

Settings read from TOML text. A key that is left out keeps its default, and unknown keys are passed
over. When a file cannot be used, the defaults are.
-/

namespace Colloquy

def Toml.isEmptyCollection : Toml → Bool
  | .array items => items.isEmpty
  | .table fields => fields.isEmpty
  | _ => false

/-- The name of a mode, or a table with something empty under that name. -/
def MatchMode.ofToml? : Toml → Option MatchMode
  | .text s => ofText? s
  | .table [(name, v)] => if v.isEmptyCollection then ofText? name else none
  | _ => none

def Calendar.ofUnits? (months days hours minutes : Option Toml) : Option Calendar := do
  let base : Calendar := {}
  let months ← readOr Toml.asUInt32? base.monthsPerYear months
  let days ← readOr Toml.asUInt32? base.daysPerMonth days
  let hours ← readOr Toml.asUInt32? base.hoursPerDay hours
  let minutes ← readOr Toml.asUInt32? base.minutesPerHour minutes
  some ⟨months, days, hours, minutes⟩

/-- A table of units, or the units in order. A date is a table without known keys. -/
def Calendar.ofToml? : Toml → Option Calendar
  | .table fields =>
    ofUnits? (Toml.field? "months_per_year" fields) (Toml.field? "days_per_month" fields)
      (Toml.field? "hours_per_day" fields) (Toml.field? "minutes_per_hour" fields)
  | .array items => ofUnits? items[0]? items[1]? items[2]? items[3]?
  | .time => some {}
  | _ => none

namespace Settings

def ofTomlFields? (fields : List (String × Toml)) : Option Settings := do
  let base : Settings := {}
  let mode ← readOr MatchMode.ofToml? base.matchMode (Toml.field? "match_mode" fields)
  let keyPrefix ←
    readOr Toml.asText? base.flagKeyPrefix (Toml.field? "flag_key_prefix" fields)
  let persist ←
    readOr Toml.asBool? base.persistImmediately (Toml.field? "persist_immediately" fields)
  let currency ←
    readOr Toml.asText? base.currencyItem (Toml.field? "currency_item" fields)
  let calendar ← readOr Calendar.ofToml? base.calendar (Toml.field? "calendar" fields)
  some ⟨mode, keyPrefix, persist, currency, calendar⟩

def ofToml? (s : String) : Option Settings :=
  (Toml.read? s).bind ofTomlFields?

/-- Said of a text that holds no settings. -/
def unparsedMessage : String := "parsing engine configuration"

/-- From the bytes of a file, if there are any. -/
def ofFile? (content : Option ByteArray) : Option Settings :=
  (content.bind String.fromUTF8?).bind ofToml?

def ofFileOrDefault (content : Option ByteArray) : Settings :=
  (ofFile? content).getD {}

end Settings

end Colloquy
