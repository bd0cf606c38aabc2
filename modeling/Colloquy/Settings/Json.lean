import Colloquy.Json.Value
import Colloquy.Settings.Basic

/-!
# Colloquy.Settings.Json

Settings as JSON values. A field that is left out keeps its default. The fields may also be listed
in an array, in order, where those at the end may be left out.
-/

namespace Colloquy

def Calendar.toJson (c : Calendar) : Json :=
  .object
    [("months_per_year", .integer c.monthsPerYear.toNat),
     ("days_per_month", .integer c.daysPerMonth.toNat),
     ("hours_per_day", .integer c.hoursPerDay.toNat),
     ("minutes_per_hour", .integer c.minutesPerHour.toNat)]

def Calendar.ofFields? (months days hours minutes : Option Json) : Option Calendar := do
  let base : Calendar := {}
  let months ← readOr Json.asUInt32? base.monthsPerYear months
  let days ← readOr Json.asUInt32? base.daysPerMonth days
  let hours ← readOr Json.asUInt32? base.hoursPerDay hours
  let minutes ← readOr Json.asUInt32? base.minutesPerHour minutes
  some ⟨months, days, hours, minutes⟩

def Calendar.ofJson? : Json → Option Calendar
  | .object fields => do
    let months ← Json.once? "months_per_year" fields
    let days ← Json.once? "days_per_month" fields
    let hours ← Json.once? "hours_per_day" fields
    let minutes ← Json.once? "minutes_per_hour" fields
    ofFields? months days hours minutes
  | .array items =>
    if items.length ≤ 4 then ofFields? items[0]? items[1]? items[2]? items[3]? else none
  | _ => none

/-- The name of a mode, or an object with null under that name. -/
def MatchMode.ofJson? : Json → Option MatchMode
  | .text s => ofText? s
  | .object [(name, .null)] => ofText? name
  | _ => none

namespace Settings

def toJson (s : Settings) : Json :=
  .object
    [("match_mode", .text s.matchMode.text),
     ("flag_key_prefix", .text s.flagKeyPrefix),
     ("persist_immediately", .bool s.persistImmediately),
     ("currency_item", .text s.currencyItem),
     ("calendar", s.calendar.toJson)]

def ofFields? (mode keyPrefix persist currency calendar : Option Json) : Option Settings := do
  let base : Settings := {}
  let mode ← readOr MatchMode.ofJson? base.matchMode mode
  let keyPrefix ← readOr Json.asText? base.flagKeyPrefix keyPrefix
  let persist ← readOr Json.asBool? base.persistImmediately persist
  let currency ← readOr Json.asText? base.currencyItem currency
  let calendar ← readOr Calendar.ofJson? base.calendar calendar
  some ⟨mode, keyPrefix, persist, currency, calendar⟩

def ofJson? : Json → Option Settings
  | .object fields => do
    let mode ← Json.once? "match_mode" fields
    let keyPrefix ← Json.once? "flag_key_prefix" fields
    let persist ← Json.once? "persist_immediately" fields
    let currency ← Json.once? "currency_item" fields
    let calendar ← Json.once? "calendar" fields
    ofFields? mode keyPrefix persist currency calendar
  | .array items =>
    if items.length ≤ 5 then
      ofFields? items[0]? items[1]? items[2]? items[3]? items[4]?
    else none
  | _ => none

end Settings

end Colloquy
