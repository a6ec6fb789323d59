import Microclimate.Fault

/-!
# Log records

What is written to the log: each record is a happening with its data, at a level, on a channel, and
with one wording.

* `Microclimate.Record` – the happenings;
* `Microclimate.Record.level`, `Microclimate.Record.channel`, `Microclimate.Record.message`.
-/

namespace Microclimate

/-- How important a record is. -/
inductive Level where
  /-- Of interest only when something is looked for. -/
  | debug
  /-- The normal course of things. -/
  | info
  /-- Something is wrong and was put right. -/
  | error
  deriving DecidableEq, Repr

/-- The name of a level. -/
def Level.name : Level → String
  | debug => "DEBUG"
  | info => "INFO"
  | error => "ERROR"

/-- A happening that is logged. -/
inductive Record where
  /-- The weather of a zone is started, with a chance to change at every interval. -/
  | starting (zone : Value) (interval : Int)
  /-- A change of the weather of a zone is being rolled. -/
  | generating (season : Season) (zone : Value)
  /-- The weather of a zone was changed, and somebody was told. -/
  | changed (zone : Value) (state : WeatherState)
  /-- The weather of a zone is dropped because nobody is left in it. -/
  | removing (zone : Value)
  /-- A chance above 100 percent was reset. -/
  | reset (zone : Value) (column : Column)

namespace Record

/-- The value to which a chance above 100 percent is reset. -/
def fallbackChance : Int := 25

/-- The level of a record. -/
def level : Record → Level
  | starting .. | generating .. | changed .. => .info
  | removing _ => .debug
  | reset .. => .error

/-- The channel on which a record appears. -/
def channel : Record → String
  | starting .. | generating .. | changed .. => "tick_weather.weather"
  | removing _ => "tick_weather.manager"
  | reset .. => "tick_weather.data"

/-- What a record says. -/
def message : Record → Text
  | starting zone interval =>
    "Starting weather system for zone " ++ zone.display ++ " (change every " ++
      Text.ofInt (interval / 60000) ++ " minutes)."
  | generating season zone =>
    "Generating a change in " ++ season.label ++ " weather for zone " ++ zone.display ++ "."
  | changed zone state =>
    "Change the weather of zone " ++ zone.display ++ " to " ++ state.label ++ "."
  | removing zone =>
    "Removing weather for zone " ++ zone.display ++ ", no observers left."
  | reset zone column =>
    "Weather for zone " ++ zone.display ++ " season " ++ column.season.label ++ " has wrong " ++
      column.family.label ++ " chance > 100%, reset to " ++ Text.ofInt fallbackChance ++ "."

end Record

end Microclimate
