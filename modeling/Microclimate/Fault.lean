import Microclimate.Chances
import Microclimate.Value

/-!
# What can go wrong

Every failure is a cause with the data that its wording needs; the wording itself is in one place.
The data may be too long to be written down. Then the cause is not put into words, and the failure
does not count as one of its kind: **all that is said is that something is too long.**

* `Microclimate.Fault` – the causes;
* `Microclimate.Fault.isWritable` – whether a cause can be put into words;
* `Microclimate.Fault.message` – what is said about a cause;
* `Microclimate.Fault.isData` – whether the data of the weather are said to be the cause;
* `Microclimate.Fault.isConfig` – whether its configuration is;
* `Microclimate.Column` – the cells of a data row, one for each season and family;
* `Microclimate.Setting` – the settings of a configuration.
-/

namespace Microclimate

/-- A column of a data row: the chance of a family in a season. -/
structure Column where
  /-- The season. -/
  season : Season
  /-- The family. -/
  family : Family
  deriving DecidableEq, Repr

namespace Column

/-- The columns in the order in which they are read. -/
def all : List Column := Season.all.flatMap fun s => Family.all.map fun f => ⟨s, f⟩

/-- The name under which a row holds the column. -/
def name (c : Column) : Text := c.season.label ++ "_" ++ c.family.label ++ "_chance"

end Column

/-- A setting of the configuration. -/
inductive Setting where
  /-- How often the weather may change, in milliseconds. -/
  | changeInterval
  /-- How many ticks there are in a second. -/
  | tps
  deriving DecidableEq, Repr

namespace Setting

/-- The settings in the order in which they are checked. -/
def all : List Setting := [changeInterval, tps]

/-- The name under which a configuration holds the setting. -/
def name : Setting → String
  | changeInterval => "change_interval_ms"
  | tps => "tps"

end Setting

/-- A list of named numbers. -/
inductive Catalogue where
  /-- The kinds of weather. -/
  | kinds
  /-- The states of the weather. -/
  | states
  /-- The seasons. -/
  | seasons
  deriving DecidableEq, Repr

/-- The title of a catalogue. -/
def Catalogue.title : Catalogue → String
  | kinds => "WeatherType"
  | states => "WeatherState"
  | seasons => "Season"

/-- Parts that a world may lack. -/
inductive Part where
  /-- The engine. -/
  | engine
  /-- A clock that shows a time. -/
  | runningClock
  /-- The hooks. -/
  | hooks
  /-- The directory of zones. -/
  | directory
  /-- The manager. -/
  | manager
  /-- The script of a random source. -/
  | script
  /-- The context of a tick. -/
  | context
  deriving DecidableEq, Repr

/-- A cause of failure. -/
inductive Fault where
  /-- A table of chances has a number of rows other than four. -/
  | seasonRows (count : Nat)
  /-- A number is in none of the entries of a catalogue. -/
  | notListed (catalogue : Catalogue) (number : Int)
  /-- A setting is zero or negative. -/
  | notPositive (setting : Setting)
  /-- A setting is no integer. -/
  | notInteger (setting : Setting) (value : Value)
  /-- A configuration file holds something other than an object. -/
  | notAnObject (file : Text)
  /-- A data file holds something other than an array. -/
  | notAnArray (file : Text)
  /-- An engine is to make no ticks in a second, or fewer than none. -/
  | rateNotPositive
  /-- A row lacks a column. -/
  | missingColumn (zone : Value) (column : Column)
  /-- A cell cannot be read as an integer. -/
  | unreadableCell (zone : Value) (column : Column) (cell : Value)
  /-- A cell is negative. -/
  | negativeCell (zone : Value) (column : Column) (value : Int)
  /-- A cell is infinite. -/
  | infiniteCell
  /-- A row does not say which zone it is for. -/
  | zoneMissing (row : Value)
  /-- A row is something that has no columns. -/
  | noColumns (row : Value)
  /-- A row is something in which nothing can be looked for. -/
  | notSearchable (row : Value)
  /-- An item that should be a key with its value is no sequence. -/
  | notAPair (index : Nat)
  /-- An item that should be a key with its value has a length other than two. -/
  | pairLength (index length : Nat)
  /-- A text that should be a double in writing is not. -/
  | notADouble (text : Text)
  /-- A list or a dictionary is used as a key. -/
  | notAKey (value : Value)
  /-- A zone whose cycle is to be dropped has none. -/
  | notRegistered (zone : Value)
  /-- Somebody is to be struck off the list of a zone that has none. -/
  | noList (zone : Value)
  /-- Somebody is to be struck off a list on which they are not. -/
  | notOnList
  /-- The game time is not a number. -/
  | timeUndefined
  /-- The game time does not fit into 64 bits. -/
  | timeOutOfRange
  /-- The year of the game time does not fit into 32 bits. -/
  | yearOutOfRange
  /-- An integer is too large for a double. -/
  | tooLarge
  /-- A scripted generator has no answer left. -/
  | drawsExhausted
  /-- An integer is to be drawn from an empty range. -/
  | emptyRange (low high : Int)
  /-- A generator went on giving draws that had to be rejected. -/
  | drawsUnending
  /-- An actor refused to go on. -/
  | refused
  /-- A part is asked for something, and there is no such part. -/
  | absent (part : Part)
  /-- There is no such file. -/
  | fileMissing
  /-- A file is not in UTF-8. -/
  | undecodable
  /-- A file is not in JSON. -/
  | malformed
  /-- An integer in a file has too many digits. -/
  | tooManyDigits (count : Nat)
  /-- The values in a file are nested too deeply. -/
  | nestedTooDeeply
  /-- Calls go on without an end in sight. -/
  | unending

namespace Fault

/-- What is said about a part that is not there. -/
def partText : Part → String
  | .engine => "there is no engine"
  | .runningClock => "the clock shows no time"
  | .hooks => "there are no hooks"
  | .directory => "there is no directory"
  | .manager => "there is no manager"
  | .script => "the random source follows no script"
  | .context => "there is no tick"

/-- How a fault in a cell begins. -/
def cellText (zone : Value) (column : Column) : Text :=
  "zone " ++ zone.display ++ ": column " ++ column.name.quoted

/-- What is shown of an empty range: its start, the end before which it stops and its length. -/
def emptyRangeNumbers (low high : Int) : List Int := [low, high + 1, high - low + 1]

/-- Can a cause be put into words? Whatever its wording shows must be short enough to be written
down. -/
def isWritable : Fault → Bool
  | notListed _ number => Numeral.isWritable number
  | notInteger _ value => value.isWritable
  | missingColumn zone _ => zone.isWritable
  | unreadableCell zone _ cell => zone.isWritable && cell.isWritable
  | negativeCell zone _ value => zone.isWritable && Numeral.isWritable value
  | zoneMissing row => row.isWritable
  | emptyRange low high => (emptyRangeNumbers low high).all Numeral.isWritable
  | _ => true

/-- A cause in words. -/
def wording : Fault → Text
  | seasonRows count => "expected 4 season rows, got " ++ Text.ofInt count
  | notListed catalogue number => Text.ofInt number ++ " is not a valid " ++ catalogue.title
  | notPositive setting => setting.name ++ " must be positive"
  | notInteger setting value => setting.name ++ " must be an integer, got " ++ value.describe
  | notAnObject file => file ++ ": expected a JSON object"
  | notAnArray file => file ++ ": expected a JSON array of rows"
  | rateNotPositive => "tps must be positive"
  | missingColumn zone column =>
    "zone " ++ zone.display ++ ": missing column " ++ column.name.quoted
  | unreadableCell zone column cell =>
    cellText zone column ++ " is not an integer: " ++ cell.describe
  | negativeCell zone column value =>
    cellText zone column ++ " is negative (" ++ Text.ofInt value ++ ")"
  | infiniteCell => "cannot convert float infinity to integer"
  | zoneMissing row => "row without a zone: " ++ row.describe
  | noColumns row => "no columns in " ++ row.describe
  | notSearchable row => "nothing can be looked for in " ++ row.describe
  | notAPair index => "item " ++ Text.ofInt index ++ " is no sequence"
  | pairLength index length =>
    "dictionary update sequence element #" ++ Text.ofInt index ++ " has length " ++
      Text.ofInt length ++ "; 2 is required"
  | notADouble text => "could not convert string to float: " ++ text.quoted
  | notAKey value => "no key: " ++ value.describe
  | notRegistered zone => zone.describe
  | noList zone => zone.describe
  | notOnList => "list.remove(x): x not in list"
  | timeUndefined => "Invalid value NaN (not a number)"
  | timeOutOfRange => "the time is out of range"
  | yearOutOfRange => "the year is out of range"
  | tooLarge => "the integer is too large"
  | drawsExhausted => "no draws left"
  | emptyRange low high =>
    "empty range for randrange() (" ++
      Text.join ", " ((emptyRangeNumbers low high).map Text.ofInt) ++ ")"
  | drawsUnending => "no acceptable draw"
  | refused => "refused"
  | absent part => partText part
  | fileMissing => "no such file"
  | undecodable => "not in UTF-8"
  | malformed => "not in JSON"
  | tooManyDigits count =>
    "Exceeds the limit (4300 digits) for integer string conversion: value has " ++
      Text.ofInt count ++
      " digits; use sys.set_int_max_str_digits() to increase the limit"
  | nestedTooDeeply => "nested too deeply"
  | unending => "no end in sight"

/-- What is said about a cause: its wording, or that an integer in it has too many digits. -/
def message (f : Fault) : Text :=
  if f.isWritable then f.wording
  else
    "Exceeds the limit (4300 digits) for integer string conversion; " ++
      "use sys.set_int_max_str_digits() to increase the limit"

/-- Is the cause in the data of the weather? -/
def liesInData : Fault → Bool
  | seasonRows _ | missingColumn .. | unreadableCell .. | negativeCell .. | zoneMissing _
  | notAnArray _ => true
  | _ => false

/-- Is the cause in the configuration of the weather? -/
def liesInConfig : Fault → Bool
  | notPositive _ | notInteger .. | notAnObject _ => true
  | _ => false

/-- Is it said that something is wrong with the data of the weather? -/
def isData (f : Fault) : Bool := f.liesInData && f.isWritable

/-- Is it said that something is wrong with the configuration of the weather? -/
def isConfig (f : Fault) : Bool := f.liesInConfig && f.isWritable

end Fault

end Microclimate
