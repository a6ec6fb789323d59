import Microclimate.Fault
import Microclimate.Json

/-!
# Configuration

The weather of a map is configured by two settings: how often it may change, and how many ticks a
second has. Both are positive, and a `Config` proves it.

* `Microclimate.Config` – the type;
* `Microclimate.Config.check` – the configuration of two integers, or the setting that is at fault;
* `Microclimate.Config.ofEntries` – the configuration that a dictionary describes;
* `Microclimate.Config.ofFile` – the configuration in a file.
-/

namespace Microclimate

/-- The settings of the weather. -/
structure Config where
  /-- The time between two attempts to change the weather, in milliseconds. -/
  changeInterval : Int
  /-- The number of ticks in a second. -/
  tps : Int
  /-- The interval is positive. -/
  changeInterval_pos : 0 < changeInterval
  /-- The rate is positive. -/
  tps_pos : 0 < tps

namespace Config

/-- Settings that are yet to be checked, with their values where none is given. -/
structure Draft where
  /-- The time between two attempts to change the weather, in milliseconds. -/
  changeInterval : Int := 600000
  /-- The number of ticks in a second. -/
  tps : Int := 20
  deriving DecidableEq, Inhabited

/-- A draft with one setting replaced. -/
def Draft.set (d : Draft) (setting : Setting) (n : Int) : Draft :=
  match setting with
  | .changeInterval => { d with changeInterval := n }
  | .tps => { d with tps := n }

/-- The configuration of a draft. The interval is checked first. -/
def check (d : Draft) : Except Fault Config :=
  if interval_pos : 0 < d.changeInterval then
    if rate_pos : 0 < d.tps then .ok ⟨d.changeInterval, d.tps, interval_pos, rate_pos⟩
    else .error (.notPositive .tps)
  else
    .error (.notPositive .changeInterval)

/-- The configuration without any setting given. -/
def standard : Config := ⟨600000, 20, by decide, by decide⟩

instance : Inhabited Config := ⟨standard⟩

/-- The setting that a key names. -/
def setting? (key : Value) : Option Setting := Setting.all.find? fun s => key.isText s.name

/-- The draft that a dictionary describes, from its first entry on. Keys that name no setting are
passed over; a setting must be an integer, and a truth value is none. -/
def draft (d : Draft) : List (Value × Value) → Except Fault Draft
  | [] => .ok d
  | (key, value) :: rest =>
    match setting? key with
    | none => draft d rest
    | some setting =>
      match value with
      | .int n => draft (d.set setting n) rest
      | value => .error (.notInteger setting value)

/-- The configuration that a dictionary describes. -/
def ofEntries (entries : List (Value × Value)) : Except Fault Config := do
  check (← draft {} entries)

/-- The configuration in a file of some name, if there is such a file. -/
def ofFile (name : Text) : Option ByteArray → Except Fault Config
  | none => .error .fileMissing
  | some bytes => do
    match ← Json.readBytes bytes with
    | .dict entries => ofEntries entries
    | _ => throw (.notAnObject name)

end Config

end Microclimate
