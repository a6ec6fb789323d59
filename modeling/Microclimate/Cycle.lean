import Microclimate.Chances
import Microclimate.Timer
import Microclimate.Value

/-!
# Weather cycles

A cycle is the weather of one zone: its kind and intensity, the timer that paces its changes, and
the chances from which new weather is rolled, if the zone has any.

* `Microclimate.Cycle` – the type, with `Cycle.state`, `Cycle.packet` and `Cycle.describe`;
* `Microclimate.Cycle.clamp` – the cycle with its intensity brought into the range that is
  broadcast;
* `Microclimate.CycleId` – a cycle among all cycles that ever were.
-/

namespace Microclimate

/-- A cycle among all cycles that ever were, by its number. A cycle that was replaced by another one
of the same zone keeps its own number. -/
structure CycleId where
  /-- The number of cycles created before. -/
  number : Nat
  deriving DecidableEq, Inhabited, Repr

/-- The weather of one zone. -/
structure Cycle where
  /-- The zone. -/
  zone : Value
  /-- The chances of the zone; a zone without is always fine. -/
  table : Option SeasonTable
  /-- The timer that paces the changes. -/
  timer : Timer
  /-- The kind of weather. -/
  kind : WeatherKind := .fine
  /-- Its intensity. -/
  intensity : Float := 0.0
  deriving Inhabited

namespace Cycle

/-- The greatest intensity that is broadcast. -/
def maxIntensity : Float := 0.9999

/-- The least intensity that is broadcast. -/
def minIntensity : Float := 0.0001

/-- The state that observers see. -/
def state (c : Cycle) : WeatherState := classify c.kind c.intensity

/-- What an observer is told about the weather. -/
def packet (c : Cycle) : Packet := ⟨c.state, c.intensity⟩

/-- The cycle with another kind of weather at another intensity. -/
def withWeather (c : Cycle) (kind : WeatherKind) (intensity : Float) : Cycle :=
  { c with kind := kind, intensity := intensity }

/-- An intensity brought into the range that is broadcast; what is not a number stays as it is. -/
def clampIntensity (x : Float) : Float :=
  if maxIntensity < x then maxIntensity else if x < minIntensity then minIntensity else x

/-- The cycle with its intensity brought into the range that is broadcast. -/
def clamp (c : Cycle) : Cycle := { c with intensity := clampIntensity c.intensity }

/-- The kind of weather as it is shown in a description. -/
def kindText (k : WeatherKind) : Text :=
  match k.name? with
  | some name => "<WeatherType." ++ name ++ ": " ++ Text.ofInt k.code ++ ">"
  | none => Text.ofInt k.code

/-- A description of the cycle, the intensity with four decimals. -/
def describe (c : Cycle) : Text :=
  "WeatherCycle(zone=" ++ c.zone.describe ++ ", type=" ++ kindText c.kind ++ ", intensity=" ++
    Display.places 4 c.intensity ++ ")"

@[simp] theorem zone_withWeather (c : Cycle) (kind : WeatherKind) (intensity : Float) :
    (c.withWeather kind intensity).zone = c.zone := rfl

@[simp] theorem timer_withWeather (c : Cycle) (kind : WeatherKind) (intensity : Float) :
    (c.withWeather kind intensity).timer = c.timer := rfl

@[simp] theorem zone_clamp (c : Cycle) : c.clamp.zone = c.zone := rfl

@[simp] theorem kind_clamp (c : Cycle) : c.clamp.kind = c.kind := rfl

end Cycle

end Microclimate
