/-!
# Weather

A zone has a **kind** of weather and an **intensity** between 0 and 1. From the two follows the
**state** that observers are told: kinds with bands are light, medium or heavy, other kinds have a
single state, and any weather of little intensity is fine.

Kinds and states travel as numbers, and a number without a name is allowed.

* `Microclimate.WeatherKind`, `Microclimate.WeatherState` – numbered kinds and states with their
  names;
* `Microclimate.Family` – rain, snow and storm, the kinds that come by chance and have bands;
* `Microclimate.classify` – the state of a kind at an intensity;
* `Microclimate.Packet` – what observers receive.
-/

namespace Microclimate

/-- A kind of weather, by its number. -/
structure WeatherKind where
  /-- The number of the kind. -/
  code : Int
  deriving DecidableEq, Inhabited, Repr

namespace WeatherKind

/-- Fine weather. -/
def fine : WeatherKind := ⟨0⟩

/-- Rain. -/
def rain : WeatherKind := ⟨1⟩

/-- Snow. -/
def snow : WeatherKind := ⟨2⟩

/-- Sandstorm. -/
def storm : WeatherKind := ⟨3⟩

/-- Thunderstorm. -/
def thunders : WeatherKind := ⟨86⟩

/-- Black rain. -/
def blackrain : WeatherKind := ⟨90⟩

/-- The kinds that have a name. -/
def named : List (WeatherKind × String) :=
  [(fine, "FINE"), (rain, "RAIN"), (snow, "SNOW"), (storm, "STORM"), (thunders, "THUNDERS"),
   (blackrain, "BLACKRAIN")]

/-- The name of a kind. -/
def name? (k : WeatherKind) : Option String := (named.find? (·.1 = k)).map (·.2)

end WeatherKind

/-- A state of the weather as observers see it, by its number. -/
structure WeatherState where
  /-- The number of the state. -/
  code : Int
  deriving DecidableEq, Inhabited, Repr

namespace WeatherState

/-- Fine weather. -/
def fine : WeatherState := ⟨0⟩

/-- Thunderstorm. -/
def thunders : WeatherState := ⟨86⟩

/-- Black rain. -/
def blackrain : WeatherState := ⟨90⟩

/-- The states that have a name. -/
def named : List (WeatherState × String) :=
  [(⟨0⟩, "FINE"), (⟨1⟩, "FOG"), (⟨3⟩, "LIGHT_RAIN"), (⟨4⟩, "MEDIUM_RAIN"), (⟨5⟩, "HEAVY_RAIN"),
   (⟨6⟩, "LIGHT_SNOW"), (⟨7⟩, "MEDIUM_SNOW"), (⟨8⟩, "HEAVY_SNOW"), (⟨22⟩, "LIGHT_SANDSTORM"),
   (⟨41⟩, "MEDIUM_SANDSTORM"), (⟨42⟩, "HEAVY_SANDSTORM"), (⟨86⟩, "THUNDERS"),
   (⟨90⟩, "BLACKRAIN")]

/-- The name of a state. -/
def name? (s : WeatherState) : Option String := (named.find? (·.1 = s)).map (·.2)

/-- A state in words: its name in lower case, the words apart. A state without a name reads as
fine. -/
def label (s : WeatherState) : String :=
  match s.name? with
  | some name => name.toLower.map fun c => if c = '_' then ' ' else c
  | none => "fine"

end WeatherState

/-- The weather that comes by chance. -/
inductive Family where
  /-- Rain. -/
  | rain
  /-- Snow. -/
  | snow
  /-- Sandstorm. -/
  | storm
  deriving DecidableEq, Repr

/-- How heavy the weather of a family is. -/
inductive Severity where
  /-- Little of it. -/
  | light
  /-- A fair amount. -/
  | medium
  /-- A lot. -/
  | heavy
  deriving DecidableEq, Repr

namespace Family

/-- The families in the order in which their chances are written and rolled. -/
def all : List Family := [rain, snow, storm]

/-- The name in lower case. -/
def label : Family → String
  | rain => "rain"
  | snow => "snow"
  | storm => "storm"

/-- The kind of weather of a family. -/
def kind : Family → WeatherKind
  | rain => .rain
  | snow => .snow
  | storm => .storm

/-- The family of a kind of weather, if it has one. -/
def ofKind? (k : WeatherKind) : Option Family := all.find? (·.kind = k)

/-- The state of a family at a severity. -/
def state : Family → Severity → WeatherState
  | rain, .light => ⟨3⟩
  | rain, .medium => ⟨4⟩
  | rain, .heavy => ⟨5⟩
  | snow, .light => ⟨6⟩
  | snow, .medium => ⟨7⟩
  | snow, .heavy => ⟨8⟩
  | storm, .light => ⟨22⟩
  | storm, .medium => ⟨41⟩
  | storm, .heavy => ⟨42⟩

end Family

/-! ### From intensity to state -/

/-- Below this intensity any weather is fine. -/
def fineBelow : Float := 0.27

/-- From `fineBelow` up to this intensity the weather of a family is light. -/
def lightBelow : Float := 0.40

/-- From `lightBelow` up to this intensity the weather of a family is medium, and heavy from there
on. -/
def mediumBelow : Float := 0.70

/-- The severity of an intensity that is not fine. -/
def Severity.ofIntensity (intensity : Float) : Severity :=
  if intensity < lightBelow then .light
  else if intensity < mediumBelow then .medium
  else .heavy

/-- **The state that observers see** for a kind of weather at an intensity. -/
def classify (kind : WeatherKind) (intensity : Float) : WeatherState :=
  if intensity < fineBelow then .fine
  else if kind = .blackrain then .blackrain
  else if kind = .thunders then .thunders
  else
    match Family.ofKind? kind with
    | none => .fine
    | some family => family.state (.ofIntensity intensity)

/-- What observers are told about the weather. -/
structure Packet where
  /-- The state of the weather. -/
  state : WeatherState
  /-- Its intensity. -/
  intensity : Float
  deriving DecidableEq

/-- A clear sky, whatever the zone. -/
def Packet.fine : Packet := ⟨.fine, 0.0⟩

end Microclimate
