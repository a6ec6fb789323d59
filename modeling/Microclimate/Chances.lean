import Microclimate.Season
import Microclimate.Weather

/-!
# Tables of chances

For each season a zone has the chances, in percent, of rain, snow and storm; what is left is fine
weather. A roll between 1 and 100 selects by the running sums of the chances.

* `Microclimate.Chances` – the three percentages of a season;
* `Microclimate.SeasonTable` – the chances of a zone in each of the four seasons;
* `Microclimate.Chances.select` – the kind of weather that a roll selects.
-/

namespace Microclimate

/-- The chances of one season in percent. -/
structure Chances where
  /-- The chance of rain. -/
  rain : Int := 0
  /-- The chance of snow. -/
  snow : Int := 0
  /-- The chance of a storm. -/
  storm : Int := 0
  deriving DecidableEq, Inhabited, Repr

namespace Chances

/-- The chance of a family. -/
def of (c : Chances) : Family → Int
  | .rain => c.rain
  | .snow => c.snow
  | .storm => c.storm

/-- The kind of weather that a roll selects: rain up to the chance of rain, snow up to the sum of
the chances of rain and snow, storm up to the sum of all three, fine weather beyond. -/
def select (c : Chances) (roll : Int) : WeatherKind :=
  if roll ≤ c.rain then .rain
  else if roll ≤ c.rain + c.snow then .snow
  else if roll ≤ c.rain + c.snow + c.storm then .storm
  else .fine

end Chances

/-- The chances of a zone in each season. -/
structure SeasonTable where
  /-- The chances in spring. -/
  spring : Chances
  /-- The chances in summer. -/
  summer : Chances
  /-- The chances in fall. -/
  fall : Chances
  /-- The chances in winter. -/
  winter : Chances
  deriving DecidableEq, Inhabited, Repr

namespace SeasonTable

/-- The chances in a season. -/
def chances (t : SeasonTable) : Season → Chances
  | .spring => t.spring
  | .summer => t.summer
  | .fall => t.fall
  | .winter => t.winter

/-- The chances of the four seasons, in the order of the year. -/
def toList (t : SeasonTable) : List Chances := Season.all.map t.chances

/-- The table of four rows in the order of the year. -/
def ofList? : List Chances → Option SeasonTable
  | [spring, summer, fall, winter] => some ⟨spring, summer, fall, winter⟩
  | _ => none

theorem ofList?_toList (t : SeasonTable) : ofList? t.toList = some t := rfl

end SeasonTable

end Microclimate
