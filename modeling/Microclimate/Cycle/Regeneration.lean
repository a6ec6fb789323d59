import Microclimate.Random.HalfNormal

/-!
# Rolling new weather

At the end of an interval the weather of a zone may change. A first roll between 0 and 99 decides
what is tried: below 30 nothing, below 60 the weather gets better, below 90 it gets worse, and from
90 on it changes radically. Fine weather, and weather that clears, gives way to a kind selected by
the chances of the season. Rolls are made only as far as they are needed, and what was decided
before a roll fails stays decided.

* `Microclimate.CycleId.regenerate` – rolls the next weather; did it change?
* `Microclimate.CycleId.selectWeather` – a new kind with a new intensity.
-/

namespace Microclimate

/-- A third. -/
def third : Float := 1.0 / 3.0

/-- Two thirds. -/
def twoThirds : Float := 2.0 / 3.0

namespace CycleId

variable {γ : Type} [RandomSource γ]

/-- Sets kind and intensity of a cycle. -/
def become (id : CycleId) (kind : WeatherKind) (intensity : Float) : Sim γ Unit :=
  Sim.editCycle id (·.withWeather kind intensity)

/-- The intensity of new weather: in the lowest third, or after a radical change in one of the two
others, either of which has half of the chance. -/
def newIntensity (radical : Bool) : Sim γ Float := do
  if !radical then
    return (← HalfNormal.draw) * third
  else if (← Sim.integer 0 99) < 50 then
    return (← HalfNormal.draw) * third + third
  else
    return (← HalfNormal.draw) * third + twoThirds

/-- Selects a new kind of weather by the chances of a season, and gives it a new intensity. -/
def selectWeather (id : CycleId) (chances : Chances) (radical : Bool) : Sim γ Unit := do
  let kind := chances.select (← Sim.integer 1 100)
  Sim.editCycle id fun c => { c with kind := kind }
  if kind = .fine then
    id.become kind 0.0
  else
    id.become kind (← newIntensity radical)

/-- A radical change of weather that is not fine: light weather becomes as heavy as can be, and
heavy weather becomes light half of the time. `false` if the weather clears instead. -/
def changeRadically (id : CycleId) (c : Cycle) : Sim γ Bool := do
  if c.intensity < third then
    id.become c.kind Cycle.maxIntensity
    return true
  else if twoThirds < c.intensity then
    if (← Sim.integer 0 99) < 50 then
      id.become c.kind (c.intensity - twoThirds)
      return true
    else
      return false
  else
    return false

/-- Changes the present weather as far as the first roll allows; `false` if it is, or gets, fine, so
that new weather has to be selected. -/
def changeWeather (id : CycleId) (roll : Int) : Sim γ Bool := do
  let before ← Sim.cycle id
  if roll < 60 && before.intensity < third then
    id.become .fine 0.0
  let c ← Sim.cycle id
  if c.kind = .fine then
    return false
  else if roll < 60 then
    id.become c.kind (c.intensity - third)
    return true
  else if roll < 90 then
    id.become c.kind (c.intensity + third)
    return true
  else if ← id.changeRadically c then
    return true
  else
    id.become .fine 0.0
    return false

/-- **Rolls the next weather** of a cycle; did kind or intensity change? -/
def regenerate (id : CycleId) : Sim γ Bool := do
  let before ← Sim.cycle id
  match before.table with
  | none =>
    id.become .fine 0.0
    return false
  | some table =>
    let roll ← Sim.integer 0 99
    if roll < 30 then
      return false
    else
      let season := Season.ofDay (← Sim.dayOfYear)
      Sim.log (.generating season before.zone)
      if ← id.changeWeather roll then
        return true
      else
        id.selectWeather (table.chances season) (90 ≤ roll)
        let after ← Sim.cycle id
        return after.kind ≠ before.kind || after.intensity != before.intensity

end CycleId

end Microclimate
