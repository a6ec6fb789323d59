import Microclimate.Fault
import Microclimate.Table

/-!
# The directory of zones

The directory writes down twice who is where: for each zone who is in it, in the order in which they
entered, and for each observer which zone they are in. Zones that are the same key are one zone, and
it goes by the name that was given to it first; each observer is noted with the zone as they named
it. A zone in which nobody is is not listed.

Nothing but the moves of the directory keeps the two in step. Whoever leaves is looked up among the
places first and struck off the list of their zone then; **that fails if there is no such list, or
if they are not on it**.

* `Microclimate.Directory` – the type;
* `Microclimate.Directory.observers`, `Microclimate.Directory.zoneOf?` – the two views;
* `Microclimate.Directory.leave`, `Microclimate.Directory.add` – leaving a zone and coming into one;
* `Microclimate.Move` – the moves, with `Move.make`;
* `Microclimate.Attempt` – a move that was tried, and how that went.
-/

namespace Microclimate

/-- Somebody who can be told about the weather, can listen to hooks and can be a system of an
engine, by name. -/
abbrev ActorName := Text

/-- Who is where, written down by zones and by observers. -/
structure Membership where
  /-- The observers in each zone, in the order in which they entered. -/
  lists : Table (List ActorName)
  /-- The zone of each observer who is in one, as it was named on entering. -/
  places : List (ActorName × Value)
  deriving Inhabited

/-- Nobody is anywhere. -/
def Membership.empty : Membership := ⟨.empty, []⟩

/-- Who is in which zone. -/
structure Directory where
  /-- What is written down. -/
  members : Membership := .empty
  deriving Inhabited

namespace Directory

/-- The observers in a zone in the order in which they entered. -/
def observers (d : Directory) (zone : Value) : List ActorName :=
  (d.members.lists.find? zone).getD []

/-- The zone in which an observer is. -/
def zoneOf? (d : Directory) (observer : ActorName) : Option Value :=
  (d.members.places.find? (·.1 = observer)).map (·.2)

/-- Is this the list of the zone that an observer is in? What is not even the same key as itself was
listed on its own when the observer named it, so there it is the observer who tells. -/
def isListOf (observer : ActorName) (zone : Value) (list : Value × List ActorName) : Bool :=
  list.1.sameKey zone || !zone.sameKey zone && observer ∈ list.2

/-- The lists once an observer was struck off the one of their zone. A list on which nobody is left
is no longer kept. -/
def strike (observer : ActorName) (zone : Value) :
    List (Value × List ActorName) → Except Fault (List (Value × List ActorName))
  | [] => throw (.noList zone)
  | list :: rest =>
    if isListOf observer zone list then
      if observer ∉ list.2 then throw .notOnList
      else if (list.2.erase observer).isEmpty then return rest
      else return (list.1, list.2.erase observer) :: rest
    else return list :: (← strike observer zone rest)

/-- The places once the one of an observer is forgotten. -/
def forget (observer : ActorName) (places : List (ActorName × Value)) : List (ActorName × Value) :=
  places.filter (·.1 ≠ observer)

/-- Lets an observer leave their zone, if they are in one. -/
def leave (observer : ActorName) : EStateM Fault Directory Unit := do
  match (← get).zoneOf? observer with
  | none => return
  | some zone =>
    modify fun d => ⟨{ d.members with places := forget observer d.members.places }⟩
    match strike observer zone (← get).members.lists.entries with
    | .ok lists => modify fun d => ⟨{ d.members with lists := ⟨lists⟩ }⟩
    | .error f => throw f

/-- The directory once an observer has come into a zone. -/
def add (d : Directory) (observer : ActorName) (zone : Value) : Directory :=
  ⟨d.members.lists.insert zone (d.observers zone ++ [observer]),
    (observer, zone) :: forget observer d.members.places⟩

end Directory

/-- A move of an observer. -/
inductive Move where
  /-- An observer leaves their zone, if they are in one. -/
  | out (observer : ActorName)
  /-- An observer who has left comes into a zone. -/
  | into (observer : ActorName) (zone : Value)

namespace Move

/-- Who moves. -/
def observer : Move → ActorName
  | out observer | into observer _ => observer

/-- Makes a move. -/
def make : Move → EStateM Fault Directory Unit
  | out observer => Directory.leave observer
  | into observer zone => modify (·.add observer zone)

end Move

/-- A move that was tried. -/
structure Attempt where
  /-- The move. -/
  move : Move
  /-- Why it failed, if it did. -/
  fault : Option Fault

end Microclimate
