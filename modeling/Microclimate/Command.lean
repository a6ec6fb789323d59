import Microclimate.World

/-!
# Commands

Whatever can be asked of a world from outside is a command, and the answer is a reply. Actors, when
they are called, respond with commands too.

* `Microclimate.Command` – the commands, sorted by the part that they are addressed to;
* `Microclimate.Reply` – the answers;
* `Microclimate.CycleName` – how a command names a cycle.
-/

namespace Microclimate

/-- How a command names a cycle. -/
inductive CycleName where
  /-- The cycle that belongs to no manager. -/
  | lone
  /-- The running cycle of a zone. -/
  | running (zone : Value)
  deriving Inhabited

/-- What can be asked of a cycle. -/
inductive CycleCommand where
  /-- Lets time pass. -/
  | update (diff : Int)
  /-- Rolls the next weather. -/
  | regenerate
  /-- Tells the zone about the weather, and the listeners too if asked to. -/
  | broadcast (trigger : Bool)
  /-- Forces some weather. -/
  | setWeather (kind : WeatherKind) (intensity : Float) (trigger : Bool)
  /-- Tells an observer about the weather. -/
  | sendTo (observer : ActorName)
  /-- Tells an observer of a clear sky. -/
  | sendFineTo (observer : ActorName)
  /-- Describes the cycle. -/
  | describe
  /-- Shows the zone of the cycle and its chances. -/
  | profile
  /-- Replaces the kind of weather, its intensity or the time elapsed, and tells nobody. -/
  | assign (kind : Option WeatherKind) (intensity : Option Float) (elapsed : Option Int)

/-- What can be asked of a manager. -/
inductive ManagerCommand where
  /-- Shows the chances of a zone. -/
  | chances (zone : Value)
  /-- Shows the running cycle of a zone. -/
  | find (zone : Value)
  /-- Starts the weather of a zone anew. -/
  | add (zone : Value)
  /-- Starts the weather of a zone unless it is running. -/
  | getOrCreate (zone : Value)
  /-- Stops the weather of a zone. -/
  | remove (zone : Value)
  /-- Lets time pass. -/
  | update (diff : Int)
  /-- Tells an observer who came into a zone about its weather. -/
  | observerEntered (observer : ActorName) (zone : Value)
  /-- Forces the weather of a zone. -/
  | setWeather (zone : Value) (kind : WeatherKind) (intensity : Float) (trigger : Bool)
  /-- Shows the configuration. -/
  | config

/-- What can be asked of whatever delivers packets. -/
inductive MessengerCommand where
  /-- Delivers a packet to a zone. -/
  | send (zone : Value) (packet : Packet)
  /-- Says whether anybody counts as reached. Only a messenger that takes notes goes by that. -/
  | pretend (reaches : Bool)

/-- What can be asked of a directory. -/
inductive DirectoryCommand where
  /-- Somebody goes into a zone. -/
  | enter (observer : ActorName) (zone : Value)
  /-- Somebody leaves their zone. -/
  | leave (observer : ActorName)
  /-- Shows the zone of somebody. -/
  | zoneOf (observer : ActorName)
  /-- Shows who is in a zone. -/
  | observers (zone : Value)

/-- What can be asked of hooks. The notifications are about the cycle that belongs to no manager. -/
inductive HooksCommand where
  /-- Subscribes a listener to updates. -/
  | onTicked (listener : ActorName)
  /-- Subscribes a listener to changes. -/
  | onChanged (listener : ActorName)
  /-- Takes one subscription of a listener out of each list. -/
  | unsubscribe (listener : ActorName)
  /-- Takes all subscriptions out. -/
  | clear
  /-- Tells all listeners of an update. -/
  | notifyTicked (diff : Int)
  /-- Tells all listeners of a change. -/
  | notifyChanged (state : WeatherState) (intensity : Float)

/-- What can be asked of a clock. -/
inductive ClockCommand where
  /-- Advances the time. -/
  | advance (diff : Int)
  /-- Sets the time. -/
  | setTime (time : Float)
  /-- Says which day it is. Only a fixed clock goes by that. -/
  | setDay (day : Int)
  /-- Shows the day of the year. -/
  | day
  /-- Shows the season. -/
  | season
  /-- Is the time shown within a minute of the present? -/
  | isNow

/-- What can be asked of an engine. -/
inductive EngineCommand where
  /-- Shows the rate, the length of a tick, the number of ticks made and the seed. -/
  | profile
  /-- Adds a system. -/
  | addSystem (system : System)
  /-- Adds a hook for the start of runs. -/
  | onStart (system : System)
  /-- Adds a hook for the end of runs. -/
  | onStop (system : System)
  /-- Makes a single tick. -/
  | step
  /-- Makes some ticks. -/
  | run (count : Int)
  /-- Makes ticks until a stop is requested. -/
  | runForever

/-- What an actor can do that concerns no part in particular. -/
inductive ActorCommand where
  /-- Fails for some cause. -/
  | fail (cause : Fault)
  /-- Asks the engine that calls to stop. -/
  | stop
  /-- Draws an integer. -/
  | integer (low high : Int)
  /-- Draws a double with a normal distribution. -/
  | normal

/-- **What can be asked of a world.** -/
inductive Command (γ : Type) where
  /-- Something is asked of a cycle. -/
  | cycle (name : CycleName) (command : CycleCommand)
  /-- Something is asked of the manager. -/
  | manager (command : ManagerCommand)
  /-- Something is asked of whatever delivers packets. -/
  | messenger (command : MessengerCommand)
  /-- Something is asked of the directory. -/
  | directory (command : DirectoryCommand)
  /-- Something is asked of the hooks. -/
  | hooks (command : HooksCommand)
  /-- Something is asked of the clock. -/
  | clock (command : ClockCommand)
  /-- Something is asked of the engine. -/
  | engine (command : EngineCommand)
  /-- An actor does something of its own. -/
  | actor (command : ActorCommand)
  /-- The random source of the weather is given a script, if it is one that follows a script. -/
  | script (change : γ → Option γ)

/-- **An answer to a command.** -/
inductive Reply where
  /-- It is done, and there is nothing to say. -/
  | done
  /-- Yes or no. -/
  | flag (b : Bool)
  /-- A whole number. -/
  | number (n : Int)
  /-- A time. -/
  | time (seconds : Float)
  /-- A season. -/
  | season (s : Season)
  /-- A description. -/
  | text (t : Text)
  /-- The zone of somebody who is in one. -/
  | zone (zone : Option Value)
  /-- Who is in a zone. -/
  | observers (names : List ActorName)
  /-- A cycle as it is now, if there is one. -/
  | cycle (cycle : Option Cycle)
  /-- The zone and the chances of a cycle. -/
  | profile (zone : Value) (table : Option SeasonTable)
  /-- There is no such cycle, so nothing was asked of it. -/
  | noCycle
  /-- The chances of a zone, if it has any. -/
  | chances (table : Option SeasonTable)
  /-- A configuration. -/
  | config (config : Config)
  /-- The rate of an engine, the length of a tick, the number of ticks made and the seed, if it was
  given. -/
  | engine (tps tickLength tick : Int) (seed : Option Int)
  deriving Inhabited

end Microclimate
