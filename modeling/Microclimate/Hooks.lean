import Microclimate.Directory

/-!
# Hooks

Hooks are two lists of listeners: those who want to hear of every update of a cycle, and those who
want to hear of every change of the weather. A listener may be in a list several times and is then
called as often.

* `Microclimate.Hooks` – the type;
* `Microclimate.Hooks.onTicked`, `Microclimate.Hooks.onChanged` – subscribing;
* `Microclimate.Hooks.unsubscribe` – taking one subscription out of each list.
-/

namespace Microclimate

/-- The listeners, in the order in which they subscribed. -/
structure Hooks where
  /-- Those who hear of every update. -/
  ticked : List ActorName := []
  /-- Those who hear of every change. -/
  changed : List ActorName := []
  deriving DecidableEq, Inhabited, Repr

namespace Hooks

/-- Subscribes a listener to updates. -/
def onTicked (h : Hooks) (listener : ActorName) : Hooks :=
  { h with ticked := h.ticked ++ [listener] }

/-- Subscribes a listener to changes. -/
def onChanged (h : Hooks) (listener : ActorName) : Hooks :=
  { h with changed := h.changed ++ [listener] }

/-- Takes the oldest subscription of a listener out of each list that has one. -/
def unsubscribe (h : Hooks) (listener : ActorName) : Hooks :=
  ⟨h.ticked.erase listener, h.changed.erase listener⟩

/-- No listeners. -/
def clear (_ : Hooks) : Hooks := {}

end Hooks

end Microclimate
