import Playground.Fault

/-!
# The event bus

Listeners, known by their names, subscribe to single events or to all of them.

* `EventBus` — the subscriptions, in the order in which they were made.
* `EventBus.listenersOf` — the listeners of one event.
-/

namespace Playground

abbrev Payload := List (String × Value)

/-- The subscriptions. -/
structure EventBus where
  named : List (String × String) := []
  all : List String := []
  deriving DecidableEq, Repr, Inhabited

namespace EventBus

def subscribe (b : EventBus) (event listener : String) : EventBus :=
  { b with named := b.named ++ [(event, listener)] }

/-- Takes back the first subscription of a listener to an event, if there is one. -/
def unsubscribe (b : EventBus) (event listener : String) : EventBus :=
  { b with named := b.named.erase (event, listener) }

def subscribeAll (b : EventBus) (listener : String) : EventBus :=
  { b with all := b.all ++ [listener] }

def clear (_ : EventBus) : EventBus := {}

def listenersOf (b : EventBus) (event : String) : List String :=
  (b.named.filter fun s => s.1 = event).map (·.2)

end EventBus

def Payload.set (data : Payload) (key : String) (value : Value) : Payload :=
  if data.any fun f => f.1 = key then
    data.map fun f => if f.1 = key then (key, value) else f
  else data ++ [(key, value)]

end Playground
