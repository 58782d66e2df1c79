import Playground.Compile.Choice

/-!
# Notifications

Messages for the reader, in the order in which they came, that can be dismissed one by one.

* `Notifications` — the queue.
* `Notifications.push` — adds a message; while every edit compiles, messages are suppressed.
* `Notifications.dismiss` — removes the message with a key.
-/

namespace Playground

/-- A message for the reader. -/
structure Notification where
  /-- The place in the queue at the time of the push, counted from one. -/
  id : Nat
  /-- The number of the push, which names the message. -/
  key : Nat
  message : String
  dismissAfterMs : Int
  deriving DecidableEq, Repr, Inhabited

namespace Notification

def toRecord (n : Notification) : List (String × Value) :=
  [("id", .int n.id), ("key", .int n.key), ("message", .str n.message),
    ("dismiss_after_ms", .int n.dismissAfterMs)]

end Notification

/-- The queue of messages. -/
structure Notifications where
  dismissAfterMs : Int := 5000
  items : List Notification := []
  /-- The number of pushes since the queue was last cleared. -/
  count : Nat := 0
  deriving DecidableEq, Repr, Inhabited

namespace Notifications

def next (q : Notifications) (message : String) : Notification :=
  ⟨q.items.length + 1, q.count + 1, message, q.dismissAfterMs⟩

/-- Adds a message and gives the notification, unless messages are suppressed. -/
def push (q : Notifications) (mode : CompileMode) (message : String) :
    Notifications × Option Notification :=
  if mode = .auto then (q, none)
  else
    let n := q.next message
    ({ q with items := q.items ++ [n], count := q.count + 1 }, some n)

/-- Removes the message with the key and tells whether there was one. -/
def dismiss (q : Notifications) (key : Int) : Notifications × Bool :=
  let kept := q.items.filter fun n => (n.key : Int) ≠ key
  ({ q with items := kept }, kept.length ≠ q.items.length)

/-- Removes all messages and starts counting anew. -/
def clear (q : Notifications) : Notifications := { q with items := [], count := 0 }

end Notifications

end Playground
