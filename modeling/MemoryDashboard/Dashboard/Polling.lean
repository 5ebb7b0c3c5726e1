/-!
# The polling loop

The polling loop refreshes the dashboard on a fixed interval and can be paused through a watch
channel. The channel holds the newest pause flag sent, counts the values sent, and remembers how
many of them the loop has seen; the initial value counts as seen. Each turn the loop waits for
whichever comes first, a tick of the interval or a change on the channel; when both are ready,
either may be taken.

* On a tick it reads the channel without marking the value seen: when it reads paused it marks
  the dashboard paused and refreshes nothing, else it refreshes.
* On a change it marks the newest value seen and reads it, and marks the dashboard paused or not
  as it reads; on resuming it also refreshes once and starts the interval again.
* A change is ready while a value is unseen, or once the sender is gone; when the sender is gone
  and every value seen, the loop ends.

Each branch decides a list of actions (`LoopAction`), which the loop's driver carries out in
order.
-/

namespace MemoryDashboard

namespace Polling

/-- The pause channel as the loop sees it: the newest value, how many values were sent, how many
of them the loop has seen, and whether the sender is gone. -/
structure PauseChannel where
  value : Bool
  version : Nat := 0
  seen : Nat := 0
  closed : Bool := false
  deriving DecidableEq, Inhabited, Repr

namespace PauseChannel

/-- Sends a value, replacing the one held. -/
def send (ch : PauseChannel) (value : Bool) : PauseChannel := { ch with value, version := ch.version + 1 }

/-- Drops the sender. -/
def close (ch : PauseChannel) : PauseChannel := { ch with closed := true }

/-- Waits for a change, when one is ready: the newest value, then marked seen, while a value is
unseen; none once the sender is gone and every value seen. -/
def changed? (ch : PauseChannel) : Option (Option Bool × PauseChannel) :=
  if ch.seen ≠ ch.version then some (some ch.value, { ch with seen := ch.version })
  else if ch.closed then some (none, ch)
  else none

end PauseChannel

/-- What the loop does. -/
inductive LoopAction where
  /-- Marks the dashboard paused or not. -/
  | setPaused (paused : Bool)
  /-- Runs one refresh cycle. -/
  | refresh
  /-- Starts the interval again from now. -/
  | resetInterval
  /-- Ends the loop. -/
  | stop
  deriving DecidableEq, Inhabited, Repr

/-- The tick branch, with what the channel reads. -/
def onTick (reading : Bool) : List LoopAction :=
  if reading then [.setPaused true] else [.refresh]

/-- The change branch, with what waiting for a change gave: the newest value, or none once the
sender is gone. -/
def onChange : Option Bool → List LoopAction
  | none => [.stop]
  | some paused => .setPaused paused :: if paused then [] else [.refresh, .resetInterval]

end Polling

end MemoryDashboard
