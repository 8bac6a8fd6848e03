import ClusterWatch.Queue.Basic
/-!
# Waiting for the work queue

A queue that several getters share. A getter registers for a notification, looks for an item, and
blocks when there is none; whoever makes a key wait gives one notification afterwards. All these
are separate steps, which may interleave in any way.

- `Getter`: one call that waits for an item.
- `SharedQueue`: the queue, its getters in the order in which they registered, and the
  notifications that are still to be given.
- `SharedQueue.step`: one step of anybody.
- `SharedQueue.settle`: takes steps until nobody can take one.
-/

namespace ClusterWatch

/-- How a getter came to be notified. -/
inductive Signal where
  /-- By the notification that was left when nobody was registered. -/
  | permit
  /-- As the first of those registered. -/
  | single
  /-- Together with all those registered. -/
  | broadcast
  deriving DecidableEq, Repr

/-- A call that waits for an item. -/
structure Getter where
  id : Nat
  /-- Whether it has looked for an item since it registered. -/
  looked : Bool
  signal : Option Signal
  deriving DecidableEq, Repr

/-- A getter that has registered and neither looked nor been notified. -/
def Getter.registered (id : Nat) : Getter :=
  ⟨id, false, none⟩

/-- Whether a getter has found nothing and was not notified. -/
def Getter.isBlocked (g : Getter) : Bool :=
  g.looked && g.signal.isNone

/-- A queue with its getters. -/
structure SharedQueue where
  queue : WorkQueue := {}
  /-- Whether the next getter that registers is notified at once. -/
  permit : Bool := false
  /-- The getters in the order in which they registered. -/
  getters : List Getter := []
  /-- The notifications that are still to be given after an insertion. -/
  owed : Nat := 0
  /-- Whether all getters are still to be notified of the shutdown. -/
  broadcastOwed : Bool := false
  deriving Inhabited

namespace SharedQueue

open WorkQueue (Taken)

/-- Takes over the queue after an operation on it, which owes a notification if a key started to
wait. -/
def update (s : SharedQueue) (result : WorkQueue × Bool) : SharedQueue :=
  { s with queue := result.1, owed := if result.2 then s.owed + 1 else s.owed }

/-- Shuts the queue down; the getters are notified afterwards. -/
def shutDown (s : SharedQueue) : SharedQueue :=
  { s with queue := s.queue.shutDown, broadcastOwed := true }

/-- Notifies the first getter that was not notified yet, and tells whether there was one. -/
def notifyFirst : List Getter → List Getter × Bool
  | [] => ([], false)
  | g :: rest =>
    if g.signal.isNone then ({ g with signal := some .single } :: rest, true)
    else
      let (rest, found) := notifyFirst rest
      (g :: rest, found)

/-- Gives one notification, which is left for later if nobody takes it. -/
def notifyOne (s : SharedQueue) : SharedQueue :=
  let (getters, found) := notifyFirst s.getters
  { s with getters, permit := s.permit || !found }

/-- Notifies all getters that were not notified yet. -/
def notifyAll (s : SharedQueue) : SharedQueue :=
  { s with getters := s.getters.map fun g =>
      if g.signal.isNone then { g with signal := some .broadcast } else g }

/-- A getter registers behind the others. It takes the notification that was left, if any. -/
def register (s : SharedQueue) (id : Nat) : SharedQueue :=
  let g : Getter := if s.permit then { Getter.registered id with signal := some .permit }
    else .registered id
  { s with permit := false, getters := s.getters ++ [g] }

/-- The first getter that satisfies a condition. -/
def getter? (s : SharedQueue) (id : Nat) : Option Getter :=
  s.getters.find? fun g => g.id == id

/-- Removes a getter. -/
def leave (s : SharedQueue) (id : Nat) : SharedQueue :=
  { s with getters := s.getters.filter fun g => g.id != id }

/-- A getter that leaves passes on the notification that it got as the first of those
registered. -/
def finish (s : SharedQueue) (g : Getter) : SharedQueue :=
  if g.signal = some .single then (s.leave g.id).notifyOne else s.leave g.id

/-- Marks that a getter has looked in vain. -/
def markLooked (s : SharedQueue) (id : Nat) : SharedQueue :=
  { s with getters := s.getters.map fun g => if g.id = id then { g with looked := true } else g }

/-- One step of a getter or of somebody who owes a notification. -/
inductive Step where
  /-- An owed notification is given. -/
  | notify
  /-- All getters are notified of the shutdown. -/
  | broadcast
  /-- A getter that has not done so looks for an item. -/
  | look (id : Nat)
  /-- A getter that was notified registers again. -/
  | resume (id : Nat)
  deriving DecidableEq, Repr

/-- The state after a step, and the getter that finished in it with what it got. None when the
step cannot be taken. -/
def step (s : SharedQueue) : Step → Option (SharedQueue × Option (Nat × Taken))
  | .notify =>
    match s.owed with
    | 0 => none
    | n + 1 => some ({ s with owed := n }.notifyOne, none)
  | .broadcast =>
    if s.broadcastOwed then some ({ s with broadcastOwed := false }.notifyAll, none) else none
  | .look id =>
    match s.getter? id with
    | some g =>
      if g.looked then none
      else
        match s.queue.take with
        -- only a getter that finds nothing stays
        | (queue, .empty) => some ({ s with queue }.markLooked id, none)
        | (queue, taken) => some ({ s with queue }.finish g, some (id, taken))
    | none => none
  | .resume id =>
    match s.getter? id with
    | some g => if g.looked && g.signal.isSome then some ((s.leave id).register id, none) else none
    | none => none

/-- A step that can be taken, if there is one. Notifications come first, then the getters in the
order in which they registered. -/
def next? (s : SharedQueue) : Option Step :=
  if s.broadcastOwed then some .broadcast
  else if 0 < s.owed then some .notify
  else
    s.getters.findSome? fun g =>
      if !g.looked then some (.look g.id)
      else if g.signal.isSome then some (.resume g.id)
      else none

/-- Takes steps while there is one, at most as many as the first argument says, and collects what
the getters got. -/
def settleWithin : Nat → SharedQueue → SharedQueue × List (Nat × Taken)
  | 0, s => (s, [])
  | bound + 1, s =>
    match s.next?.bind s.step with
    | none => (s, [])
    | some (s, finished) =>
      let (s, rest) := settleWithin bound s
      (s, finished.toList ++ rest)

/-- A number of steps after which nobody can take another one: each getter is notified once, looks
and registers once more, and looks again. -/
def stepBound (s : SharedQueue) : Nat :=
  (s.owed + s.getters.length + 2) * (s.getters.length + 2) * 4

/-- Takes steps until nobody can take one. -/
def settle (s : SharedQueue) : SharedQueue × List (Nat × Taken) :=
  settleWithin s.stepBound s

end SharedQueue

end ClusterWatch
