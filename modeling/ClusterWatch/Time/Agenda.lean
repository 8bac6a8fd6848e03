/-!
# Agendas

What is to happen at which time, earliest first; what is due at the same time happens in the order
in which it was entered. Times are whole milliseconds.

- `Agenda`: the entries in their order.
- `Agenda.insert`: enters something.
- `Agenda.due?`: the first entry, if it is due by a given time.
-/

namespace ClusterWatch.Time

/-- Entries with their due times, in the order in which they are due. -/
structure Agenda (α : Type) where
  entries : List (Nat × α) := []
  deriving Repr, Inhabited

namespace Agenda

variable {α : Type}

/-- Enters `a` behind everything that is due no later. -/
def insertEntry (due : Nat) (a : α) : List (Nat × α) → List (Nat × α)
  | [] => [(due, a)]
  | (d, b) :: rest =>
    if d ≤ due then (d, b) :: insertEntry due a rest else (due, a) :: (d, b) :: rest

/-- Enters something that is due at a time. -/
def insert (agenda : Agenda α) (due : Nat) (a : α) : Agenda α :=
  ⟨insertEntry due a agenda.entries⟩

/-- The first entry with its due time and the rest, if it is due by `limit`. -/
def due? (agenda : Agenda α) (limit : Nat) : Option (Nat × α × Agenda α) :=
  match agenda.entries with
  | (due, a) :: rest => if due ≤ limit then some (due, a, ⟨rest⟩) else none
  | [] => none

end Agenda

end ClusterWatch.Time
