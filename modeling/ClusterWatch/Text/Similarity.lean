/-!
# Similar texts

How alike two words are, as a number from zero to one: the part of each word that the other one
shares nearby, less what the shared characters are out of order.

- `Text.similarity`: the number.
-/

namespace ClusterWatch.Text

/-- How far from its own place a character is looked for in the other word. -/
def searchRange (m n : Nat) : Nat :=
  max m n / 2 - 1

/-- The first position of a character from `low` to below `high` that is not taken yet. -/
def freePosition? (word : List Char) (taken : List Nat) (c : Char) (low high : Nat) : Option Nat :=
  (List.range high).find? fun j => low ≤ j && word[j]? = some c && !taken.contains j

/-- The pairs of positions at which the words share a character: each character of the first word,
from the given position on, takes a free one of the second. -/
def sharedPositions (word : List Char) (range : Nat) :
    (position : Nat) → (taken : List Nat) → List Char → List (Nat × Nat)
  | _, _, [] => []
  | i, taken, c :: rest =>
    match freePosition? word taken c (i - range) (min word.length (i + range + 1)) with
    | some j => (i, j) :: sharedPositions word range (i + 1) (j :: taken) rest
    | none => sharedPositions word range (i + 1) taken rest

/-- How often two lists differ at the same place. -/
def differences {α : Type} [DecidableEq α] (xs ys : List α) : Nat :=
  ((xs.zip ys).filter fun p => p.1 ≠ p.2).length

/-- How alike two words are. -/
def similarity (a b : List Char) : Rat :=
  if a = [] ∧ b = [] then 1
  else
    let shared := sharedPositions b (searchRange a.length b.length) 0 [] a
    let first := shared.filterMap fun (i, _) => a[i]?
    let second := ((shared.map (·.2)).mergeSort).filterMap fun j => b[j]?
    let m : Rat := shared.length
    let outOfOrder : Rat := (differences first second / 2 : Nat)
    if shared = [] then 0
    else (m / a.length + m / b.length + (m - outOfOrder) / m) / 3

end ClusterWatch.Text
