/-!
# Paths

The way that a system went from one state to another: the moves that were made, each with the state
in which it was made. What a run has done is read off its path.

- `Path`: the ways of a system that goes on by moves which can be made in some states only.
- `Path.append`, `Path.split`: ways are put together and taken apart.
- `Path.invariant`: what each move keeps holds all the way.
- `path_of_follow?`: a way is found by making moves one after the other.
-/

namespace ClusterWatch

variable {State Move : Type}

/-- A way from one state to another. The last move stands in front. -/
inductive Path (advance? : State → Move → Option State) (x : State) :
    List (State × Move) → State → Prop
  | start : Path advance? x [] x
  | move {past : List (State × Move)} {y z : State} {move : Move} :
      Path advance? x past y → advance? y move = some z → Path advance? x ((y, move) :: past) z

namespace Path

variable {advance? : State → Move → Option State} {x y z : State} {past later : List (State × Move)}

theorem append (h : Path advance? x past y) (h' : Path advance? y later z) :
    Path advance? x (later ++ past) z := by
  induction h' with
  | start => exact h
  | move _ hmove ih => exact .move ih hmove

/-- A way leads up to each of its moves, and goes on from there. -/
theorem split {move : Move} (h : Path advance? x (later ++ (y, move) :: past) z) :
    Path advance? x past y ∧ ∃ y', advance? y move = some y' ∧ Path advance? y' later z := by
  induction later generalizing z with
  | nil =>
    cases h with
    | move hpast hmove => exact ⟨hpast, z, hmove, .start⟩
  | cons p later ih =>
    cases h with
    | move hpath hlast =>
      obtain ⟨hpast, y', hmove, hlater⟩ := ih hpath
      exact ⟨hpast, y', hmove, .move hlater hlast⟩

/-- What holds at the beginning of a way and is kept by each move holds at its end. -/
theorem invariant {P : State → Prop} (h : Path advance? x past y) (hx : P x)
    (hmove : ∀ {y z : State} {move : Move}, P y → advance? y move = some z → P z) : P y := by
  induction h with
  | start => exact hx
  | move _ hlast ih => exact hmove ih hlast

end Path

/-- Makes a move and writes it down. -/
def follow? (advance? : State → Move → Option State) (way : List (State × Move) × State)
    (move : Move) : Option (List (State × Move) × State) :=
  (advance? way.2 move).map fun y => ((way.2, move) :: way.1, y)

/-- Moves that can be made one after the other make a path. -/
theorem path_of_follow? {advance? : State → Move → Option State} {x y : State}
    {past : List (State × Move)} (h : Path advance? x past y) {moves : List Move}
    {way : List (State × Move) × State}
    (hmoves : moves.foldlM (follow? advance?) (past, y) = some way) :
    Path advance? x way.1 way.2 := by
  induction moves generalizing past y with
  | nil =>
    obtain rfl := Option.some.inj hmoves
    exact h
  | cons move moves ih =>
    obtain ⟨next, hnext, hrest⟩ := Option.bind_eq_some_iff.mp hmoves
    obtain ⟨z, hmove, rfl⟩ := Option.map_eq_some_iff.mp hnext
    exact ih (.move h hmove) hrest

end ClusterWatch
