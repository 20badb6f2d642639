/-! # Tables of code points

A property of characters is a list of closed ranges of code points; a map between characters
is a list of runs, each of which moves evenly spaced code points by one distance.
-/
namespace TableLoad.Text

/-- Closed ranges of code points, in ascending order. -/
abbrev Ranges := List (Nat × Nat)

def Ranges.has (ranges : Ranges) (n : Nat) : Bool :=
  ranges.any fun (first, last) => first ≤ n && n ≤ last

/-- Runs `(first, last, step, image)`: of the code points from `first` to `last`, each `step`-th
one is moved by the distance that takes `first` to `image`. -/
abbrev Runs := List (Nat × Nat × Nat × Nat)

def Runs.image? (runs : Runs) (n : Nat) : Option Nat :=
  runs.findSome? fun (first, last, step, image) =>
    if first ≤ n && n ≤ last && (n - first) % step == 0 then some (image + (n - first)) else none

end TableLoad.Text
