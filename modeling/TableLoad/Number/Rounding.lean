/-! # Rounded quotients

Division of natural numbers to the nearest integer.  The result is within half a unit of the exact
quotient, and a quotient halfway between two integers goes where the rule says.
-/
namespace TableLoad.Number

/-- Where a quotient halfway between two integers goes. -/
inductive Tie where
  | toEven
  | up
  deriving DecidableEq, Repr

def roundDiv (tie : Tie) (num den : Nat) : Nat :=
  let quotient := num / den
  let twice := 2 * (num % den)
  if twice < den then quotient
  else if den < twice then quotient + 1
  else match tie with
    | .toEven => quotient + quotient % 2
    | .up => quotient + 1

theorem div_le_roundDiv (tie : Tie) (num den : Nat) : num / den ≤ roundDiv tie num den := by
  dsimp only [roundDiv]
  split
  · exact Nat.le_refl _
  · split
    · omega
    · cases tie <;> simp

theorem roundDiv_le (tie : Tie) (num den : Nat) : roundDiv tie num den ≤ num / den + 1 := by
  dsimp only [roundDiv]
  split
  · omega
  · split
    · exact Nat.le_refl _
    · cases tie <;> simp only <;> omega

end TableLoad.Number
