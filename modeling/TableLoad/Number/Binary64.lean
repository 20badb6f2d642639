import TableLoad.Number.Rounding

/-! # Binary floating-point numbers

Numbers of 64 bits, held by their exact value.  A finite one is a sign and a count of units of
2⁻¹⁰⁷⁴, the least positive number; the counts are those with at most 53 significant bits below
the overflow limit.  Every operation is exact arithmetic on counts followed by one rounding to
nearest, ties to even.
-/
namespace TableLoad.Number

/-- The powers of natural numbers, whatever other powers are known where they are used. -/
@[default_instance 20000] instance natPow : Pow Nat Nat := ⟨Nat.pow⟩

/-- The powers of integers. -/
@[default_instance 20000] instance intPow : Pow Int Nat := ⟨Int.pow⟩

/-- How many units make one. -/
def unitsPerOne : Nat := 2 ^ 1074

/-- Counts from here on round to infinity. -/
def overflowUnits : Nat := 2 ^ 2098

/-- A count of units that a finite number can have. -/
def Representable (units : Nat) : Prop :=
  units < overflowUnits ∧ ∃ mantissa shift, mantissa < 2 ^ 53 ∧ units = mantissa * 2 ^ shift

/-- A number, with signed zeros and one not-a-number. -/
inductive Binary64 where
  | nan
  | infinity (negative : Bool)
  | finite (negative : Bool) (units : Nat) (fits : Representable units)
  deriving DecidableEq

/-- The distance between neighbouring representable counts of the size of `units`. -/
def spacing (units : Nat) : Nat := 2 ^ (units.log2 - 52)

/-- The count nearest to the quotient `num / den`, to 53 significant bits. -/
def roundedUnits (num den : Nat) : Nat :=
  let step := spacing (num * unitsPerOne / den)
  roundDiv .toEven (num * unitsPerOne) (den * step) * step

theorem div_spacing_lt (units : Nat) : units / spacing units < 2 ^ 53 := by
  unfold spacing
  rw [Nat.div_lt_iff_lt_mul (Nat.two_pow_pos _), ← Nat.pow_add]
  by_cases h : units = 0
  · subst h; exact Nat.two_pow_pos _
  · exact Nat.lt_of_lt_of_le (Nat.lt_log2_self (n := units))
      (Nat.pow_le_pow_right (by decide) (by omega))

theorem representable_roundedUnits {num den : Nat} (h : roundedUnits num den < overflowUnits) :
    Representable (roundedUnits num den) := by
  refine ⟨h, ?_⟩
  have below := div_spacing_lt (num * unitsPerOne / den)
  rw [Nat.div_div_eq_div_mul] at below
  dsimp only [roundedUnits]
  have near := roundDiv_le .toEven (num * unitsPerOne)
    (den * spacing (num * unitsPerOne / den))
  generalize roundDiv .toEven (num * unitsPerOne)
    (den * spacing (num * unitsPerOne / den)) = r at *
  rcases Nat.lt_or_ge r (2 ^ 53) with small | large
  · exact ⟨r, _, small, rfl⟩
  · have top : r = 2 ^ 52 * 2 := by omega
    refine ⟨2 ^ 52, (num * unitsPerOne / den).log2 - 52 + 1, by decide, ?_⟩
    rw [top, spacing, Nat.mul_assoc, ← Nat.pow_succ']

namespace Binary64

def ofRatio (negative : Bool) (num den : Nat) : Binary64 :=
  if h : roundedUnits num den < overflowUnits then
    .finite negative _ (representable_roundedUnits h)
  else .infinity negative

def ofInt (i : Int) : Binary64 := ofRatio (i < 0) i.natAbs 1

def isNaN : Binary64 → Bool
  | nan => true
  | _ => false

def isFinite : Binary64 → Bool
  | finite .. => true
  | _ => false

/-- Whether the number is exactly the natural number `n`; both zeros are 0. -/
def isNat (n : Nat) : Binary64 → Bool
  | finite negative units _ => units == n * unitsPerOne && (!negative || n == 0)
  | _ => false

def whole? : Binary64 → Option Int
  | finite negative units _ =>
    if units % unitsPerOne = 0 then
      let size : Int := (units / unitsPerOne : Nat)
      some (if negative then -size else size)
    else none
  | _ => none

end Binary64

end TableLoad.Number
