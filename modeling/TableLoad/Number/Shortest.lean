import TableLoad.Number.Binary64

/-! # Decimal text of a number

The fewest decimal digits that read back as the same number, and of those the digits nearest to
it; laid out without an exponent.  With a fixed count of places the exact value is rounded, ties
to even.
-/
namespace TableLoad.Number

def digits (n : Nat) : List Char := Nat.toDigits 10 n

/-- Whether the decimal `d · 10^e` lies among the reals that round to `units`.  Everything is
counted in quarter units and cleared of the negative power of ten; the gap below a power of two
is half the gap above it, and the ends belong to the interval when the significand is even. -/
def readsBack (units d : Nat) (e : Int) : Bool :=
  let clear := 10 ^ (-e).toNat
  let point := d * 10 ^ e.toNat * (4 * unitsPerOne)
  let step := spacing units
  let below := if units == 2 ^ units.log2 && 1 < step then step else 2 * step
  let low := (4 * units - below) * clear
  let high := (4 * units + 2 * step) * clear
  if (units / step) % 2 == 0 then low ≤ point && point ≤ high else low < point && point < high

/-- The multiple of `10^e` that reads back as `units`, if there is one: the nearer of the two
neighbours of the value, and as `tie` has it when both are equally near. -/
def onGrid? (tie : Tie) (units : Nat) (e : Int) : Option Nat :=
  let clear := 10 ^ (-e).toNat
  let grid := 10 ^ e.toNat * unitsPerOne
  let d := units * clear / grid
  match readsBack units d e, readsBack units (d + 1) e with
  | true, true => some (roundDiv tie (units * clear) grid)
  | true, false => some d
  | false, true => some (d + 1)
  | false, false => none

/-- The first grid at or below `10^e` that has a decimal, of at most `fuel` grids. -/
def firstGrid (tie : Tie) (units : Nat) : Nat → Int → Nat × Int
  | 0, e => (0, e)
  | fuel + 1, e =>
    match onGrid? tie units e with
    | some d => (d, e)
    | none => firstGrid tie units fuel (e - 1)

/-- The shortest decimal `(d, e)`, standing for `d · 10^e`.  The search starts above the value,
and seventeen digits always suffice. -/
def shortest (tie : Tie) (units : Nat) : Nat × Int :=
  firstGrid tie units 24 (((units.log2 : Int) - 1073) * 30103 / 100000 + 2)

/-- A decimal `d · 10^e` written without an exponent. -/
def positional (d : List Char) (e : Int) : List Char :=
  let places := (-e).toNat
  if 0 ≤ e then d ++ List.replicate e.toNat '0'
  else if places < d.length then
    d.take (d.length - places) ++ '.' :: d.drop (d.length - places)
  else '0' :: '.' :: (List.replicate (places - d.length) '0' ++ d)

/-- The text of a number: shortest digits, the upper ones of two that are equally near, no
exponent, and no empty fraction. -/
def Binary64.chars : Binary64 → List Char
  | nan => ['N', 'a', 'N']
  | infinity negative => (if negative then ['-'] else []) ++ ['i', 'n', 'f']
  | finite negative units _ =>
    let body :=
      if units = 0 then ['0']
      else
        let (d, e) := shortest .up units
        positional (digits d) e
    (if negative then ['-'] else []) ++ body

def Binary64.text (n : Binary64) : String := String.ofList n.chars

def padded (width n : Nat) : List Char :=
  List.replicate (width - (digits n).length) '0' ++ digits n

def Binary64.fixedChars (places : Nat) : Binary64 → List Char
  | finite negative units _ =>
    let scaled := roundDiv .toEven (units * 10 ^ places) unitsPerOne
    let all := padded (places + 1) scaled
    let whole := all.take (all.length - places)
    (if negative then ['-'] else []) ++
      if places = 0 then whole else whole ++ '.' :: all.drop (all.length - places)
  | n => n.chars

def Binary64.fixedText (places : Nat) (n : Binary64) : String :=
  String.ofList (n.fixedChars places)

end TableLoad.Number
