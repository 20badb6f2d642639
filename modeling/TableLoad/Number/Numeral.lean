import TableLoad.Number.Shortest

/-! # Numerals

Reading numbers from text: integers with an optional sign, and decimals with an optional sign,
point and exponent.  A decimal is first read exactly and then rounded once.
-/
namespace TableLoad.Number

/-- The natural number written by decimal digits; there must be at least one and nothing else. -/
def nat? (s : List Char) : Option Nat :=
  if s.isEmpty || !s.all Char.isDigit then none
  else some (s.foldl (fun n c => 10 * n + (c.toNat - '0'.toNat)) 0)

def signed : List Char → Bool × List Char
  | '-' :: rest => (true, rest)
  | '+' :: rest => (false, rest)
  | s => (false, s)

def int? (s : List Char) : Option Int :=
  let (negative, rest) := signed s
  (nat? rest).map fun n => if negative then -(n : Int) else n

def int64? (s : List Char) : Option Int :=
  (int? s).filter fun i => -(2 ^ 63) ≤ i && i < 2 ^ 63

/-- A natural number below `bound`, with an optional plus sign. -/
def natBelow? (bound : Nat) (s : List Char) : Option Nat :=
  (nat? (match s with | '+' :: rest => rest | _ => s)).filter (· < bound)

/-- An exact decimal `± coefficient · 10^exponent`. -/
structure Numeral where
  negative : Bool
  coefficient : Nat
  exponent : Int
  deriving DecidableEq, Repr

namespace Numeral

/-- The exponent that follows the digits of a decimal: empty, or `e` and an integer. -/
def exponent? : List Char → Option Int
  | [] => some 0
  | c :: rest => if c == 'e' || c == 'E' then int? rest else none

/-- A decimal without its sign: digits with at most one point, at least one digit, and an
optional exponent. -/
def unsigned? (negative : Bool) (s : List Char) : Option Numeral :=
  let whole := s.takeWhile Char.isDigit
  let (fraction, rest) := match s.dropWhile Char.isDigit with
    | '.' :: rest => (rest.takeWhile Char.isDigit, rest.dropWhile Char.isDigit)
    | rest => ([], rest)
  match nat? (whole ++ fraction), exponent? rest with
  | some n, some e => some ⟨negative, n, e - fraction.length⟩
  | _, _ => none

def ofChars? (s : List Char) : Option Numeral :=
  let (negative, rest) := signed s
  unsigned? negative rest

/-- The number nearest to a decimal.  Values far outside the range are decided by their count of
digits, so that no power of ten is larger than it need be. -/
def toBinary64 (n : Numeral) : Binary64 :=
  let size := ((digits n.coefficient).length : Int) + n.exponent
  if n.coefficient = 0 || size < -330 then .ofRatio n.negative 0 1
  else if 310 < size then .infinity n.negative
  else .ofRatio n.negative (n.coefficient * 10 ^ n.exponent.toNat) (10 ^ (-n.exponent).toNat)

end Numeral

/-- The number a text stands for: a decimal, or one of the words for infinity and not-a-number in
any case. -/
def Binary64.ofChars? (s : List Char) : Option Binary64 :=
  let (negative, rest) := signed s
  match String.ofList (rest.map Char.toLower) with
  | "nan" => some .nan
  | "inf" | "infinity" => some (.infinity negative)
  | _ => (Numeral.ofChars? s).map Numeral.toBinary64

end TableLoad.Number
