import TableLoad.Number.Numeral
import TableLoad.Text.Blank
import TableLoad.Text.Case

/-! # Words and numerals in cells

The words for true and false, and decimals in which a comma may stand for the point.
-/
namespace TableLoad
open Text Number

def trueWords : List String := ["1", "true", "t", "y", "yes", "s", "sim"]

def falseWords : List String := ["0", "false", "f", "n", "no", "nao", "n\u00e3o"]

/-- The truth value that a word stands for, its case and blank ends aside. -/
def truth? (s : String) : Option Bool :=
  let word := String.ofList (lowercase (trimmed s.toList))
  if trueWords.contains word then some true
  else if falseWords.contains word then some false
  else none

/-- Commas read as points, in a text without points. -/
def withPoint (s : List Char) : List Char :=
  if s.contains ',' && !s.contains '.' then s.map fun c => if c == ',' then '.' else c else s

def decimal? (s : List Char) : Option Binary64 :=
  (Binary64.ofChars? (withPoint s)).filter Binary64.isFinite

end TableLoad
