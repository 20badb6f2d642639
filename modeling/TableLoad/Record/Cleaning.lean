import TableLoad.Record.Basic
import TableLoad.Cell.Token
import TableLoad.Schema.Basic

/-! # Cleaning

Cells made fit for their columns as far as that changes no meaning: blank ends go, words for "no
value" become empty cells, words for truth values become truth values, and in text columns whole
numbers lose their zero fraction and long texts are clipped.  Cleaning never fails, and a clip is
noted in the record.
-/
namespace TableLoad
open Text Number

def nullWords : List (List Char) := [['n', 'a', 'n'], ['n', 'o', 'n', 'e'], ['n', 'u', 'l', 'l']]

/-- The text without blank ends; nothing when that is empty or a word for "no value". -/
def present? (s : List Char) : Option (List Char) :=
  let t := trimmed s
  if t.isEmpty || nullWords.any (eqAsciiCaseless t) then none else some t

/-- `11.0` becomes `11`: a whole number with a fraction of zeros loses the fraction. -/
def withoutZeroFraction (s : List Char) : List Char :=
  let whole := s.takeWhile (· != '.')
  match s.dropWhile (· != '.') with
  | [] => s
  | _ :: fraction =>
    let size := match whole with
      | '-' :: rest => rest
      | _ => whole
    if !size.isEmpty && size.all Char.isDigit && !fraction.isEmpty && fraction.all (· == '0') then
      whole
    else s

def Cell.ofPresent? (s : Option (List Char)) : Cell :=
  match s with
  | some t => .text (String.ofList t)
  | none => .null

structure Clip where
  full : Nat
  clipped : Nat
  deriving DecidableEq, Repr

/-- The text cut to at most `limit` characters, without a blank end; and the clip, if one was
needed. -/
def clipped (limit : Option Nat) (s : List Char) : List Char × Option Clip :=
  match limit with
  | some n =>
    if n < s.length then
      let kept := trimEnd (s.take n)
      (kept, some ⟨s.length, kept.length⟩)
    else (s, none)
  | none => (s, none)

def cleanText (limit : Option Nat) (s : String) : Cell × Option Clip :=
  let (kept, clip) := clipped limit (trimmed s.toList)
  (Cell.ofPresent? (present? (withoutZeroFraction kept)), clip)

def cleanTruth (s : String) : Cell :=
  match present? s.toList with
  | none => .null
  | some t =>
    match truth? (String.ofList (withoutZeroFraction t)) with
    | some b => .boolean b
    | none => .text (String.ofList t)

/-- A cell made fit for a column of the given type, and the clip if its text was cut. -/
def Cell.clean (cell : Cell) (type : ColumnType) : Cell × Option Clip :=
  match cell with
  | .null => (.null, none)
  | .number n =>
    if n.isNaN then (.null, none)
    else match type with
      | .text _ => cleanText type.maxLength? (numberText n)
      | .boolean =>
        (if n.isNat 0 then .boolean false else if n.isNat 1 then .boolean true else .number n, none)
      | _ => (.number n, none)
  | .boolean b =>
    match type with
    | .text _ => cleanText type.maxLength? (booleanText b)
    | _ => (.boolean b, none)
  | .text s =>
    match type with
    | .text _ => cleanText type.maxLength? s
    | .boolean => (cleanTruth s, none)
    | _ => (Cell.ofPresent? (present? s.toList), none)

/-- Cells made fit for the columns they stand in; cells past the last column stay as they are. -/
def cleanCells : List Column → List Cell → List (Cell × Option Clip)
  | column :: columns, cell :: cells => cell.clean column.type :: cleanCells columns cells
  | [], cells => cells.map fun cell => (cell, none)
  | _, [] => []

/-- The notes of the clips, for cells from `position` on. -/
def truncationsFrom (position : Nat) : List (Cell × Option Clip) → List Truncation
  | [] => []
  | (_, some clip) :: rest =>
    ⟨position, clip.full, clip.clipped⟩ :: truncationsFrom (position + 1) rest
  | (_, none) :: rest => truncationsFrom (position + 1) rest

def Schema.clean (s : Schema) (row : Row) : Record :=
  let cleaned := cleanCells s.columns row
  ⟨cleaned.map Prod.fst, truncationsFrom 0 cleaned⟩

end TableLoad
