import TableLoad.Calendar.Moment
import TableLoad.Text.Blank
import TableLoad.Number.Numeral

/-! # Spellings of a moment

A spelling is a list of pieces read one after the other.  Most spellings are lenient: blanks
before a number are skipped, numbers may be short, and a space in the spelling stands for any
amount of blanks.  The internet form is strict about its digits and ends in an offset from
universal time, which is checked and dropped.
-/
namespace TableLoad.Calendar
open Text Number

inductive Field where
  | year
  | month
  | day
  | hour
  | minute
  | second
  deriving DecidableEq, Repr

def Field.width : Field → Nat
  | .year => 4
  | _ => 2

inductive Piece where
  /-- A number of at most the usual width, after blanks. A signed year may be longer. -/
  | number (field : Field)
  /-- A number of exactly the usual width. -/
  | exactly (field : Field)
  | mark (choices : List Char)
  | blanks
  /-- A point and at least one digit of a fraction of a second, or nothing. -/
  | fraction
  /-- `Z`, or a sign, two digits of hours, a colon and two of minutes. -/
  | offset
  deriving DecidableEq, Repr

abbrev Spelling := List Piece

/-- The numbers read so far. -/
structure Fields where
  year : Int := 0
  month : Nat := 1
  day : Nat := 1
  hour : Nat := 0
  minute : Nat := 0
  second : Nat := 0
  nanosecond : Nat := 0
  deriving DecidableEq, Repr

def Fields.set (fields : Fields) (field : Field) (value : Int) : Fields :=
  match field with
  | .year => { fields with year := value }
  | .month => { fields with month := value.toNat }
  | .day => { fields with day := value.toNat }
  | .hour => { fields with hour := value.toNat }
  | .minute => { fields with minute := value.toNat }
  | .second => { fields with second := value.toNat }

def Fields.moment? (fields : Fields) : Option Moment :=
  match Date.ofFields? fields.year fields.month fields.day,
    Time.ofFields? fields.hour fields.minute fields.second fields.nanosecond with
  | some date, some time => some ⟨date, time⟩
  | _, _ => none

/-- A number of one to `most` digits and what follows it. -/
def number? (most : Nat) (s : List Char) : Option (Nat × List Char) :=
  let shown := (s.take most).takeWhile Char.isDigit
  (nat? shown).map fun n => (n, s.drop shown.length)

def exactNumber? (width : Nat) (s : List Char) : Option (Nat × List Char) :=
  if s.length < width then none
  else (nat? (s.take width)).map fun n => (n, s.drop width)

/-- A year with an explicit sign may have any count of digits. -/
def lenientNumber? (field : Field) (s : List Char) : Option (Int × List Char) :=
  match field, s with
  | .year, '-' :: rest => (number? rest.length rest).map fun (n, rest) => (-(n : Int), rest)
  | .year, '+' :: rest => (number? rest.length rest).map fun (n, rest) => ((n : Int), rest)
  | _, _ => (number? field.width s).map fun (n, rest) => ((n : Int), rest)

/-- Nanoseconds from the digits after the point; those past the ninth are dropped. -/
def nanoseconds (shown : List Char) : Nat :=
  let kept := shown.take 9
  ((nat? kept).getD 0) * 10 ^ (9 - kept.length)

/-- What follows the numbers of an offset of less than a day. -/
def offsetDigits? (s : List Char) : Option (List Char) :=
  match exactNumber? 2 s with
  | some (hours, ':' :: rest) =>
    match exactNumber? 2 rest with
    | some (minutes, rest) => if hours < 24 && minutes < 60 then some rest else none
    | none => none
  | _ => none

/-- What follows an offset; the sign may be the typographic minus. -/
def offset? : List Char → Option (List Char)
  | c :: rest =>
    if c == 'Z' || c == 'z' then some rest
    else if c == '+' || c == '-' || c == '\u2212' then offsetDigits? rest
    else none
  | [] => none

def Piece.read (fields : Fields) (s : List Char) : Piece → Option (Fields × List Char)
  | .number field =>
    (lenientNumber? field (trimStart s)).map fun (n, rest) => (fields.set field n, rest)
  | .exactly field =>
    (exactNumber? field.width s).map fun (n, rest) => (fields.set field n, rest)
  | .mark choices =>
    match s with
    | c :: rest => if choices.contains c then some (fields, rest) else none
    | [] => none
  | .blanks => some (fields, trimStart s)
  | .fraction =>
    match s with
    | '.' :: rest =>
      let shown := rest.takeWhile Char.isDigit
      if shown.isEmpty then none
      else some ({ fields with nanosecond := nanoseconds shown }, rest.drop shown.length)
    | _ => some (fields, s)
  | .offset => (offset? s).map fun rest => (fields, rest)

/-- Reads all pieces; nothing may be left. -/
def Spelling.fields? (fields : Fields) (s : List Char) : Spelling → Option Fields
  | [] => if s.isEmpty then some fields else none
  | piece :: pieces =>
    match piece.read fields s with
    | some (fields, rest) => Spelling.fields? fields rest pieces
    | none => none

def Spelling.moment? (spelling : Spelling) (s : List Char) : Option Moment :=
  (spelling.fields? {} s).bind Fields.moment?

private def minus : Piece := .mark ['-']
private def slash : Piece := .mark ['/']
private def colon : Piece := .mark [':']

def yearFirst : Spelling := [.number .year, minus, .number .month, minus, .number .day]

def dayFirst : Spelling := [.number .day, slash, .number .month, slash, .number .year]

def toMinute : Spelling := [.number .hour, colon, .number .minute]

def toSecond : Spelling := toMinute ++ [colon, .number .second]

/-- The strict form with an offset. -/
def internetForm : Spelling :=
  [.exactly .year, minus, .exactly .month, minus, .exactly .day, .mark ['t', 'T', ' '],
    .exactly .hour, colon, .exactly .minute, colon, .exactly .second, .fraction, .offset]

/-- The spellings of a moment, in the order they are tried. -/
def spellings : List Spelling := [
  yearFirst ++ .blanks :: toSecond,
  yearFirst ++ .mark ['T'] :: toSecond,
  yearFirst ++ .blanks :: toSecond ++ [.fraction],
  yearFirst ++ .mark ['T'] :: toSecond ++ [.fraction],
  yearFirst ++ .blanks :: toMinute,
  yearFirst ++ .mark ['T'] :: toMinute,
  dayFirst ++ .blanks :: toSecond,
  dayFirst ++ .blanks :: toMinute,
  yearFirst,
  dayFirst,
  internetForm]

/-- The moment that a text spells, its blank ends aside, in the first spelling that fits. -/
def Moment.ofText? (s : String) : Option Moment :=
  let s := trimmed s.toList
  spellings.findSome? fun spelling => spelling.moment? s

end TableLoad.Calendar
