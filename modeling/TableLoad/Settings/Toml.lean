import TableLoad.Calendar.Moment
import TableLoad.Number.Numeral
import TableLoad.Text.Scan

/-! # TOML documents

Settings as values, and the reader of their text.  A table may be opened by a header, be implied by
the header of a table inside it, be built by dotted keys, or be written inline; which of them can
be added to depends on that.
-/
namespace TableLoad
open Number

inductive TableOrigin where
  | header
  | implied
  | dotted
  | inlined
  deriving DecidableEq, Repr

inductive Toml where
  | string (value : String)
  | integer (value : Int)
  | float (value : Binary64)
  | boolean (value : Bool)
  /-- A date, a time of day, or both. -/
  | time (written : String)
  | array (items : List Toml)
  | table (origin : TableOrigin) (members : List (String × Toml))
  /-- Tables that were opened one by one under one header, the latest first. -/
  | tables (items : List (List (String × Toml)))

namespace Toml

abbrev Members := List (String × Toml)

def member? (key : String) : Toml → Option Toml
  | table _ members => members.lookup key
  | _ => none

/-- Members with a new value for a key, at its place or at the end. -/
def setMember (key : String) (value : Toml) : Members → Members
  | [] => [(key, value)]
  | (k, v) :: rest => if k = key then (k, value) :: rest else (k, v) :: setMember key value rest

/-- Members with one more; a key that is there refuses. -/
def addMember? (key : String) (value : Toml) (members : Members) : Option Members :=
  if (members.lookup key).isSome then none else some (members ++ [(key, value)])

/-- Members with a value under a dotted key.  The table that takes the value must be built by
dotted keys; those on the way to it may also be implied, or be the latest under a header. -/
def addDotted? (value : Toml) : List String → Members → Option Members
  | [], _ => none
  | [key], members => addMember? key value members
  | key :: next :: path, members =>
    match members.lookup key with
    | none => (addDotted? value (next :: path) []).map fun inner =>
        setMember key (.table .dotted inner) members
    | some (.table .dotted inner) => (addDotted? value (next :: path) inner).map fun inner =>
        setMember key (.table .dotted inner) members
    | some (.table .implied inner) =>
      if path.isEmpty then none
      else (addDotted? value (next :: path) inner).map fun inner =>
        setMember key (.table .implied inner) members
    | some (.tables (inner :: rest)) =>
      if path.isEmpty then none
      else (addDotted? value (next :: path) inner).map fun inner =>
        setMember key (.tables (inner :: rest)) members
    | some _ => none

/-- Changes the table at a path of headers; `last` makes the change at its last key. -/
def atHeader? (last : String → Members → Option Members) : List String → Members → Option Members
  | [], _ => none
  | [key], members => last key members
  | key :: path, members =>
    match members.lookup key with
    | none => (atHeader? last path []).map fun inner =>
        setMember key (.table .implied inner) members
    | some (.table .inlined _) => none
    | some (.table origin inner) => (atHeader? last path inner).map fun inner =>
        setMember key (.table origin inner) members
    | some (.tables (inner :: rest)) => (atHeader? last path inner).map fun inner =>
        setMember key (.tables (inner :: rest)) members
    | some _ => none

/-- Opens a table by its header, once. -/
def openTable? (key : String) (members : Members) : Option Members :=
  match members.lookup key with
  | none => some (members ++ [(key, .table .header [])])
  | some (.table .implied inner) => some (setMember key (.table .header inner) members)
  | some _ => none

/-- Opens one more of the tables under a header. -/
def openNext? (key : String) (members : Members) : Option Members :=
  match members.lookup key with
  | none => some (members ++ [(key, .tables [[]])])
  | some (.tables items) => some (setMember key (.tables ([] :: items)) members)
  | some _ => none

/-- Adds a value to the table that the last header opened. -/
def addToOpen? (path : List String) (value : Toml) (key : String) (members : Members) :
    Option Members :=
  match members.lookup key with
  | some (.table .header inner) => (addDotted? value path inner).map fun inner =>
      setMember key (.table .header inner) members
  | some (.tables (inner :: rest)) => (addDotted? value path inner).map fun inner =>
      setMember key (.tables (inner :: rest)) members
  | _ => none

/-! ## Reading -/

def blanks : Scan Unit := fun s => some ((), s.dropWhile fun c => c == ' ' || c == '\t')

/-- A character that a comment or string may hold. -/
def isShown (c : Char) : Bool := c == '\t' || (0x20 ≤ c.toNat && c.toNat != 0x7f)

def comment : Scan Unit := fun s =>
  match s with
  | '#' :: rest => some ((), rest.dropWhile isShown)
  | _ => some ((), s)

def newLine : Scan Unit := fun s =>
  match s with
  | '\n' :: rest => some ((), rest)
  | '\r' :: '\n' :: rest => some ((), rest)
  | _ => none

/-- The end of a line or of the text, after blanks and a comment. -/
def lineEnd : Scan Unit := do
  blanks
  comment
  newLine <|> Scan.atEnd

def space : Scan Unit := do
  let _ ← Scan.many (do blanks; comment; newLine)
  blanks
  comment

def codePoint (width : Nat) : Scan Char := fun s =>
  let shown := s.take width
  let value := shown.foldl (fun n c => 16 * n + (hexValue c).getD 0) 0
  if shown.length = width ∧ shown.all (fun c => (hexValue c).isSome) ∧
      (value < 0xd800 ∨ 0xdfff < value) ∧ value < 0x110000 then
    some (Char.ofNat value, s.drop width)
  else none
where
  hexValue (c : Char) : Option Nat :=
    if c.isDigit then some (c.toNat - '0'.toNat)
    else if 'a' ≤ c && c ≤ 'f' then some (c.toNat - 'a'.toNat + 10)
    else if 'A' ≤ c && c ≤ 'F' then some (c.toNat - 'A'.toNat + 10)
    else none

def escape : Scan Char := fun s =>
  match s with
  | [] => none
  | c :: rest =>
    if c == 'b' then some ('\x08', rest)
    else if c == 't' then some ('\t', rest)
    else if c == 'n' then some ('\n', rest)
    else if c == 'f' then some ('\x0c', rest)
    else if c == 'r' then some ('\r', rest)
    else if c == '"' || c == '\\' then some (c, rest)
    else if c == 'u' then codePoint 4 rest
    else if c == 'U' then codePoint 8 rest
    else none

/-- What follows the blank lines after a backslash at the end of a line. -/
def afterFoldedLine? (s : List Char) : Option (List Char) :=
  match newLine (s.dropWhile fun c => c == ' ' || c == '\t') with
  | some (_, rest) =>
    some (rest.dropWhile fun c => c == ' ' || c == '\t' || c == '\n' || c == '\r')
  | none => none

/-- One character of a string between double quotes; `long` strings go over lines, each of which
ends in a line feed. -/
def stringPiece (long : Bool) (s : List Char) : Option (List Char × List Char) :=
  match s with
  | '\\' :: rest =>
    match escape rest with
    | some (c, rest) => some ([c], rest)
    | none => if long then (afterFoldedLine? rest).map fun rest => ([], rest) else none
  | '\n' :: rest => if long then some (['\n'], rest) else none
  | '\r' :: '\n' :: rest => if long then some (['\n'], rest) else none
  | c :: rest => if isShown c then some ([c], rest) else none
  | [] => none

def literalPiece (long : Bool) (s : List Char) : Option (List Char × List Char) :=
  match s with
  | '\n' :: rest => if long then some (['\n'], rest) else none
  | '\r' :: '\n' :: rest => if long then some (['\n'], rest) else none
  | c :: rest => if isShown c then some ([c], rest) else none
  | [] => none

def shortTail (quote : Char) (piece : List Char → Option (List Char × List Char))
    (s : List Char) : Option (List Char × List Char) :=
  match s with
  | [] => none
  | c :: rest =>
    if c = quote then some ([], rest)
    else match piece (c :: rest) with
      | some (shown, last) =>
        if last.length ≤ rest.length then
          (shortTail quote piece last).map fun (more, last) => (shown ++ more, last)
        else none
      | none => none
termination_by s.length

/-- The rest of a long string, up to three quotes; one or two more belong to the string. -/
def longTail (quote : Char) (piece : List Char → Option (List Char × List Char))
    (s : List Char) : Option (List Char × List Char) :=
  match s with
  | [] => none
  | c :: rest =>
    let run := ((c :: rest).takeWhile (· == quote)).length
    if 3 ≤ run then
      let extra := min (run - 3) 2
      some (List.replicate extra quote, (c :: rest).drop (3 + extra))
    else match piece (c :: rest) with
      | some (shown, last) =>
        if last.length ≤ rest.length then
          (longTail quote piece last).map fun (more, last) => (shown ++ more, last)
        else none
      | none => none
termination_by s.length
decreasing_by exact Nat.lt_succ_of_le ‹last.length ≤ rest.length›

/-- A line end right after the quotes of a long string does not count. -/
def withoutFirstLine (s : List Char) : List Char :=
  match newLine s with
  | some (_, rest) => rest
  | none => s

def shortString : Scan String := fun s =>
  let result := match s with
    | '"' :: rest => shortTail '"' (stringPiece false) rest
    | '\'' :: rest => shortTail '\'' (literalPiece false) rest
    | _ => none
  result.map fun (shown, rest) => (String.ofList shown, rest)

def stringValue : Scan String := fun s =>
  match s with
  | '"' :: '"' :: '"' :: rest =>
    (longTail '"' (stringPiece true) (withoutFirstLine rest)).map fun (shown, rest) =>
      (String.ofList shown, rest)
  | '\'' :: '\'' :: '\'' :: rest =>
    (longTail '\'' (literalPiece true) (withoutFirstLine rest)).map fun (shown, rest) =>
      (String.ofList shown, rest)
  | _ => shortString s

def isKeyChar (c : Char) : Bool := c.isAlphanum || c == '_' || c == '-'

def simpleKey : Scan String :=
  shortString <|> (do return String.ofList (← Scan.some1 isKeyChar))

def key : Scan (List String) := do
  blanks
  let first ← simpleKey
  let more ← Scan.many (do blanks; Scan.char '.'; blanks; simpleKey)
  blanks
  return first :: more

/-- Digits of a base, with single underscores between them. -/
def digitGroups? (isDigit : Char → Bool) (s : List Char) : Option (List Char) :=
  if s.head?.any isDigit && s.getLast?.any isDigit &&
      s.all (fun c => isDigit c || c == '_') && !(pairs s).contains ('_', '_') then
    some (s.filter (· != '_'))
  else none
where
  pairs (s : List Char) : List (Char × Char) := s.zip (s.drop 1)

def ofDigits (base : Nat) (s : List Char) : Nat :=
  s.foldl (fun n c => base * n + if c.isDigit then c.toNat - '0'.toNat
    else c.toLower.toNat - 'a'.toNat + 10) 0

def isHexDigit (c : Char) : Bool := c.isDigit || ('a' ≤ c.toLower && c.toLower ≤ 'f')

/-- Digits without a needless zero in front. -/
def plainDigits? (s : List Char) : Option (List Char) :=
  match digitGroups? Char.isDigit s with
  | some shown => if 1 < shown.length ∧ shown.head? = some '0' then none else some shown
  | none => none

/-- An integer in decimal, or in another base by its mark. -/
def integer? (s : List Char) : Option Int :=
  match s with
  | '0' :: 'x' :: rest => (digitGroups? isHexDigit rest).map fun d => (ofDigits 16 d : Int)
  | '0' :: 'o' :: rest =>
    (digitGroups? (fun c => '0' ≤ c && c ≤ '7') rest).map fun d => (ofDigits 8 d : Int)
  | '0' :: 'b' :: rest =>
    (digitGroups? (fun c => c == '0' || c == '1') rest).map fun d => (ofDigits 2 d : Int)
  | _ =>
    let (negative, rest) := signed s
    (plainDigits? rest).map fun d =>
      if negative then -(ofDigits 10 d : Int) else (ofDigits 10 d : Int)

/-- A number with a fraction, an exponent or both, or one of the words. -/
def float? (s : List Char) : Option Binary64 :=
  let (negative, rest) := signed s
  if rest = ['i', 'n', 'f'] then some (.infinity negative)
  else if rest = ['n', 'a', 'n'] then some .nan
  else
    let mantissa := rest.takeWhile fun c => c != 'e' && c != 'E'
    let whole := mantissa.takeWhile (· != '.')
    let fractionFits := match mantissa.dropWhile (· != '.') with
      | _ :: fraction => (digitGroups? Char.isDigit fraction).isSome
      | [] => true
    let powerFits := match rest.drop mantissa.length with
      | _ :: power => (digitGroups? Char.isDigit (signed power).2).isSome
      | [] => true
    if (plainDigits? whole).isSome && fractionFits && powerFits then
      Binary64.ofChars? (s.filter (· != '_'))
    else none

/-- Whether a text has the form of a pattern, in which `d` stands for a digit. -/
def hasForm (form : String) (s : List Char) : Bool :=
  form.length == s.length &&
    (form.toList.zip s).all fun (f, c) => if f == 'd' then c.isDigit else f == c

def shownNumber (s : List Char) : Nat := (nat? s).getD 0

def isHourMinute (s : List Char) : Bool :=
  hasForm "dd:dd" s && shownNumber (s.take 2) < 24 && shownNumber (s.drop 3) < 60

/-- A time of day with an optional fraction of a second, which may be a leap second. -/
def isClock (s : List Char) : Bool :=
  isHourMinute (s.take 5) && hasForm ":dd" ((s.drop 5).take 3) &&
    shownNumber ((s.drop 6).take 2) ≤ 60 &&
    match s.drop 8 with
    | [] => true
    | '.' :: fraction => !fraction.isEmpty && fraction.all Char.isDigit
    | _ => false

def isClockWithOffset (s : List Char) : Bool :=
  let clock := s.takeWhile fun c => c.isDigit || c == ':' || c == '.'
  isClock clock &&
    match s.drop clock.length with
    | [] => true
    | [c] => c == 'Z' || c == 'z'
    | c :: rest => (c == '+' || c == '-') && isHourMinute rest

def isDay (s : List Char) : Bool :=
  hasForm "dddd-dd-dd" s &&
    (Calendar.Date.ofFields? (shownNumber (s.take 4)) (shownNumber ((s.drop 5).take 2))
      (shownNumber (s.drop 8))).isSome

/-- A date, a time of day, or both. -/
def isTime (s : List Char) : Bool :=
  isClock s ||
    (isDay (s.take 10) &&
      match s.drop 10 with
      | [] => true
      | c :: rest => (c == 'T' || c == 't' || c == ' ') && isClockWithOffset rest)

def isValueChar (c : Char) : Bool :=
  c.isAlphanum || c == '_' || c == '-' || c == '+' || c == '.' || c == ':'

/-- A value that is no string: a truth value, a time or a number. -/
def plainValue : Scan Toml := fun s =>
  let shown := s.takeWhile isValueChar
  let rest := s.drop shown.length
  let dated := match rest with
    | ' ' :: c :: _ =>
      if hasForm "dddd-dd-dd" shown && c.isDigit then
        shown ++ ' ' :: (rest.drop 1).takeWhile isValueChar
      else shown
    | _ => shown
  let value : Option Toml := match String.ofList dated with
    | "true" => some (.boolean true)
    | "false" => some (.boolean false)
    | written =>
      if isTime dated then some (.time written)
      else match integer? dated with
        | some i => if -(2 ^ 63) ≤ i ∧ i < 2 ^ 63 then some (.integer i) else none
        | none => (float? dated).map .float
  value.map fun value => (value, s.drop dated.length)

def arrayTail (item : Scan Toml) : Scan Toml := do
  space
  let items ← Scan.separated (do space; Scan.char ','; space) (do space; item)
  space
  if !items.isEmpty then
    let _ ← Scan.optional (Scan.char ',')
  space
  Scan.char ']'
  return .array items

def pair (item : Scan Toml) : Scan (List String × Toml) := do
  let path ← key
  Scan.char '='
  blanks
  return (path, ← item)

def inlineMembers? : List (List String × Toml) → Members → Option Members
  | [], members => some members
  | (path, value) :: rest, members => (addDotted? value path members).bind (inlineMembers? rest)

def inlineTail (item : Scan Toml) : Scan Toml := do
  blanks
  let pairs ← Scan.separated (do blanks; Scan.char ','; blanks) (pair item)
  blanks
  Scan.char '}'
  fun s => (inlineMembers? pairs []).map fun members => (.table .inlined members, s)

/-- A value that nests to less than `depth`. -/
def value : Nat → Scan Toml
  | 0 => fun _ => none
  | depth + 1 => fun s =>
    match s with
    | '"' :: _ | '\'' :: _ => (stringValue s).map fun (v, rest) => (.string v, rest)
    | '[' :: rest => arrayTail (value depth) rest
    | '{' :: rest => inlineTail (value depth) rest
    | _ => plainValue s

inductive Line where
  | header (path : List String)
  | nextHeader (path : List String)
  | pair (path : List String) (value : Toml)
  | empty

def line : Scan Line := do
  blanks
  let content ←
    (do
      Scan.char '['; Scan.char '['
      let path ← key
      Scan.char ']'; Scan.char ']'
      return Line.nextHeader path) <|>
    (do
      Scan.char '['
      let path ← key
      Scan.char ']'
      return Line.header path) <|>
    (do
      let (path, v) ← pair (value 80)
      return Line.pair path v) <|>
    (pure Line.empty)
  lineEnd
  return content

/-- The document after one more line; `current` is the path of the last header. -/
def addLine? (current : List String) (members : Members) :
    Line → Option (List String × Members)
  | .empty => some (current, members)
  | .header path => (atHeader? openTable? path members).map fun members => (path, members)
  | .nextHeader path => (atHeader? openNext? path members).map fun members => (path, members)
  | .pair path v =>
    let added := if current.isEmpty then addDotted? v path members
      else atHeader? (addToOpen? path v) current members
    added.map fun members => (current, members)

def addLines? (current : List String) (members : Members) : List Line → Option Members
  | [] => some members
  | l :: rest =>
    match addLine? current members l with
    | some (current, members) => addLines? current members rest
    | none => none

/-- A text without the mark of byte order that may start it. -/
def withoutMark : List Char → List Char
  | '\ufeff' :: rest => rest
  | s => s

def parse? (text : String) : Option Toml :=
  match Scan.many line (withoutMark text.toList) with
  | some (lines, rest) =>
    if rest.isEmpty then (addLines? [] [] lines).map (.table .header) else none
  | none => none

end Toml

end TableLoad
