import TableLoad.Json.Basic
import TableLoad.Number.Shortest

/-! # Printing JSON

Documents on one line, or with every item on a line of its own, indented by two blanks a level.
-/
namespace TableLoad.Json
open Number

def fourHex (n : Nat) : List Char :=
  let shown := Nat.toDigits 16 n
  List.replicate (4 - shown.length) '0' ++ shown

def escaped (c : Char) : List Char :=
  if c == '"' then ['\\', '"']
  else if c == '\\' then ['\\', '\\']
  else if c == '\n' then ['\\', 'n']
  else if c == '\r' then ['\\', 'r']
  else if c == '\t' then ['\\', 't']
  else if c.toNat == 0x08 then ['\\', 'b']
  else if c.toNat == 0x0c then ['\\', 'f']
  else if c.toNat < 0x20 then '\\' :: 'u' :: fourHex c.toNat
  else [c]

def quoted (s : String) : String :=
  String.ofList ('"' :: (s.toList.flatMap escaped ++ ['"']))

/-- A decimal `d · 10^e` with a point, and with an exponent when its leading digit is far from the
point. -/
def scientific (d : List Char) (e : Int) : List Char :=
  let point := (d.length : Int) + e
  if 0 ≤ e && point ≤ 16 then positional d e ++ ['.', '0']
  else if -5 < point && point ≤ 16 then positional d e
  else
    let power := 'e' :: (toString (point - 1)).toList
    match d with
    | [c] => c :: power
    | c :: more => c :: '.' :: (more ++ power)
    | [] => power

/-- A number with a fraction; there is no text for those that are not finite. -/
def floatText : Binary64 → String
  | .finite negative units _ =>
    let body :=
      if units = 0 then ['0', '.', '0']
      else
        let (d, e) := shortest .toEven units
        scientific (digits d) e
    String.ofList ((if negative then ['-'] else []) ++ body)
  | _ => "null"

mutual

def compact : Json → String
  | null => "null"
  | bool b => if b then "true" else "false"
  | integer i => toString i
  | float x => floatText x
  | string s => quoted s
  | array items => "[" ++ compactItems items ++ "]"
  | object members => "\x7b" ++ compactMembers members ++ "\x7d"

def compactItems : List Json → String
  | [] => ""
  | [item] => compact item
  | item :: rest => compact item ++ "," ++ compactItems rest

def compactMembers : List (String × Json) → String
  | [] => ""
  | [(key, value)] => quoted key ++ ":" ++ compact value
  | (key, value) :: rest => quoted key ++ ":" ++ compact value ++ "," ++ compactMembers rest

end

def newLine (level : Nat) : String := "\n" ++ String.ofList (List.replicate (2 * level) ' ')

mutual

/-- The document in lines, inside `level` others. -/
def prettyAt (level : Nat) : Json → String
  | array [] => "[]"
  | array items => "[" ++ prettyItems (level + 1) items ++ newLine level ++ "]"
  | object [] => "\x7b\x7d"
  | object members => "\x7b" ++ prettyMembers (level + 1) members ++ newLine level ++ "\x7d"
  | null => "null"
  | bool b => if b then "true" else "false"
  | integer i => toString i
  | float x => floatText x
  | string s => quoted s

def prettyItems (level : Nat) : List Json → String
  | [] => ""
  | [item] => newLine level ++ prettyAt level item
  | item :: rest => newLine level ++ prettyAt level item ++ "," ++ prettyItems level rest

def prettyMembers (level : Nat) : List (String × Json) → String
  | [] => ""
  | [(key, value)] => newLine level ++ quoted key ++ ": " ++ prettyAt level value
  | (key, value) :: rest =>
    newLine level ++ quoted key ++ ": " ++ prettyAt level value ++ "," ++
      prettyMembers level rest

end

def pretty (j : Json) : String := prettyAt 0 j

end TableLoad.Json
