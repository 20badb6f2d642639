import TableLoad.Json.Basic
import TableLoad.Number.Scaling
import TableLoad.Text.Bytes

/-! # Reading JSON

A whole text as one document, or the first fault with its line and column.  Documents nest to a
depth of 127.  Of two members of an object with one key the later counts, and members are put in
the order of their keys.
-/
namespace TableLoad.Json
open Number Text

inductive Fault where
  | endInList
  | endInObject
  | endInString
  | endInValue
  | noColon
  | noListEnd
  | noObjectEnd
  | noWord
  | noValue
  | badEscape
  | badNumber
  | tooLarge
  | controlCharacter
  | keyNotString
  | loneSurrogate
  | cutSurrogate
  | trailingComma
  | trailingCharacters
  | tooDeep
  deriving DecidableEq, Repr

def Fault.message : Fault → String
  | endInList => "EOF while parsing a list"
  | endInObject => "EOF while parsing an object"
  | endInString => "EOF while parsing a string"
  | endInValue => "EOF while parsing a value"
  | noColon => "expected `:`"
  | noListEnd => "expected `,` or `]`"
  | noObjectEnd => "expected `,` or `\x7d`"
  | noWord => "expected ident"
  | noValue => "expected value"
  | badEscape => "invalid escape"
  | badNumber => "invalid number"
  | tooLarge => "number out of range"
  | controlCharacter => "control character (\\u0000-\\u001F) found while parsing a string"
  | keyNotString => "key must be a string"
  | loneSurrogate => "lone leading surrogate in hex escape"
  | cutSurrogate => "unexpected end of hex escape"
  | trailingComma => "trailing comma"
  | trailingCharacters => "trailing characters"
  | tooDeep => "recursion limit exceeded"

/-- A fault, what is left of the text there, and whether the fault is in the next byte. -/
structure Stop where
  fault : Fault
  rest : List Char
  inNext : Bool
  deriving DecidableEq, Repr

/-- Reads an `α` from the front of a text. -/
abbrev Read (α : Type) := Except Stop (α × List Char)

/-- A fault in what was just read, before `rest`. -/
def stopBefore {α : Type} (fault : Fault) (rest : List Char) : Except Stop α :=
  .error ⟨fault, rest, false⟩

/-- A fault in the first character of `rest`. -/
def stopIn {α : Type} (fault : Fault) (rest : List Char) : Except Stop α :=
  .error ⟨fault, rest, true⟩

def isSpace (c : Char) : Bool := c == ' ' || c == '\n' || c == '\t' || c == '\r'

def afterSpace (s : List Char) : List Char := s.dropWhile isSpace

/-- The rest of a word such as `null`. -/
def readWord (value : Json) : List Char → List Char → Read Json
  | [], s => .ok (value, s)
  | _ :: _, [] => stopBefore .endInValue []
  | expected :: more, c :: rest =>
    if c = expected then readWord value more rest else stopBefore .noWord rest

def hexDigit? (c : Char) : Option Nat :=
  if '0' ≤ c && c ≤ '9' then some (c.toNat - '0'.toNat)
  else if 'a' ≤ c && c ≤ 'f' then some (c.toNat - 'a'.toNat + 10)
  else if 'A' ≤ c && c ≤ 'F' then some (c.toNat - 'A'.toNat + 10)
  else none

def dropBytes (n : Nat) : List Char → List Char
  | [] => []
  | c :: rest => if n = 0 then c :: rest else dropBytes (n - c.utf8Size) rest

def readHex (s : List Char) : Read Nat :=
  match s with
  | a :: b :: c :: d :: rest =>
    match hexDigit? a, hexDigit? b, hexDigit? c, hexDigit? d with
    | some a, some b, some c, some d => .ok (((a * 16 + b) * 16 + c) * 16 + d, rest)
    | _, _, _, _ => stopBefore .badEscape (dropBytes 4 s)
  | _ => if 4 ≤ byteLength s then stopBefore .badEscape (dropBytes 4 s) else stopBefore .endInString []

/-- The second half of a pair of surrogates, after the first. -/
def readLowSurrogate (high : Nat) : List Char → Read Char
  | [] => stopBefore .endInString []
  | '\\' :: [] => stopBefore .endInString []
  | '\\' :: 'u' :: rest =>
    match readHex rest with
    | .error stop => .error stop
    | .ok (low, rest) =>
      if 0xdc00 ≤ low && low ≤ 0xdfff then
        .ok (Char.ofNat ((high - 0xd800) * 0x400 + (low - 0xdc00) + 0x10000), rest)
      else stopBefore .loneSurrogate rest
  | '\\' :: _ :: rest => stopBefore .cutSurrogate rest
  | _ :: rest => stopBefore .cutSurrogate rest

/-- The character of an escape, after its `u`. -/
def readUnicode (s : List Char) : Read Char :=
  match readHex s with
  | .error stop => .error stop
  | .ok (n, rest) =>
    if 0xdc00 ≤ n && n ≤ 0xdfff then stopBefore .loneSurrogate rest
    else if 0xd800 ≤ n && n ≤ 0xdbff then readLowSurrogate n rest
    else .ok (Char.ofNat n, rest)

/-- The character of an escape, after its backslash. -/
def readEscape : List Char → Read Char
  | [] => stopBefore .endInString []
  | c :: rest =>
    if c == '"' || c == '\\' || c == '/' then .ok (c, rest)
    else if c == 'b' then .ok ('\x08', rest)
    else if c == 'f' then .ok ('\x0c', rest)
    else if c == 'n' then .ok ('\n', rest)
    else if c == 'r' then .ok ('\r', rest)
    else if c == 't' then .ok ('\t', rest)
    else if c == 'u' then readUnicode rest
    else stopBefore .badEscape rest

/-- The rest of a string, after its quote and `shown`, which is in reverse order. -/
def readString (shown : List Char) (s : List Char) : Read String :=
  match s with
  | [] => stopBefore .endInString []
  | c :: rest =>
    if c = '"' then .ok (String.ofList shown.reverse, rest)
    else if c = '\\' then
      match readEscape rest with
      | .error stop => .error stop
      | .ok (d, last) =>
        if last.length ≤ rest.length then readString (d :: shown) last
        else stopBefore .badEscape last
    else if c.toNat < 0x20 then stopBefore .controlCharacter rest
    else readString (c :: shown) rest
termination_by s.length

/-- A number from its parts, which must be finite. -/
def finish (n : Numeral) (rest : List Char) : Read Json :=
  let x := n.toScaled
  if x.isFinite then .ok (.float x, rest) else stopBefore .tooLarge rest

/-- Exponents from here on are not read any further. -/
def exponentLimit : Nat := 2 ^ 31

/-- The digits of an exponent, after those of `power`; nothing and the rest where the limit is
reached. -/
def exponentDigits (power : Nat) : List Char → Option Nat × List Char
  | [] => (some power, [])
  | c :: rest =>
    if c.isDigit then
      let longer := 10 * power + (c.toNat - '0'.toNat)
      if longer < exponentLimit then exponentDigits longer rest else (none, rest)
    else (some power, c :: rest)

def readExponent (n : Numeral) (s : List Char) : Read Json :=
  let (negative, s) := signed s
  match s with
  | [] => stopBefore .endInValue []
  | c :: rest =>
    if c.isDigit then
      match exponentDigits 0 s with
      | (some power, rest) =>
        finish { n with exponent := n.exponent + if negative then -(power : Int) else power } rest
      | (none, rest) =>
        if n.coefficient ≠ 0 && !negative then stopBefore .tooLarge rest
        else finish { n with coefficient := 0 } (rest.dropWhile Char.isDigit)
    else stopBefore .badNumber rest

def readPower (n : Numeral) (s : List Char) : Read Json :=
  match s with
  | c :: rest => if c == 'e' || c == 'E' then readExponent n rest else finish n s
  | [] => finish n s

/-- An integer that fits 64 bits stays exact; minus zero and longer ones become floats. -/
def readInteger (negative : Bool) (whole rest : List Char) : Read Json :=
  match nat? whole with
  | some n =>
    if negative && 0 < n && n ≤ 2 ^ 63 then .ok (.integer (-(n : Int)), rest)
    else if !negative && n < 2 ^ 64 then .ok (.integer n, rest)
    else finish (.ofLeadingDigits negative whole []) rest
  | none => stopIn .badNumber rest

/-- A number, after its sign. -/
def readNumber (negative : Bool) (s : List Char) : Read Json :=
  let whole := s.takeWhile Char.isDigit
  match s with
  | [] => stopBefore .endInValue []
  | c :: rest =>
    if !c.isDigit then stopBefore .badNumber rest
    else if c = '0' ∧ 1 < whole.length then stopIn .badNumber rest
    else match s.dropWhile Char.isDigit with
      | '.' :: after =>
        let fraction := after.takeWhile Char.isDigit
        let rest := after.dropWhile Char.isDigit
        if fraction.isEmpty then
          if rest.isEmpty then stopIn .endInValue rest else stopIn .badNumber rest
        else readPower (.ofLeadingDigits negative whole fraction) rest
      | e :: after =>
        if e == 'e' || e == 'E' then readExponent (.ofLeadingDigits negative whole []) after
        else readInteger negative whole (e :: after)
      | [] => readInteger negative whole []

/-- The further items of a list, after `found`, which is in reverse order. -/
def readItems (item : List Char → Read Json) (found : List Json) (s : List Char) : Read Json :=
  match afterSpace s with
  | [] => stopIn .endInList []
  | ']' :: rest => .ok (.array found.reverse, rest)
  | c :: rest =>
    let next :=
      if found.isEmpty then .ok (c :: rest)
      else if c = ',' then
        match afterSpace rest with
        | [] => stopIn .endInValue []
        | ']' :: after => stopIn .trailingComma (']' :: after)
        | after => .ok after
      else stopIn .noListEnd (c :: rest)
    match next with
    | .error stop => .error stop
    | .ok start =>
      match item start with
      | .error stop => .error stop
      | .ok (value, last) =>
        if last.length < s.length then readItems item (value :: found) last
        else stopIn .noValue last
termination_by s.length

def readMemberValue (item : List Char → Read Json) (s : List Char) : Read Json :=
  match afterSpace s with
  | [] => stopIn .endInObject []
  | ':' :: rest => item rest
  | rest => stopIn .noColon rest

/-- The further members of an object, after those `found`. -/
def readMembers (item : List Char → Read Json) (first : Bool) (found : List (String × Json))
    (s : List Char) : Read Json :=
  match afterSpace s with
  | [] => stopIn .endInObject []
  | '}' :: rest => .ok (.object found, rest)
  | c :: rest =>
    let next :=
      if first then if c = '"' then .ok rest else stopIn .keyNotString (c :: rest)
      else if c = ',' then
        match afterSpace rest with
        | [] => stopIn .endInValue []
        | '"' :: after => .ok after
        | '}' :: after => stopIn .trailingComma ('}' :: after)
        | after => stopIn .keyNotString after
      else stopIn .noObjectEnd (c :: rest)
    match next with
    | .error stop => .error stop
    | .ok start =>
      match readString [] start with
      | .error stop => .error stop
      | .ok (key, after) =>
        match readMemberValue item after with
        | .error stop => .error stop
        | .ok (value, last) =>
          if last.length < s.length then
            readMembers item false (insertMember key value found) last
          else stopIn .noValue last
termination_by s.length

/-- One value that nests to less than `depth`. -/
def readValue (depth : Nat) (s : List Char) : Read Json :=
  match afterSpace s with
  | [] => stopIn .endInValue []
  | 'n' :: rest => readWord .null ['u', 'l', 'l'] rest
  | 't' :: rest => readWord (.bool true) ['r', 'u', 'e'] rest
  | 'f' :: rest => readWord (.bool false) ['a', 'l', 's', 'e'] rest
  | '-' :: rest => readNumber true rest
  | '"' :: rest =>
    match readString [] rest with
    | .error stop => .error stop
    | .ok (value, rest) => .ok (.string value, rest)
  | c :: rest =>
    if c.isDigit then readNumber false (c :: rest)
    else if c = '[' || c = '{' then
      match depth with
      | 0 => stopIn .tooDeep (c :: rest)
      | depth + 1 =>
        if c = '[' then readItems (readValue depth) [] rest
        else readMembers (readValue depth) true [] rest
    else stopIn .noValue (c :: rest)

/-- A fault with its place: lines and columns count from one, columns in bytes. -/
structure Error where
  fault : Fault
  line : Nat
  column : Nat
  deriving DecidableEq, Repr

def Error.message (e : Error) : String :=
  s!"{e.fault.message} at line {e.line} column {e.column}"

def Stop.error (s : List Char) (stop : Stop) : Error :=
  let before := s.take (s.length - stop.rest.length)
  let lastLine := (before.reverse.takeWhile (· != '\n')).reverse
  let line := 1 + before.count '\n'
  if stop.inNext then
    match stop.rest with
    | '\n' :: _ => ⟨stop.fault, line + 1, 0⟩
    | _ :: _ => ⟨stop.fault, line, byteLength lastLine + 1⟩
    | [] => ⟨stop.fault, line, byteLength lastLine⟩
  else ⟨stop.fault, line, byteLength lastLine⟩

/-- The document that a text is from end to end. -/
def parse (text : String) : Except Error Json :=
  let s := text.toList
  match readValue 127 s with
  | .error stop => .error (stop.error s)
  | .ok (value, rest) =>
    match afterSpace rest with
    | [] => .ok value
    | rest => .error (Stop.error s ⟨.trailingCharacters, rest, true⟩)

end TableLoad.Json
