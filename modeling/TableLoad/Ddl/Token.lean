import TableLoad.Text.Scan
import TableLoad.Text.Alphanumeric
import TableLoad.Text.Quoted

/-! # Tokens of a statement

Gaps of blanks and comments, words, names in three kinds of quotes, literals, and groups in
parentheses.  Inside a group only quotes and parentheses count.
-/
namespace TableLoad.Ddl
open Text

def isGapChar (c : Char) : Bool := c == ' ' || c == '\t' || c == '\r' || c == '\n'

def isWordChar (c : Char) : Bool := isAlphanumeric c || c == '_' || c == '$'

/-- What follows the text of a line comment.  A carriage return may end the line only before a
line feed. -/
def afterLineComment? : List Char → Option (List Char)
  | [] => some []
  | '\n' :: rest => some ('\n' :: rest)
  | '\r' :: '\n' :: rest => some ('\r' :: '\n' :: rest)
  | '\r' :: _ => none
  | _ :: rest => afterLineComment? rest

def afterBlockComment? : List Char → Option (List Char)
  | '*' :: '/' :: rest => some rest
  | _ :: rest => afterBlockComment? rest
  | [] => none

/-- What follows one blank or comment. -/
def afterGapPiece? : List Char → Option (List Char)
  | '-' :: '-' :: rest => afterLineComment? rest
  | '/' :: '*' :: rest => afterBlockComment? rest
  | c :: rest => if isGapChar c then some rest else none
  | [] => none

def afterGap (s : List Char) : List Char :=
  match afterGapPiece? s with
  | some rest => if rest.length < s.length then afterGap rest else s
  | none => s
termination_by s.length

def gap : Scan Unit := fun s => some ((), afterGap s)

/-- A keyword, given in upper case and read in any case, that no longer word starts with.  The sign
U+212A, whose lower case is `k`, is not taken for that letter: a reader that takes it so and splits
off as many bytes as the keyword has splits inside the sign. -/
def keyword (word : String) : Scan Unit := fun s =>
  let rest := s.drop word.length
  if (s.take word.length).map Char.toUpper = word.toList ∧ ¬ (rest.head?.any isWordChar) then
    some ((), rest)
  else none

def oneOf : List String → Scan Unit
  | [] => fun _ => none
  | word :: words => keyword word <|> oneOf words

def phrase : List String → Scan Unit
  | [] => pure ()
  | [word] => keyword word
  | word :: words => do keyword word; gap; phrase words

def word : Scan String := do return String.ofList (← Scan.some1 isWordChar)

/-- A name that starts with `first` and goes on to the next `last`. -/
def quotedName (first last : Char) : Scan String := do
  Scan.char first
  let name ← Scan.some1 (· != last)
  Scan.char last
  return String.ofList name

/-- A name, bare or in backticks, double quotes or brackets. -/
def name : Scan String :=
  quotedName backtick backtick <|> quotedName '"' '"' <|> quotedName '[' ']' <|> word

/-- A name that may be qualified; the last part counts. -/
def qualifiedName : Scan String := do
  let first ← name
  let more ← Scan.many (do gap; Scan.char '.'; gap; name)
  return more.getLast?.getD first

/-- The content of a string after its first apostrophe, up to the next one that is not doubled. -/
def stringTail? : List Char → Option (List Char × List Char)
  | '\'' :: '\'' :: rest => (stringTail? rest).map fun (more, last) => ('\'' :: more, last)
  | '\'' :: rest => some ([], rest)
  | c :: rest => (stringTail? rest).map fun (more, last) => (c :: more, last)
  | [] => none

/-- A string in apostrophes, which a letter N may precede. -/
def stringLiteral : Scan String := do
  let _ ← Scan.optional (Scan.char 'N' <|> Scan.char 'n')
  Scan.char '\''
  fun s => (stringTail? s).map fun (content, rest) => (String.ofList content, rest)

def digitRun : Scan (List Char) := Scan.some1 Char.isDigit

/-- A numeral: a sign, digits, and a point with more digits; as written. -/
def numeral : Scan String := do
  let (shown, _) ← Scan.consumed do
    let _ ← Scan.optional (Scan.char '-' <|> Scan.char '+')
    let _ ← digitRun
    Scan.optional (do Scan.char '.'; digitRun)
  return String.ofList shown

def isQuote (c : Char) : Bool := c == '\'' || c == '"' || c == backtick

def groupTail? (depth : Nat) (quote? : Option Char) :
    List Char → Option (List Char × List Char)
  | [] => none
  | c :: rest =>
    let go (depth : Nat) (quote? : Option Char) :=
      (groupTail? depth quote? rest).map fun (more, last) => (c :: more, last)
    match quote? with
    | some q => go depth (if c = q then none else some q)
    | none =>
      if isQuote c then go depth (some c)
      else if c = '(' then go (depth + 1) none
      else if c = ')' then
        match depth with
        | 0 => some ([], rest)
        | depth + 1 => go depth none
      else go depth none

/-- A group in parentheses; its inner text. -/
def group : Scan (List Char) := do
  Scan.char '('
  fun s => groupTail? 0 none s

/-- What is left from the first comma or closing parenthesis outside groups and quotes. -/
def entryEnd? (depth : Nat) (quote? : Option Char) : List Char → Option (List Char)
  | [] => none
  | c :: rest =>
    match quote? with
    | some q => entryEnd? depth (if c = q then none else some q) rest
    | none =>
      if isQuote c then entryEnd? depth (some c) rest
      else if c = '(' then entryEnd? (depth + 1) none rest
      else if c = ')' then
        match depth with
        | 0 => some (c :: rest)
        | depth + 1 => entryEnd? depth none rest
      else if c = ',' ∧ depth = 0 then some (c :: rest)
      else entryEnd? depth none rest

def restOfEntry : Scan Unit := fun s => (entryEnd? 0 none s).map fun rest => ((), rest)

theorem groupTail?_length {depth : Nat} {quote? : Option Char} {s inner rest : List Char}
    (h : groupTail? depth quote? s = some (inner, rest)) :
    inner.length + rest.length < s.length := by
  induction s generalizing depth quote? inner with
  | nil => simp [groupTail?] at h
  | cons c s ih =>
    have step {depth quote?} (h : ((groupTail? depth quote? s).map fun x => (c :: x.1, x.2)) =
        some (inner, rest)) : inner.length + rest.length < (c :: s).length := by
      obtain ⟨⟨more, last⟩, hm, he⟩ := Option.map_eq_some_iff.1 h
      simp only [Prod.mk.injEq] at he
      obtain ⟨rfl, rfl⟩ := he
      have := ih hm
      simp only [List.length_cons]
      omega
    unfold groupTail? at h
    split at h
    · exact step h
    · split at h
      · exact step h
      · split at h
        · exact step h
        · split at h
          · split at h
            · simp only [Option.some.injEq, Prod.mk.injEq] at h
              obtain ⟨rfl, rfl⟩ := h
              simp
            · exact step h
          · exact step h

theorem group_length {s inner rest : List Char} (h : group s = some (inner, rest)) :
    inner.length + rest.length + 1 < s.length := by
  cases s with
  | nil => simp [group, bind, Scan.char] at h
  | cons c s =>
    simp only [group, bind, Scan.char] at h
    by_cases hc : c = '('
    · simp only [hc, ↓reduceIte] at h
      have := groupTail?_length h
      simp only [List.length_cons]
      omega
    · simp [hc] at h

end TableLoad.Ddl
