import TableLoad.Text.CaseTable

/-! # Lower and upper case

Unicode's full case maps on texts.  The upper case of one character may be several (`ß` becomes
`SS`); the lower case of a sigma depends on its neighbours.  ASCII letters have their usual images,
and comparison without case of ASCII letters alone is a relation of its own.
-/
namespace TableLoad.Text

def upperChar (c : Char) : List Char :=
  if c.toNat < 0x80 then [c.toUpper]
  else match upperExpansions.lookup c.toNat with
    | some image => image.map Char.ofNat
    | none => [((upperRuns.image? c.toNat).map Char.ofNat).getD c]

def uppercase (s : List Char) : List Char := s.flatMap upperChar

/-- The lower case of one character on its own; dotted capital I keeps its dot. -/
def lowerChar (c : Char) : List Char :=
  if c.toNat < 0x80 then [c.toLower]
  else if c.toNat == 0x130 then ['i', Char.ofNat 0x307]
  else [((lowerRuns.image? c.toNat).map Char.ofNat).getD c]

def isCased (c : Char) : Bool :=
  if c.toNat < 0x80 then c.isAlpha else casedRanges.has c.toNat

def isCaseIgnorable (c : Char) : Bool :=
  if c.toNat < 0x80 then c == '\'' || c == '.' || c == ':' || c == '^' || c.toNat == 0x60
  else caseIgnorableRanges.has c.toNat

/-- Whether a cased letter comes first once ignorable characters are passed over. -/
def meetsCased (s : List Char) : Bool :=
  ((s.dropWhile isCaseIgnorable).head?).any isCased

/-- Lower case of a text that follows the characters `before`, nearest first.  A capital sigma
that ends a word becomes the final sigma. -/
def lowercaseAfter (before : List Char) : List Char → List Char
  | [] => []
  | c :: rest =>
    let image :=
      if c.toNat == 0x3a3 then
        [if meetsCased before && !meetsCased rest then Char.ofNat 0x3c2 else Char.ofNat 0x3c3]
      else lowerChar c
    image ++ lowercaseAfter (c :: before) rest

def lowercase (s : List Char) : List Char := lowercaseAfter [] s

def eqAsciiCaseless (a b : List Char) : Bool := a.map Char.toLower == b.map Char.toLower

end TableLoad.Text
