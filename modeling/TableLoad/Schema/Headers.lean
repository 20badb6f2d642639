import TableLoad.Schema.Basic

/-! # Matching headers to columns

Each header of a sheet gets at most one column, and each column at most one header.  Headers that
are the name of a column go first; the others may contain a word that is common for a column.
-/
namespace TableLoad
open Text

/-- Words for common columns: the column, and what its header may contain. -/
def headerWords : List (String × List String) := [
  ("nome", ["name", "produto", "item"]),
  ("preco", ["price", "valor", "custo"]),
  ("categoria", ["category", "tipo", "class"]),
  ("descricao", ["description", "desc", "detalhes"]),
  ("email", ["e-mail", "e_mail", "mail"]),
  ("ativo", ["active", "status"])]

/-- Whether `word` stands somewhere in `s`. -/
def occursIn (word : List Char) : List Char → Bool
  | [] => word.isEmpty
  | c :: rest => word.isPrefixOf (c :: rest) || occursIn word rest

namespace Schema

/-- The first headers that name a column get it. `taken` are the places given away before. -/
def matchNames (s : Schema) (taken : List Nat) : List String → List (Option Nat) × List Nat
  | [] => ([], taken)
  | header :: rest =>
    match s.position? (trim header) with
    | some p =>
      if taken.contains p then
        let (slots, taken) := s.matchNames taken rest
        (none :: slots, taken)
      else
        let (slots, taken) := s.matchNames (p :: taken) rest
        (some p :: slots, taken)
    | none =>
      let (slots, taken) := s.matchNames taken rest
      (none :: slots, taken)

/-- The first free column that the header holds a word for. -/
def columnByWord? (s : Schema) (taken : List Nat) (header : String) : Option Nat :=
  let shown := lowercase (trimmed header.toList)
  headerWords.findSome? fun (name, words) =>
    match s.position? name with
    | some p =>
      if !taken.contains p && words.any fun w => occursIn w.toList shown then some p else none
    | none => none

/-- Headers without a column get one by its words. -/
def matchWords (s : Schema) (taken : List Nat) :
    List (String × Option Nat) → List (Option Nat)
  | [] => []
  | (_, some p) :: rest => some p :: s.matchWords taken rest
  | (header, none) :: rest =>
    match s.columnByWord? taken header with
    | some p => some p :: s.matchWords (p :: taken) rest
    | none => none :: s.matchWords taken rest

def matchHeaders (s : Schema) (headers : List String) : List (Option Nat) :=
  let (slots, taken) := s.matchNames [] headers
  s.matchWords taken (headers.zip slots)

end Schema

end TableLoad
