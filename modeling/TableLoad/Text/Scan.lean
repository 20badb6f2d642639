/-! # Scanners

A scanner reads a part of a text from its front and leaves the rest, or refuses.  What follows a
refusal starts again where the refused scanner started.
-/
namespace TableLoad

/-- Reads an `α` from the front of a text. -/
def Scan (α : Type) : Type := List Char → Option (α × List Char)

namespace Scan

variable {α β : Type}

instance : Monad Scan where
  pure a := fun s => some (a, s)
  bind p f := fun s =>
    match p s with
    | some (a, rest) => f a rest
    | none => none

def orElse (p : Scan α) (q : Unit → Scan α) : Scan α := fun s =>
  match p s with
  | some result => some result
  | none => q () s

instance : OrElse (Scan α) := ⟨orElse⟩

def optional (p : Scan α) : Scan (Option α) := fun s =>
  match p s with
  | some (a, rest) => some (some a, rest)
  | none => some (none, s)

/-- Reads as often as the scanner accepts and gets further. -/
def repeated (p : Scan α) (s : List Char) : List α × List Char :=
  match p s with
  | some (a, rest) =>
    if rest.length < s.length then
      let (more, last) := repeated p rest
      (a :: more, last)
    else ([], s)
  | none => ([], s)
termination_by s.length

def many (p : Scan α) : Scan (List α) := fun s => some (repeated p s)

/-- Items with a separator between neighbours; none at all is accepted. -/
def separated (sep : Scan Unit) (item : Scan α) : Scan (List α) := fun s =>
  match item s with
  | some (first, rest) =>
    let (more, last) := repeated (do sep; item) rest
    some (first :: more, last)
  | none => some ([], s)

/-- What the scanner read, with the text it read it from. -/
def consumed (p : Scan α) : Scan (List Char × α) := fun s =>
  match p s with
  | some (a, rest) => some ((s.take (s.length - rest.length), a), rest)
  | none => none

def atEnd : Scan Unit := fun s => if s.isEmpty then some ((), s) else none

def char (c : Char) : Scan Unit := fun s =>
  match s with
  | d :: rest => if d = c then some ((), rest) else none
  | [] => none

/-- At least one character of a class, as many as there are. -/
def some1 (p : Char → Bool) : Scan (List Char) := fun s =>
  let shown := s.takeWhile p
  if shown.isEmpty then none else some (shown, s.dropWhile p)

end Scan

end TableLoad
