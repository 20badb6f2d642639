import TableLoad.Text.Blank

/-! # Byte positions

Positions in a statement are counted in bytes of its UTF-8 form.  What stands at a position is
shown by the start of its line.
-/
namespace TableLoad.Text

def byteLength (s : List Char) : Nat := s.foldr (fun c n => c.utf8Size + n) 0

@[simp] theorem byteLength_nil : byteLength [] = 0 := rfl

@[simp] theorem byteLength_cons (c : Char) (s : List Char) :
    byteLength (c :: s) = c.utf8Size + byteLength s := rfl

@[simp] theorem byteLength_append (s t : List Char) :
    byteLength (s ++ t) = byteLength s + byteLength t := by
  induction s with
  | nil => simp
  | cons c s ih => simp [ih, Nat.add_assoc]

/-- The byte position at which a text goes on with `rest`. -/
def bytePosition (s rest : List Char) : Nat := byteLength s - byteLength rest

def firstLine (s : List Char) : List Char :=
  let line := s.takeWhile (· != '\n')
  if line.getLast? = some '\r' ∧ line.length < s.length then line.dropLast else line

/-- Up to thirty characters of the first line after the blanks. -/
def snippet (s : List Char) : List Char := (firstLine (trimStart s)).take 30

end TableLoad.Text
