/-! # Doubling

Text between two marks, in which every character that could end it or change its meaning is
written twice.
-/
namespace TableLoad.Text

/-- The text with every one of the `special` characters written twice. -/
def doubling (special : List Char) (s : List Char) : List Char :=
  s.flatMap fun c => if special.contains c then [c, c] else [c]

@[simp] theorem doubling_nil (special : List Char) : doubling special [] = [] := rfl

@[simp] theorem doubling_cons (special : List Char) (c : Char) (s : List Char) :
    doubling special (c :: s) =
      (if special.contains c then [c, c] else [c]) ++ doubling special s := rfl

@[simp] theorem doubling_append (special s t : List Char) :
    doubling special (s ++ t) = doubling special s ++ doubling special t := by
  simp [doubling]

/-- The text between `first` and `last`, with `last` doubled inside. -/
def enclosed (first last : Char) (s : List Char) : List Char :=
  first :: (doubling [last] s ++ [last])

def backtick : Char := '\x60'

def apostrophed (s : String) : String := String.ofList (enclosed '\'' '\'' s.toList)

end TableLoad.Text
