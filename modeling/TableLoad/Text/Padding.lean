/-! # Padding

Texts in columns: blanks up to a count of characters, on the right or on the left.  A longer text
stays whole.
-/
namespace TableLoad.Text

def blanks (count : Nat) : String := "".pushn ' ' count

def padRight (width : Nat) (s : String) : String := s ++ blanks (width - s.length)

def padLeft (width : Nat) (s : String) : String := blanks (width - s.length) ++ s

end TableLoad.Text
