import TableLoad.Number.Numeral

/-! # Reading digits back

The digits of a natural number, with or without zeros in front, read back as the number, and the
text of an integer as the integer.  The text of a number is made of few characters.
-/
namespace TableLoad.Number

theorem isDigit_of_mem_digits {n : Nat} {c : Char} (h : c ∈ digits n) : c.isDigit = true :=
  Nat.isDigit_of_mem_toDigits (by decide) (by decide) h

theorem isDigit_of_mem_padded {width n : Nat} {c : Char} (h : c ∈ padded width n) :
    c.isDigit = true := by
  rcases List.mem_append.1 h with h | h
  · rw [List.eq_of_mem_replicate h]
    decide
  · exact isDigit_of_mem_digits h

theorem digits_ne_nil (n : Nat) : digits n ≠ [] := Nat.toDigits_ne_nil

theorem padded_ne_nil (width n : Nat) : padded width n ≠ [] := by
  simp [padded, digits_ne_nil]

theorem le_length_padded (width n : Nat) : width ≤ (padded width n).length := by
  rw [padded, List.length_append, List.length_replicate]
  omega

theorem length_padded {width n : Nat} (hw : 0 < width) (h : n < 10 ^ width) :
    (padded width n).length = width := by
  have bound := (Nat.length_toDigits_le_iff (b := 10) (by decide) hw).2 h
  rw [padded, List.length_append, List.length_replicate]
  change width - (Nat.toDigits 10 n).length + (Nat.toDigits 10 n).length = width
  omega

theorem nat?_of_digits {s : List Char} (filled : s ≠ []) (all : ∀ c ∈ s, c.isDigit = true) :
    nat? s = some (Nat.ofDigitChars 10 s 0) := by
  have hs : s.all Char.isDigit = true := List.all_eq_true.2 all
  have he : s.isEmpty = false := by simpa using filled
  rw [nat?, he, hs]
  rfl

theorem nat?_digits (n : Nat) : nat? (digits n) = some n := by
  rw [nat?_of_digits (digits_ne_nil n) fun _ => isDigit_of_mem_digits, digits,
    Nat.ofDigitChars_ten_toDigits]

theorem nat?_padded (width n : Nat) : nat? (padded width n) = some n := by
  rw [nat?_of_digits (padded_ne_nil width n) fun _ => isDigit_of_mem_padded, padded,
    Nat.ofDigitChars_append, Nat.ofDigitChars_replicate_zero, Nat.mul_zero, digits,
    Nat.ofDigitChars_ten_toDigits]

theorem signed_cons {c : Char} (minus : c ≠ '-') (plus : c ≠ '+') (s : List Char) :
    signed (c :: s) = (false, c :: s) := by
  unfold signed
  split
  · rename_i he
    exact absurd (List.cons.inj he).1 minus
  · rename_i he
    exact absurd (List.cons.inj he).1 plus
  · rfl

theorem signed_of_isDigit {c : Char} (digit : c.isDigit = true) (s : List Char) :
    signed (c :: s) = (false, c :: s) := by
  apply signed_cons
  all_goals
    rintro rfl
    exact absurd digit (by decide)

theorem signed_of_digits {s : List Char} (all : ∀ c ∈ s, c.isDigit = true) :
    signed s = (false, s) := by
  cases s with
  | nil => rfl
  | cons c s => exact signed_of_isDigit (all c List.mem_cons_self) s

theorem toList_toString_int (i : Int) :
    (toString i).toList = if i < 0 then '-' :: digits i.natAbs else digits i.natAbs := by
  rw [Int.toString_eq_repr, Int.repr_eq_if]
  by_cases h : 0 ≤ i
  · have he : i.toNat = i.natAbs := by omega
    rw [if_pos h, if_neg (by omega), Nat.toList_repr, he]
    rfl
  · have he : (-i).toNat = i.natAbs := by omega
    rw [if_neg h, if_pos (by omega), String.toList_append, Nat.toList_repr, he]
    rfl

theorem int?_toString (i : Int) : int? (toString i).toList = some i := by
  rw [toList_toString_int]
  by_cases h : i < 0
  · have read : int? ('-' :: digits i.natAbs) = some (-(i.natAbs : Int)) := by
      simp [int?, signed, nat?_digits]
    rw [if_pos h, read, Option.some.injEq]
    omega
  · have read : int? (digits i.natAbs) = some (i.natAbs : Int) := by
      simp [int?, signed_of_digits fun _ => isDigit_of_mem_digits, nat?_digits]
    rw [if_neg h, read, Option.some.injEq]
    omega

/-- Digits, signs and points, and the letters of infinity and not-a-number. -/
def isNumeralChar (c : Char) : Bool := c.isDigit || ['-', '.', 'N', 'a', 'i', 'n', 'f'].contains c

theorem isNumeralChar_of_isDigit {c : Char} (h : c.isDigit = true) : isNumeralChar c = true := by
  simp [isNumeralChar, h]

theorem isNumeralChar_of_mem_positional {d : List Char} {e : Int}
    (all : ∀ c ∈ d, c.isDigit = true) {c : Char} (h : c ∈ positional d e) :
    isNumeralChar c = true := by
  have digit : ∀ c ∈ d, isNumeralChar c = true := fun c hc => isNumeralChar_of_isDigit (all c hc)
  have zero {k : Nat} : ∀ c ∈ List.replicate k '0', isNumeralChar c = true := by
    intro c hc
    rw [List.eq_of_mem_replicate hc]
    decide
  have point : isNumeralChar '.' = true := by decide
  unfold positional at h
  dsimp only at h
  split at h
  · exact (List.mem_append.1 h).elim (digit c) (zero c)
  · split at h
    · rcases List.mem_append.1 h with h | h
      · exact digit c (List.mem_of_mem_take h)
      · rcases List.mem_cons.1 h with rfl | h
        · exact point
        · exact digit c (List.mem_of_mem_drop h)
    · rcases List.mem_cons.1 h with rfl | h
      · decide
      · rcases List.mem_cons.1 h with rfl | h
        · exact point
        · exact (List.mem_append.1 h).elim (zero c) (digit c)

theorem positional_ne_nil {d : List Char} (filled : d ≠ []) (e : Int) : positional d e ≠ [] := by
  unfold positional
  dsimp only
  split
  · simp [filled]
  · split <;> simp

namespace Binary64

theorem isNumeralChar_of_mem_chars {n : Binary64} {c : Char} (h : c ∈ n.chars) :
    isNumeralChar c = true := by
  have minus (negative : Bool) : ∀ c ∈ (if negative then ['-'] else []),
      isNumeralChar c = true := by
    cases negative <;> simp [isNumeralChar]
  cases n with
  | nan =>
    have all : nan.chars.all isNumeralChar = true := by decide
    exact List.all_eq_true.1 all c h
  | infinity negative =>
    have all : (infinity negative).chars.all isNumeralChar = true := by cases negative <;> decide
    exact List.all_eq_true.1 all c h
  | finite negative units fits =>
    rcases List.mem_append.1 h with h | h
    · exact minus negative c h
    · dsimp only at h
      split at h
      · rw [List.mem_singleton.1 h]
        decide
      · exact isNumeralChar_of_mem_positional (fun _ => isDigit_of_mem_digits) h

theorem chars_ne_nil (n : Binary64) : n.chars ≠ [] := by
  cases n with
  | nan => simp [chars]
  | infinity negative => simp [chars]
  | finite negative units fits =>
    intro empty
    have body := (List.append_eq_nil_iff.1 empty).2
    dsimp only at body
    split at body
    · simp at body
    · exact positional_ne_nil (digits_ne_nil _) _ body

theorem isNumeralChar_of_mem_fixedChars {places : Nat} {n : Binary64} {c : Char}
    (h : c ∈ n.fixedChars places) : isNumeralChar c = true := by
  cases n with
  | nan => exact isNumeralChar_of_mem_chars (n := nan) h
  | infinity negative => exact isNumeralChar_of_mem_chars (n := infinity negative) h
  | finite negative units fits =>
    have digit : ∀ c ∈ padded (places + 1) (roundDiv .toEven (units * 10 ^ places) unitsPerOne),
        isNumeralChar c = true := fun c hc => isNumeralChar_of_isDigit (isDigit_of_mem_padded hc)
    rcases List.mem_append.1 h with h | h
    · cases negative with
      | false => simp at h
      | true =>
        rw [List.mem_singleton.1 h]
        decide
    · split at h
      · exact digit c (List.mem_of_mem_take h)
      · rcases List.mem_append.1 h with h | h
        · exact digit c (List.mem_of_mem_take h)
        · rcases List.mem_cons.1 h with rfl | h
          · decide
          · exact digit c (List.mem_of_mem_drop h)

theorem fixedChars_ne_nil (places : Nat) (n : Binary64) : n.fixedChars places ≠ [] := by
  cases n with
  | nan => exact chars_ne_nil nan
  | infinity negative => exact chars_ne_nil (infinity negative)
  | finite negative units fits =>
    have long := le_length_padded (places + 1)
      (roundDiv .toEven (units * 10 ^ places) unitsPerOne)
    intro empty
    have body := (List.append_eq_nil_iff.1 empty).2
    split at body
    · have := congrArg List.length body
      rw [List.length_take, List.length_nil] at this
      omega
    · simp at body

end Binary64

end TableLoad.Number
