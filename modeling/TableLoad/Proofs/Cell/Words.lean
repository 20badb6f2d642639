import TableLoad.Cell.Value
import TableLoad.Proofs.Number.Digits
import TableLoad.Proofs.Record.Cleaning
import TableLoad.Proofs.Text.Case

/-! # Words in cells

A word for "no value" has no value in any column but one of texts: a number or a moment does not
begin with a letter, and no truth value has such a word.
-/
namespace TableLoad
open Text Number Calendar

section Letters
variable {c : Char}

theorem isAlpha_toLower (c : Char) : c.toLower.isAlpha = c.isAlpha := apply_toLower (by decide) c

theorem not_isDigit_of_isAlpha (letter : c.isAlpha = true) : c.isDigit = false := by
  have code := toNat_of_isAlpha letter
  rw [Bool.eq_false_iff]
  intro digit
  rw [Char.isDigit_iff_toNat] at digit
  simp only [Char.reduceToNat] at digit
  omega

theorem not_isBlank_of_isAlpha (letter : c.isAlpha = true) : isBlank c = false := by
  have code := toNat_of_isAlpha letter
  simp only [isBlank, Bool.or_eq_false_iff, Bool.and_eq_false_iff, decide_eq_false_iff_not,
    beq_eq_false_iff_ne]
  omega

/-- A text that begins with a letter, if it has a beginning. -/
def StartsWithLetter (s : List Char) : Prop := ∀ c ∈ s.head?, c.isAlpha = true

namespace StartsWithLetter
variable {s : List Char}

theorem head?_ne (h : StartsWithLetter s) {c : Char} (other : c.isAlpha = false) :
    s.head? ≠ some c := by
  intro hc
  rw [h c hc] at other
  cases other

theorem takeWhile_isDigit (h : StartsWithLetter s) : s.takeWhile Char.isDigit = [] := by
  cases s with
  | nil => rfl
  | cons c s => simp [not_isDigit_of_isAlpha (h c rfl)]

theorem dropWhile_isDigit (h : StartsWithLetter s) : s.dropWhile Char.isDigit = s := by
  have whole := List.takeWhile_append_dropWhile (p := Char.isDigit) (l := s)
  rwa [h.takeWhile_isDigit, List.nil_append] at whole

theorem trimStart_eq (h : StartsWithLetter s) : trimStart s = s := by
  cases s with
  | nil => rfl
  | cons c s => exact trimStart_of_not_blank (not_isBlank_of_isAlpha (h c rfl))

theorem take (h : StartsWithLetter s) (n : Nat) : StartsWithLetter (s.take n) := by
  intro c hc
  rw [List.head?_take] at hc
  split at hc
  · cases hc
  · exact h c hc

theorem nat?_eq (h : StartsWithLetter s) : nat? s = none := by
  cases s with
  | nil => rfl
  | cons c s => simp [nat?, not_isDigit_of_isAlpha (h c rfl)]

theorem signed_eq (h : StartsWithLetter s) : signed s = (false, s) := by
  unfold signed
  split
  · exact absurd rfl (h.head?_ne (by decide))
  · exact absurd rfl (h.head?_ne (by decide))
  · rfl

theorem int64?_eq (h : StartsWithLetter s) : int64? s = none := by
  rw [int64?, int?, h.signed_eq]
  dsimp only
  rw [h.nat?_eq]
  rfl

theorem withPoint (h : StartsWithLetter s) : StartsWithLetter (withPoint s) := by
  unfold TableLoad.withPoint
  split
  · intro c hc
    rw [List.head?_map, Option.mem_def, Option.map_eq_some_iff] at hc
    obtain ⟨d, hd, rfl⟩ := hc
    have letter := h d hd
    split
    · rename_i comma
      rw [eq_of_beq comma] at letter
      cases letter
    · exact letter
  · exact h

/-- Letters are neither digits nor a point, so there is nothing to read. -/
theorem numeral_ofChars?_eq (h : StartsWithLetter s) : Numeral.ofChars? s = none := by
  have point : ∀ rest, s ≠ '.' :: rest := by
    rintro rest rfl
    exact h.head?_ne (by decide) rfl
  rw [Numeral.ofChars?, h.signed_eq]
  dsimp only
  rw [Numeral.unsigned?, h.takeWhile_isDigit, h.dropWhile_isDigit]
  split
  rename_i fraction rest cut
  split at cut
  · exact absurd rfl (point _)
  · cases cut
    rfl

theorem decimal?_eq (h : StartsWithLetter s) : decimal? s = none := by
  rw [decimal?, Binary64.ofChars?]
  split
  split
  · rfl
  · rfl
  · rfl
  · rw [h.withPoint.numeral_ofChars?_eq]
    rfl

theorem number?_eq (h : StartsWithLetter s) (most : Nat) : number? most s = none := by
  rw [number?, (h.take most).takeWhile_isDigit]
  rfl

theorem lenientNumber?_eq (h : StartsWithLetter s) (field : Field) :
    lenientNumber? field s = none := by
  unfold lenientNumber?
  split
  · exact absurd rfl (h.head?_ne (by decide))
  · exact absurd rfl (h.head?_ne (by decide))
  · rw [h.number?_eq]
    rfl

theorem exactNumber?_eq (h : StartsWithLetter s) (width : Nat) : exactNumber? width s = none := by
  rw [exactNumber?, (h.take width).nat?_eq]
  split <;> rfl

end StartsWithLetter

end Letters

namespace Calendar

def Piece.isNumber : Piece → Bool
  | .number _ => true
  | .exactly _ => true
  | _ => false

theorem Piece.read_eq_none {s : List Char} (letter : StartsWithLetter s) (fields : Fields)
    {piece : Piece} (number : piece.isNumber = true) : piece.read fields s = none := by
  cases piece with
  | number field =>
    rw [Piece.read, letter.trimStart_eq, letter.lenientNumber?_eq]
    rfl
  | exactly field =>
    rw [Piece.read, letter.exactNumber?_eq]
    rfl
  | _ => cases number

/-- A text that begins with a letter is no moment, as every spelling begins with a number. -/
theorem Moment.ofText?_eq_none {s : String} (letter : StartsWithLetter (trimmed s.toList)) :
    Moment.ofText? s = none := by
  have first : ∀ spelling ∈ spellings, spelling.head?.any Piece.isNumber = true := by decide
  refine List.findSome?_eq_none_iff.2 fun spelling known => ?_
  have number := first spelling known
  cases spelling with
  | nil => cases number
  | cons piece pieces =>
    rw [Spelling.moment?, Spelling.fields?, Piece.read_eq_none letter {} number]
    rfl

end Calendar

theorem present?_eq_none_iff {s : List Char} : present? s = none ↔
    trimmed s = [] ∨ ∃ word ∈ nullWords, eqAsciiCaseless (trimmed s) word = true := by
  rw [present?]
  simp [← Classical.or_iff_not_imp_left]

theorem startsWithLetter_of_present? {s : List Char} (absent : present? s = none) :
    StartsWithLetter (trimmed s) := by
  rcases present?_eq_none_iff.1 absent with empty | ⟨word, known, same⟩
  · rw [empty]
    intro c hc
    cases hc
  · have letters : ∀ word ∈ nullWords, word.head?.all Char.isAlpha = true := by decide
    have first := letters word known
    intro c hc
    have heads := congrArg List.head? (eq_of_beq same)
    rw [List.head?_map, List.head?_map, hc] at heads
    cases word with
    | nil => cases heads
    | cons d word =>
      have letter : d.isAlpha = true := first
      rw [← isAlpha_toLower, Option.some.inj heads, isAlpha_toLower, letter]

/-- No word for "no value" is a truth value. -/
theorem truth?_of_present? {s : String} (absent : present? s.toList = none) : truth? s = none := by
  have words : ∀ word ∈ [] :: nullWords, truth? (String.ofList word) = none := by decide
  have same : ∃ word ∈ [] :: nullWords, lowercase (trimmed s.toList) = lowercase word := by
    rcases present?_eq_none_iff.1 absent with empty | ⟨word, known, same⟩
    · exact ⟨[], List.mem_cons_self, by rw [empty]⟩
    · exact ⟨word, List.mem_cons_of_mem _ known, lowercase_eq_of_eqAsciiCaseless same⟩
  obtain ⟨word, known, lower⟩ := same
  have trim : ∀ word ∈ [] :: nullWords, trimmed word = word := by decide
  have none := words word known
  rw [truth?, String.toList_ofList, trim word known, ← lower] at none
  exact none

theorem truth?_congr {s t : String} (same : trimmed s.toList = trimmed t.toList) :
    truth? s = truth? t := by
  rw [truth?, truth?, same]

theorem ofText?_congr {s t : String} (same : trimmed s.toList = trimmed t.toList) :
    Moment.ofText? s = Moment.ofText? t := by
  rw [Moment.ofText?, Moment.ofText?, same]

end TableLoad
