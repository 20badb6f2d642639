import TableLoad.Proofs.Cell.Words
import TableLoad.Proofs.Number.Exact

/-! # Cleaning and values

In a column of numbers, truth values or moments, cleaning changes no value.  A cell without a value
may lose its text, but it gains a value in one way only: sheets show a truth value kept as a number
with a zero fraction.
-/
namespace TableLoad
open Text Number Calendar

/-- A word for a truth value with a point and zeros behind it. -/
def IsPointedTruth (s : List Char) (b : Bool) : Prop :=
  ∃ word zeros, s = word ++ '.' :: zeros ∧ IsTrimmed word ∧ truth? (String.ofList word) = some b ∧
    zeros ≠ [] ∧ ∀ c ∈ zeros, c = '0'

namespace Cell

def IsMisfit (cell : Cell) (type : ColumnType) : Prop := ∃ fault, cell.value type = .error fault

inductive IsLeftOf (type : ColumnType) (cell : Cell) : Cell → Prop
  | empty : IsLeftOf type cell .null
  | misfit {cleaned : Cell} (refused : cleaned.IsMisfit type) : IsLeftOf type cell cleaned
  | truth {content : String} {b : Bool} (column : type = .boolean) (text : cell = .text content)
      (pointed : IsPointedTruth (trimmed content.toList) b) : IsLeftOf type cell (.boolean b)

/-- The cleaned cell has the value of the cell; if the cell has none, nothing is made up. -/
structure KeepsMeaning (type : ColumnType) (cell cleaned : Cell) : Prop where
  kept : ∀ v, cell.value type = .ok v → cleaned.value type = .ok v
  left : cell.IsMisfit type → IsLeftOf type cell cleaned

section Meaning
variable {type : ColumnType} {cell cleaned : Cell} {s t : String}

theorem IsMisfit.not_value (h : cell.IsMisfit type) {v : Value} : cell.value type ≠ .ok v := by
  obtain ⟨fault, refused⟩ := h
  rw [refused]
  exact nofun

theorem isMisfit_iff : cell.IsMisfit type ↔ (cell.value type).toOption = none := by
  rw [IsMisfit]
  cases cell.value type with
  | error fault => simp [Except.toOption]
  | ok v => simp [Except.toOption]

/-- A cell that is cleaned to one of the same outcome keeps its meaning. -/
theorem KeepsMeaning.of_toOption_eq
    (same : (cleaned.value type).toOption = (cell.value type).toOption) :
    KeepsMeaning type cell cleaned where
  kept v hv := by
    rw [hv] at same
    cases h : cleaned.value type with
    | error fault =>
      rw [h] at same
      cases same
    | ok w =>
      rw [h] at same
      rw [Option.some.inj same]
  left h := .misfit (isMisfit_iff.2 (same.trans (isMisfit_iff.1 h)))

theorem KeepsMeaning.refl (type : ColumnType) (cell : Cell) : KeepsMeaning type cell cell :=
  .of_toOption_eq rfl

theorem IsMisfit.keepsMeaning_null (h : cell.IsMisfit type) : KeepsMeaning type cell .null :=
  ⟨fun _ hv => absurd hv h.not_value, fun _ => .empty⟩

/-- Outside text columns, a text has the value of what stands between its blank ends. -/
theorem toOption_value_text (plain : ∀ limit, type ≠ .text limit)
    (same : trimmed s.toList = trimmed t.toList) :
    ((text s).value type).toOption = ((text t).value type).toOption := by
  cases type with
  | text limit => exact absurd rfl (plain limit)
  | integer =>
    rw [value, value, integerValue, integerValue, same]
    cases integer? (trimmed t.toList) <;> rfl
  | decimal precision =>
    rw [value, value, decimalValue, decimalValue, same]
    cases decimal? (trimmed t.toList) <;> rfl
  | boolean =>
    rw [value, value, booleanValue, booleanValue, truth?_congr same]
    cases truth? t <;> rfl
  | timestamp =>
    rw [value, value, timestampValue, timestampValue, ofText?_congr same]
    cases Moment.ofText? t <;> rfl

theorem isMisfit_of_present? (plain : ∀ limit, type ≠ .text limit)
    (absent : present? s.toList = none) : (text s).IsMisfit type := by
  have letter := startsWithLetter_of_present? absent
  cases type with
  | text limit => exact absurd rfl (plain limit)
  | integer =>
    have none : integer? (trimmed s.toList) = none := by
      rw [integer?, letter.int64?_eq, letter.decimal?_eq]
      rfl
    exact ⟨.notInteger s, by rw [value, integerValue, none]; rfl⟩
  | decimal precision =>
    exact ⟨.notNumber s, by rw [value, decimalValue, letter.decimal?_eq]; rfl⟩
  | boolean =>
    exact ⟨.notBoolean s, by rw [value, booleanValue, truth?_of_present? absent]; rfl⟩
  | timestamp =>
    exact ⟨.notMoment s, by rw [value, timestampValue, Moment.ofText?_eq_none letter]; rfl⟩

theorem keepsMeaning_ofPresent? (plain : ∀ limit, type ≠ .text limit) :
    KeepsMeaning type (text s) (ofPresent? (present? s.toList)) := by
  cases present : present? s.toList with
  | none => exact (isMisfit_of_present? plain present).keepsMeaning_null
  | some kept =>
    obtain ⟨rfl, isPresent⟩ := isPresent_of_present? present
    apply KeepsMeaning.of_toOption_eq
    apply toOption_value_text plain
    rw [String.toList_ofList, isPresent.trimmed.trimmed_eq]

end Meaning

end Cell

theorem point_not_mem_of_truth? {s : String} {b : Bool} (h : truth? s = some b) :
    '.' ∉ trimmed s.toList := by
  have words : ∀ word ∈ trueWords ++ falseWords, '.' ∉ word.toList := by decide
  intro point
  have kept : '.' ∈ lowercase (trimmed s.toList) :=
    toLower_mem_lowercaseAfter (by decide) [] point
  have known : String.ofList (lowercase (trimmed s.toList)) ∈ trueWords ++ falseWords := by
    rw [truth?] at h
    simp only [List.contains_iff_mem] at h
    rw [List.mem_append]
    split at h
    · exact .inl ‹_›
    · split at h
      · exact .inr ‹_›
      · cases h
  apply words _ known
  rwa [String.toList_ofList]

/-- A text that becomes a truth value by the loss of a zero fraction. -/
theorem isPointedTruth_of_withoutZeroFraction {s : List Char} {b : Bool} (ends : IsTrimmed s)
    (refused : truth? (String.ofList s) = none)
    (taken : truth? (String.ofList (withoutZeroFraction s)) = some b) : IsPointedTruth s b := by
  rcases withoutZeroFraction_cases s with
    same | ⟨sign, digits, zeros, cut, whole, -, -, -, some, all⟩
  · rw [same, refused] at taken
    cases taken
  · have word := isTrimmed_withoutZeroFraction ends
    rw [cut] at word taken
    exact ⟨sign ++ digits, zeros, whole, word, taken, some, all⟩

namespace Cell

theorem keepsMeaning_cleanTruth (s : String) : KeepsMeaning .boolean (text s) (cleanTruth s) := by
  have whole : KeepsMeaning .boolean (text s) (ofPresent? (present? s.toList)) :=
    keepsMeaning_ofPresent? (by simp)
  rw [cleanTruth]
  cases present : present? s.toList with
  | none =>
    rw [present] at whole
    exact whole
  | some kept =>
    obtain ⟨rfl, isPresent⟩ := isPresent_of_present? present
    rw [present] at whole
    dsimp only
    have ends : trimmed s.toList = trimmed (String.ofList (trimmed s.toList)).toList := by
      rw [String.toList_ofList, isPresent.trimmed.trimmed_eq]
    cases taken : truth? (String.ofList (withoutZeroFraction (trimmed s.toList))) with
    | none => exact whole
    | some b =>
      cases read : truth? s with
      | some b' =>
        -- A word has no point, so no fraction was taken off it.
        rw [withoutZeroFraction_of_no_point (point_not_mem_of_truth? read), ← truth?_congr ends,
          read] at taken
        obtain rfl := Option.some.inj taken
        apply KeepsMeaning.of_toOption_eq
        rw [value, value, booleanValue, booleanValue, read]
        rfl
      | none =>
        have misfit : (text s).IsMisfit .boolean :=
          ⟨.notBoolean s, by rw [value, booleanValue, read]; rfl⟩
        have pointed := isPointedTruth_of_withoutZeroFraction isPresent.trimmed
          (by rw [← truth?_congr ends, read]) taken
        exact ⟨fun _ hv => absurd hv misfit.not_value, fun _ => .truth rfl rfl pointed⟩

theorem isNat_one_of_isNat_zero {n : Binary64} (zero : n.isNat 0 = true) : n.isNat 1 = false := by
  cases n with
  | nan => rfl
  | infinity negative => rfl
  | finite negative units fits =>
    have positive := unitsPerOne_pos
    simp only [Binary64.isNat, Nat.zero_mul, Bool.and_eq_true, beq_iff_eq] at zero
    simp only [Binary64.isNat, zero.1, Nat.one_mul, Bool.and_eq_false_iff, beq_eq_false_iff_ne]
    exact .inl positive.ne

theorem isMisfit_nan {type : ColumnType} (plain : ∀ limit, type ≠ .text limit) :
    (number .nan).IsMisfit type := by
  cases type with
  | text limit => exact absurd rfl (plain limit)
  | _ => exact ⟨_, rfl⟩

theorem keepsMeaning_number_boolean {n : Binary64} (filled : ¬ n.isNaN = true) :
    KeepsMeaning .boolean (number n) ((number n).clean .boolean).1 := by
  rw [clean_number_boolean filled]
  apply KeepsMeaning.of_toOption_eq
  rw [value, value]
  dsimp only
  by_cases zero : n.isNat 0 = true
  · rw [if_pos zero, booleanValue, booleanValue, isNat_one_of_isNat_zero zero]
    simp [zero]
  · rw [if_neg zero]
    by_cases one : n.isNat 1 = true
    · rw [if_pos one, booleanValue, booleanValue, if_pos one]
    · rw [if_neg one]

theorem keepsMeaning_number (n : Binary64) {type : ColumnType}
    (plain : ∀ limit, type ≠ .text limit) :
    KeepsMeaning type (number n) ((number n).clean type).1 := by
  by_cases empty : n.isNaN = true
  · have nan : n = .nan := by
      cases n with
      | nan => rfl
      | _ => cases empty
    rw [clean_of_isNaN empty, nan]
    exact (isMisfit_nan plain).keepsMeaning_null
  · by_cases truth : type = .boolean
    · rw [truth]
      exact keepsMeaning_number_boolean empty
    · rw [clean_number empty plain truth]
      exact .refl type _

/-- Cleaning keeps the meaning of a cell in every column but one of texts. -/
theorem keepsMeaning_clean (cell : Cell) {type : ColumnType}
    (plain : ∀ limit, type ≠ .text limit) : KeepsMeaning type cell (cell.clean type).1 := by
  cases cell with
  | null => exact .refl type _
  | number n => exact keepsMeaning_number n plain
  | boolean b =>
    cases type with
    | text limit => exact absurd rfl (plain limit)
    | _ => exact .refl _ _
  | text s =>
    cases type with
    | text limit => exact absurd rfl (plain limit)
    | boolean => exact keepsMeaning_cleanTruth s
    | _ => exact keepsMeaning_ofPresent? plain

end Cell

/-- What cleaning puts into a column of numbers, truth values or moments keeps the meaning of the
cell that stood there. -/
theorem Schema.clean_keepsMeaning (s : Schema) {row : Row} {position : Nat} {column : Column}
    {cell : Cell} (place : s.columns[position]? = some column) (filled : row[position]? = some cell)
    (plain : ∀ limit, column.type ≠ .text limit) :
    ∃ cleaned, (s.clean row).cells[position]? = some cleaned ∧
      Cell.KeepsMeaning column.type cell cleaned := by
  refine ⟨(cell.clean column.type).1, ?_, cell.keepsMeaning_clean plain⟩
  rw [Schema.clean, List.getElem?_map, getElem?_cleanCells, filled, place]
  rfl

/-- A truth value that a sheet shows with a fraction, in the column `ativo`. -/
theorem Schema.clean_keepsMeaning_of_pointed_truth :
    ∃ cleaned, (cadastro.clean [.null, .null, .null, .null, .null, .text " 1.00 "]).cells[5]? =
      some cleaned ∧ Cell.KeepsMeaning .boolean (.text " 1.00 ") cleaned := by
  have ativo : cadastro.columns[5]? =
    some { name := "ativo", type := .boolean, default? := some (.boolean true) } := rfl
  exact cadastro.clean_keepsMeaning ativo rfl nofun

end TableLoad
