import TableLoad.Proofs.Text.Blank
import TableLoad.Record.Cleaning

/-! # Clean cells

Each step of cleaning could make work for another one: a clip may leave a blank end, a word for
"no value" or a zero fraction.  The order of the steps makes every result one that all of them
leave alone, so a row that is clean stays as it is.
-/
namespace TableLoad
open Text

/-- A text that stands for a value: without blank ends, not empty, and no word for "no value". -/
structure IsPresent (s : List Char) : Prop where
  trimmed : IsTrimmed s
  filled : s ≠ []
  valued : nullWords.any (eqAsciiCaseless s) = false

theorem IsPresent.present?_eq {s : List Char} (h : IsPresent s) : present? s = some s := by
  rw [present?, h.trimmed.trimmed_eq]
  simp [h.filled, h.valued]

theorem isPresent_of_present? {s t : List Char} (h : present? s = some t) :
    t = trimmed s ∧ IsPresent t := by
  rw [present?] at h
  split at h
  · cases h
  · rename_i valued
    cases h
    simp only [Bool.or_eq_true, List.isEmpty_iff, not_or, Bool.not_eq_true] at valued
    exact ⟨rfl, isTrimmed_trimmed s, valued.1, valued.2⟩

section ZeroFraction
variable {s : List Char}

/-- A text that loses its fraction is a whole number before the point and zeros behind it. -/
theorem withoutZeroFraction_cases (s : List Char) : withoutZeroFraction s = s ∨
    ∃ sign digits zeros, withoutZeroFraction s = sign ++ digits ∧
      s = sign ++ digits ++ '.' :: zeros ∧ (sign = [] ∨ sign = ['-']) ∧ digits ≠ [] ∧
        (∀ c ∈ digits, c.isDigit = true) ∧ zeros ≠ [] ∧ ∀ c ∈ zeros, c = '0' := by
  have whole := List.takeWhile_append_dropWhile (p := (· != '.')) (l := s)
  have stop := List.head?_dropWhile_not (· != '.') s
  cases after : s.dropWhile (· != '.') with
  | nil =>
    left
    rw [withoutZeroFraction, after]
  | cons point zeros =>
    rw [after] at whole stop
    obtain rfl : point = '.' := by simpa using stop
    obtain ⟨sign, digits, signed, before, cut⟩ : ∃ sign digits, (sign = [] ∨ sign = ['-']) ∧
        s.takeWhile (· != '.') = sign ++ digits ∧ withoutZeroFraction s =
          if !digits.isEmpty && digits.all Char.isDigit && !zeros.isEmpty && zeros.all (· == '0')
            then sign ++ digits else s := by
      rw [withoutZeroFraction, after]
      dsimp only
      split
      · rename_i digits minus
        exact ⟨['-'], digits, .inr rfl, minus, by rw [minus]; rfl⟩
      · exact ⟨[], _, .inl rfl, rfl, rfl⟩
    rw [cut]
    split
    · rename_i fraction
      simp only [Bool.and_eq_true, Bool.not_eq_true', List.isEmpty_eq_false_iff,
        List.all_eq_true, beq_iff_eq] at fraction
      obtain ⟨⟨⟨filled, all⟩, some⟩, only⟩ := fraction
      exact .inr ⟨sign, digits, zeros, rfl, by rw [← before, whole], signed, filled, all, some,
        only⟩
    · exact .inl rfl

theorem withoutZeroFraction_isPrefix (s : List Char) : withoutZeroFraction s <+: s := by
  rcases withoutZeroFraction_cases s with same | ⟨sign, digits, zeros, cut, whole, -⟩
  · exact ⟨[], by rw [same, List.append_nil]⟩
  · exact ⟨'.' :: zeros, by rw [cut, ← whole]⟩

theorem withoutZeroFraction_of_no_point (h : '.' ∉ s) : withoutZeroFraction s = s := by
  rcases withoutZeroFraction_cases s with same | ⟨sign, digits, zeros, -, whole, -⟩
  · exact same
  · exact absurd (by rw [whole]; simp) h

theorem withoutZeroFraction_idem (s : List Char) :
    withoutZeroFraction (withoutZeroFraction s) = withoutZeroFraction s := by
  rcases withoutZeroFraction_cases s with same | ⟨sign, digits, zeros, cut, -, signed, -, all, -⟩
  · rw [same, same]
  · refine withoutZeroFraction_of_no_point fun point => ?_
    rw [cut, List.mem_append] at point
    rcases point with point | point
    · rcases signed with rfl | rfl <;> simp at point
    · exact absurd (all _ point) (by decide)

theorem isTrimmed_withoutZeroFraction (h : IsTrimmed s) : IsTrimmed (withoutZeroFraction s) := by
  refine h.of_isPrefix (withoutZeroFraction_isPrefix s) fun c hc => ?_
  rcases withoutZeroFraction_cases s with same | ⟨sign, digits, zeros, cut, -, -, filled, all, -⟩
  · rw [same] at hc
    exact h.last c hc
  · rw [cut, List.getLast?_append, List.getLast?_eq_some_getLast filled] at hc
    obtain rfl := Option.some.inj hc
    exact not_isBlank_of_isDigit (all _ (List.getLast_mem filled))

end ZeroFraction

section Clipped
variable {limit : Option Nat} {s : List Char}

theorem clipped_of_short (short : ∀ n, limit = some n → s.length ≤ n) :
    clipped limit s = (s, none) := by
  cases limit with
  | none => rfl
  | some n => exact if_neg (Nat.not_lt_of_le (short n rfl))

theorem clipped_of_long {n : Nat} (long : n < s.length) :
    clipped (some n) s =
      (trimEnd (s.take n), some ⟨s.length, (trimEnd (s.take n)).length⟩) :=
  if_pos long

theorem clipped_cases (limit : Option Nat) (s : List Char) :
    (∃ n, limit = some n ∧ n < s.length) ∨ ∀ n, limit = some n → s.length ≤ n := by
  simpa only [not_exists, not_and, Nat.not_lt] using
    Classical.em (∃ n, limit = some n ∧ n < s.length)

theorem clipped_isPrefix (limit : Option Nat) (s : List Char) : (clipped limit s).1 <+: s := by
  rcases clipped_cases limit s with ⟨n, rfl, long⟩ | short
  · rw [clipped_of_long long]
    exact (trimEnd_isPrefix _).trans (List.take_prefix ..)
  · exact ⟨[], by rw [clipped_of_short short, List.append_nil]⟩

theorem length_clipped_le (s : List Char) {n : Nat} (hn : limit = some n) :
    (clipped limit s).1.length ≤ n := by
  rcases clipped_cases limit s with ⟨m, hm, long⟩ | short
  · obtain rfl := Option.some.inj (hm.symm.trans hn)
    rw [hm, clipped_of_long long]
    exact Nat.le_trans (trimEnd_length_le _) (List.length_take_le ..)
  · rw [clipped_of_short short]
    exact short n hn

theorem isTrimmed_clipped (limit : Option Nat) (h : IsTrimmed s) : IsTrimmed (clipped limit s).1 := by
  refine h.of_isPrefix (clipped_isPrefix limit s) ?_
  rcases clipped_cases limit s with ⟨n, rfl, long⟩ | short
  · rw [clipped_of_long long]
    exact not_isBlank_getLast?_trimEnd _
  · rw [clipped_of_short short]
    exact h.last

end Clipped

structure IsKeptText (limit : Option Nat) (s : List Char) : Prop where
  present : IsPresent s
  short : ∀ n, limit = some n → s.length ≤ n
  whole : withoutZeroFraction s = s

theorem IsKeptText.cleanText_eq {limit : Option Nat} {s : List Char} (h : IsKeptText limit s) :
    cleanText limit (String.ofList s) = (.text (String.ofList s), none) := by
  rw [cleanText, String.toList_ofList, h.present.trimmed.trimmed_eq, clipped_of_short h.short]
  simp only [h.whole, h.present.present?_eq, Cell.ofPresent?]

/-- What a text column keeps of a text is nothing, or a start of it that the column leaves alone. -/
theorem cleanText_cases (limit : Option Nat) (s : String) : (cleanText limit s).1 = .null ∨
    ∃ t, (cleanText limit s).1 = .text (String.ofList t) ∧ IsKeptText limit t ∧
      t <+: trimmed s.toList := by
  have start := clipped_isPrefix limit (trimmed s.toList)
  have ends := isTrimmed_clipped limit (isTrimmed_trimmed s.toList)
  have short (n : Nat) (hn : limit = some n) := length_clipped_le (trimmed s.toList) hn
  rw [cleanText]
  dsimp only
  generalize (clipped limit (trimmed s.toList)).1 = kept at *
  cases hp : present? (withoutZeroFraction kept) with
  | none => exact .inl rfl
  | some t =>
    obtain ⟨same, present⟩ := isPresent_of_present? hp
    rw [(isTrimmed_withoutZeroFraction ends).trimmed_eq] at same
    subst same
    have inside := withoutZeroFraction_isPrefix kept
    exact .inr ⟨_, rfl, ⟨present, fun n hn => Nat.le_trans inside.length_le (short n hn),
      withoutZeroFraction_idem kept⟩, inside.trans start⟩

/-- A clip that leaves a zero fraction, and one that leaves a word for "no value". -/
example : cleanText (some 4) "11.05" = (.text "11", some ⟨5, 4⟩) ∧
    cleanText (some 5) "none left" = (.null, some ⟨9, 4⟩) := by decide

namespace Cell

/-- A cell that cleaning leaves alone in a column of the given type. -/
def IsClean (cell : Cell) (type : ColumnType) : Prop := cell.clean type = (cell, none)

theorem isClean_null (type : ColumnType) : IsClean .null type := rfl

theorem isClean_cleanText (limit : Option UInt32) (s : String) :
    IsClean (cleanText (ColumnType.maxLength? (.text limit)) s).1 (.text limit) := by
  rcases cleanText_cases (ColumnType.maxLength? (.text limit)) s with empty | ⟨t, text, kept, -⟩
  · rw [empty]
    exact isClean_null _
  · rw [text]
    exact kept.cleanText_eq

theorem isClean_cleanTruth (s : String) : IsClean (cleanTruth s) .boolean := by
  unfold cleanTruth
  split
  · exact isClean_null _
  · rename_i t present
    have kept := (isPresent_of_present? present).2.present?_eq
    split
    · rfl
    · rename_i other
      change (cleanTruth (String.ofList t), none) = _
      simp only [cleanTruth, String.toList_ofList, kept, other]

theorem isClean_ofPresent? {type : ColumnType} (plain : ∀ limit, type ≠ .text limit)
    (other : type ≠ .boolean) (s : List Char) : IsClean (ofPresent? (present? s)) type := by
  cases present : present? s with
  | none => exact isClean_null _
  | some t =>
    have kept := (isPresent_of_present? present).2.present?_eq
    cases type with
    | text limit => exact absurd rfl (plain limit)
    | boolean => exact absurd rfl other
    | _ =>
      change (ofPresent? (present? (String.ofList t).toList), none) = _
      rw [String.toList_ofList, kept]

theorem clean_of_isNaN {n : Number.Binary64} (empty : n.isNaN = true) (type : ColumnType) :
    (number n).clean type = (.null, none) :=
  if_pos empty

theorem clean_number {n : Number.Binary64} {type : ColumnType} (filled : ¬ n.isNaN = true)
    (plain : ∀ limit, type ≠ .text limit) (other : type ≠ .boolean) :
    (number n).clean type = (number n, none) := by
  cases type with
  | text limit => exact absurd rfl (plain limit)
  | boolean => exact absurd rfl other
  | _ => exact if_neg filled

theorem clean_number_text {n : Number.Binary64} (filled : ¬ n.isNaN = true)
    (limit : Option UInt32) : (number n).clean (.text limit) =
      cleanText (ColumnType.text limit).maxLength? (numberText n) :=
  if_neg filled

theorem clean_number_boolean {n : Number.Binary64} (filled : ¬ n.isNaN = true) :
    (number n).clean .boolean = (if n.isNat 0 = true then boolean false
      else if n.isNat 1 = true then boolean true else number n, none) :=
  if_neg filled

theorem isClean_number (n : Number.Binary64) (type : ColumnType) :
    IsClean ((number n).clean type).1 type := by
  by_cases empty : n.isNaN = true
  · rw [clean_of_isNaN empty]
    exact isClean_null type
  cases type with
  | text limit =>
    have shown : (number n).clean (.text limit) =
        cleanText (ColumnType.maxLength? (.text limit)) (numberText n) := if_neg empty
    rw [shown]
    exact isClean_cleanText limit _
  | boolean =>
    have truth := clean_number_boolean empty
    by_cases zero : n.isNat 0 = true
    · rw [truth, if_pos zero]
      rfl
    · by_cases one : n.isNat 1 = true
      · rw [truth, if_neg zero, if_pos one]
        rfl
      · rw [if_neg zero, if_neg one] at truth
        rw [truth]
        exact truth
  | _ =>
    rw [clean_number empty (by simp) (by simp)]
    exact clean_number empty (by simp) (by simp)

theorem isClean_clean (cell : Cell) (type : ColumnType) : IsClean (cell.clean type).1 type := by
  cases cell with
  | null => exact isClean_null type
  | number n => exact isClean_number n type
  | boolean b =>
    cases type with
    | text limit => exact isClean_cleanText limit _
    | _ => rfl
  | text s =>
    cases type with
    | text limit => exact isClean_cleanText limit s
    | boolean => exact isClean_cleanTruth s
    | _ => exact isClean_ofPresent? (by simp) (by simp) s.toList

end Cell

theorem getElem?_cleanCells (columns : List Column) (cells : List Cell) (position : Nat) :
    (cleanCells columns cells)[position]? = cells[position]?.map fun cell =>
      match columns[position]? with
      | some column => cell.clean column.type
      | none => (cell, none) := by
  induction columns generalizing cells position with
  | nil => simp [cleanCells]
  | cons column columns ih =>
    cases cells with
    | nil => simp [cleanCells]
    | cons cell cells =>
      cases position with
      | zero => simp [cleanCells]
      | succ position => simpa [cleanCells] using ih cells position

theorem cleanCells_cleanCells (columns : List Column) (cells : List Cell) :
    cleanCells columns ((cleanCells columns cells).map Prod.fst) =
      (cleanCells columns cells).map fun cleaned => (cleaned.1, none) := by
  induction columns generalizing cells with
  | nil => simp [cleanCells]
  | cons column columns ih =>
    cases cells with
    | nil => simp [cleanCells]
    | cons cell cells =>
      have first : (cell.clean column.type).1.clean column.type = _ :=
        Cell.isClean_clean cell column.type
      simp only [cleanCells, List.map_cons, ih, first]

theorem length_cleanCells (columns : List Column) (cells : List Cell) :
    (cleanCells columns cells).length = cells.length := by
  induction columns generalizing cells with
  | nil => simp [cleanCells]
  | cons column columns ih =>
    cases cells with
    | nil => rfl
    | cons cell cells => simp [cleanCells, ih]

theorem drop_cleanCells (columns : List Column) (cells : List Cell) :
    ((cleanCells columns cells).map Prod.fst).drop columns.length =
      cells.drop columns.length := by
  induction columns generalizing cells with
  | nil => simp [cleanCells, Function.comp_def]
  | cons column columns ih =>
    cases cells with
    | nil => rfl
    | cons cell cells => simpa [cleanCells] using ih cells

theorem truncationsFrom_of_no_clip (position : Nat) (cells : List Cell) :
    truncationsFrom position (cells.map fun cell => (cell, none)) = [] := by
  induction cells generalizing position with
  | nil => rfl
  | cons cell cells ih => exact ih (position + 1)

/-- A clean row is left as it is, and nothing in it is clipped; cells past the last column are
never touched. -/
theorem Schema.clean_idempotent (s : Schema) (row : Row) :
    s.clean (s.clean row).cells = ⟨(s.clean row).cells, []⟩ ∧
      (s.clean row).cells.length = row.length ∧
        (s.clean row).cells.drop s.columns.length = row.drop s.columns.length := by
  refine ⟨?_, ?_, drop_cleanCells s.columns row⟩
  · have again : cleanCells s.columns (s.clean row).cells =
        (s.clean row).cells.map fun cell => (cell, none) := by
      simp only [clean, cleanCells_cleanCells, List.map_map, Function.comp_def]
    rw [clean, again, truncationsFrom_of_no_clip, List.map_map]
    simp [Function.comp_def]
  · simp [clean, length_cleanCells]

end TableLoad
