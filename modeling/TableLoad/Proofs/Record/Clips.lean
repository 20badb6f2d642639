import TableLoad.Proofs.Record.Cleaning

/-! # Clips

What a text column with a limit keeps of a cell, and the notes of the clips.  A cell has a note
exactly when its text is longer than the limit, and no cell of another column has one.
-/
namespace TableLoad
open Text

/-- The text that a cell shows in a text column, without blank ends; an empty cell shows none. -/
def Cell.shown? : Cell → Option (List Char)
  | .null => none
  | .boolean b => some (trimmed (booleanText b).toList)
  | .number n => if n.isNaN then none else some (trimmed (numberText n).toList)
  | .text s => some (trimmed s.toList)

/-- A text column keeps nothing of an empty cell, and cleans the text of any other. -/
theorem Cell.clean_text_cases (cell : Cell) (limit : Option UInt32) :
    (cell.shown? = none ∧ cell.clean (.text limit) = (.null, none)) ∨
      ∃ s : String, cell.shown? = some (trimmed s.toList) ∧
        cell.clean (.text limit) = cleanText (ColumnType.maxLength? (.text limit)) s := by
  cases cell with
  | null => exact .inl ⟨rfl, rfl⟩
  | boolean b => exact .inr ⟨booleanText b, rfl, rfl⟩
  | number n =>
    by_cases empty : n.isNaN = true
    · exact .inl ⟨if_pos empty, if_pos empty⟩
    · exact .inr ⟨numberText n, if_neg empty, if_neg empty⟩
  | text s => exact .inr ⟨s, rfl, rfl⟩

theorem Cell.clip_of_plain {type : ColumnType} (plain : ∀ limit, type ≠ .text limit)
    (cell : Cell) : (cell.clean type).2 = none := by
  cases cell with
  | number n =>
    by_cases empty : n.isNaN = true
    · rw [clean_of_isNaN empty]
    · by_cases truth : type = .boolean
      · rw [truth, clean_number_boolean empty]
      · rw [clean_number empty plain truth]
  | null => rfl
  | _ =>
    cases type with
    | text limit => exact absurd rfl (plain limit)
    | _ => rfl

theorem Cell.type_of_clip {cell : Cell} {type : ColumnType} {clip : Clip}
    (h : (cell.clean type).2 = some clip) : ∃ limit, type = .text (some limit) := by
  cases type with
  | text limit =>
    cases limit with
    | some limit => exact ⟨limit, rfl⟩
    | none =>
      rcases cell.clean_text_cases none with ⟨-, empty⟩ | ⟨s, -, text⟩
      · rw [empty] at h
        cases h
      · rw [text] at h
        cases h
  | _ =>
    rw [cell.clip_of_plain (by simp)] at h
    cases h

/-- The clip of a text that is longer than the limit; something is left, unless the limit is 0. -/
theorem clip_of_long {limit : Nat} {s : String} (long : limit < (trimmed s.toList).length) :
    ∃ kept, (cleanText (some limit) s).2 = some ⟨(trimmed s.toList).length, kept⟩ ∧
      kept ≤ limit ∧ (0 < limit → 0 < kept) := by
  refine ⟨(trimEnd ((trimmed s.toList).take limit)).length, ?_, ?_, fun room => ?_⟩
  · rw [cleanText, clipped_of_long long]
  · exact Nat.le_trans (trimEnd_length_le _) (List.length_take_le ..)
  · -- the first character is not blank, so it is there after the clip
    have ends := isTrimmed_trimmed s.toList
    generalize trimmed s.toList = shown at *
    cases shown with
    | nil => exact absurd long (Nat.not_lt_zero _)
    | cons c shown =>
      obtain ⟨limit, rfl⟩ := Nat.exists_eq_succ_of_ne_zero (Nat.ne_of_gt room)
      rw [List.take_succ_cons]
      exact List.length_pos_iff.2 (trimEnd_ne_nil List.mem_cons_self (ends.first c rfl))

section Notes
variable {cleaned : List (Cell × Option Clip)} {position : Nat}

theorem position_of_mem_truncationsFrom {t : Truncation}
    (h : t ∈ truncationsFrom position cleaned) :
    position ≤ t.position ∧ t.position < position + cleaned.length := by
  induction cleaned generalizing position with
  | nil => cases h
  | cons first cleaned ih =>
    obtain ⟨cell, clip?⟩ := first
    have later (h : t ∈ truncationsFrom (position + 1) cleaned) :
        position ≤ t.position ∧ t.position < position + (cleaned.length + 1) := by
      have := ih h
      omega
    cases clip? with
    | none => exact later h
    | some clip =>
      rcases List.mem_cons.1 h with rfl | h
      · simp
      · exact later h

theorem pairwise_truncationsFrom (position : Nat) (cleaned : List (Cell × Option Clip)) :
    (truncationsFrom position cleaned).Pairwise (·.position < ·.position) := by
  induction cleaned generalizing position with
  | nil => exact .nil
  | cons first cleaned ih =>
    obtain ⟨cell, clip?⟩ := first
    cases clip? with
    | none => exact ih (position + 1)
    | some clip =>
      exact .cons (fun t ht => (position_of_mem_truncationsFrom ht).1) (ih (position + 1))

/-- The notes of a place: one if its cell was clipped, and otherwise none. -/
theorem filter_truncationsFrom (position : Nat) (cleaned : List (Cell × Option Clip)) (i : Nat) :
    (truncationsFrom position cleaned).filter (fun t => t.position == position + i) =
      ((cleaned[i]?.bind Prod.snd).map fun clip =>
        ⟨position + i, clip.full, clip.clipped⟩).toList := by
  induction cleaned generalizing position i with
  | nil => rfl
  | cons first cleaned ih =>
    obtain ⟨cell, clip?⟩ := first
    have none (next : Nat) (later : position < next) :
        (truncationsFrom next cleaned).filter (fun t => t.position == position) = [] := by
      rw [List.filter_eq_nil_iff]
      intro t ht
      have := (position_of_mem_truncationsFrom ht).1
      simp only [beq_iff_eq]
      omega
    cases i with
    | zero =>
      cases clip? <;> simp [truncationsFrom, none]
    | succ i =>
      have next := ih (position + 1) i
      rw [Nat.add_right_comm, Nat.add_assoc] at next
      cases clip? <;> simp [truncationsFrom, next]

end Notes

/-- What cleaning makes of a cell in a text column of at most `limit` characters, and the notes at
the place of the cell.  `shown?` is the text that the cell shows. -/
structure IsFitted (limit position : Nat) (shown? : Option (List Char)) (cell : Cell)
    (notes : List Truncation) : Prop where
  /-- Nothing is kept, or a start of the text. -/
  start : cell = .null ∨ ∃ shown t, shown? = some shown ∧ cell = .text (String.ofList t) ∧
    IsPresent t ∧ t <+: shown ∧ t.length ≤ limit
  whole : ∀ shown, shown? = some shown → IsKeptText (some limit) shown →
    cell = .text (String.ofList shown)
  noted : ∀ shown, shown? = some shown → limit < shown.length →
    ∃ kept, notes = [⟨position, shown.length, kept⟩] ∧ kept ≤ limit ∧ (0 < limit → 0 < kept)
  unnoted : (∀ shown, shown? = some shown → shown.length ≤ limit) → notes = []

theorem isFitted_clean (cell : Cell) (limit : UInt32) (position : Nat) :
    IsFitted limit.toNat position cell.shown? (cell.clean (.text (some limit))).1
      ((cell.clean (.text (some limit))).2.map fun clip =>
        Truncation.mk position clip.full clip.clipped).toList := by
  rcases cell.clean_text_cases (some limit) with ⟨shown, empty⟩ | ⟨s, shown, text⟩
  · rw [shown, empty]
    exact ⟨.inl rfl, by simp, by simp, fun _ => rfl⟩
  · rw [shown, text]
    change IsFitted limit.toNat position _ (cleanText (some limit.toNat) s).1
      ((cleanText (some limit.toNat) s).2.map _).toList
    constructor
    · rcases cleanText_cases (some limit.toNat) s with empty | ⟨t, text, kept, start⟩
      · exact .inl empty
      · exact .inr ⟨_, t, rfl, text, kept.present, start, kept.short _ rfl⟩
    · rintro _ ⟨rfl⟩ kept
      rw [cleanText, clipped_of_short kept.short]
      simp only [kept.whole, kept.present.present?_eq, Cell.ofPresent?]
    · rintro _ ⟨rfl⟩ long
      obtain ⟨kept, clip, bound, filled⟩ := clip_of_long long
      exact ⟨kept, by rw [clip]; rfl, bound, filled⟩
    · intro short
      have fits : ∀ n, some limit.toNat = some n → (trimmed s.toList).length ≤ n := by
        rintro _ ⟨rfl⟩
        exact short _ rfl
      rw [cleanText, clipped_of_short fits]
      rfl

namespace Schema

theorem isFitted_of_getElem? {s : Schema} {row : Row} {position : Nat} {column : Column}
    {limit : UInt32} {cell : Cell} (hc : s.columns[position]? = some column)
    (type : column.type = .text (some limit)) (hr : row[position]? = some cell) :
    ∃ cleaned, (s.clean row).cells[position]? = some cleaned ∧
      IsFitted limit.toNat position cell.shown? cleaned
        ((s.clean row).truncations.filter fun t => t.position == position) := by
  have own : (cleanCells s.columns row)[position]? = some (cell.clean (.text (some limit))) := by
    rw [getElem?_cleanCells, hr, hc, ← type]
    rfl
  refine ⟨(cell.clean (.text (some limit))).1, ?_, ?_⟩
  · rw [clean, List.getElem?_map, own]
    rfl
  · have notes := filter_truncationsFrom 0 (cleanCells s.columns row) position
    rw [Nat.zero_add, own] at notes
    rw [clean, notes]
    exact isFitted_clean cell limit position

theorem exists_of_mem_truncations {s : Schema} {row : Row} {t : Truncation}
    (h : t ∈ (s.clean row).truncations) :
    ∃ column limit cell, s.columns[t.position]? = some column ∧
      column.type = .text (some limit) ∧ row[t.position]? = some cell := by
  have own : t ∈ (s.clean row).truncations.filter fun other => other.position == t.position :=
    List.mem_filter.2 ⟨h, beq_self_eq_true _⟩
  have notes := filter_truncationsFrom 0 (cleanCells s.columns row) t.position
  rw [Nat.zero_add] at notes
  rw [clean, notes, Option.mem_toList, Option.map_eq_some_iff] at own
  obtain ⟨clip, found, -⟩ := own
  obtain ⟨cleaned, found, clipped⟩ := Option.bind_eq_some_iff.1 found
  rw [getElem?_cleanCells, Option.map_eq_some_iff] at found
  obtain ⟨cell, hr, rfl⟩ := found
  split at clipped
  · rename_i column hc
    obtain ⟨limit, type⟩ := Cell.type_of_clip clipped
    exact ⟨column, limit, cell, hc, type, hr⟩
  · cases clipped

end Schema

end TableLoad
