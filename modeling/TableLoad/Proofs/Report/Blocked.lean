import Mathlib.Data.List.Basic
import TableLoad.Proofs.Record.Prepared
import TableLoad.Proofs.Report.Issues

/-! # Which rows a report blocks

The rows that a report blocks come in strictly ascending order, and are those with an error.  A
record has an error exactly when it cannot be prepared, so the report of some records blocks the
places of those that cannot.
-/
namespace TableLoad

theorem mem_insertAscending (n m : Nat) (rows : List Nat) :
    m ∈ insertAscending n rows ↔ m = n ∨ m ∈ rows := by
  induction rows with
  | nil => simp [insertAscending]
  | cons k rows ih =>
    rw [insertAscending]
    split
    · simp
    · split
      · rename_i he
        subst he
        simp
      · rw [List.mem_cons, ih, List.mem_cons]
        exact or_left_comm

theorem pairwise_insertAscending (n : Nat) {rows : List Nat} (h : rows.Pairwise (· < ·)) :
    (insertAscending n rows).Pairwise (· < ·) := by
  induction rows with
  | nil => simp [insertAscending]
  | cons k rows ih =>
    obtain ⟨below, rest⟩ := List.pairwise_cons.1 h
    rw [insertAscending]
    split
    · rename_i hn
      refine List.pairwise_cons.2 ⟨fun m hm => ?_, h⟩
      rcases List.mem_cons.1 hm with rfl | hm
      · exact hn
      · exact Nat.lt_trans hn (below m hm)
    · split
      · exact h
      · rename_i hn he
        refine List.pairwise_cons.2 ⟨fun m hm => ?_, ih rest⟩
        rcases (mem_insertAscending n m rows).1 hm with rfl | hm
        · omega
        · exact below m hm

namespace Report

theorem pairwise_blockedRows (r : Report) : r.blockedRows.Pairwise (· < ·) := by
  unfold blockedRows
  induction (r.issues.filter Issue.blocks).map Issue.row with
  | nil => simp
  | cons n rows ih => exact pairwise_insertAscending n ih

theorem mem_blockedRows (r : Report) (row : Nat) :
    row ∈ r.blockedRows ↔ ∃ i ∈ r.issues, i.blocks = true ∧ i.row = row := by
  have mem_foldr (rows : List Nat) : row ∈ rows.foldr insertAscending [] ↔ row ∈ rows := by
    induction rows with
    | nil => simp
    | cons n rows ih => rw [List.foldr_cons, mem_insertAscending, ih, List.mem_cons]
  rw [blockedRows, mem_foldr]
  simp [and_assoc]

theorem mem_blockedRows_iff_isBlocked (r : Report) (row : Nat) :
    row ∈ r.blockedRows ↔ r.isBlocked row = true := by
  rw [mem_blockedRows, isBlocked, List.any_eq_true]
  simp only [Bool.and_eq_true, beq_iff_eq]
  exact exists_congr fun i => and_congr_right fun _ => and_comm

end Report

/-- The two looks at a cell agree: a cell has no issue exactly when its column stores it. -/
theorem Column.issue?_eq_none_iff (row : Nat) (column : Column) (cell : Cell) :
    column.issue? row cell = none ↔ ∃ value, column.store cell = .ok value := by
  cases hn : cell.isNull with
  | true =>
    obtain rfl := Cell.eq_null_of_isNull hn
    rw [Column.store_null]
    cases hr : column.refusesNull <;> simp [Column.issue?, Cell.isNull, hr]
  | false =>
    have hv := Cell.value_ne_null hn column.type
    simp only [Column.issue?, Column.store, hn, Bool.false_eq_true, ↓reduceIte]
    cases hc : cell.value column.type with
    | error reason => simp
    | ok value =>
      cases value with
      | null => exact absurd hc hv
      | text s =>
        cases hl : column.type.maxLength? with
        | none => simp [ColumnType.isExceededBy, hl]
        | some limit =>
          by_cases hs : limit < s.length <;> simp [ColumnType.isExceededBy, hl, hs]
      | integer i => simp
      | decimal n => simp
      | boolean b => simp
      | timestamp m => simp

/-- A column has no error in a record exactly when the record has a cell for it that it stores. -/
theorem Column.issues_blocks_iff (row position : Nat) (r : Record) (column : Column) :
    (∃ i ∈ column.issues row position r, i.blocks = true) ↔
      ¬ ∃ cell value, r.cells[position]? = some cell ∧ column.store cell = .ok value := by
  unfold Column.issues
  cases hc : r.cells[position]? with
  | none => simp [Column.missingIssue, Issue.blocks]
  | some cell =>
    have warns : ∀ i ∈ ((r.truncationAt? position).map (Truncation.issue row column)).toList,
        i.blocks = false := by
      cases r.truncationAt? position <;> simp [Truncation.issue, Issue.blocks]
    simp only [List.mem_append, Option.mem_toList, Option.some.injEq, exists_and_left,
      exists_eq_left', ← Column.issue?_eq_none_iff row]
    constructor
    · rintro ⟨i, hi | hi, hb⟩
      · rw [warns i (by simpa using hi)] at hb
        exact absurd hb (by decide)
      · simp [hi]
    · intro h
      obtain ⟨i, hi⟩ := Option.ne_none_iff_exists'.1 h
      exact ⟨i, .inr hi, (Column.error_of_issue? hi).1⟩

namespace Schema

/-- A record has an error exactly when it cannot be prepared. -/
theorem checkRecord_blocks_iff (s : Schema) (row : Nat) (r : Record) :
    (∃ i ∈ s.checkRecord row r, i.blocks = true) ↔ ¬ ∃ values, s.prepare r = .ok values := by
  have unknown : ∀ position, (s.unknownIssue row position).blocks = false := fun _ => rfl
  rw [prepare, storeCells_isOk_iff]
  simp only [checkRecord, List.mem_append, List.mem_flatMap, List.mem_map, Prod.exists]
  constructor
  · rintro ⟨i, ⟨column, position, hm, hi⟩ | ⟨position, -, rfl⟩, hb⟩ each
    · exact (Column.issues_blocks_iff row position r column).1 ⟨i, hi, hb⟩
        (each position column (List.mem_zipIdx_iff_getElem?.1 hm))
    · simp [unknown] at hb
  · intro h
    obtain ⟨position, column, hc, hn⟩ : ∃ (position : Nat) (column : Column),
        s.columns[position]? = some column ∧ ¬ ∃ cell value, r.cells[position]? = some cell ∧ column.store cell = .ok value := by
      simpa only [not_forall, exists_prop] using h
    obtain ⟨i, hi, hb⟩ := (Column.issues_blocks_iff row position r column).2 hn
    exact ⟨i, .inl ⟨column, position, List.mem_zipIdx_iff_getElem?.2 hc, hi⟩, hb⟩

theorem mem_blockedRows_checkRows (s : Schema) (offset : Nat) (records : List Record)
    (row : Nat) : row ∈ (s.checkRows offset records).blockedRows ↔
      ∃ r, offset ≤ row ∧ records[row - offset]? = some r ∧
        ¬ ∃ values, s.prepare r = .ok values := by
  rw [Report.mem_blockedRows]
  simp only [checkRows, List.mem_flatMap, Prod.exists, List.mk_mem_zipIdx_iff_le_and_getElem?_sub]
  constructor
  · rintro ⟨i, ⟨r, n, ⟨hn, hr⟩, hi⟩, hb, rfl⟩
    obtain rfl := row_of_mem_checkRecord hi
    exact ⟨r, hn, hr, (s.checkRecord_blocks_iff _ r).1 ⟨i, hi, hb⟩⟩
  · rintro ⟨r, hn, hr, hp⟩
    obtain ⟨i, hi, hb⟩ := (s.checkRecord_blocks_iff row r).2 hp
    exact ⟨i, ⟨r, row, ⟨hn, hr⟩, hi⟩, hb, row_of_mem_checkRecord hi⟩

end Schema

end TableLoad
