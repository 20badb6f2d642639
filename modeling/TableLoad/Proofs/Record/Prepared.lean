import TableLoad.Record.Prepared

/-! # Which records can be prepared

A record can be prepared exactly when each column has a cell that it stores, and then has one
value for each column.
-/
namespace TableLoad

theorem Cell.eq_null_of_isNull {cell : Cell} (h : cell.isNull = true) : cell = .null := by
  cases cell with
  | null => rfl
  | _ => cases h

theorem Cell.value_null (type : ColumnType) : Cell.null.value type = .ok .null := by
  cases type <;> rfl

theorem Cell.value_ne_null {cell : Cell} (h : cell.isNull = false) (type : ColumnType) :
    cell.value type ≠ .ok .null := by
  cases cell with
  | null => simp [Cell.isNull] at h
  | boolean b =>
    cases type <;> simp [Cell.value, integerValue, decimalValue, textValue, booleanValue,
      timestampValue]
  | number n =>
    cases type with
    | integer => cases hn : wholeInteger? n <;> simp [Cell.value, integerValue, hn]
    | decimal p => cases hn : n.isFinite <;> simp [Cell.value, decimalValue, hn]
    | text limit => simp [Cell.value, textValue]
    | boolean =>
      simp only [Cell.value, booleanValue]
      split
      · simp
      · split <;> simp
    | timestamp => cases hn : Calendar.Moment.ofSerial? n <;> simp [Cell.value, timestampValue, hn]
  | text s =>
    cases type with
    | integer =>
      cases hs : integer? (Text.trimmed s.toList) <;> simp [Cell.value, integerValue, hs]
    | decimal p =>
      cases hs : decimal? (Text.trimmed s.toList) <;> simp [Cell.value, decimalValue, hs]
    | text limit => simp [Cell.value, textValue]
    | boolean => cases hs : truth? s <;> simp [Cell.value, booleanValue, hs]
    | timestamp => cases hs : Calendar.Moment.ofText? s <;> simp [Cell.value, timestampValue, hs]

theorem Column.store_null (column : Column) :
    column.store .null =
      if column.refusesNull then .error (.null column.name) else .ok .null := by
  rw [Column.store, Cell.value_null]

theorem Column.value_of_store {column : Column} {cell : Cell} {value : Value}
    (h : column.store cell = .ok value) : cell.value column.type = .ok value := by
  unfold Column.store at h
  split at h
  · simp at h
  · rename_i hv
    split at h
    · simp at h
    · simpa [hv] using h
  · rename_i s hv
    split at h
    · simp at h
    · simpa [hv] using h
  · rename_i hv
    simpa [hv] using h

theorem storeCells_eq_ok {columns : List Column} {cells : List Cell} {values : List Value}
    (h : storeCells columns cells = .ok values) :
    values.length = columns.length ∧ ∀ (i : Nat) (column : Column), columns[i]? = some column →
      ∃ cell value, cells[i]? = some cell ∧ values[i]? = some value ∧
        column.store cell = .ok value := by
  induction columns generalizing cells values with
  | nil =>
    simp only [storeCells, Except.ok.injEq] at h
    subst h
    simp
  | cons first columns ih =>
    cases cells with
    | nil => simp [storeCells] at h
    | cons cell cells =>
      cases hf : first.store cell with
      | error fault => simp [storeCells, hf] at h
      | ok value =>
        cases hr : storeCells columns cells with
        | error fault => simp [storeCells, hf, hr] at h
        | ok rest =>
          simp only [storeCells, hf, hr, Except.ok.injEq] at h
          subst h
          obtain ⟨length, each⟩ := ih hr
          refine ⟨by simp [length], fun i column hi => ?_⟩
          cases i with
          | zero =>
            simp only [List.getElem?_cons_zero, Option.some.injEq] at hi
            subst hi
            exact ⟨cell, value, rfl, rfl, hf⟩
          | succ i => simpa using each i column (by simpa using hi)

/-- Cells are stored exactly when each column stores the cell in its place. -/
theorem storeCells_isOk_iff (columns : List Column) (cells : List Cell) :
    (∃ values, storeCells columns cells = .ok values) ↔
      ∀ (i : Nat) (column : Column), columns[i]? = some column →
        ∃ cell value, cells[i]? = some cell ∧ column.store cell = .ok value := by
  constructor
  · rintro ⟨values, h⟩ i column hi
    obtain ⟨cell, value, hc, -, hs⟩ := (storeCells_eq_ok h).2 i column hi
    exact ⟨cell, value, hc, hs⟩
  · intro h
    induction columns generalizing cells with
    | nil => exact ⟨[], rfl⟩
    | cons first columns ih =>
      obtain ⟨cell, value, hc, hs⟩ := h 0 first rfl
      cases cells with
      | nil => simp at hc
      | cons head cells =>
        simp only [List.getElem?_cons_zero, Option.some.injEq] at hc
        subst hc
        obtain ⟨values, hv⟩ := ih cells fun i column hi => by
          simpa using h (i + 1) column (by simpa using hi)
        exact ⟨value :: values, by simp [storeCells, hs, hv]⟩

theorem Schema.length_of_prepare {s : Schema} {r : Record} {values : List Value}
    (h : s.prepare r = .ok values) : values.length = s.columns.length :=
  (storeCells_eq_ok h).1

end TableLoad
