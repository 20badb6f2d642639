import TableLoad.Report.Check

/-! # What issues say

Each check of a cell says all there is to know about its issue: where it is, how grave it is, and
what is wrong with which cell.
-/
namespace TableLoad

namespace Column
variable {row position : Nat} {column : Column} {cell : Cell} {r : Record} {i : Issue}

/-- Everything that can be wrong with a cell in its column. -/
theorem issue?_cases (h : column.issue? row cell = some i) :
    i.row = row ∧ i.column = column.name ∧ i.severity = .error ∧
      ((i.kind = .nullNotAllowed ∧ cell.isNull = true ∧ column.refusesNull = true) ∨
        (i.kind = .typeMismatch ∧ cell.isNull = false ∧
          ∃ reason, cell.value column.type = .error reason) ∨
        (i.kind = .lengthExceeded ∧ cell.isNull = false ∧
          ∃ s limit, cell.value column.type = .ok (.text s) ∧
            column.type.maxLength? = some limit ∧ limit < s.length)) := by
  unfold issue? at h
  simp only at h
  split at h
  · rename_i empty
    split at h
    · rename_i refuses
      cases h
      exact ⟨rfl, rfl, rfl, .inl ⟨rfl, empty, refuses⟩⟩
    · cases h
  · rename_i filled
    have filled : cell.isNull = false := by simpa using filled
    split at h
    · rename_i reason misfit
      cases h
      exact ⟨rfl, rfl, rfl, .inr (.inl ⟨rfl, filled, reason, misfit⟩)⟩
    · rename_i s text
      split at h
      · rename_i limit bounded
        split at h
        · rename_i long
          cases h
          exact ⟨rfl, rfl, rfl, .inr (.inr ⟨rfl, filled, s, limit, text, bounded, long⟩)⟩
        · cases h
      · cases h
    · cases h

theorem error_of_issue? (h : column.issue? row cell = some i) : i.blocks = true ∧ i.row = row := by
  obtain ⟨place, -, grave, -⟩ := issue?_cases h
  exact ⟨by rw [Issue.blocks, grave]; rfl, place⟩

theorem exceeded_of_issue? (h : column.issue? row cell = some i) (kind : i.kind = .lengthExceeded) :
    ∃ s limit, cell.value column.type = .ok (.text s) ∧ column.type.maxLength? = some limit ∧
      limit < s.length ∧ cell.isNull = false := by
  obtain ⟨-, -, -, ⟨other, -⟩ | ⟨other, -⟩ | ⟨-, filled, s, limit, text, bounded, long⟩⟩ :=
    issue?_cases h
  · cases kind.symm.trans other
  · cases kind.symm.trans other
  · exact ⟨s, limit, text, bounded, long, filled⟩

theorem isNull_iff_of_issue? (h : column.issue? row cell = some i) :
    cell.isNull = true ↔ i.kind = .nullNotAllowed := by
  obtain ⟨-, -, -, ⟨kind, empty, -⟩ | ⟨kind, filled, -⟩ | ⟨kind, filled, -⟩⟩ := issue?_cases h
  · simp [kind, empty]
  · simp [kind, filled]
  · simp [kind, filled]

theorem of_mem_issues (h : i ∈ column.issues row position r) :
    i.row = row ∧ i.column = column.name ∧ i.kind ≠ .unknownColumn ∧
      (i.kind = .nullNotAllowed → i.severity = .error) := by
  unfold issues at h
  split at h
  · rw [List.mem_singleton] at h
    subst h
    exact ⟨rfl, rfl, by simp [missingIssue], fun _ => rfl⟩
  · rcases List.mem_append.1 h with h | h
    · obtain ⟨t, -, rfl⟩ := Option.map_eq_some_iff.1 (Option.mem_toList.1 h)
      exact ⟨rfl, rfl, by simp [Truncation.issue], fun kind => by cases kind⟩
    · obtain ⟨place, name, grave, cases⟩ := issue?_cases (Option.mem_toList.1 h)
      refine ⟨place, name, ?_, fun _ => grave⟩
      rcases cases with ⟨kind, -⟩ | ⟨kind, -⟩ | ⟨kind, -⟩ <;> simp [kind]

end Column

namespace Schema
variable {s : Schema} {row offset : Nat} {r : Record} {records : List Record} {i : Issue}

/-- An issue of a record is one of a column, or the warning of a cell past the last column. -/
theorem mem_checkRecord_cases (h : i ∈ s.checkRecord row r) :
    (∃ (column : Column) (position : Nat), s.columns[position]? = some column ∧
      i ∈ column.issues row position r) ∨
    ∃ position, i = s.unknownIssue row position := by
  rcases List.mem_append.1 h with h | h
  · obtain ⟨⟨column, position⟩, he, hi⟩ := List.mem_flatMap.1 h
    exact .inl ⟨column, position, List.mem_zipIdx_iff_getElem?.1 he, hi⟩
  · obtain ⟨position, -, rfl⟩ := List.mem_map.1 h
    exact .inr ⟨position, rfl⟩

theorem row_of_mem_checkRecord (h : i ∈ s.checkRecord row r) : i.row = row := by
  rcases mem_checkRecord_cases h with ⟨column, position, -, hi⟩ | ⟨position, rfl⟩
  · exact (Column.of_mem_issues hi).1
  · rfl

theorem severity_of_mem_checkRows (h : i ∈ (s.checkRows offset records).issues)
    (kind : i.kind = .nullNotAllowed) : i.severity = .error := by
  obtain ⟨e, -, hi⟩ := List.mem_flatMap.1 h
  rcases mem_checkRecord_cases hi with ⟨column, position, -, hi⟩ | ⟨position, rfl⟩
  · exact (Column.of_mem_issues hi).2.2.2 kind
  · cases kind

end Schema

end TableLoad
