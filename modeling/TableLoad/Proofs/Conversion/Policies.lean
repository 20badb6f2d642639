import Mathlib.Data.List.Perm.Subperm
import TableLoad.Proofs.Conversion.Sharing
import TableLoad.Proofs.Record.Filling
import TableLoad.Proofs.Report.Places
import TableLoad.Proofs.Schema.Made
import TableLoad.Proofs.Sql.Written

/-! # What the null policy changes

The issues of records whose empty cells were filled are those of the records as they were, less the
complaints about empty cells that a default fills; so every row that is written without defaults is
written with them.  This holds as long as the values of the defaults pass the check of their own
columns.
-/
namespace TableLoad
open Calendar Sql

namespace Column

/-- The value that the default of the column stands for passes the check of the column. -/
def AcceptsDefault (now : Moment) (column : Column) : Prop :=
  ∀ d cell, column.isAutoIncrement = false → column.default? = some d →
    d.cell? now column.type = some cell → ∀ row, column.issue? row cell = none

/-- A column accepts its default exactly when it stores what it is filled with. -/
theorem acceptsDefault_iff (now : Moment) (column : Column) : column.AcceptsDefault now ↔
    (column.isFilled = true → ∃ value, column.store (column.fill now .null) = .ok value) := by
  constructor
  · intro accepts filled
    obtain ⟨d, hd, value, -⟩ := exists_fill_null now filled
    rw [← issue?_eq_none_iff 0]
    exact accepts d _ (column.isFilled_iff.1 filled).1 hd value 0
  · intro stores d cell apart hd value row
    have isCell : d.isCell column.type = true := by
      rw [← Default.isSome_cell? now, value]
      rfl
    have filled := column.isFilled_iff.2 ⟨apart, d, hd, isCell⟩
    obtain ⟨d', hd', value', -⟩ := exists_fill_null now filled
    obtain rfl : d = d' := Option.some.inj (hd.symm.trans hd')
    obtain rfl : cell = column.fill now .null := Option.some.inj (value.symm.trans value')
    exact (issue?_eq_none_iff row column _).2 (stores filled)

def isRelieved (column : Column) (i : Issue) : Bool :=
  i.kind == .nullNotAllowed && column.isFilled

variable {column : Column} {now : Moment}

theorem isRelieved_of_kind {i : Issue} (h : i.kind ≠ .nullNotAllowed) :
    column.isRelieved i = false := by
  simp [isRelieved, h]

theorem isRelieved_of_not_filled (h : column.isFilled = false) (i : Issue) :
    column.isRelieved i = false := by
  simp [isRelieved, h]

/-- Filling a cell takes at most its one complaint away. -/
theorem issue?_fill (accepts : column.AcceptsDefault now) (row : Nat) (cell : Cell) :
    column.issue? row (column.fill now cell) =
      (column.issue? row cell).filter fun i => !column.isRelieved i := by
  have kept (stays : ∀ i, column.issue? row cell = some i → column.isRelieved i = false) :
      (column.issue? row cell).filter (fun i => !column.isRelieved i) = column.issue? row cell := by
    cases found : column.issue? row cell with
    | none => rfl
    | some i => simp [stays i found]
  cases filled : column.isFilled with
  | false =>
    rw [fill_of_not_filled now filled, kept fun i _ => isRelieved_of_not_filled filled i]
  | true =>
    cases empty : cell.isNull with
    | false =>
      rw [fill_of_isNull_eq_false now empty, kept]
      intro i hi
      apply isRelieved_of_kind
      rw [ne_eq, ← isNull_iff_of_issue? hi, empty]
      exact Bool.false_ne_true
    | true =>
      obtain ⟨d, hd, value, -⟩ := exists_fill_null now filled
      obtain rfl := Cell.eq_null_of_isNull empty
      rw [accepts d _ (column.isFilled_iff.1 filled).1 hd value row]
      refine (Option.filter_eq_none_iff.2 fun i hi => ?_).symm
      simp [isRelieved, filled, (isNull_iff_of_issue? hi).1 empty]

theorem issues_fillDefaults {s : Schema} {position : Nat} (hc : s.columns[position]? = some column)
    (accepts : column.AcceptsDefault now) (row : Nat) (r : Record) :
    column.issues row position (s.fillDefaults now r) =
      (column.issues row position r).filter fun i => !column.isRelieved i := by
  have cells : (s.fillDefaults now r).cells[position]? =
      r.cells[position]?.map (column.fill now) := by
    simp only [Schema.fillDefaults, getElem?_fillCells, hc]
  have notes : (s.fillDefaults now r).truncationAt? position = r.truncationAt? position := rfl
  rw [issues, issues, cells, notes]
  cases r.cells[position]? with
  | none => simp [isRelieved, missingIssue]
  | some cell =>
    have warnings : (((r.truncationAt? position).map (Truncation.issue row column)).toList.filter
        fun i => !column.isRelieved i) =
          ((r.truncationAt? position).map (Truncation.issue row column)).toList := by
      rw [List.filter_eq_self]
      intro i hi
      obtain ⟨t, -, rfl⟩ := Option.map_eq_some_iff.1 (Option.mem_toList.1 hi)
      rw [isRelieved_of_kind (by simp [Truncation.issue]), Bool.not_false]
    simp only [Option.map_some, List.filter_append, warnings, issue?_fill accepts,
      Option.toList_filter]

end Column

namespace Schema

/-- Whether filling takes an issue away: the complaint about an empty cell of a column that is
filled. -/
def relieves (s : Schema) (i : Issue) : Bool :=
  i.kind == .nullNotAllowed && s.columns.any fun c => c.name == i.column && c.isFilled

section Checked
variable {s : Schema} {now : Moment}

/-- The name of an issue is that of its column alone. -/
theorem relieves_eq_isRelieved (names : (s.columns.map Column.name).Nodup) {column : Column}
    (hc : column ∈ s.columns) {i : Issue} (name : i.column = column.name) :
    s.relieves i = column.isRelieved i := by
  have only : (s.columns.any fun c => c.name == i.column && c.isFilled) = column.isFilled := by
    rw [Bool.eq_iff_iff, List.any_eq_true]
    simp only [Bool.and_eq_true, beq_iff_eq]
    constructor
    · rintro ⟨c, hm, same, filled⟩
      rwa [← List.inj_on_of_nodup_map names hm hc (same.trans name)]
    · exact fun filled => ⟨column, hc, name.symm, filled⟩
  rw [relieves, only, Column.isRelieved]

variable (names : (s.columns.map Column.name).Nodup)
  (accepts : ∀ column ∈ s.columns, column.AcceptsDefault now)
include names accepts

/-- What filling a record does to its issues. -/
theorem checkRecord_fillDefaults (row : Nat) (r : Record) :
    s.checkRecord row (s.fillDefaults now r) =
      (s.checkRecord row r).filter fun i => !s.relieves i := by
  have length : (s.fillDefaults now r).cells.length = r.cells.length := length_fillCells ..
  rw [checkRecord_eq_flatMap, checkRecord_eq_flatMap, length, List.filter_flatMap]
  refine List.flatMap_congr fun position _ => ?_
  rw [placeIssues, placeIssues]
  cases hc : s.columns[position]? with
  | none => rfl
  | some column =>
    have mem := List.mem_of_getElem? hc
    dsimp only
    rw [Column.issues_fillDefaults hc (accepts column mem)]
    refine List.filter_congr fun i hi => ?_
    rw [relieves_eq_isRelieved names mem (Column.of_mem_issues hi).2.1]

theorem checkRows_fillDefaults (offset : Nat) (records : List Record) :
    (s.checkRows offset (records.map (s.fillDefaults now))).issues =
      (s.checkRows offset records).issues.filter fun i => !s.relieves i := by
  simp only [checkRows, List.zipIdx_map, List.flatMap_map, List.filter_flatMap, Prod.map,
    checkRecord_fillDefaults names accepts, id_eq]

end Checked

end Schema

/-- What filling defaults makes of a report: nothing is added to it, and it loses the complaints
about empty cells of columns that are filled. -/
structure IsRelief (s : Schema) (before after : Report) : Prop where
  totalRows : after.totalRows = before.totalRows
  issues : after.issues = before.issues.filter fun i => !s.relieves i
  errors : ∀ i ∈ after.issues, i.severity = .error → i ∈ before.issues
  relieved : ∀ i ∈ before.issues, i ∉ after.issues ↔ i.severity = .error ∧
    i.kind = .nullNotAllowed ∧ ∃ column ∈ s.columns, column.name = i.column ∧
      column.isFilled = true
  warnings : (after.issues.filter fun i => i.severity == .warning) =
    before.issues.filter fun i => i.severity == .warning
  blocked : after.blockedRows ⊆ before.blockedRows

namespace Schema

theorem relieves_iff {s : Schema} {i : Issue} : s.relieves i = true ↔
    i.kind = .nullNotAllowed ∧ ∃ column ∈ s.columns, column.name = i.column ∧
      column.isFilled = true := by
  simp [relieves]

section Relief
variable {s : Schema} {now : Moment} (names : (s.columns.map Column.name).Nodup)
  (accepts : ∀ column ∈ s.columns, column.AcceptsDefault now)
include names accepts

theorem isRelief_checkRows (offset : Nat) (records : List Record) :
    IsRelief s (s.checkRows offset records)
      (s.checkRows offset (records.map (s.fillDefaults now))) := by
  have issues := checkRows_fillDefaults names accepts offset records
  refine ⟨List.length_map .., issues, fun i hi _ => ?_, fun i hi => ?_, ?_, fun row hr => ?_⟩
  · rw [issues] at hi
    exact (List.mem_filter.1 hi).1
  · rw [issues, List.mem_filter, not_and, Bool.not_eq_true', Bool.not_eq_false, relieves_iff]
    constructor
    · intro gone
      exact ⟨severity_of_mem_checkRows hi (gone hi).1, gone hi⟩
    · exact fun gone _ => gone.2
  · rw [issues, List.filter_filter]
    refine List.filter_congr fun i hi => ?_
    cases mild : i.severity == .warning with
    | false => rfl
    | true =>
      have stays : s.relieves i = false := by
        rw [← Bool.not_eq_true, relieves_iff]
        rintro ⟨kind, -⟩
        rw [severity_of_mem_checkRows hi kind] at mild
        cases mild
      rw [stays]
      rfl
  · rw [Report.mem_blockedRows, issues] at hr
    obtain ⟨i, hi, blocks, place⟩ := hr
    exact (Report.mem_blockedRows _ _).2 ⟨i, (List.mem_filter.1 hi).1, blocks, place⟩

end Relief

/-- Every record is written that its report does not block, so fewer blocked rows are more rows
written. -/
theorem exists_generate_of_blocked {s : Schema} {before after : List Record}
    (length : after.length = before.length)
    (blocked : (s.checkRows 0 after).blockedRows ⊆ (s.checkRows 0 before).blockedRows)
    {d : Dialect} {batchSize : Nat} {g : Generated}
    (h : generate s before (s.checkRows 0 before) d batchSize = .ok g) :
    ∃ g', generate s after (s.checkRows 0 after) d batchSize = .ok g' ∧
      g'.skippedRows ⊆ g.skippedRows ∧ g.rowCount ≤ g'.rowCount := by
  by_cases columns : s.columns = []
  · simp [generate, columns] at h
  by_cases size : batchSize = 0
  · simp [generate, columns, size] at h
  have size : 1 ≤ batchSize := Nat.pos_of_ne_zero size
  rw [generate_eq_ok columns before _ d size] at h
  cases h
  refine ⟨_, generate_eq_ok columns after _ d size, ?_, ?_⟩
  · simpa only [skipped_checkRows] using blocked
  · have all := length_sortRows s (s.checkRows 0 before).blockedRows 0 before
    have all' := length_sortRows s (s.checkRows 0 after).blockedRows 0 after
    rw [skipped_checkRows] at all all'
    have fewer := (List.subperm_of_subset
      ((s.checkRows 0 after).pairwise_blockedRows.imp Nat.ne_of_lt) blocked).length_le
    dsimp only
    omega

theorem mem_outputs_iff {s : Schema} {options : Options} {records : List Record} {report : Report}
    {d : Dialect} {output : Except GenerateError Generated} :
    (d, output) ∈ s.outputs options records report ↔
      d ∈ dialectsOf options ∧ generate s records report d options.batchSize = output := by
  rw [outputs, List.mem_map]
  simp only [Prod.mk.injEq]
  constructor
  · rintro ⟨d, asked, rfl, written⟩
    exact ⟨asked, written⟩
  · rintro ⟨asked, written⟩
    exact ⟨d, asked, rfl, written⟩

/-- Filling defaults relieves reports and keeps no row out.  In a table whose defaults pass the
check of their own columns, the report of filled rows is that of the rows as they are less the
complaints about empty cells of columns that are filled; and each output that can be generated
without defaults can be generated with them, and leaves out no row that is not left out without
them. -/
theorem applyDefaults_relieves {table : String} {columns : List Column} {s : Schema}
    (made : Schema.make table columns = .ok s) {now : Moment}
    (accepts : ∀ column ∈ s.columns, column.AcceptsDefault now) :
    (∀ (offset : Nat) (rows : List Row),
        IsRelief s (s.checkRows offset (rows.map (s.toRecord .strict now)))
          (s.checkRows offset (rows.map (s.toRecord .applyDefaults now)))) ∧
      ∀ (options : Options) (rows : List Row), rows ≠ [] →
        ∃ strict filled,
          s.convert { options with nullPolicy := .strict } now rows = .ok strict ∧
          s.convert { options with nullPolicy := .applyDefaults } now rows = .ok filled ∧
            IsRelief s strict.report filled.report ∧
              ∀ d g, (d, .ok g) ∈ strict.outputs → ∃ g', (d, .ok g') ∈ filled.outputs ∧
                g'.skippedRows ⊆ g.skippedRows ∧ g.rowCount ≤ g'.rowCount := by
  have names := nodup_names made
  have bare : s.columns ≠ [] := by
    obtain ⟨-, bare, -, -, rfl⟩ := make_eq_ok_iff.1 made
    exact bare
  have relief (offset : Nat) (rows : List Row) :
      IsRelief s (s.checkRows offset (rows.map (s.toRecord .strict now)))
        (s.checkRows offset (rows.map (s.toRecord .applyDefaults now))) := by
    have := isRelief_checkRows names accepts offset (rows.map s.clean)
    rwa [List.map_map] at this
  refine ⟨relief, fun options rows filled => ⟨_, _, s.convert_eq_ok _ now filled bare,
    s.convert_eq_ok _ now filled bare, relief 0 rows, fun d g hg => ?_⟩⟩
  obtain ⟨asked, written⟩ := mem_outputs_iff.1 hg
  obtain ⟨g', written', skipped, count⟩ :=
    exists_generate_of_blocked (by simp) (relief 0 rows).blocked written
  exact ⟨g', mem_outputs_iff.2 ⟨asked, written'⟩, skipped, count⟩

/-- Of two rows that are blocked, the one that lacks no more than defaults is written with them. -/
theorem applyDefaults_relieves_visits :
    let now : Moment := ⟨⟨2024, 5, 1, by decide⟩, ⟨8, 0, 0, 0, by decide⟩⟩
    let rows : List Row := [[.null, .null, .null, .null, .text "7"],
      [.null, .null, .null, .null, .null],
      [.text "3", .text "sim", .text "2024-05-01", .null, .text "8"]]
    ∃ strict filled, visits.convert { nullPolicy := .strict } now rows = .ok strict ∧
      visits.convert { nullPolicy := .applyDefaults } now rows = .ok filled ∧
        strict.report.blockedRows = [0, 1] ∧ filled.report.blockedRows = [1] ∧
          IsRelief visits strict.report filled.report := by
  intro now rows
  have made : Schema.make "visits" visits.columns = .ok visits := by decide
  have stores : ∀ column ∈ visits.columns, column.isFilled = true →
      (column.store (column.fill now .null)).isOk = true := by decide
  have accepts : ∀ column ∈ visits.columns, column.AcceptsDefault now := by
    intro column hc
    refine (column.acceptsDefault_iff now).2 fun filled => ?_
    have stored := stores column hc filled
    cases h : column.store (column.fill now .null) with
    | ok value => exact ⟨value, rfl⟩
    | error fault =>
      rw [h] at stored
      cases stored
  obtain ⟨-, converts⟩ := applyDefaults_relieves made accepts
  obtain ⟨strict, filled, hs, hf, relief, -⟩ := converts {} rows (by decide)
  refine ⟨strict, filled, hs, hf, ?_, ?_, relief⟩
  · cases hs
    decide
  · cases hf
    decide

end Schema

end TableLoad
