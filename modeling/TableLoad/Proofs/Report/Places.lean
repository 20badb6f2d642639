import Mathlib.Algebra.BigOperators.Group.List.Basic
import Mathlib.Algebra.GroupWithZero.Nat
import TableLoad.Proofs.Report.Issues

/-! # Issues place by place

The issues of a record stand in the order of its places, which go on to the last column or the last
cell, whichever is later.  So a record has an error for every cell that is missing and a warning for
every cell too many.
-/
namespace TableLoad

def Schema.placeName (s : Schema) (position : Nat) : String :=
  match s.columns[position]? with
  | some column => column.name
  | none => s!"#{position}"

/-- The issues of one place of a record: at most one warning and then at most one error.  In a
column the warning is one of a clipped text, behind the columns it is that there is no column. -/
structure IsPlaceReport (s : Schema) (r : Record) (row position : Nat) (issues : List Issue) :
    Prop where
  about : ∀ i ∈ issues, i.row = row ∧ i.column = s.placeName position
  parts : ∃ warning error : Option Issue, issues = warning.toList ++ error.toList ∧
    (∀ i ∈ warning, i.severity = .warning ∧
      i.kind = if position < s.columns.length then .lengthExceeded else .unknownColumn) ∧
    ∀ i ∈ error, i.severity = .error
  missing : issues.countP (fun i => i.kind == .missingColumn) =
    if r.cells.length ≤ position then 1 else 0
  unknown : issues.countP (fun i => i.kind == .unknownColumn) =
    if s.columns.length ≤ position then 1 else 0

/-- The issues of a record: those of its places in order, in which every missing cell and every
cell too many counts once. -/
structure IsRowReport (s : Schema) (r : Record) (row : Nat) (issues : List Issue) : Prop where
  places : ∃ parts : List (List Issue), parts.length = max s.columns.length r.cells.length ∧
    parts.flatten = issues ∧ ∀ position part, parts[position]? = some part →
      IsPlaceReport s r row position part
  missing : issues.countP (fun i => i.kind == .missingColumn) =
    s.columns.length - r.cells.length
  unknown : issues.countP (fun i => i.kind == .unknownColumn) =
    r.cells.length - s.columns.length

namespace Column
variable {row position : Nat} {column : Column} {cell : Cell} {r : Record}

theorem issues_of_missing (h : r.cells[position]? = none) :
    column.issues row position r = [column.missingIssue row position] := by
  rw [issues, h]

theorem issues_of_cell (h : r.cells[position]? = some cell) :
    column.issues row position r =
      ((r.truncationAt? position).map (Truncation.issue row column)).toList ++
        (column.issue? row cell).toList := by
  rw [issues, h]

theorem kind_ne_missing (h : r.cells[position]? = some cell) :
    ∀ i ∈ column.issues row position r, i.kind ≠ .missingColumn := by
  intro i hi
  rw [issues_of_cell h] at hi
  rcases List.mem_append.1 hi with hi | hi
  · obtain ⟨t, -, rfl⟩ := Option.map_eq_some_iff.1 (Option.mem_toList.1 hi)
    simp [Truncation.issue]
  · obtain ⟨-, -, -, ⟨kind, -⟩ | ⟨kind, -⟩ | ⟨kind, -⟩⟩ :=
      issue?_cases (Option.mem_toList.1 hi) <;> simp [kind]

end Column

theorem countP_kind_eq_zero {issues : List Issue} {kind : IssueKind}
    (h : ∀ i ∈ issues, i.kind ≠ kind) : issues.countP (fun i => i.kind == kind) = 0 :=
  List.countP_eq_zero.2 fun i hi => by simpa using h i hi

namespace Schema
variable {s : Schema} {r : Record} {row position : Nat}

def placeIssues (s : Schema) (row : Nat) (r : Record) (position : Nat) : List Issue :=
  match s.columns[position]? with
  | some column => column.issues row position r
  | none => [s.unknownIssue row position]

theorem checkRecord_eq_flatMap (s : Schema) (row : Nat) (r : Record) : s.checkRecord row r =
    (List.range (max s.columns.length r.cells.length)).flatMap (s.placeIssues row r) := by
  have columns : (s.columns.zipIdx.flatMap fun e => e.1.issues row e.2 r) =
      (List.range s.columns.length).flatMap (s.placeIssues row r) := by
    refine congrArg List.flatten (List.ext_getElem? fun position => ?_)
    rw [List.getElem?_map, List.getElem?_map, List.getElem?_zipIdx]
    cases hc : s.columns[position]? with
    | none =>
      have past : s.columns.length ≤ position := List.getElem?_eq_none_iff.1 hc
      rw [List.getElem?_eq_none (by simpa using past)]
      rfl
    | some column =>
      rw [List.getElem?_range (List.getElem?_eq_some_iff.1 hc).1]
      simp [placeIssues, hc]
  have behind : (List.range' s.columns.length (r.cells.length - s.columns.length)).map
      (s.unknownIssue row) = (List.range' s.columns.length
        (r.cells.length - s.columns.length)).flatMap (s.placeIssues row r) := by
    rw [List.map_eq_flatMap]
    refine List.flatMap_congr fun position hp => ?_
    have past : s.columns.length ≤ position := (List.mem_range'_1.1 hp).1
    rw [placeIssues, List.getElem?_eq_none past]
  have all : List.range (max s.columns.length r.cells.length) = List.range s.columns.length ++
      List.range' s.columns.length (r.cells.length - s.columns.length) := by
    have size : max s.columns.length r.cells.length =
        s.columns.length + (r.cells.length - s.columns.length) := by omega
    rw [size, List.range_eq_range', List.range_eq_range', ← List.range'_append_1, Nat.zero_add]
  rw [all, List.flatMap_append, ← columns, ← behind]
  rfl

/-- A column without a cell has the one error that the cell is missing, and one with a cell at
most a warning and an error of it; a cell behind the columns has one warning. -/
theorem isPlaceReport_placeIssues (inside : position < max s.columns.length r.cells.length) :
    IsPlaceReport s r row position (s.placeIssues row r position) := by
  cases hc : s.columns[position]? with
  | none =>
    have past : s.columns.length ≤ position := List.getElem?_eq_none_iff.1 hc
    have there : ¬ r.cells.length ≤ position := by omega
    have only : s.placeIssues row r position = [s.unknownIssue row position] := by
      rw [placeIssues, hc]
    rw [only]
    refine ⟨?_, ⟨some (s.unknownIssue row position), none, rfl, ?_, nofun⟩, ?_, ?_⟩
    · simp [unknownIssue, placeName, hc]
    · simp [unknownIssue, Nat.not_lt.2 past]
    · simp [unknownIssue, there]
    · simp [unknownIssue, past]
  | some column =>
    have within : position < s.columns.length := (List.getElem?_eq_some_iff.1 hc).1
    have name : s.placeName position = column.name := by rw [placeName, hc]
    have all : s.placeIssues row r position = column.issues row position r := by
      rw [placeIssues, hc]
    rw [all]
    refine ⟨fun i hi => ?_, ?_, ?_, ?_⟩
    · rw [name]
      exact ⟨(Column.of_mem_issues hi).1, (Column.of_mem_issues hi).2.1⟩
    · cases hr : r.cells[position]? with
      | none => exact ⟨none, some (column.missingIssue row position),
          Column.issues_of_missing hr, nofun, by simp [Column.missingIssue]⟩
      | some cell =>
        refine ⟨_, _, Column.issues_of_cell hr, fun i hi => ?_, fun i hi => ?_⟩
        · obtain ⟨t, -, rfl⟩ := Option.map_eq_some_iff.1 hi
          simp [Truncation.issue, within]
        · exact (Column.issue?_cases hi).2.2.1
    · cases hr : r.cells[position]? with
      | none =>
        rw [Column.issues_of_missing hr, if_pos (List.getElem?_eq_none_iff.1 hr)]
        rfl
      | some cell =>
        have there := (List.getElem?_eq_some_iff.1 hr).1
        rw [countP_kind_eq_zero (Column.kind_ne_missing hr), if_neg (Nat.not_le.2 there)]
    · rw [countP_kind_eq_zero fun i hi => (Column.of_mem_issues hi).2.2.1,
        if_neg (Nat.not_le.2 within)]

/-- How many of the first numbers are not below a bound. -/
theorem sum_range_of_le (n bound : Nat) :
    ((List.range n).map fun k => if bound ≤ k then 1 else 0).sum = n - bound := by
  induction n with
  | zero => simp
  | succ n ih =>
    rw [List.range_succ, List.map_append, List.sum_append, ih, List.map_singleton,
      List.sum_singleton]
    split <;> omega

theorem isRowReport_checkRecord (s : Schema) (r : Record) (row : Nat) :
    IsRowReport s r row (s.checkRecord row r) := by
  have each : ∀ position ∈ List.range (max s.columns.length r.cells.length),
      IsPlaceReport s r row position (s.placeIssues row r position) :=
    fun _ h => isPlaceReport_placeIssues (List.mem_range.1 h)
  rw [checkRecord_eq_flatMap]
  refine ⟨⟨_, ?_, rfl, fun position part hp => ?_⟩, ?_, ?_⟩
  · rw [List.length_map, List.length_range]
  · obtain ⟨position', he, rfl⟩ := Option.map_eq_some_iff.1 (List.getElem?_map .. ▸ hp)
    obtain ⟨inside, rfl⟩ := List.getElem?_eq_some_iff.1 he
    rw [List.getElem_range]
    exact each position (List.mem_range.2 (by simpa using inside))
  · have counts := List.map_congr_left fun position h => (each position h).missing
    rw [List.countP_flatMap]
    exact (congrArg List.sum counts).trans ((sum_range_of_le ..).trans (by omega))
  · have counts := List.map_congr_left fun position h => (each position h).unknown
    rw [List.countP_flatMap]
    exact (congrArg List.sum counts).trans ((sum_range_of_le ..).trans (by omega))

end Schema

end TableLoad
