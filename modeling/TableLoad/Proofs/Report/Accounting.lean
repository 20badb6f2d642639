import Mathlib.Data.List.Perm.Subperm
import TableLoad.Proofs.Report.Blocked
import TableLoad.Proofs.Report.Merging
import TableLoad.Proofs.Report.Places

/-! # What a report adds up to

The issues of a report go from row to row, and within a row from place to place.  Its counts are
drawn from them in four ways: as errors and all others, as kinds, as rows with an error, and as the
rows that are left.  They agree, also after reports of consecutive records have been merged.
-/
namespace TableLoad

/-- A report of consecutive records, the first of which is row `offset`: checked at once, or merged
from the reports of the first records and of those after them. -/
inductive IsReport (s : Schema) : Nat → List Record → Report → Prop where
  | checked (offset : Nat) (records : List Record) :
    IsReport s offset records (s.checkRows offset records)
  | merged {offset : Nat} {first rest : List Record} {report next : Report} :
    IsReport s offset first report → IsReport s (offset + first.length) rest next →
      IsReport s offset (first ++ rest) (report.merge next)

/-- Merging does not show in the report. -/
theorem IsReport.eq_checkRows {s : Schema} {offset : Nat} {records : List Record} {report : Report}
    (h : IsReport s offset records report) : report = s.checkRows offset records := by
  induction h with
  | checked => rfl
  | merged _ _ first rest => rw [first, rest, ← Schema.checkRows_append]

/-- The issues of a report are in order and its counts add up. -/
structure IsAccount (s : Schema) (offset : Nat) (records : List Record) (report : Report) :
    Prop where
  total : report.totalRows = records.length
  ascending : (report.issues.map Issue.row).Pairwise (· ≤ ·)
  within : ∀ i ∈ report.issues, offset ≤ i.row ∧ i.row < offset + report.totalRows
  rows : ∀ index r, records[index]? = some r → IsRowReport s r (offset + index)
    (report.issues.filter fun i => i.row == offset + index)
  errors : report.summary.errors = report.issues.countP fun i => i.severity == .error
  warnings : report.summary.warnings = report.issues.countP fun i => i.severity == .warning
  severities : report.summary.errors + report.summary.warnings = report.issues.length
  kinds : (report.summary.byKind.map Prod.snd).sum = report.issues.length
  blocked : ∀ row, report.isBlocked row = true ↔ row ∈ report.blockedRows
  valid : report.summary.validRows + report.summary.blockedRows = report.summary.totalRows

namespace Report

theorem sum_kinds_one (kind : IssueKind) :
    (IssueKind.all.map fun other => if kind == other then 1 else 0).sum = 1 := by
  cases kind <;> rfl

theorem sum_countP_kinds (issues : List Issue) :
    (IssueKind.all.map fun kind => issues.countP fun i => i.kind == kind).sum =
      issues.length := by
  induction issues with
  | nil => rfl
  | cons i issues ih =>
    simp only [List.countP_cons, List.sum_map_add, ih, sum_kinds_one, List.length_cons]

theorem sum_filter_counts {α : Type} (counts : List (α × Nat)) :
    ((counts.filter fun e => e.2 != 0).map Prod.snd).sum = (counts.map Prod.snd).sum := by
  induction counts with
  | nil => rfl
  | cons e counts ih =>
    rw [List.filter_cons, List.map_cons, List.sum_cons, ← ih]
    split
    · rw [List.map_cons, List.sum_cons]
    · rename_i zero
      have zero : e.2 = 0 := by simpa using zero
      rw [zero, Nat.zero_add]

/-- The counts of the kinds add up to all issues. -/
theorem sum_countsByKind (r : Report) : (r.countsByKind.map Prod.snd).sum = r.issues.length := by
  rw [countsByKind, sum_filter_counts, List.map_map]
  exact sum_countP_kinds r.issues

theorem length_eq_countP_add (issues : List Issue) : issues.length =
    (issues.countP Issue.blocks) + issues.countP fun i => i.severity == .warning := by
  rw [List.length_eq_countP_add_countP Issue.blocks]
  congr 1
  refine List.countP_congr fun i _ => ?_
  cases h : i.severity <;> simp [Issue.blocks, h]

/-- Rows are not blocked twice, so no more of them are blocked than there are. -/
theorem length_blockedRows_le {r : Report} {offset : Nat}
    (within : ∀ i ∈ r.issues, offset ≤ i.row ∧ i.row < offset + r.totalRows) :
    r.blockedRows.length ≤ r.totalRows := by
  have once : r.blockedRows.Nodup := r.pairwise_blockedRows.imp Nat.ne_of_lt
  have inside : r.blockedRows ⊆ List.range' offset r.totalRows := by
    intro row hr
    obtain ⟨i, hi, -, rfl⟩ := (mem_blockedRows r row).1 hr
    exact List.mem_range'_1.2 (within i hi)
  have := (List.subperm_of_subset once inside).length_le
  rwa [List.length_range'] at this

end Report

namespace Schema
variable {s : Schema} {offset : Nat} {records : List Record}

theorem checkRows_cons (s : Schema) (offset : Nat) (r : Record) (records : List Record) :
    (s.checkRows offset (r :: records)).issues =
      s.checkRecord offset r ++ (s.checkRows (offset + 1) records).issues := rfl

theorem row_of_mem_checkRows {i : Issue} (h : i ∈ (s.checkRows offset records).issues) :
    offset ≤ i.row ∧ i.row < offset + records.length := by
  obtain ⟨⟨r, row⟩, he, hi⟩ := List.mem_flatMap.1 h
  rw [row_of_mem_checkRecord hi]
  exact ⟨List.le_snd_of_mem_zipIdx he, List.snd_lt_add_of_mem_zipIdx he⟩

theorem ascending_checkRows (s : Schema) (offset : Nat) (records : List Record) :
    ((s.checkRows offset records).issues.map Issue.row).Pairwise (· ≤ ·) := by
  induction records generalizing offset with
  | nil => exact .nil
  | cons r records ih =>
    rw [checkRows_cons, List.map_append, List.pairwise_append]
    refine ⟨?_, ih (offset + 1), ?_⟩
    · refine List.pairwise_map.2 (List.pairwise_of_forall_mem_list fun i hi j hj => ?_)
      exact Nat.le_of_eq ((row_of_mem_checkRecord hi).trans (row_of_mem_checkRecord hj).symm)
    · intro a ha b hb
      obtain ⟨i, hi, rfl⟩ := List.mem_map.1 ha
      obtain ⟨j, hj, rfl⟩ := List.mem_map.1 hb
      rw [row_of_mem_checkRecord hi]
      exact Nat.le_of_succ_le (row_of_mem_checkRows hj).1

theorem filter_row_checkRows {index : Nat} {r : Record} (h : records[index]? = some r) :
    (s.checkRows offset records).issues.filter (fun i => i.row == offset + index) =
      s.checkRecord (offset + index) r := by
  induction records generalizing offset index with
  | nil => cases h
  | cons first records ih =>
    rw [checkRows_cons, List.filter_append]
    cases index with
    | zero =>
      obtain rfl : first = r := Option.some.inj h
      have all : ∀ i ∈ s.checkRecord offset first, (i.row == offset) = true :=
        fun i hi => beq_iff_eq.2 (row_of_mem_checkRecord hi)
      have none : ∀ i ∈ (s.checkRows (offset + 1) records).issues, ¬ (i.row == offset) = true := by
        intro i hi
        have := (row_of_mem_checkRows hi).1
        rw [beq_iff_eq]
        omega
      rw [Nat.add_zero, List.filter_eq_self.2 all, List.filter_eq_nil_iff.2 none, List.append_nil]
    | succ index =>
      have place : offset + (index + 1) = offset + 1 + index := by omega
      have none : ∀ i ∈ s.checkRecord offset first, ¬ (i.row == offset + 1 + index) = true := by
        intro i hi
        have := row_of_mem_checkRecord hi
        rw [beq_iff_eq]
        omega
      rw [place, List.filter_eq_nil_iff.2 none, List.nil_append]
      exact ih h

/-- The report of some rows adds up. -/
theorem isAccount_checkRows (s : Schema) (offset : Nat) (records : List Record) :
    IsAccount s offset records (s.checkRows offset records) := by
  have within : ∀ i ∈ (s.checkRows offset records).issues,
      offset ≤ i.row ∧ i.row < offset + records.length := fun _ => row_of_mem_checkRows
  have split := Report.length_eq_countP_add (s.checkRows offset records).issues
  have few := Report.length_blockedRows_le within
  exact
    { total := rfl
      ascending := s.ascending_checkRows offset records
      within
      rows := fun index r here =>
        filter_row_checkRows here ▸ s.isRowReport_checkRecord r (offset + index)
      errors := rfl
      warnings := Nat.sub_eq_of_eq_add' split
      severities := Nat.add_sub_cancel' (split ▸ Nat.le_add_right ..)
      kinds := (s.checkRows offset records).sum_countsByKind
      blocked := fun row => ((s.checkRows offset records).mem_blockedRows_iff_isBlocked row).symm
      valid := Nat.sub_add_cancel few }

end Schema

/-- Reports add up, however they were merged. -/
theorem IsReport.isAccount {s : Schema} {offset : Nat} {records : List Record} {report : Report}
    (h : IsReport s offset records report) : IsAccount s offset records report :=
  h.eq_checkRows ▸ s.isAccount_checkRows offset records

def tallied : Schema where
  table := "t"
  columns := [{ name := "n", type := .integer, nullable := false },
    { name := "a", type := .text (some 4) }]

/-- A short row with a misfit is merged with a row that is too long and one that fits. -/
theorem IsReport.isAccount_tallied :
    let short : Record := ⟨[.text "one"], []⟩
    let long : Record := ⟨[.null, .text "abcd", .null], [⟨1, 9, 4⟩]⟩
    let fit : Record := ⟨[.text "1", .null], []⟩
    let report := (tallied.checkRows 3 [short]).merge (tallied.checkRows 4 [long, fit])
    report.summary = ⟨3, 1, 2, 3, 2, [(.missingColumn, 1), (.typeMismatch, 1),
        (.lengthExceeded, 1), (.nullNotAllowed, 1), (.unknownColumn, 1)]⟩ ∧
      IsAccount tallied 3 [short, long, fit] report := by
  intro short long fit report
  refine ⟨by decide, ?_⟩
  exact IsReport.isAccount (.merged (.checked 3 [short]) (.checked 4 [long, fit]))

end TableLoad
