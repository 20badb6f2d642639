import Mathlib.Data.List.Sort
import TableLoad.Sql.Script
import TableLoad.Proofs.Report.Blocked

/-! # Which rows are written

The rows that are left out are those that the report blocks or that cannot be prepared, in order;
all others are written, in order.  For the report of the records themselves the two reasons are one.
-/
namespace TableLoad.Sql

variable {s : Schema} {blocked : List Nat}

def isWritten (s : Schema) (blocked : List Nat) (entry : Record × Nat) : Bool :=
  !blocked.contains entry.2 && (s.prepare entry.1).isOk

theorem isWritten_iff (entry : Record × Nat) :
    isWritten s blocked entry = true ↔
      entry.2 ∉ blocked ∧ ∃ values, s.prepare entry.1 = .ok values := by
  cases h : s.prepare entry.1 <;> simp [isWritten, h, Except.isOk, Except.toBool]

/-- One pass over the records sorts the written ones from the others, and prepares them. -/
theorem sortRows_spec (s : Schema) (blocked : List Nat) (row : Nat) (records : List Record) :
    (sortRows s blocked row records).1.map Except.ok =
        ((records.zipIdx row).filter (isWritten s blocked)).map (fun e => s.prepare e.1) ∧
      (sortRows s blocked row records).2 =
        ((records.zipIdx row).filter fun e => !isWritten s blocked e).map Prod.snd := by
  induction records generalizing row with
  | nil => simp [sortRows]
  | cons r records ih =>
    obtain ⟨rows, skipped⟩ := ih (row + 1)
    by_cases hb : row ∈ blocked
    · have hw : isWritten s blocked (r, row) = false := by simp [isWritten, hb]
      simp [sortRows, hb, hw, rows, skipped]
    · cases hp : s.prepare r with
      | ok values =>
        have hw : isWritten s blocked (r, row) = true := by
          simp [isWritten, hb, hp, Except.isOk, Except.toBool]
        simp [sortRows, hb, hp, hw, rows, skipped]
      | error fault =>
        have hw : isWritten s blocked (r, row) = false := by
          simp [isWritten, hp, Except.isOk, Except.toBool]
        simp [sortRows, hb, hp, hw, rows, skipped]

theorem pairwise_skipped (s : Schema) (blocked : List Nat) (row : Nat) (records : List Record) :
    (sortRows s blocked row records).2.Pairwise (· < ·) := by
  rw [(sortRows_spec s blocked row records).2]
  have ascending : ((records.zipIdx row).map Prod.snd).Pairwise (· < ·) := by
    rw [List.zipIdx_map_snd]
    exact List.pairwise_lt_range'
  exact ascending.sublist (List.filter_sublist.map Prod.snd)

theorem mem_skipped_iff (s : Schema) (blocked : List Nat) (row : Nat) (records : List Record)
    (i : Nat) : i ∈ (sortRows s blocked row records).2 ↔
      ∃ r, row ≤ i ∧ records[i - row]? = some r ∧
        (i ∈ blocked ∨ ¬ ∃ values, s.prepare r = .ok values) := by
  rw [(sortRows_spec s blocked row records).2]
  simp only [List.mem_map, List.mem_filter, Prod.exists, List.mk_mem_zipIdx_iff_le_and_getElem?_sub,
    Bool.not_eq_true', ← Bool.not_eq_true, isWritten_iff, not_and_or, not_not]
  constructor
  · rintro ⟨r, n, ⟨⟨hn, hr⟩, hw⟩, rfl⟩
    exact ⟨r, hn, hr, hw⟩
  · rintro ⟨r, hn, hr, hw⟩
    exact ⟨r, i, ⟨⟨hn, hr⟩, hw⟩, rfl⟩

theorem length_sortRows (s : Schema) (blocked : List Nat) (row : Nat) (records : List Record) :
    (sortRows s blocked row records).1.length + (sortRows s blocked row records).2.length =
      records.length := by
  obtain ⟨rows, skipped⟩ := sortRows_spec s blocked row records
  have hr := congrArg List.length rows
  have hs := congrArg List.length skipped
  simp only [List.length_map] at hr hs
  rw [hr, hs, ← List.length_eq_length_filter_add, List.length_zipIdx]

theorem rows_sortRows (s : Schema) (blocked : List Nat) (records : List Record) :
    (sortRows s blocked 0 records).1.map Except.ok =
      (records.zipIdx.filter fun e => e.2 ∉ (sortRows s blocked 0 records).2).map
        fun e => s.prepare e.1 := by
  rw [(sortRows_spec s blocked 0 records).1]
  congr 1
  refine List.filter_congr fun e he => ?_
  have hr : records[e.2]? = some e.1 := List.mem_zipIdx_iff_getElem?.1 he
  rw [Bool.eq_iff_iff, isWritten_iff, decide_eq_true_eq, mem_skipped_iff]
  simp [hr]

/-- For their own report, the records left out are those that the report blocks. -/
theorem skipped_checkRows (s : Schema) (records : List Record) :
    (sortRows s (s.checkRows 0 records).blockedRows 0 records).2 =
      (s.checkRows 0 records).blockedRows := by
  refine List.Pairwise.eq_of_mem_iff (pairwise_skipped s _ 0 records)
    (Report.pairwise_blockedRows _) fun i => ?_
  rw [mem_skipped_iff, Schema.mem_blockedRows_checkRows]
  constructor
  · rintro ⟨r, hi, hr, hb | hp⟩
    · exact hb
    · exact ⟨r, hi, hr, hp⟩
  · rintro ⟨r, hi, hr, hp⟩
    exact ⟨r, hi, hr, .inr hp⟩

/-- Nothing but an empty schema or an empty batch keeps `generate` from a result. -/
theorem generate_eq_ok (hs : s.columns ≠ []) (records : List Record) (report : Report)
    (d : Dialect) {batchSize : Nat} (hb : 1 ≤ batchSize) :
    generate s records report d batchSize = .ok {
      dialect := d
      table := s.table
      createTable := d.createTableText s
      inserts := d.insertTexts s (sortRows s report.blockedRows 0 records).1 batchSize
      rowCount := (sortRows s report.blockedRows 0 records).1.length
      skippedRows := (sortRows s report.blockedRows 0 records).2 } := by
  have hb' : batchSize ≠ 0 := by omega
  simp [generate, hs, hb']

/-- The report and the output agree on every row.  A record can be prepared exactly when it has no
error; so for the report of the records themselves the output leaves out the blocked rows and
counts the valid ones, whatever the dialect and the size of its batches. -/
theorem generate_agrees_with_report (s : Schema) :
    (∀ (row : Nat) (r : Record), (∃ values, s.prepare r = .ok values) ↔
        ∀ i ∈ s.checkRecord row r, i.severity ≠ .error) ∧
      ∀ records : List Record, s.columns ≠ [] → records ≠ [] →
        ∃ report, s.validate records = .ok report ∧ report.blockedRows.Pairwise (· < ·) ∧
          ∀ (d : Dialect) (batchSize : Nat), 1 ≤ batchSize →
            ∃ g, generate s records report d batchSize = .ok g ∧
              g.skippedRows = report.blockedRows ∧ g.rowCount = report.summary.validRows := by
  constructor
  · intro row r
    rw [← not_iff_not, ← s.checkRecord_blocks_iff row r]
    simp [Issue.blocks]
  · intro records hs hr
    refine ⟨s.checkRows 0 records, by simp [Schema.validate, hs, hr],
      Report.pairwise_blockedRows _, fun d batchSize hb => ?_⟩
    refine ⟨_, generate_eq_ok hs records _ d hb, skipped_checkRows s records, ?_⟩
    have length := length_sortRows s (s.checkRows 0 records).blockedRows 0 records
    rw [skipped_checkRows] at length
    change (sortRows s (s.checkRows 0 records).blockedRows 0 records).1.length =
      records.length - (s.checkRows 0 records).blockedRows.length
    omega

def shortNames : Schema where
  table := "t"
  columns := [
    Column.autoIncrement (Column.primaryKey { name := "id", type := .integer }),
    Column.notNull { name := "nome", type := .text (some 3) }]

/-- Of a fitting row, a row with a long name, a short row and a row with an unknown cell, the
second and the third are left out. -/
theorem generate_agrees_with_report_mixed :
    let records : List Record := [⟨[.null, .text "Ana"], []⟩, ⟨[.text "7", .text "Maria"], []⟩,
      ⟨[.null], []⟩, ⟨[.text "8", .text "Ivo", .text "x"], [⟨1, 9, 3⟩]⟩]
    ∃ report, shortNames.validate records = .ok report ∧ report.blockedRows = [1, 2] ∧
      ∃ g, generate shortNames records report .sqlserver 2 = .ok g ∧ g.skippedRows = [1, 2] ∧
        g.rowCount = 2 := by
  intro records
  obtain ⟨report, hv, -, each⟩ :=
    (generate_agrees_with_report shortNames).2 records (by decide) (by decide)
  obtain ⟨g, hg, hs, hc⟩ := each .sqlserver 2 (by decide)
  have he : report = shortNames.checkRows 0 records := by
    simpa [Schema.validate, shortNames, records] using hv.symm
  have hb : report.blockedRows = [1, 2] := by
    rw [he]
    decide
  refine ⟨report, hv, hb, g, hg, hs.trans hb, hc.trans ?_⟩
  rw [he]
  decide

end TableLoad.Sql
