import Mathlib.Algebra.GroupWithZero.Nat
import Mathlib.Data.List.SplitBy
import TableLoad.Proofs.Sql.Written

/-! # Runs and batches

Prepared rows are cut into maximal runs of rows that agree on whether the auto-increment column is
empty, and each run into batches.  Nothing is lost, repeated or moved; no batch is empty or longer
than its limit, and no run has more batches than it needs.
-/
namespace TableLoad.Sql

section Pieces
variable {α : Type}

theorem flatten_piecesOf (limit : Nat) (items : List α) :
    (piecesOf limit items).flatten = items := by
  fun_induction piecesOf limit items with
  | case1 items short empty => simpa using (List.isEmpty_iff.1 empty).symm
  | case2 items short filled => simp
  | case3 items long ih => rw [List.flatten_cons, ih, List.take_append_drop]

theorem piecesOf_of_ne_nil (limit : Nat) {items : List α} (filled : items ≠ []) :
    piecesOf limit items = items.take (limit + 1) :: piecesOf limit (items.drop (limit + 1)) := by
  by_cases short : items.length ≤ limit + 1
  · have none : piecesOf limit ([] : List α) = [] := by simp [piecesOf]
    rw [piecesOf, if_pos short, if_neg (by simpa using filled), List.take_of_length_le short,
      List.drop_of_length_le short, none]
  · rw [piecesOf, if_neg short]

theorem mem_piecesOf {limit : Nat} {items piece : List α} (h : piece ∈ piecesOf limit items) :
    piece ≠ [] ∧ piece.length ≤ limit + 1 := by
  fun_induction piecesOf limit items with
  | case1 items short empty => simp at h
  | case2 items short filled =>
    rw [List.mem_singleton] at h
    subst h
    exact ⟨fun he => filled (by simp [he]), short⟩
  | case3 items long ih =>
    rcases List.mem_cons.1 h with rfl | h
    · refine ⟨fun he => ?_, by rw [List.length_take]; omega⟩
      have := congrArg List.length he
      simp only [List.length_take, List.length_nil] at this
      omega
    · exact ih h

theorem length_piecesOf (limit : Nat) (items : List α) :
    (piecesOf limit items).length = (items.length + limit) / (limit + 1) := by
  fun_induction piecesOf limit items with
  | case1 items short empty =>
    rw [List.isEmpty_iff.1 empty]
    simp [Nat.div_eq_of_lt]
  | case2 items short filled =>
    have : items.length ≠ 0 := fun he => filled (by simp [List.length_eq_zero_iff.1 he])
    symm
    rw [List.length_singleton, Nat.div_eq_iff (by omega)]
    omega
  | case3 items long ih =>
    have split : items.length + limit =
        (items.length - (limit + 1) + limit) + (limit + 1) := by omega
    rw [List.length_cons, ih, List.length_drop, split, Nat.add_div_right _ (by omega)]

theorem flatten_batches (size : Nat) (items : List α) : (batches size items).flatten = items :=
  flatten_piecesOf _ _

theorem batches_of_ne_nil {size : Nat} (hs : 1 ≤ size) {items : List α} (filled : items ≠ []) :
    batches size items = items.take size :: batches size (items.drop size) := by
  rw [batches, piecesOf_of_ne_nil _ filled, Nat.sub_add_cancel hs, batches]

theorem mem_batches {size : Nat} {items batch : List α} (hs : 1 ≤ size)
    (h : batch ∈ batches size items) : batch ≠ [] ∧ batch.length ≤ size := by
  obtain ⟨filled, bound⟩ := mem_piecesOf h
  exact ⟨filled, by omega⟩

theorem length_batches {size : Nat} (hs : 1 ≤ size) (items : List α) :
    (batches size items).length = (items.length + size - 1) / size := by
  have pred : size - 1 + 1 = size := by omega
  rw [batches, length_piecesOf, pred, Nat.add_sub_assoc hs]

/-- The items cut into the longest runs on which a key is constant. -/
structure MaximalRuns {β : Type} (key : α → β) (items : List α) (runs : List (List α)) : Prop where
  flatten : runs.flatten = items
  filled : ∀ run ∈ runs, run ≠ []
  constant : ∀ run ∈ runs, ∀ a ∈ run, ∀ b ∈ run, key a = key b
  maximal : runs.IsChain fun run next => ∀ a ∈ run, ∀ b ∈ next, key a ≠ key b

/-- A key that agrees on neighbours agrees on the whole list. -/
theorem constant_of_isChain {β : Type} [BEq β] [LawfulBEq β] {key : α → β} {run : List α}
    (h : run.IsChain fun a b => (key a == key b) = true) :
    ∀ a ∈ run, ∀ b ∈ run, key a = key b := by
  induction run with
  | nil => simp
  | cons first run ih =>
    have rest : ∀ a ∈ run, key first = key a := by
      cases run with
      | nil => simp
      | cons second run =>
        rw [List.isChain_cons_cons, beq_iff_eq] at h
        intro a ha
        exact h.1.trans (ih h.2 second List.mem_cons_self a ha)
    have tail := ih h.tail
    simp only [List.mem_cons]
    rintro a (rfl | ha) b (rfl | hb)
    · rfl
    · exact rest b hb
    · exact (rest a ha).symm
    · exact tail a ha b hb

/-- Cutting wherever the key changes gives the longest runs. -/
theorem maximalRuns_splitBy {β : Type} [BEq β] [LawfulBEq β] (key : α → β) (items : List α) :
    MaximalRuns key items (items.splitBy fun a b => key a == key b) := by
  have constant : ∀ run ∈ items.splitBy (fun a b => key a == key b),
      ∀ a ∈ run, ∀ b ∈ run, key a = key b :=
    fun run hr => constant_of_isChain (List.isChain_of_mem_splitBy hr)
  refine ⟨List.flatten_splitBy _ _, fun run hr => List.ne_nil_of_mem_splitBy hr, constant, ?_⟩
  apply (List.isChain_getLast_head_splitBy _ items).imp_of_mem_imp
  rintro run next hr hn ⟨ha, hb, differ⟩ a hma b hmb he
  rw [beq_eq_false_iff_ne] at differ
  apply differ
  rw [constant run hr _ (List.getLast_mem ha) a hma, he,
    constant next hn _ (List.head_mem hb) b hmb]

end Pieces

def Statement.insert? : Statement → Option (List Nat × List (List Value))
  | .toggle _ => none
  | .insert positions rows => some (positions, rows)

/-- Whether a row leaves the auto-increment column to the database. -/
def leavesIdentity (s : Schema) (row : List Value) : Bool :=
  s.autoIncrement?.any fun i => row[i]? == some .null

theorem isExplicit_eq (s : Schema) (row : List Value) :
    isExplicit s.autoIncrement? row = !leavesIdentity s row := by
  cases h : s.autoIncrement? <;> simp [isExplicit, leavesIdentity, h, bne]

/-- The places of the columns that a batch names: all columns, but without the auto-increment one
where its rows leave that to the database. -/
def namedPositions (s : Schema) (batch : List (List Value)) : List Nat :=
  if batch.any (leavesIdentity s) then
    (List.range s.columns.length).filter fun i => some i ≠ s.autoIncrement?
  else List.range s.columns.length

theorem insertPositions_eq {s : Schema} {explicit : Bool} {batch : List (List Value)}
    (filled : batch ≠ []) (agree : ∀ row ∈ batch, leavesIdentity s row = !explicit) :
    insertPositions s explicit = namedPositions s batch := by
  have any : batch.any (leavesIdentity s) = !explicit := by
    cases explicit with
    | true => simpa using agree
    | false =>
      obtain ⟨row, hr⟩ := List.exists_mem_of_ne_nil batch filled
      exact List.any_eq_true.2 ⟨row, hr, agree row hr⟩
  cases explicit <;> simp [insertPositions, namedPositions, any, bne, decide_not, beq_eq_decide]

/-- Rows cut into the batches of the statements that insert them, at most `limit` rows each. -/
structure IsBatching (s : Schema) (limit : Nat) (rows : List (List Value))
    (batches : List (List (List Value))) : Prop where
  flatten : batches.flatten = rows
  filled : ∀ batch ∈ batches, batch ≠ []
  bounded : ∀ batch ∈ batches, batch.length ≤ limit
  agree : ∀ batch ∈ batches, ∀ a ∈ batch, ∀ b ∈ batch, leavesIdentity s a = leavesIdentity s b
  count : ∃ runs, MaximalRuns (leavesIdentity s) rows runs ∧
    batches.length = (runs.map fun run => (run.length + limit - 1) / limit).sum

/-- Cutting each run on its own gives a batching of all rows. -/
theorem isBatching_of_runs {s : Schema} {limit : Nat} {rows : List (List Value)}
    {runs : List (List (List Value))} (hl : 1 ≤ limit)
    (hr : MaximalRuns (leavesIdentity s) rows runs) :
    IsBatching s limit rows (runs.flatMap (batches limit)) := by
  have inRun : ∀ batch ∈ runs.flatMap (batches limit),
      ∃ run ∈ runs, batch ∈ batches limit run := fun batch hb => List.mem_flatMap.1 hb
  constructor
  · have each : ∀ runs : List (List (List Value)),
        (runs.flatMap (batches limit)).flatten = runs.flatten := by
      intro runs
      induction runs with
      | nil => rfl
      | cons run runs ih =>
        rw [List.flatMap_cons, List.flatten_append, flatten_batches, ih, List.flatten_cons]
    rw [each, hr.flatten]
  · intro batch hb
    obtain ⟨run, -, hm⟩ := inRun batch hb
    exact (mem_batches hl hm).1
  · intro batch hb
    obtain ⟨run, -, hm⟩ := inRun batch hb
    exact (mem_batches hl hm).2
  · intro batch hb a ha b hb'
    obtain ⟨run, hrun, hm⟩ := inRun batch hb
    have sub : ∀ row ∈ batch, row ∈ run := fun row hrow => by
      rw [← flatten_batches limit run]
      exact List.mem_flatten.2 ⟨batch, hm, hrow⟩
    exact hr.constant run hrun a (sub a ha) b (sub b hb')
  · refine ⟨runs, hr, ?_⟩
    rw [List.length_flatMap]
    simp only [length_batches hl]

/-- The statements of one run insert its batches. -/
theorem inserts_runStatements (d : Dialect) (s : Schema) {limit : Nat} (hl : 1 ≤ limit)
    {run : List (List Value)}
    (constant : ∀ a ∈ run, ∀ b ∈ run, leavesIdentity s a = leavesIdentity s b) :
    (d.runStatements s limit run).filterMap Statement.insert? =
      (batches limit run).map fun batch => (namedPositions s batch, batch) := by
  have same : ∀ batch ∈ batches limit run,
      insertPositions s (run.head?.any (isExplicit s.autoIncrement?)) = namedPositions s batch := by
    intro batch hb
    have sub : ∀ row ∈ batch, row ∈ run := fun row hrow => by
      rw [← flatten_batches limit run]
      exact List.mem_flatten.2 ⟨batch, hb, hrow⟩
    refine insertPositions_eq (mem_batches hl hb).1 fun row hrow => ?_
    cases run with
    | nil => exact absurd (sub row hrow) (by simp)
    | cons first run =>
      rw [constant row (sub row hrow) first List.mem_cons_self]
      simp [isExplicit_eq]
  have inserts : ((batches limit run).map (Statement.insert
      (insertPositions s (run.head?.any (isExplicit s.autoIncrement?))))).filterMap
        Statement.insert? = (batches limit run).map fun batch => (namedPositions s batch, batch) := by
    rw [List.filterMap_map, ← List.filterMap_eq_map]
    refine List.filterMap_congr fun batch hb => ?_
    simp [Statement.insert?, same batch hb]
  rw [Dialect.runStatements]
  split
  · rw [List.filterMap_cons_none rfl, List.filterMap_append, inserts]
    simp [Statement.insert?]
  · exact inserts

theorem one_le_batchLimit (d : Dialect) (batchSize : Nat) : 1 ≤ d.batchLimit batchSize :=
  Nat.le_max_left ..

/-- The statements that insert prepared rows insert the batches of a batching, in order. -/
theorem inserts_insertStatements (d : Dialect) (s : Schema) (rows : List (List Value))
    (batchSize : Nat) :
    ∃ batches, IsBatching s (d.batchLimit batchSize) rows batches ∧
      (d.insertStatements s rows batchSize).filterMap Statement.insert? =
        batches.map fun batch => (namedPositions s batch, batch) := by
  have runs := maximalRuns_splitBy (leavesIdentity s) rows
  have limit := one_le_batchLimit d batchSize
  refine ⟨_, isBatching_of_runs limit runs, ?_⟩
  have key : (fun a b => isExplicit s.autoIncrement? a == isExplicit s.autoIncrement? b) =
      fun a b => leavesIdentity s a == leavesIdentity s b := by
    funext a b
    simp only [isExplicit_eq]
    cases leavesIdentity s a <;> cases leavesIdentity s b <;> rfl
  rw [Dialect.insertStatements, key, List.filterMap_flatMap, List.map_flatMap]
  refine List.flatMap_congr fun run hr => ?_
  exact inserts_runStatements d s limit (runs.constant run hr)

/-- Every record is either left out or inserted once, in order.  Left out are exactly the rows that
the report blocks, whatever records it is about, and those that cannot be prepared.  The prepared
rows are cut into the batches of the statements: each within the limit, of rows that agree on
whether they leave the auto-increment column to the database, naming that column if they do not;
and as few as the runs allow. -/
theorem generate_partitions_rows (s : Schema) (hs : s.columns ≠ []) (records : List Record)
    (report : Report) (d : Dialect) (batchSize : Nat) (hb : 1 ≤ batchSize) :
    ∃ g rows batches, generate s records report d batchSize = .ok g ∧
      g.skippedRows.Pairwise (· < ·) ∧
      (∀ i, i ∈ g.skippedRows ↔ ∃ r, records[i]? = some r ∧
        (report.isBlocked i = true ∨ ¬ ∃ values, s.prepare r = .ok values)) ∧
      g.rowCount + g.skippedRows.length = records.length ∧
      rows.length = g.rowCount ∧
      rows.map Except.ok = (records.zipIdx.filter fun e => e.2 ∉ g.skippedRows).map
        (fun e => s.prepare e.1) ∧
      (∀ r values, s.prepare r = .ok values → values.length = s.columns.length) ∧
      g.inserts = (d.insertStatements s rows batchSize).map (d.statementText s) ∧
      (d.insertStatements s rows batchSize).filterMap Statement.insert? =
        batches.map (fun batch => (namedPositions s batch, batch)) ∧
      IsBatching s (max 1 (min batchSize (d.maxRows?.getD batchSize))) rows batches := by
  obtain ⟨batches, batching, inserts⟩ := inserts_insertStatements d s
    (sortRows s report.blockedRows 0 records).1 batchSize
  refine ⟨_, _, batches, generate_eq_ok hs records report d hb, pairwise_skipped .., ?_,
    length_sortRows .., rfl, rows_sortRows .., fun r values => Schema.length_of_prepare, rfl,
    inserts, ?_⟩
  · intro i
    rw [mem_skipped_iff]
    simp [Report.mem_blockedRows_iff_isBlocked]
  · have limit : d.batchLimit batchSize = max 1 (min batchSize (d.maxRows?.getD batchSize)) := by
      cases d <;> simp [Dialect.batchLimit, Dialect.maxRows?]
    exact limit ▸ batching

/-- Rows with and without a key in turn, under a report that blocks the second row and a row that
is not there. -/
theorem generate_partitions_rows_mixed :
    let records : List Record := [⟨[.text "7", .text "Ana"], []⟩, ⟨[.text "8", .text "Eva"], []⟩,
      ⟨[.text "9", .text "Ivo"], []⟩, ⟨[.null, .text "Lia"], []⟩, ⟨[.null, .null], []⟩]
    let report : Report := ⟨[⟨1, "nome", .typeMismatch, .error, "", none⟩,
      ⟨30, "id", .nullNotAllowed, .error, "", none⟩], 31⟩
    shortNames.columns ≠ [] ∧ 1 ≤ 5000 ∧ ∃ g rows batches,
      generate shortNames records report .sqlserver 5000 = .ok g ∧
        g.skippedRows = [1, 4] ∧ g.rowCount = 3 ∧
          IsBatching shortNames 1000 rows batches ∧ rows.length = 3 := by
  intro records report
  refine ⟨by decide, by decide, ?_⟩
  obtain ⟨g, rows, batches, hg, -, -, count, length, -, -, -, -, batching⟩ :=
    generate_partitions_rows shortNames (by decide) records report .sqlserver 5000 (by decide)
  have skipped : g.skippedRows = [1, 4] := by
    have he := hg.symm.trans
      (generate_eq_ok (by decide) records report .sqlserver (by decide : 1 ≤ 5000))
    rw [Except.ok.inj he]
    decide
  have three : g.rowCount = 3 := by
    rw [skipped] at count
    simpa [records] using count
  exact ⟨g, rows, batches, hg, skipped, three, batching, length.trans three⟩

end TableLoad.Sql
