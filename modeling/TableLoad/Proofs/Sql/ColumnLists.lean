import TableLoad.Proofs.Sql.Toggles

/-! # Statements that insert nothing

A run whose rows leave the auto-increment column to the database does not name it.  Where it is the
only column, the run names none and its tuples are empty, which only MySQL takes; everywhere else a
statement names a column and has a value in every tuple.
-/
namespace TableLoad.Sql.Reading

/-- The text of a statement that inserts rows, with a column in its list and a value in each of its
tuples. -/
def NamesColumns (d : Dialect) (s : Schema) (text : String) : Prop :=
  ∃ names tuples, statement? d text = some (.insert s.table names tuples) ∧
    names ≠ [] ∧ tuples ≠ [] ∧ ∀ tuple ∈ tuples, tuple ≠ []

/-- The auto-increment column is the only one, and some row is empty there. -/
def LeavesNothing (s : Schema) (rows : List (List Value)) : Prop :=
  s.columns.length = 1 ∧ s.autoIncrement? = some 0 ∧ [.null] ∈ rows

theorem columnsAt_eq_nil_iff {s : Schema} {positions : List Nat}
    (h : positions.Sublist (List.range s.columns.length)) :
    columnsAt s positions = [] ↔ positions = [] := by
  rw [columnsAt, List.filterMap_eq_nil_iff]
  constructor
  · intro none
    refine List.eq_nil_iff_forall_not_mem.2 fun i hi => ?_
    have bound := List.mem_range.1 (h.subset hi)
    simpa [bound] using none i hi
  · rintro rfl
    simp

/-- A batch names no place exactly when its rows are empty in the only column. -/
theorem namedPositions_eq_nil_iff {s : Schema} (some_column : s.columns ≠ [])
    (batch : List (List Value)) : namedPositions s batch = [] ↔
      s.columns.length = 1 ∧ s.autoIncrement? = some 0 ∧ ∃ row ∈ batch, row[0]? = some .null := by
  have columns : 0 < s.columns.length := List.length_pos_iff.2 some_column
  rw [namedPositions]
  split
  · rename_i leaves
    obtain ⟨row, hr, left⟩ := List.any_eq_true.1 leaves
    obtain ⟨i, auto, null⟩ : ∃ i, s.autoIncrement? = some i ∧ row[i]? = some .null := by
      simpa [leavesIdentity, Option.any_eq_true] using left
    constructor
    · intro none
      have own : ∀ j < s.columns.length, j = i := by
        simpa [List.filter_eq_nil_iff, auto] using none
      have zero : 0 = i := own 0 columns
      have one : s.columns.length = 1 := by
        by_contra more
        have := own 1 (by omega)
        omega
      exact ⟨one, zero ▸ auto, row, hr, zero ▸ null⟩
    · rintro ⟨one, first, -⟩
      simp [one, first]
  · rename_i explicit
    constructor
    · intro none
      have := List.range_eq_nil.1 none
      omega
    · rintro ⟨-, auto, row, hr, null⟩
      refine absurd (List.any_eq_true.2 ⟨row, hr, ?_⟩) explicit
      simp [leavesIdentity, auto, null]

/-- A batch of prepared rows is read as a list of columns and as many tuples, all empty if the batch
names no place and all filled if it names one. -/
theorem namesColumns_iff {d : Dialect} {s : Schema} (distinct : (s.columns.map Column.name).Nodup)
    {batch : List (List Value)} (filled : batch ≠ [])
    (agree : ∀ a ∈ batch, ∀ b ∈ batch, leavesIdentity s a = leavesIdentity s b)
    (fits : ∀ row ∈ batch, IsRowOf s row) :
    NamesColumns d s (d.statementText s (.insert (namedPositions s batch) batch)) ↔
      namedPositions s batch ≠ [] := by
  obtain ⟨tuples, read, widths, rows⟩ := statement?_batch (d := d) distinct agree fits
  have nil := columnsAt_eq_nil_iff (namedPositions_sublist s batch)
  constructor
  · rintro ⟨names, own, same, named, -, -⟩ none
    rw [read, Option.some_inj, Statement.insert.injEq] at same
    exact named (by rw [← same.2.1, nil.2 none, List.map_nil])
  · intro named
    have columns : columnsAt s (namedPositions s batch) ≠ [] := mt nil.1 named
    refine ⟨_, tuples, read, by simpa using columns, ?_, fun tuple ht empty => ?_⟩
    · rintro rfl
      have : batch.map (fun row => (s.data row).map some) = [] := rows.symm
      exact filled (List.map_eq_nil_iff.1 this)
    · have width := widths tuple ht
      rw [empty] at width
      exact columns (List.length_eq_zero_iff.1 width.symm)

/-- Every statement that inserts prepared rows names a column and has a value in every tuple, unless
the auto-increment column is the only one and some row is empty there. -/
theorem insertStatements_name_columns_iff {table : String} {columns : List Column} {s : Schema}
    (made : Schema.make table columns = .ok s) {rows : List (List Value)}
    (prepared : ∀ row ∈ rows, ∃ r, s.prepare r = .ok row) (d : Dialect) (batchSize : Nat) :
    (∀ positions batch, .insert positions batch ∈ d.insertStatements s rows batchSize →
        NamesColumns d s (d.statementText s (.insert positions batch))) ↔
      ¬ LeavesNothing s rows := by
  have distinct := Schema.nodup_names made
  have some_column : s.columns ≠ [] := by
    obtain ⟨-, some_column, -, -, rfl⟩ := Schema.make_eq_ok_iff.1 made
    exact some_column
  have fits : ∀ row ∈ rows, IsRowOf s row := fun row hr =>
    (prepared row hr).elim fun r hp => isRowOf_of_prepare hp
  constructor
  · rintro names ⟨one, auto, null⟩
    -- the batch of the empty row names no column
    obtain ⟨batches, batching, inserts⟩ := inserts_insertStatements d s rows batchSize
    rw [← batching.flatten] at null
    obtain ⟨batch, hb, own⟩ := List.mem_flatten.1 null
    have sub : ∀ row ∈ batch, IsRowOf s row := fun row hr =>
      fits row (batching.flatten ▸ List.mem_flatten.2 ⟨batch, hb, hr⟩)
    obtain ⟨statement, hs, same⟩ := List.mem_filterMap.1
      (inserts ▸ List.mem_map_of_mem (f := fun batch => (namedPositions s batch, batch)) hb)
    cases statement with
    | toggle on => cases same
    | insert positions rows =>
      cases same
      refine (namesColumns_iff distinct (batching.filled _ hb) (batching.agree _ hb) sub).1
        (names _ _ hs) ?_
      exact (namedPositions_eq_nil_iff some_column _).2 ⟨one, auto, _, own, rfl⟩
  · intro leaves positions batch hs
    obtain ⟨rfl, batches, batching, hb⟩ := mem_batches_of_mem_insertStatements hs
    have sub : ∀ row ∈ batch, row ∈ rows := fun row hr =>
      batching.flatten ▸ List.mem_flatten.2 ⟨batch, hb, hr⟩
    refine (namesColumns_iff distinct (batching.filled _ hb) (batching.agree _ hb)
      fun row hr => fits row (sub row hr)).2 fun none => ?_
    obtain ⟨one, auto, row, hr, null⟩ := (namedPositions_eq_nil_iff some_column _).1 none
    have length := (fits row (sub row hr)).1
    refine leaves ⟨one, auto, ?_⟩
    obtain ⟨value, rfl⟩ := List.length_eq_one_iff.1 (length.trans one)
    cases null
    exact sub _ hr

/-- Beside another column, rows with and without a key. -/
theorem insertStatements_name_columns_mixed :
    let rows : List (List Value) := [[.integer 7, .text "Ana"], [.null, .text "Ivo"]]
    Schema.make "t" shortNames.columns = .ok shortNames ∧
      (∀ row ∈ rows, ∃ r, shortNames.prepare r = .ok row) ∧ ¬ LeavesNothing shortNames rows ∧
      ∀ positions batch, .insert positions batch ∈ Dialect.sqlserver.insertStatements shortNames rows 1 →
        NamesColumns .sqlserver shortNames
          (Dialect.sqlserver.statementText shortNames (.insert positions batch)) := by
  intro rows
  have made : Schema.make "t" shortNames.columns = .ok shortNames := by decide
  have prepared : ∀ row ∈ rows, ∃ r, shortNames.prepare r = .ok row := by
    simp only [rows, List.forall_mem_cons, List.not_mem_nil, false_imp_iff, implies_true, and_true]
    exact ⟨⟨⟨[.text "7", .text "Ana"], []⟩, by decide⟩, ⟨⟨[.null, .text "Ivo"], []⟩, by decide⟩⟩
  have two : ¬ LeavesNothing shortNames rows := fun h => absurd h.1 (by decide)
  exact ⟨made, prepared, two,
    (insertStatements_name_columns_iff made prepared .sqlserver 1).2 two⟩

/-- A table of keys alone, and a row that leaves its key to the database: the statement for it has
an empty list of columns and an empty tuple in every dialect. -/
theorem insertTexts_of_lone_key :
    let s : Schema :=
      ⟨"t", [Column.autoIncrement (Column.primaryKey { name := "id", type := .integer })]⟩
    Schema.make "t" s.columns = .ok s ∧ s.prepare ⟨[.null], []⟩ = .ok [.null] ∧
      ∀ d : Dialect,
        let text := "INSERT INTO " ++ d.quoteName "t" ++ " () VALUES\n()"
        d.insertTexts s [[.null]] 10 = [text] ∧
          statement? d text = some (.insert "t" [] [[]]) ∧ ¬ NamesColumns d s text := by
  intro s
  refine ⟨by decide, by decide, fun d => ?_⟩
  intro text
  have written : d.insertTexts s [[.null]] 10 = [text] := by cases d <;> decide +kernel
  have read : statement? d text = some (.insert "t" [] [[]]) := by cases d <;> decide +kernel
  refine ⟨written, read, ?_⟩
  rintro ⟨names, tuples, own, named, -⟩
  rw [read, Option.some_inj, Statement.insert.injEq] at own
  exact named own.2.1.symm

end TableLoad.Sql.Reading
