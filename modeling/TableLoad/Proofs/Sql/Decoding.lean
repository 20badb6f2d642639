import TableLoad.Proofs.Schema.Made
import TableLoad.Proofs.Sql.Batches
import TableLoad.Proofs.Sql.Statements

/-! # The statements that insert rows hold the rows

What a database reads from the statements are the prepared rows in order, whatever the names and
the texts hold; so databases that read different spellings get the same rows.
-/
namespace TableLoad.Sql.Reading

/-- A row with one value for each column, each of the type of its column. -/
def IsRowOf (s : Schema) (row : List Value) : Prop :=
  row.length = s.columns.length ∧ ∀ e ∈ s.columns.zip row, e.2.IsOfType e.1.type

theorem isRowOf_of_prepare {s : Schema} {r : Record} {row : List Value}
    (h : s.prepare r = .ok row) : IsRowOf s row := by
  obtain ⟨length, each⟩ := storeCells_eq_ok h
  refine ⟨length, fun e he => ?_⟩
  obtain ⟨i, hi⟩ := List.getElem?_of_mem he
  obtain ⟨hc, hv⟩ := List.getElem?_zip_eq_some.1 hi
  obtain ⟨cell, value, -, hv', stored⟩ := each i e.1 hc
  have same : e.2 = value := Option.some.inj (hv.symm.trans hv')
  rw [same]
  exact Cell.isOfType_of_value (Column.value_of_store stored)

theorem mem_zip_of_mem_entries {s : Schema} {positions : List Nat} {row : List Value}
    {e : Column × Value} (h : e ∈ entries s positions row) : e ∈ s.columns.zip row := by
  obtain ⟨i, -, hi⟩ := List.mem_filterMap.1 h
  exact List.mem_of_getElem? hi

theorem map_fst_entries {s : Schema} {row : List Value} (length : row.length = s.columns.length)
    (positions : List Nat) : (entries s positions row).map Prod.fst = columnsAt s positions := by
  rw [entries, columnsAt, List.map_filterMap]
  refine List.filterMap_congr fun i _ => ?_
  rw [← List.getElem?_map, List.map_fst_zip (by omega)]

theorem filterMap_range_getElem? {α : Type} (items : List α) :
    ((List.range items.length).filterMap fun i => items[i]?) = items := by
  induction items with
  | nil => rfl
  | cons a items ih =>
    rw [List.length_cons, List.range_succ_eq_map, List.filterMap_cons, List.filterMap_map]
    exact congrArg (a :: ·) ih

theorem columnsAt_sublist {s : Schema} {positions : List Nat}
    (h : positions.Sublist (List.range s.columns.length)) :
    (columnsAt s positions).Sublist s.columns := by
  have := h.filterMap fun i => s.columns[i]?
  rwa [filterMap_range_getElem?] at this

theorem namedPositions_sublist (s : Schema) (batch : List (List Value)) :
    (namedPositions s batch).Sublist (List.range s.columns.length) := by
  rw [namedPositions]
  split
  · exact List.filter_sublist
  · exact List.Sublist.refl _

/-- A place that a batch does not name is that of the auto-increment column, and its rows are empty
there. -/
theorem null_of_not_mem_namedPositions {s : Schema} {batch : List (List Value)}
    (agree : ∀ a ∈ batch, ∀ b ∈ batch, leavesIdentity s a = leavesIdentity s b)
    {row : List Value} (hr : row ∈ batch) {i : Nat} {c : Column} (hc : s.columns[i]? = some c)
    (hi : i ∉ namedPositions s batch) : c.isAutoIncrement = true ∧ row[i]? = some .null := by
  have bound : i ∈ List.range s.columns.length :=
    List.mem_range.2 (List.getElem?_eq_some_iff.1 hc).1
  rw [namedPositions] at hi
  split at hi
  · rename_i any
    obtain ⟨other, ho, leaves⟩ := List.any_eq_true.1 any
    have auto : s.autoIncrement? = some i := by
      by_contra differ
      exact hi (List.mem_filter.2 ⟨bound, by simpa using fun he => differ he.symm⟩)
    have own : leavesIdentity s row = true := (agree row hr other ho).trans leaves
    constructor
    · obtain ⟨hlt, isAuto, -⟩ := List.findIdx?_eq_some_iff_getElem.1 auto
      rwa [(List.getElem?_eq_some_iff.1 hc).2] at isAuto
    · simpa [leavesIdentity, auto] using own
  · exact absurd bound hi

/-- An item is found by its key beside the value it is related to. -/
theorem lookup_zip_of_forall₂ {α β : Type} {R : α → β → Prop} (key : α → String)
    {items : List α} {values : List β} (each : List.Forall₂ R items values)
    (distinct : (items.map key).Nodup) {a : α} (ha : a ∈ items) :
    ∃ b, R a b ∧ ((items.map key).zip values).lookup (key a) = some b := by
  induction each with
  | nil => simp at ha
  | @cons first b items values hb _ ih =>
    rw [List.map_cons, List.nodup_cons] at distinct
    rcases List.mem_cons.1 ha with rfl | ha
    · exact ⟨b, hb, by simp⟩
    · obtain ⟨b', hb', found⟩ := ih distinct.2 ha
      have other : (key a == key first) = false := by
        rw [beq_eq_false_iff_ne]
        intro same
        exact distinct.1 (same ▸ List.mem_map_of_mem ha)
      exact ⟨b', hb', by simpa [List.lookup_cons, other] using found⟩

theorem lookup_zip_eq_none {β : Type} {k : String} {keys : List String} (values : List β)
    (h : k ∉ keys) : (keys.zip values).lookup k = none := by
  rw [List.lookup_eq_none_iff]
  intro e he
  rw [bne_iff_ne]
  rintro rfl
  exact h (List.of_mem_zip he).1

/-- A tuple of a batch gives back its row: each named column what its value stands for, and the
auto-increment column nothing where it is left out. -/
theorem rowOf_eq {d : Dialect} {s : Schema} (distinct : (s.columns.map Column.name).Nodup)
    {batch : List (List Value)}
    (agree : ∀ a ∈ batch, ∀ b ∈ batch, leavesIdentity s a = leavesIdentity s b)
    {row : List Value} (hr : row ∈ batch) (fits : IsRowOf s row) {tuple : List Literal}
    (each : List.Forall₂ (StandsFor d) (entries s (namedPositions s batch) row) tuple) :
    rowOf d s ((columnsAt s (namedPositions s batch)).map Column.name) tuple =
      (s.data row).map some := by
  have names : (entries s (namedPositions s batch) row).map (fun e => e.1.name) =
      (columnsAt s (namedPositions s batch)).map Column.name := by
    rw [← map_fst_entries fits.1, List.map_map]
    rfl
  have sub := (columnsAt_sublist (namedPositions_sublist s batch)).map Column.name
  refine List.ext_getElem? fun i => ?_
  rw [rowOf, List.getElem?_map, List.getElem?_map, Schema.data, List.getElem?_zipWith]
  cases hc : s.columns[i]? with
  | none => rfl
  | some c =>
    have bound : i < row.length := fits.1 ▸ (List.getElem?_eq_some_iff.1 hc).1
    have hv : row[i]? = some row[i] := List.getElem?_eq_getElem bound
    simp only [hv, Option.map_some, Option.some.injEq]
    by_cases hi : i ∈ namedPositions s batch
    · have mem : (c, row[i]) ∈ entries s (namedPositions s batch) row :=
        List.mem_filterMap.2 ⟨i, hi, List.getElem?_zip_eq_some.2 ⟨hc, hv⟩⟩
      obtain ⟨l, stands, found⟩ := lookup_zip_of_forall₂ (fun e => e.1.name) each
        (by rw [names]; exact sub.nodup distinct) mem
      rw [← names, found]
      exact stands
    · obtain ⟨auto, null⟩ := null_of_not_mem_namedPositions agree hr hc hi
      have unnamed : c.name ∉ (columnsAt s (namedPositions s batch)).map Column.name := by
        intro hm
        obtain ⟨c', hm, same⟩ := List.mem_map.1 hm
        obtain ⟨j, hj, hc'⟩ := List.mem_filterMap.1 hm
        have at_i : (s.columns.map Column.name)[i]? = some c.name := by simp [hc]
        have at_j : (s.columns.map Column.name)[j]? = some c.name := by simp [hc', same]
        have : i = j := (List.getElem?_inj (List.getElem?_eq_some_iff.1 at_i).1 distinct).1
          (at_i.trans at_j.symm)
        exact hi (this ▸ hj)
      rw [lookup_zip_eq_none tuple unnamed]
      have value : row[i] = .null := Option.some.inj (hv.symm.trans null)
      simp [auto, value, Value.datum]

/-- A statement of a batch reads back to its end, as the table, the named columns and one tuple for
each row, and adds the rows of the batch. -/
theorem statement?_batch {d : Dialect} {s : Schema} (distinct : (s.columns.map Column.name).Nodup)
    {batch : List (List Value)}
    (agree : ∀ a ∈ batch, ∀ b ∈ batch, leavesIdentity s a = leavesIdentity s b)
    (fits : ∀ row ∈ batch, IsRowOf s row) :
    ∃ tuples,
      statement? d (d.statementText s (.insert (namedPositions s batch) batch)) =
        some (.insert s.table ((columnsAt s (namedPositions s batch)).map Column.name) tuples) ∧
      (∀ tuple ∈ tuples, tuple.length = (columnsAt s (namedPositions s batch)).length) ∧
      rowsOf d s
          (.insert s.table ((columnsAt s (namedPositions s batch)).map Column.name) tuples) =
        batch.map fun row => (s.data row).map some := by
  obtain ⟨tuples, each, read⟩ := statement?_insert d s (namedPositions s batch)
    fun row hr e he => (fits row hr).2 e (mem_zip_of_mem_entries he)
  have rows : List.Forall₂ (fun row tuple =>
      rowOf d s ((columnsAt s (namedPositions s batch)).map Column.name) tuple =
        (s.data row).map some) batch tuples := by
    refine ((List.forall₂_and_left _ _).2 ⟨fun row hr => hr, each⟩).imp ?_
    rintro row tuple ⟨hr, stands⟩
    exact rowOf_eq distinct agree hr (fits row hr) stands
  have widths : List.Forall₂ (fun row tuple =>
      tuple.length = (columnsAt s (namedPositions s batch)).length) batch tuples := by
    refine ((List.forall₂_and_left _ _).2 ⟨fun row hr => hr, each⟩).imp ?_
    rintro row tuple ⟨hr, stands⟩
    rw [← stands.length_eq, ← map_fst_entries (fits row hr).1, List.length_map]
  refine ⟨tuples, read, fun tuple ht => ?_, ?_⟩
  · obtain ⟨row, -, same⟩ := Scan.exists_of_forall₂ widths ht
    exact same
  · rw [rowsOf, ← List.forall₂_eq_eq_eq, List.forall₂_map_left_iff, List.forall₂_map_right_iff]
    exact rows.flip

theorem mem_batches_of_mem_insertStatements {d : Dialect} {s : Schema} {rows : List (List Value)}
    {batchSize : Nat} {positions : List Nat} {batch : List (List Value)}
    (h : .insert positions batch ∈ d.insertStatements s rows batchSize) :
    positions = namedPositions s batch ∧
      ∃ batches, IsBatching s (d.batchLimit batchSize) rows batches ∧ batch ∈ batches := by
  obtain ⟨batches, batching, inserts⟩ := inserts_insertStatements d s rows batchSize
  have listed : (positions, batch) ∈
      (d.insertStatements s rows batchSize).filterMap Statement.insert? :=
    List.mem_filterMap.2 ⟨_, h, rfl⟩
  rw [inserts] at listed
  obtain ⟨own, hb, same⟩ := List.mem_map.1 listed
  obtain ⟨named, rfl⟩ := Prod.mk.inj same
  exact ⟨named.symm, batches, batching, hb⟩

/-- What a statement inserts are some of the rows, and they agree on the auto-increment column. -/
theorem insert_of_mem_insertStatements {d : Dialect} {s : Schema} {rows : List (List Value)}
    {batchSize : Nat} {positions : List Nat} {batch : List (List Value)}
    (h : .insert positions batch ∈ d.insertStatements s rows batchSize) :
    positions = namedPositions s batch ∧ (∀ row ∈ batch, row ∈ rows) ∧
      ∀ a ∈ batch, ∀ b ∈ batch, leavesIdentity s a = leavesIdentity s b := by
  obtain ⟨named, batches, batching, hb⟩ := mem_batches_of_mem_insertStatements h
  refine ⟨named, fun row hr => ?_, batching.agree batch hb⟩
  rw [← batching.flatten]
  exact List.mem_flatten.2 ⟨batch, hb, hr⟩

/-- The rows of statements are those of the statements that insert. -/
theorem readRows_statements (d : Dialect) (s : Schema) {statements : List Sql.Statement}
    (reads : ∀ positions batch, .insert positions batch ∈ statements →
      ∃ tuples names, statement? d (d.statementText s (.insert positions batch)) =
          some (.insert s.table names tuples) ∧
        rowsOf d s (.insert s.table names tuples) = batch.map fun row => (s.data row).map some) :
    readRows d s (statements.map (d.statementText s)) =
      (statements.filterMap Statement.insert?).flatMap fun e =>
        e.2.map fun row => (s.data row).map some := by
  induction statements with
  | nil => rfl
  | cons statement statements ih =>
    have rest := ih fun positions batch h => reads positions batch (List.mem_cons_of_mem _ h)
    rw [readRows] at rest
    rw [readRows, List.map_cons, List.flatMap_cons, rest]
    cases statement with
    | toggle on =>
      rw [statement?_toggle, List.filterMap_cons_none rfl]
      rfl
    | insert positions batch =>
      obtain ⟨tuples, names, read, same⟩ := reads positions batch List.mem_cons_self
      rw [read, Option.map_some, Option.getD_some, same]
      rfl

/-- The statements for prepared rows read back to their ends in every dialect, as the table, columns
of it in their order, and tuples of as many literals, and what they hold are the rows. -/
theorem insertTexts_hold_rows {table : String} {columns : List Column} {s : Schema}
    (made : Schema.make table columns = .ok s) {rows : List (List Value)}
    (prepared : ∀ row ∈ rows, ∃ r, s.prepare r = .ok row) :
    (∀ (d : Dialect) (batchSize : Nat),
      (∀ on, .toggle on ∈ d.insertStatements s rows batchSize →
        statement? d (d.statementText s (.toggle on)) = some (.toggle s.table on)) ∧
      (∀ positions batch, .insert positions batch ∈ d.insertStatements s rows batchSize →
        ∃ names tuples,
          statement? d (d.statementText s (.insert positions batch)) =
            some (.insert s.table names tuples) ∧
          names.Sublist (s.columns.map Column.name) ∧ names.Nodup ∧
          ∀ tuple ∈ tuples, tuple.length = names.length) ∧
      readRows d s (d.insertTexts s rows batchSize) =
        rows.map fun row => (s.data row).map some) ∧
    ∀ (d d' : Dialect) (batchSize batchSize' : Nat),
      readRows d s (d.insertTexts s rows batchSize) =
        readRows d' s (d'.insertTexts s rows batchSize') := by
  have distinct := Schema.nodup_names made
  have fits : ∀ row ∈ rows, IsRowOf s row := fun row hr =>
    (prepared row hr).elim fun r hp => isRowOf_of_prepare hp
  have reads : ∀ (d : Dialect) (batchSize : Nat) positions batch,
      .insert positions batch ∈ d.insertStatements s rows batchSize →
      ∃ tuples, statement? d (d.statementText s (.insert positions batch)) =
          some (.insert s.table ((columnsAt s positions).map Column.name) tuples) ∧
        (columnsAt s positions).Sublist s.columns ∧
        (∀ tuple ∈ tuples, tuple.length = (columnsAt s positions).length) ∧
        rowsOf d s (.insert s.table ((columnsAt s positions).map Column.name) tuples) =
          batch.map fun row => (s.data row).map some := by
    intro d batchSize positions batch h
    obtain ⟨rfl, sub, agree⟩ := insert_of_mem_insertStatements h
    obtain ⟨tuples, read, widths, same⟩ :=
      statement?_batch distinct agree fun row hr => fits row (sub row hr)
    exact ⟨tuples, read, columnsAt_sublist (namedPositions_sublist s batch), widths, same⟩
  have hold : ∀ (d : Dialect) (batchSize : Nat),
      readRows d s (d.insertTexts s rows batchSize) =
        rows.map fun row => (s.data row).map some := by
    intro d batchSize
    obtain ⟨batches, batching, inserts⟩ := inserts_insertStatements d s rows batchSize
    rw [Dialect.insertTexts, readRows_statements d s fun positions batch h => by
      obtain ⟨tuples, read, -, -, same⟩ := reads d batchSize positions batch h
      exact ⟨tuples, _, read, same⟩]
    rw [inserts, List.flatMap_map]
    simp only
    rw [← List.map_flatMap, List.flatMap_id', batching.flatten]
  refine ⟨fun d batchSize => ⟨fun on _ => statement?_toggle d s on, fun positions batch h => ?_,
    hold d batchSize⟩, fun d d' batchSize batchSize' => ?_⟩
  · obtain ⟨tuples, read, sub, widths, -⟩ := reads d batchSize positions batch h
    have names := sub.map Column.name
    exact ⟨_, tuples, read, names, names.nodup distinct, by simpa using widths⟩
  · rw [hold, hold]

/-- Names that hold marks, and a text that looks like the end of its row and the start of another. -/
theorem insertTexts_hold_rows_quoted :
    let columns := [
      Column.autoIncrement (Column.primaryKey { name := "i]d\"", type := .integer }),
      { name := "no'me`, (x", type := .text none }]
    let rows : List (List Value) :=
      [[.null, .text "O'Brien\\'), (8, N'x"], [.integer 7, .null], [.integer 8, .text ",\n('\\"]]
    ∃ s, Schema.make "t`a\"b]" columns = .ok s ∧ (∀ row ∈ rows, ∃ r, s.prepare r = .ok row) ∧
      readRows .mysql s (Dialect.mysql.insertTexts s rows 500) =
        [[some .null, some (.text "O'Brien\\'), (8, N'x")], [some (.integer 7), some .null],
          [some (.integer 8), some (.text ",\n('\\")]] ∧
      readRows .sqlserver s (Dialect.sqlserver.insertTexts s rows 1) =
        readRows .mysql s (Dialect.mysql.insertTexts s rows 500) := by
  intro columns rows
  have made : Schema.make "t`a\"b]" columns = .ok ⟨"t`a\"b]", columns⟩ := by decide
  have prepared : ∀ row ∈ rows,
      ∃ r, (⟨"t`a\"b]", columns⟩ : Schema).prepare r = .ok row := by
    simp only [rows, List.forall_mem_cons, List.not_mem_nil, false_imp_iff, implies_true, and_true]
    exact ⟨⟨⟨[.null, .text "O'Brien\\'), (8, N'x"], []⟩, by decide⟩,
      ⟨⟨[.text "7", .null], []⟩, by decide⟩, ⟨⟨[.text "8", .text ",\n('\\"], []⟩, by decide⟩⟩
  obtain ⟨each, same⟩ := insertTexts_hold_rows made prepared
  exact ⟨_, made, prepared, (each .mysql 500).2.2, same .sqlserver .mysql 1 500⟩

end TableLoad.Sql.Reading
