import TableLoad.Proofs.Ddl.PassedOver

/-! # Columns and constraints of a table, whatever their names

The entries of a table are told apart one by one.  A column may have the name of a keyword, and a
constraint that is passed over counts for nothing: without these constraints, and with every name of
a column in double quotes, a statement gives the same schema.
-/
namespace TableLoad.Ddl
open Text Scan

/-! ### Columns as they are written -/

inductive NameMarks where
  | bare
  | backticks
  | doubleQuotes
  | brackets
  deriving DecidableEq, Repr

def NameMarks.written : NameMarks → String → List Char
  | .bare, n => n.toList
  | .backticks, n => backtick :: (n.toList ++ [backtick])
  | .doubleQuotes, n => '"' :: (n.toList ++ ['"'])
  | .brackets, n => '[' :: (n.toList ++ [']'])

structure ColumnText where
  lead : List Char
  marks : NameMarks
  name : String
  tail : List Char

namespace ColumnText

def chars (c : ColumnText) : List Char := c.lead ++ (c.marks.written c.name ++ c.tail)

def requoted (c : ColumnText) : ColumnText := { c with marks := .doubleQuotes }

/-- A column whose name is a word and whose names in brackets close.  With its name in double quotes
it reads as a column of a known type, up to the end of its entry. -/
structure IsRecognized (c : ColumnText) : Prop where
  lead : IsGap c.lead
  name : IsWord c.name
  nameEnds : c.marks = .bare → EndsWord c.tail
  closed : Alike entryMarks [] [] c.tail c.tail
  reads : ∃ e z, wholeColumn (afterGap (c.requoted.chars ++ [','])) = some (e, z) ∧
    afterGap z = [',']

end ColumnText

section Written
variable {n : String} {marks : NameMarks}

theorem isNameText_written (h : IsWord n) (marks : NameMarks) :
    IsNameText (marks.written n) := by
  have free {d : Char} (hd : isWordChar d = false) : d ∉ n.toList :=
    fun hm => ne_of_isWordChar (h.2 d hm) hd rfl
  cases marks with
  | bare => exact .bare h.ne_nil h.2
  | backticks => exact .quoted (.inr rfl) h.ne_nil (free rfl)
  | doubleQuotes => exact .quoted (.inl rfl) h.ne_nil (free rfl)
  | brackets =>
    have inside : Inside ']' n.toList := .of_inert fun c hc =>
      ⟨isInert_of_isWordChar (h.2 c hc), ne_of_isWordChar (h.2 c hc) rfl⟩
    exact .bracketed h.ne_nil (free rfl) inside

theorem name_written (h : IsWord n) {x : List Char} (ends : marks = .bare → EndsWord x) :
    name (marks.written n ++ x) = some (n, x) := by
  have quoted (d : Sql.Dialect) :
      name (d.nameMarks.1 :: (n.toList ++ [d.nameMarks.2]) ++ x) = some (n, x) := by
    rw [← toList_quoteName d h]
    exact name_run d h x
  cases marks with
  | bare => rw [NameMarks.written, name_word h.ne_nil h.2 (ends rfl), String.ofList_toList]
  | backticks => exact quoted .mysql
  | doubleQuotes => exact quoted .postgresql
  | brackets => exact quoted .sqlserver

end Written

/-- A name in front of a column is read apart from what follows it. -/
theorem unplacedColumn_written {n : String} (h : IsWord n) {marks : NameMarks} {x : List Char}
    (ends : marks = .bare → EndsWord x) :
    unplacedColumn (marks.written n ++ x) =
      unplacedColumn (NameMarks.doubleQuotes.written n ++ x) := by
  have left : (name >>= columnTail) (marks.written n ++ x) = columnTail n x :=
    bind_run (name_written h ends)
  have right : (name >>= columnTail) (NameMarks.doubleQuotes.written n ++ x) = columnTail n x :=
    bind_run (name_written h nofun)
  rw [unplacedColumn, unplacedColumn, left, right]

namespace ColumnText
variable {c : ColumnText}

theorem IsRecognized.requoted (h : c.IsRecognized) : c.requoted.IsRecognized :=
  ⟨h.lead, h.name, nofun, h.closed, h.reads⟩

theorem IsRecognized.stands (h : c.IsRecognized) : Stands c.chars :=
  (ScansAlone.gap h.lead).append_stands
    ((isNameText_written h.name c.marks).scansAlone.append_stands h.closed.stands)

theorem IsRecognized.exists_readsWhole (h : c.IsRecognized) :
    ∃ e, ReadsWhole entry c.chars e ∧ ReadsWhole entry c.requoted.chars e := by
  obtain ⟨E, z, read, whole⟩ := h.reads
  have free : '"' ∉ c.name.toList := fun hm => ne_of_isWordChar (h.name.2 _ hm) rfl rfl
  have closed : Alike entryMarks [] [] c.requoted.chars c.requoted.chars := by
    apply Alike.gap_append h.lead (by decide)
    simp only [ColumnText.requoted, NameMarks.written, List.cons_append, List.append_assoc]
    exact .quoted (by decide) free h.closed
  have quoted := (readsWhole_of_alike (fun ends => keeps_wholeColumn ends (by decide)) closed read
    whole).1
  have own : ReadsWhole wholeColumn c.chars E.unplaced := by
    intro stop t marked
    obtain ⟨E', z', read', rest, same⟩ := quoted stop t marked
    have token (marks : NameMarks) :
        AtToken (marks.written c.name ++ (c.tail ++ stop :: t)) :=
      (isNameText_written h.name marks).atToken _
    have ends : c.marks = .bare → EndsWord (c.tail ++ stop :: t) := by
      intro bare
      cases tail : c.tail with
      | nil => rcases marked with rfl | rfl <;> exact endsWord_cons rfl t
      | cons d tail => exact tail ▸ (h.nameEnds bare).append (by simp [tail])
    have here : afterGap (c.chars ++ stop :: t) =
        c.marks.written c.name ++ (c.tail ++ stop :: t) := by
      rw [chars, List.append_assoc, h.lead.afterGap_append, List.append_assoc,
        (token c.marks).afterGap_eq]
    have there : afterGap (c.requoted.chars ++ stop :: t) =
        NameMarks.doubleQuotes.written c.name ++ (c.tail ++ stop :: t) := by
      rw [chars, List.append_assoc, h.requoted.lead.afterGap_append, List.append_assoc]
      exact (token .doubleQuotes).afterGap_eq
    have run : (do return (← wholeColumn).unplaced : Scan Entry) (afterGap (c.chars ++ stop :: t)) =
        some (E'.unplaced, z') := by
      rw [here, unplaced_wholeColumn, unplacedColumn_written h.name ends, ← there,
        ← unplaced_wholeColumn]
      exact bind_run read'
    obtain ⟨E'', read'', same'⟩ := exists_of_unplaced run
    exact ⟨E'', z', read'', rest, same'.trans same⟩
  exact ⟨E.unplaced, own.of_wholeColumn.of_keptEntry, quoted.of_wholeColumn.of_keptEntry⟩

end ColumnText

/-- An entry of a table as it is written: a column or a constraint that is passed over. -/
inductive EntryText where
  | column (c : ColumnText)
  | constraint (k : ConstraintText)

namespace EntryText

def chars : EntryText → List Char
  | .column c => c.chars
  | .constraint k => k.chars

def column? : EntryText → Option ColumnText
  | .column c => some c
  | .constraint _ => none

def IsWritten : EntryText → Prop
  | .column c => c.IsRecognized
  | .constraint k => k.IsPassedOver

theorem IsWritten.stands {e : EntryText} (h : e.IsWritten) : Stands e.chars := by
  cases e with
  | column c => exact ColumnText.IsRecognized.stands h
  | constraint k => exact ConstraintText.IsPassedOver.stands h

end EntryText

/-- The columns alone, with their names in double quotes. -/
def requotedColumns (entries : List EntryText) : List (List Char) :=
  (entries.filterMap EntryText.column?).map fun c => c.requoted.chars

section Table
variable {entries : List EntryText}

theorem stands_of_mem_chars (written : ∀ e ∈ entries, e.IsWritten) :
    ∀ u ∈ entries.map EntryText.chars, Stands u := by
  intro u hu
  obtain ⟨e, he, rfl⟩ := List.mem_map.1 hu
  exact (written e he).stands

theorem stands_of_mem_requotedColumns (written : ∀ e ∈ entries, e.IsWritten) :
    ∀ u ∈ requotedColumns entries, Stands u := by
  intro u hu
  obtain ⟨c, hc, rfl⟩ := List.mem_map.1 hu
  obtain ⟨e, he, column⟩ := List.mem_filterMap.1 hc
  cases e with
  | column c' =>
    obtain rfl := Option.some.inj column
    exact (ColumnText.IsRecognized.requoted (written _ he)).stands
  | constraint k => cases column

/-- The entries that are read, with the columns as they are written and in double quotes. -/
theorem exists_entries_read (written : ∀ e ∈ entries, e.IsWritten) :
    ∃ es es', List.Forall₂ (ReadsWhole entry) (entries.map EntryText.chars) es ∧
      List.Forall₂ (ReadsWhole entry) (requotedColumns entries) es' ∧
      es.filter (· ≠ .skipped) = es'.filter (· ≠ .skipped) := by
  induction entries with
  | nil => exact ⟨[], [], .nil, .nil, rfl⟩
  | cons e entries ih =>
    rw [List.forall_mem_cons] at written
    obtain ⟨es, es', each, quoted, same⟩ := ih written.2
    cases e with
    | column c =>
      obtain ⟨e, own, requoted⟩ := ColumnText.IsRecognized.exists_readsWhole written.1
      refine ⟨e :: es, e :: es', .cons own each, .cons requoted quoted, ?_⟩
      simp only [List.filter_cons, same]
    | constraint k =>
      have skipped := ConstraintText.IsPassedOver.readsWhole written.1
      exact ⟨.skipped :: es, es', .cons skipped each, quoted, same⟩

/-- A statement gives the same schema without its constraints that are passed over, and with every
name of a column in double quotes: columns and constraints are told apart whatever the names. -/
theorem parse_iff_of_columns {head : List Char} (named : IsHead head)
    (written : ∀ e ∈ entries, e.IsWritten) (columns : requotedColumns entries ≠ [])
    (options : List Char) (s : Schema) :
    parse (String.ofList (statementText head (entries.map EntryText.chars) options)) = .ok s ↔
      parse (String.ofList (statementText head (requotedColumns entries) options)) = .ok s := by
  obtain ⟨table, z, read, whole⟩ := named.reads
  have reads := (readsHead_of_alike named.closed read whole).1
  obtain ⟨es, es', each, quoted, same⟩ := exists_entries_read written
  have filled : entries.map EntryText.chars ≠ [] := by
    intro empty
    rw [List.map_eq_nil_iff] at empty
    exact columns (by rw [empty]; rfl)
  have schemas : (schemaOf (statementText head (entries.map EntryText.chars) options)).toOption =
      (schemaOf (statementText head (requotedColumns entries) options)).toOption := by
    rw [toOption_schemaOf reads each filled, toOption_schemaOf reads quoted columns,
      imbalance?_statementText named.closed.stands (stands_of_mem_chars written),
      imbalance?_statementText named.closed.stands (stands_of_mem_requotedColumns written), same]
  rw [parse, parse, String.toList_ofList, String.toList_ofList, eq_ok_iff_toOption, schemas,
    eq_ok_iff_toOption]

end Table

/-- A column called key, a constraint of that name, and a column called check. -/
theorem parse_iff_of_columns_keywords :
    let key : ColumnText := ⟨[], .bare, "key", ' ' :: "INT".toList⟩
    let unique : ConstraintText := ⟨[' '], some ⟨"constraint".toList, [' '], "key".toList, [' ']⟩,
      "UNIQUE".toList, ' ' :: '(' :: ("key".toList ++ [')'])⟩
    let check : ColumnText := ⟨[' '], .brackets, "check",
      " BIT DEFAULT ".toList ++ '\'' :: ("yes".toList ++ ['\''])⟩
    let entries : List EntryText := [.column key, .constraint unique, .column check]
    IsHead "CREATE TABLE t ".toList ∧ (∀ e ∈ entries, e.IsWritten) ∧
      requotedColumns entries ≠ [] ∧
      parse "CREATE TABLE t (key INT, constraint key UNIQUE (key), [check] BIT DEFAULT 'yes')" =
        .ok ⟨"t", [{ name := "key", type := .integer },
          { name := "check", type := .boolean, default? := some (.boolean true) }]⟩ := by
  intro key unique check entries
  have head : IsHead "CREATE TABLE t ".toList :=
    ⟨.of_inert (by decide), "t", " (".toList, by decide +kernel, by decide +kernel⟩
  have keyRead : key.IsRecognized := {
    lead := .nil
    name := ⟨by decide, by decide +kernel⟩
    nameEnds := fun _ => endsWord_space _
    closed := .of_inert (by decide)
    reads := ⟨.column ⟨"key", "INT", [], [], 10⟩, [','], by decide +kernel, by decide +kernel⟩ }
  have checkRead : check.IsRecognized := {
    lead := .blank (by decide) .nil
    name := ⟨by decide, by decide +kernel⟩
    nameEnds := nofun
    closed := .inert_append (by decide) (.quoted (by decide) (by decide) .rest)
    reads := ⟨.column ⟨"check", "BIT", [], [.default (.text "yes") "'yes'".toList], 26⟩, [','],
      by decide +kernel, by decide +kernel⟩ }
  have uniqueOver : unique.IsPassedOver := {
    lead := .blank (by decide) .nil
    label := by
      rintro l ⟨rfl⟩
      exact ⟨by decide, .blank (by decide) .nil, .bare (by decide) (by decide +kernel),
        .blank (by decide) .nil, endsWord_space _, fun _ => endsWord_space _⟩
    word := ⟨"UNIQUE", by decide, by decide⟩
    wordEnds := endsWord_space _
    body := .plain (by decide) (by decide) (.group (.of_inert (by decide)) .nil)
    noType := by decide +kernel }
  have written : ∀ e ∈ entries, e.IsWritten := by
    simp only [entries, List.forall_mem_cons]
    exact ⟨keyRead, uniqueOver, checkRead, by simp⟩
  have columns : requotedColumns entries ≠ [] := by
    simp [requotedColumns, entries, EntryText.column?]
  refine ⟨head, written, columns, ?_⟩
  have whole : statementText "CREATE TABLE t ".toList (entries.map EntryText.chars) [] =
      "CREATE TABLE t (key INT, constraint key UNIQUE (key), [check] BIT DEFAULT 'yes')".toList :=
    by decide +kernel
  have iff := parse_iff_of_columns head written columns []
  rw [whole, String.ofList_toList] at iff
  exact (iff _).2 (by decide +kernel)

/-- An apostrophe in a name in brackets opens a quote for the first look at a statement, which
knows no brackets: the constraint of that name cannot be passed over. -/
theorem parse_bracketed_label :
    parse "CREATE TABLE t (a INT, CONSTRAINT [it's] UNIQUE (a))" =
        .error (.malformed 52 (.imbalance .quote)) ∧
      parse "CREATE TABLE t (\"a\" INT)" = .ok ⟨"t", [{ name := "a", type := .integer }]⟩ := by
  decide +kernel

end TableLoad.Ddl
