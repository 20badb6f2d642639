import TableLoad.Proofs.Ddl.Defaults
import TableLoad.Proofs.Ddl.WellFormed
import TableLoad.Proofs.Text.Quoted

/-! # Texts in default clauses

A default stands in the default clause of its column and nowhere else in the statement.  A text
stands there as a string literal, but in a column of truth values as it is, without its quotes: a
word for a truth value became one when the table was read, so no text that is left is such a word.
-/
namespace TableLoad.Ddl
open Text Sql

inductive Encloses (code : String) : String → Prop
  | same : Encloses code code
  | group {outer : String} (h : Encloses code outer) : Encloses code ("(" ++ outer ++ ")")

theorem Encloses.length_le {code outer : String} (h : Encloses code outer) :
    code.length ≤ outer.length := by
  induction h with
  | same => exact Nat.le_refl _
  | group _ ih =>
    rw [String.length_append, String.length_append]
    omega

/-- Code in which a text stands in quotes or, in a column of truth values, for one of them. -/
def IsQuotedDefault (d : Dialect) (type : ColumnType) (content code : String) : Prop :=
  Encloses (d.stringLiteral content) code ∨
    type = .boolean ∧ ∃ b, truth? content = some b ∧ Encloses (d.booleanLiteral b) code

theorem length_lt_stringLiteral (d : Dialect) (content : String) :
    content.length < (d.stringLiteral content).length := by
  rw [Dialect.stringLiteral, String.length_ofList, Dialect.literalChars, List.length_append,
    List.length_cons, List.length_append, length_doubling, String.length_toList]
  omega

theorem not_isQuotedDefault_self {d : Dialect} {type : ColumnType} {content : String}
    (other : truth? content = none) : ¬ IsQuotedDefault d type content content := by
  rintro (literal | ⟨-, b, truth, -⟩)
  · have longer := length_lt_stringLiteral d content
    have := literal.length_le
    omega
  · rw [other] at truth
    cases truth

theorem exists_around_item (mark : String) (before after : List String) :
    ∃ first last, ∀ item, mark.intercalate (before ++ item :: after) = first ++ item ++ last := by
  induction before with
  | nil =>
    cases after with
    | nil => exact ⟨"", "", by simp⟩
    | cons next after => exact ⟨"", mark ++ mark.intercalate (next :: after), by
        simp [String.append_assoc]⟩
  | cons a before ih =>
    obtain ⟨first, last, each⟩ := ih
    refine ⟨a ++ mark ++ first, last, fun item => ?_⟩
    rw [List.cons_append, String.intercalate_cons_of_ne_nil (by simp), each]
    simp only [String.append_assoc]

theorem exists_around_defaultClause (d : Dialect) (composite : Bool) (c : Column) :
    ∃ first last, ∀ value? : Option Default,
      d.columnText composite { c with default? := value? } =
        first ++ d.defaultClause { c with default? := value? } ++ last := by
  let name := d.quoteName c.name
  let isKey := c.isPrimaryKey && !composite
  refine ⟨name ++ " " ++
      (if c.isAutoIncrement then d.autoIncrementType c.type else d.typeText c.type) ++
      (if !c.nullable && !isKey then " NOT NULL" else ""),
    (if c.isUnique && !isKey then " UNIQUE" else "") ++
      (if isKey then " PRIMARY KEY" else "") ++
      (if c.isAutoIncrement then (d.autoIncrementKeyword?.map (" " ++ ·)).getD "" else "") ++
      (if c.type = .boolean then ((d.truthCheck? name).map (" " ++ ·)).getD "" else ""),
    fun value? => ?_⟩
  simp only [Dialect.columnText, String.append_assoc, name, isKey]

section Table
variable (d : Dialect) (table : String) (before after : List Column) (c : Column)

/-- A table in which one of the columns has another default. -/
def withDefault (value? : Option Default) : Schema :=
  ⟨table, before ++ { c with default? := value? } :: after⟩

theorem exists_around_line : ∃ composite rest, ∀ value? : Option Default,
    d.tableLines (withDefault table before after c value?) =
      before.map (d.columnText composite) ++
        d.columnText composite { c with default? := value? } :: rest := by
  let names := (withDefault table before after c none).primaryKey.map Column.name
  have key (value? : Option Default) :
      (withDefault table before after c value?).primaryKey.map Column.name = names := by
    simp only [names, withDefault, Schema.primaryKey, List.filter_append, List.filter_cons]
    split <;> simp
  have length (value? : Option Default) :
      (withDefault table before after c value?).primaryKey.length = names.length := by
    rw [← key value?, List.length_map]
  have quoted (value? : Option Default) :
      (withDefault table before after c value?).primaryKey.map (fun c => d.quoteName c.name) =
        names.map d.quoteName := by
    rw [← key value?, List.map_map]
    rfl
  let composite := decide (1 < names.length)
  refine ⟨composite, after.map (d.columnText composite) ++
    (if composite then ["PRIMARY KEY (" ++ ", ".intercalate (names.map d.quoteName) ++ ")"]
      else []),
    fun value? => ?_⟩
  rw [Dialect.tableLines, length, quoted]
  simp only [withDefault, List.map_append, List.map_cons, List.append_assoc, List.cons_append,
    composite]

/-- The statement of a table around a default clause does not depend on the default. -/
theorem exists_around_default : ∃ first last, ∀ value? : Option Default,
    d.createTableText (withDefault table before after c value?) =
      first ++ d.defaultClause { c with default? := value? } ++ last := by
  obtain ⟨composite, rest, lines⟩ := exists_around_line d table before after c
  obtain ⟨start, stop, clause⟩ := exists_around_defaultClause d composite c
  obtain ⟨first, last, items⟩ := exists_around_item ",\n"
    ((before.map (d.columnText composite)).map ("    " ++ ·)) (rest.map ("    " ++ ·))
  refine ⟨d.createTable ++ " " ++ d.quoteName table ++ " (\n" ++ first ++ "    " ++ start,
    stop ++ last ++ "\n)" ++ d.tableOptions, fun value? => ?_⟩
  have name : (withDefault table before after c value?).table = table := rfl
  rw [Dialect.createTableText, lines, List.map_append, List.map_cons, items, clause, name]
  simp only [String.append_assoc]

end Table

theorem defaultClause_text (d : Dialect) {c : Column} (uncounted : c.isAutoIncrement = false)
    {content : String} (filled : c.default? = some (.text content)) :
    d.defaultClause c = " DEFAULT " ++ defaultCode d c.type (.text content) := by
  simp [Dialect.defaultClause, defaultCode, filled, uncounted]

/-- Where a column does not hold truth values, its text stands in quotes. -/
theorem isQuotedDefault_of_ne (d : Dialect) {type : ColumnType} (other : type ≠ .boolean)
    (content : String) : IsQuotedDefault d type content (defaultCode d type (.text content)) := by
  have literal : d.defaultText type (.text content) = d.stringLiteral content := if_neg other
  rw [defaultCode, literal]
  split
  · cases d with
    | mysql => exact .inl (.group .same)
    | _ => exact .inl .same
  · exact .inl .same

/-- In a column of truth values, a text that is no word for one stands as it is. -/
theorem defaultCode_boolean (d : Dialect) {content : String} (unread : truth? content = none) :
    defaultCode d .boolean (.text content) = content := by
  simp [defaultCode, Dialect.defaultText, unread]

/-- A text default of a table that was read stands in the default clause of its column only, and in
quotes exactly where the column does not hold truth values; where it does, it stands as it is. -/
theorem text_default_quoted_iff {text : String} {s : Schema} (parsed : parse text = .ok s)
    {before after : List Column} {c : Column} (place : s.columns = before ++ c :: after)
    (uncounted : c.isAutoIncrement = false) {content : String}
    (filled : c.default? = some (.text content)) (d : Dialect) :
    ∃ first code last,
      d.createTableText s = first ++ (" DEFAULT " ++ code) ++ last ∧
      (∀ value? : Option Default, d.createTableText (withDefault s.table before after c value?) =
        first ++ d.defaultClause { c with default? := value? } ++ last) ∧
      (IsQuotedDefault d c.type content code ↔ c.type ≠ .boolean) ∧
      (c.type = .boolean → truth? content = none ∧ code = content) := by
  obtain ⟨first, last, around⟩ := exists_around_default d s.table before after c
  have own : withDefault s.table before after c c.default? = s := by
    rw [withDefault, ← place]
  refine ⟨first, defaultCode d c.type (.text content), last, ?_, around, ?_⟩
  · rw [← defaultClause_text d uncounted filled, ← around, own]
  · by_cases boolean : c.type = .boolean
    · have unread : truth? content = none := by
        obtain ⟨_, _, -, -, resolved⟩ := exists_of_parse parsed
        obtain ⟨e, -, entry⟩ := resolved.exists_entry (c := c) (by simp [place])
        exact entry.truth?_eq_none boolean (.inr filled)
      rw [boolean, defaultCode_boolean d unread]
      exact ⟨iff_of_false (not_isQuotedDefault_self unread) (not_not_intro rfl),
        fun _ => ⟨unread, rfl⟩⟩
    · exact ⟨iff_of_true (isQuotedDefault_of_ne d boolean content) boolean,
        fun truth => absurd truth boolean⟩

/-- A text without a limit, in the dialect that wants parentheses around it. -/
theorem text_default_quoted_note :
    let note : Column :=
      { name := "note", type := .text none, default? := some (.text "it's (1), 'x") }
    ∃ s, parse "CREATE TABLE t (a INT, note TEXT DEFAULT 'it''s (1), ''x')" = .ok s ∧
      s.columns = [{ name := "a", type := .integer }] ++ note :: [] ∧
      ∃ first code last, Dialect.mysql.createTableText s = first ++ (" DEFAULT " ++ code) ++ last ∧
        IsQuotedDefault .mysql (.text none) "it's (1), 'x" code := by
  intro note
  have parsed : parse "CREATE TABLE t (a INT, note TEXT DEFAULT 'it''s (1), ''x')" =
      .ok ⟨"t", [{ name := "a", type := .integer }, note]⟩ := by decide +kernel
  obtain ⟨first, code, last, shown, -, quoted, -⟩ := text_default_quoted_iff parsed
    (rfl : _ = [{ name := "a", type := .integer }] ++ note :: []) rfl rfl .mysql
  exact ⟨_, parsed, rfl, first, code, last, shown, quoted.2 (by decide)⟩

/-- A text of a column of truth values is written without its quotes in every dialect. -/
theorem text_default_bare :
    let a : Column := { name := "a", type := .boolean, default? := some (.text "maybe") }
    parse "CREATE TABLE t (a BOOLEAN DEFAULT 'maybe')" = .ok ⟨"t", [a]⟩ ∧
      Dialect.sqlite.createTableText ⟨"t", [a]⟩ =
        "CREATE TABLE IF NOT EXISTS \"t\" (\n    \"a\" INTEGER DEFAULT maybe " ++
          "CHECK (\"a\" IN (0, 1))\n)" ∧
      ∀ d : Dialect, d.defaultClause a = " DEFAULT maybe" ∧
        ¬ IsQuotedDefault d .boolean "maybe" "maybe" := by
  intro a
  refine ⟨by decide +kernel, by decide +kernel, fun d => ⟨?_, ?_⟩⟩
  · cases d <;> decide +kernel
  · exact not_isQuotedDefault_self (by decide +kernel)

end TableLoad.Ddl
