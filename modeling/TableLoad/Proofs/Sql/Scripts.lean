import TableLoad.Ddl.Statement
import TableLoad.Proofs.Sql.Statements
import TableLoad.Proofs.Sql.Written

/-! # What a script holds

A header of comments, then the statements in order, each with a semicolon.  The place that the rows
come from stands in the header only, and the name of the table in the header and in quotes.  A name
that spans lines breaks out of its comment: a line of it is then code.
-/
namespace TableLoad.Sql
open Text Number Calendar

/-- A line of a header: empty, or a comment from its start. -/
def IsHeaderLine (line : String) : Prop := line = "" ∨ ['-', '-'] <+: line.toList

def lineEnds : List Char := ['\n', '\r']

def Part.statement? : Part → Option String
  | .statement code => some code
  | _ => none

namespace Generated

def statementParts (g : Generated) : List Part :=
  g.dialect.preamble.map .statement ++ blankFor g.dialect.preamble ++
    [.statement g.createTable, .blank] ++
    g.inserts.map .statement ++
    blankFor g.dialect.footer ++ g.dialect.footer.map .statement

def body (g : Generated) : String := String.join (g.statementParts.map Part.text)

theorem script_eq (g : Generated) (source? : Option String) (stamp : String) :
    g.script source? stamp = String.join ((g.header source? stamp).map Part.text) ++ g.body := by
  rw [script, body, ← String.join_append, ← List.map_append]
  simp only [parts, statementParts, List.append_assoc]

theorem filterMap_statementParts (g : Generated) :
    g.statementParts.filterMap Part.statement? =
      g.dialect.preamble ++ g.createTable :: (g.inserts ++ g.dialect.footer) := by
  have each (codes : List String) :
      (codes.map Part.statement).filterMap Part.statement? = codes := by
    rw [List.filterMap_map]
    exact List.filterMap_some
  have blank (codes : List String) : (blankFor codes).filterMap Part.statement? = [] := by
    rw [blankFor]
    split <;> rfl
  simp only [statementParts, List.filterMap_append, each, blank, List.append_assoc]
  rfl

theorem mem_statementParts {g : Generated} {part : Part} (h : part ∈ g.statementParts) :
    part = .blank ∨ ∃ code, part = .statement code := by
  have blank {codes : List String} (h : part ∈ blankFor codes) : part = .blank := by
    rw [blankFor] at h
    split at h
    · cases h
    · exact List.mem_singleton.1 h
  have code {codes : List String} (h : part ∈ codes.map Part.statement) :
      ∃ code, part = .statement code :=
    (List.mem_map.1 h).imp fun _ found => found.2.symm
  simp only [statementParts, List.mem_append, List.mem_cons, List.not_mem_nil, or_false] at h
  rcases h with ((((h | h) | rfl | rfl) | h) | h) | h
  · exact .inr (code h)
  · exact .inl (blank h)
  · exact .inr ⟨_, rfl⟩
  · exact .inl rfl
  · exact .inr (code h)
  · exact .inl (blank h)
  · exact .inr (code h)

end Generated

theorem not_mem_toString_of_mem_lineEnds {c : Char} (h : c ∈ lineEnds) (n : Nat) :
    c ∉ (toString n).toList := by
  intro hc
  have digit : c.isDigit = true := isDigit_of_mem_digits (Nat.toList_repr ▸ hc)
  have none : ∀ c ∈ lineEnds, c.isDigit = false := by decide
  rw [none c h] at digit
  cases digit

theorem not_mem_text_of_mem_lineEnds {c : Char} (h : c ∈ lineEnds) (m : Moment) :
    c ∉ m.text.toList := by
  rw [Moment.text, String.toList_ofList]
  intro hc
  have plain := Reading.cases_of_mem_chars hc
  have none : ∀ c ∈ lineEnds,
      ¬ (c.isDigit = true ∨ c = '-' ∨ c = '+' ∨ c = ':' ∨ c = ' ') := by decide
  exact none c h plain

/-- What the comments of a header say. -/
def Generated.remarks (g : Generated) (source? : Option String) (stamp : String) : List String :=
  ["".pushn '=' 60, s!"{g.dialect.title} script for table {g.table}"] ++
    (source?.map fun source => "Source: " ++ source).toList ++
    [s!"Records: {g.rowCount} written, {g.skippedRows.length} skipped",
      "Generated: " ++ stamp, "".pushn '=' 60]

theorem Generated.header_eq (g : Generated) (source? : Option String) (stamp : String) :
    g.header source? stamp = (g.remarks source? stamp).map .comment ++ [.blank] := by
  cases source? <;> rfl

/-- Only the name of the table and the place that the rows come from can bring the end of a line
into a comment. -/
theorem not_mem_of_mem_remarks {g : Generated} {source? : Option String} {m : Moment} {c : Char}
    (h : c ∈ lineEnds) (table : c ∉ g.table.toList) (source : ∀ s ∈ source?, c ∉ s.toList)
    {remark : String} (hr : remark ∈ g.remarks source? m.text) : c ∉ remark.toList := by
  have fixed {s : String} (plain : ∀ e ∈ lineEnds, e ∉ s.toList) : c ∉ s.toList := plain c h
  have counts := not_mem_toString_of_mem_lineEnds h
  have same (s : String) : toString s = s := rfl
  simp only [Generated.remarks, List.mem_append, List.mem_cons, List.not_mem_nil, or_false,
    Option.mem_toList, Option.map_eq_some_iff, same] at hr
  rcases hr with ((rfl | rfl) | ⟨s, hs, rfl⟩) | rfl | rfl | rfl
  · exact fixed (by decide)
  · have title : c ∉ g.dialect.title.toList := by cases g.dialect <;> exact fixed (by decide)
    simp only [String.toList_append, List.mem_append, not_or]
    exact ⟨⟨title, fixed (by decide)⟩, table⟩
  · rw [String.toList_append, List.mem_append, not_or]
    exact ⟨fixed (by decide), source s hs⟩
  · simp only [String.toList_append, List.mem_append, not_or]
    exact ⟨⟨⟨⟨fixed (by decide), counts _⟩, fixed (by decide)⟩, counts _⟩, fixed (by decide)⟩
  · rw [String.toList_append, List.mem_append, not_or]
    exact ⟨fixed (by decide), not_mem_text_of_mem_lineEnds h m⟩
  · exact fixed (by decide)

theorem exists_headerLines (g : Generated) (source? : Option String) (m : Moment) :
    ∃ lines : List String,
      String.join ((g.header source? m.text).map Part.text) =
        String.join (lines.map (· ++ "\n")) ∧
      (∀ line ∈ lines, IsHeaderLine line) ∧
      ∀ c ∈ lineEnds, c ∉ g.table.toList → (∀ s ∈ source?, c ∉ s.toList) →
        ∀ line ∈ lines, c ∉ line.toList := by
  refine ⟨(g.remarks source? m.text).map ("-- " ++ ·) ++ [""], ?_, ?_, ?_⟩
  · rw [g.header_eq, List.map_append, List.map_append, List.map_map, List.map_map]
    rfl
  · intro line hl
    rcases List.mem_append.1 hl with hl | hl
    · obtain ⟨remark, -, rfl⟩ := List.mem_map.1 hl
      refine .inr ⟨' ' :: remark.toList, ?_⟩
      rw [String.toList_append]
      rfl
    · exact .inl (List.mem_singleton.1 hl)
  · intro c hc table source line hl
    rcases List.mem_append.1 hl with hl | hl
    · obtain ⟨remark, hr, rfl⟩ := List.mem_map.1 hl
      rw [String.toList_append, List.mem_append, not_or]
      have mark : ∀ e ∈ lineEnds, e ∉ "-- ".toList := by decide
      exact ⟨mark c hc, not_mem_of_mem_remarks hc table source hr⟩
    · rw [List.mem_singleton.1 hl]
      exact List.not_mem_nil

/-- Code with places for a quoted name, each before a blank. -/
abbrev Template := List (Option String)

def Template.fill (quoted : String) (t : Template) : String :=
  String.join (t.map fun part => part.getD (quoted ++ " "))

theorem Template.fill_append (quoted : String) (t u : Template) :
    Template.fill quoted (t ++ u) = Template.fill quoted t ++ Template.fill quoted u := by
  rw [fill, List.map_append, String.join_append, fill, fill]

/-- Code around one place for a quoted name. -/
theorem Template.fill_around (quoted first last : String) :
    Template.fill quoted [some first, none, some last] = first ++ quoted ++ (" " ++ last) := by
  simp only [fill, List.map_cons, List.map_nil, Option.getD_some, Option.getD_none,
    String.join_cons, String.join_nil, String.append_empty, String.append_assoc]

def statementTemplate (d : Dialect) (columns : List Column) : Sql.Statement → Template
  | .toggle on => [some "SET IDENTITY_INSERT ", none, some (if on then "ON" else "OFF")]
  | .insert positions rows =>
    let names := positions.filterMap fun i => columns[i]?.map fun c => d.quoteName c.name
    [some "INSERT INTO ", none, some ("(" ++ ", ".intercalate names ++ ") VALUES\n" ++
      ",\n".intercalate (rows.map (d.tupleText ⟨"", columns⟩ positions)))]

theorem fill_statementTemplate (d : Dialect) (table : String) (columns : List Column)
    (statement : Statement) :
    Template.fill (d.quoteName table) (statementTemplate d columns statement) =
      d.statementText ⟨table, columns⟩ statement := by
  cases statement with
  | toggle on =>
    have word : " " ++ (if on then "ON" else "OFF") = if on then " ON" else " OFF" := by
      cases on <;> decide
    rw [statementTemplate, Template.fill_around, word]
    rfl
  | insert positions rows =>
    have tuple : d.tupleText ⟨table, columns⟩ positions = d.tupleText ⟨"", columns⟩ positions := rfl
    have opening : " (" = " " ++ "(" := rfl
    rw [statementTemplate, Template.fill_around]
    delta Dialect.statementText
    dsimp only
    rw [tuple, opening]
    simp only [String.append_assoc]

def tableTemplate (d : Dialect) (columns : List Column) : Template :=
  [some (d.createTable ++ " "), none, some ("(\n" ++
    ",\n".intercalate ((d.tableLines ⟨"", columns⟩).map ("    " ++ ·)) ++ "\n)" ++ d.tableOptions)]

theorem fill_tableTemplate (d : Dialect) (table : String) (columns : List Column) :
    Template.fill (d.quoteName table) (tableTemplate d columns) =
      d.createTableText ⟨table, columns⟩ := by
  have lines : d.tableLines ⟨table, columns⟩ = d.tableLines ⟨"", columns⟩ := rfl
  have opening : " (\n" = " " ++ "(\n" := rfl
  rw [tableTemplate, Template.fill_around, Dialect.createTableText, lines, opening]
  simp only [String.append_assoc]

def statementsTemplate (d : Dialect) (columns : List Column) (statements : List Statement) :
    Template :=
  statements.flatMap fun statement => statementTemplate d columns statement ++ [some ";\n"]

theorem fill_statementsTemplate (d : Dialect) (table : String) (columns : List Column)
    (statements : List Statement) :
    Template.fill (d.quoteName table) (statementsTemplate d columns statements) =
      String.join (((statements.map (d.statementText ⟨table, columns⟩)).map
        Part.statement).map Part.text) := by
  induction statements with
  | nil => rfl
  | cons statement statements ih =>
    rw [statementsTemplate, List.flatMap_cons, Template.fill_append, Template.fill_append,
      fill_statementTemplate, ← statementsTemplate, ih]
    simp only [List.map_cons, String.join_cons, Part.text]
    rfl

def bodyTemplate (d : Dialect) (columns : List Column) (statements : List Statement) : Template :=
  [some (String.join ((d.preamble.map Part.statement ++ blankFor d.preamble).map Part.text))] ++
    tableTemplate d columns ++ [some ";\n\n"] ++ statementsTemplate d columns statements ++
    [some (String.join ((blankFor d.footer ++ d.footer.map Part.statement).map Part.text))]

theorem fill_bodyTemplate {g : Generated} {d : Dialect} {columns : List Column}
    {statements : List Statement} (dialect : g.dialect = d)
    (create : g.createTable = d.createTableText ⟨g.table, columns⟩)
    (inserts : g.inserts = statements.map (d.statementText ⟨g.table, columns⟩)) :
    g.body = Template.fill (d.quoteName g.table) (bodyTemplate d columns statements) := by
  have one (code : String) : Template.fill (d.quoteName g.table) [some code] = code := by
    simp [Template.fill]
  have first (code : String) :
      String.join ([Part.statement code, .blank].map Part.text) = code ++ ";\n\n" := by
    have ends : ";\n\n" = ";\n" ++ "\n" := rfl
    simp only [List.map_cons, List.map_nil, Part.text, String.join_cons, String.join_nil,
      String.append_empty, String.append_assoc, ends]
  rw [bodyTemplate]
  simp only [Template.fill_append, one, fill_tableTemplate, fill_statementsTemplate]
  rw [Generated.body, Generated.statementParts, dialect, create, inserts]
  simp only [List.map_append, String.join_append, String.append_assoc, first]

/-- Which rows are written does not depend on the name of the table. -/
theorem sortRows_congr (table other : String) (columns : List Column) (blocked : List Nat)
    (row : Nat) (records : List Record) :
    sortRows ⟨table, columns⟩ blocked row records =
      sortRows ⟨other, columns⟩ blocked row records := by
  induction records generalizing row with
  | nil => rfl
  | cons r records ih =>
    rw [sortRows, sortRows, ih]
    rfl

def scriptTemplate (columns : List Column) (records : List Record) (report : Report) (d : Dialect)
    (batchSize : Nat) : Template :=
  bodyTemplate d columns (d.insertStatements ⟨"", columns⟩
    (sortRows ⟨"", columns⟩ report.blockedRows 0 records).1 batchSize)

/-- The name of a table stands only in its places in the code that is made for its columns. -/
theorem body_of_generate {s : Schema} {records : List Record} {report : Report} {d : Dialect}
    {batchSize : Nat} {g : Generated} (h : generate s records report d batchSize = .ok g) :
    g.table = s.table ∧ g.body = Template.fill (d.quoteName s.table)
      (scriptTemplate s.columns records report d batchSize) := by
  rw [generate] at h
  split at h
  · cases h
  · split at h
    · cases h
    · cases h
      refine ⟨rfl, fill_bodyTemplate rfl rfl ?_⟩
      rw [sortRows_congr "" s.table]
      rfl

/-- A script is a header and then the statements of the dialect, the table and its rows in order,
each with a semicolon and with nothing but empty lines between them.  The header is lines of
comments and an empty line, if neither the name of the table nor the place that the rows come from
ends a line.  Behind the header that place does not matter, and the name of the table stands only
where a database reads it to its last quote, in code that is the same for all names. -/
theorem script_confines_texts (g : Generated) (source? : Option String) (m : Moment)
    (unbroken : ∀ c ∈ lineEnds, c ∉ g.table.toList ∧ ∀ s ∈ source?, c ∉ s.toList) :
    ∃ (lines : List String) (parts : List Part),
      g.script source? m.text =
        String.join (lines.map (· ++ "\n")) ++ String.join (parts.map Part.text) ∧
      (∀ line ∈ lines, IsHeaderLine line ∧ ∀ c ∈ lineEnds, c ∉ line.toList) ∧
      parts.filterMap Part.statement? =
        g.dialect.preamble ++ g.createTable :: (g.inserts ++ g.dialect.footer) ∧
      (∀ part ∈ parts, part = .blank ∨ ∃ code, part = .statement code) ∧
      ∀ s records report d batchSize, generate s records report d batchSize = .ok g →
        String.join (parts.map Part.text) = Template.fill (d.quoteName g.table)
          (scriptTemplate s.columns records report d batchSize) ∧
        ∀ rest, Reading.name d ((d.quoteName g.table ++ " ").toList ++ rest) =
          some (g.table, ' ' :: rest) := by
  obtain ⟨lines, header, comments, breaks⟩ := exists_headerLines g source? m
  refine ⟨lines, g.statementParts, ?_, fun line hl => ⟨comments line hl, fun c hc => ?_⟩,
    g.filterMap_statementParts, fun part => Generated.mem_statementParts,
    fun s records report d batchSize generated => ⟨?_, fun rest => ?_⟩⟩
  · rw [Generated.script_eq, header, Generated.body]
  · exact breaks c hc (unbroken c hc).1 (unbroken c hc).2 line hl
  · obtain ⟨named, body⟩ := body_of_generate generated
    rw [named]
    exact body
  · rw [String.toList_append, List.append_assoc]
    exact Reading.name_run d g.table (Reading.space_ne_nameMark d)

/-- A name that tries to end its quotes and its statement, in a script of one row. -/
theorem script_confines_texts_quoted :
    let s : Schema := ⟨"a` (x); -- ", Schema.cadastro.columns⟩
    ∃ g, generate s [⟨[.null], []⟩] ⟨[], 1⟩ .mysql 500 = .ok g ∧
      (∀ c ∈ lineEnds, c ∉ g.table.toList ∧ ∀ s ∈ some "people.csv", c ∉ s.toList) ∧
      ∀ m : Moment, ∃ lines : List String, (∀ line ∈ lines, IsHeaderLine line) ∧
        g.script (some "people.csv") m.text = String.join (lines.map (· ++ "\n")) ++
          Template.fill (Dialect.mysql.quoteName g.table)
            (scriptTemplate s.columns [⟨[.null], []⟩] ⟨[], 1⟩ .mysql 500) := by
  intro s
  obtain ⟨g, generated, named⟩ : ∃ g, generate s [⟨[.null], []⟩] ⟨[], 1⟩ .mysql 500 = .ok g ∧
      g.table = "a` (x); -- " := ⟨_, generate_eq_ok (by decide) _ _ _ (by decide), rfl⟩
  have unbroken : ∀ c ∈ lineEnds, c ∉ g.table.toList ∧
      ∀ s ∈ some "people.csv", c ∉ s.toList := by
    simp only [named, Option.mem_some_iff, forall_eq']
    decide
  refine ⟨g, generated, unbroken, fun m => ?_⟩
  obtain ⟨lines, parts, script, header, -, -, confined⟩ :=
    script_confines_texts g (some "people.csv") m unbroken
  rw [(confined _ _ _ _ _ generated).1] at script
  exact ⟨lines, fun line hl => (header line hl).1, script⟩

/-- What follows a line break in the name of a table is a line of the header. -/
theorem exists_header_of_lineBreak {g : Generated} {first last : String}
    (name : g.table = first ++ "\n" ++ last) (source? : Option String) (stamp : String) :
    ∃ before behind, String.join ((g.header source? stamp).map Part.text) =
      before ++ "\n" ++ last ++ "\n" ++ behind := by
  have remarks : g.remarks source? stamp = ["".pushn '=' 60,
      g.dialect.title ++ " script for table " ++ (first ++ "\n" ++ last)] ++
        (g.remarks source? stamp).drop 2 := by
    rw [← name]
    rfl
  rw [g.header_eq, remarks]
  generalize (g.remarks source? stamp).drop 2 = others
  refine ⟨"-- " ++ "".pushn '=' 60 ++ "\n-- " ++ g.dialect.title ++ " script for table " ++ first,
    String.join ((others.map Part.comment ++ [Part.blank]).map Part.text), ?_⟩
  have mark : "\n-- " = "\n" ++ "-- " := rfl
  simp only [List.cons_append, List.nil_append, List.map_cons, Part.text, String.join_cons,
    String.append_assoc, mark]

/-- A name in quotes may span lines, and the header of the script then has a line of code. -/
theorem script_header_breaks_out :
    ¬ IsHeaderLine "DROP TABLE b" ∧
      ∃ s g, Ddl.parse "CREATE TABLE \"a\nDROP TABLE b\" (x INT)" = .ok s ∧
        generate s [⟨[.text "1"], []⟩] ⟨[], 1⟩ .sqlite 500 = .ok g ∧
        ∀ source? stamp, ∃ before behind, String.join ((g.header source? stamp).map Part.text) =
          before ++ "\n" ++ "DROP TABLE b" ++ "\n" ++ behind := by
  refine ⟨?_, ⟨"a\nDROP TABLE b", [{ name := "x", type := .integer }]⟩, _, by decide +kernel,
    generate_eq_ok (by decide) _ _ _ (by decide), exists_header_of_lineBreak
      (show "a\nDROP TABLE b" = "a" ++ "\n" ++ "DROP TABLE b" by decide)⟩
  rintro (empty | comment)
  · exact absurd empty (by decide)
  · exact absurd comment (by decide)

end TableLoad.Sql
