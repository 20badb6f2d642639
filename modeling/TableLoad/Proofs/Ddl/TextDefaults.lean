import TableLoad.Proofs.Ddl.RoundTrip

/-! # Text defaults

A text default is written as a string literal of the dialect and read back from it: alone, in the
line of its column and in the whole statement.  The grammar is not told the dialect, so it leaves
the backslashes that MySQL doubles as they are.
-/
namespace TableLoad.Ddl
open Text Sql

/-- A string literal reads back as its content exactly when the dialect keeps the content. -/
theorem stringLiteral_run_iff (d : Dialect) (content : String) {rest : List Char}
    (stop : rest.head? ≠ some '\'') :
    stringLiteral ((d.stringLiteral content).toList ++ rest) = some (content, rest) ↔
      KeepsText d content.toList := by
  rw [Dialect.stringLiteral, String.toList_ofList, stringLiteral_run d _ stop,
    ← doubling_leftDouble_iff]
  simp only [Option.some.injEq, Prod.mk.injEq, and_true]
  constructor
  · intro same
    simpa using congrArg String.toList same
  · intro same
    rw [same, String.ofList_toList]

/-- A column that a text fills by default. In a column of truth values a text stands for one of
them, and a column that counts up is filled by the database. -/
structure IsFilledBy (content : String) (c : Column) : Prop where
  other : c.type ≠ .boolean
  uncounted : c.isAutoIncrement = false
  default : c.default? = some (.text content)

theorem IsFilledBy.isSpelled {d : Dialect} {content : String} {c : Column}
    (h : IsFilledBy content c) (kept : KeepsText d content.toList)
    (named : c.name ≠ "" ∧ d.nameMarks.2 ∉ c.name.toList) : IsSpelled d c where
  named := named
  checked truth := absurd truth h.other
  default value hv := by
    obtain rfl : .text content = value := Option.some.inj (h.default.symm.trans hv)
    exact defaultRun_text h.other kept
  counted counts := by simp [h.uncounted] at counts

/-- The line of a column with a text default gives the default back, whatever else it says. -/
theorem entry_run_of_text {d : Dialect} {content : String} (kept : KeepsText d content.toList)
    {c : Column} (named : c.name ≠ "" ∧ d.nameMarks.2 ∉ c.name.toList)
    (filled : IsFilledBy content c) (composite : Bool) {rest : List Char}
    (follow : EndsLine rest) :
    ∃ e, entry ((d.columnText composite c).toList ++ rest) = some (.column e, rest) ∧
      ∀ (total : Nat) (inlineKey? : Option String),
        (isMarked composite c = true → inlineKey? = none) →
          ∃ read key?, resolveColumn total inlineKey? e = .ok (read, key?) ∧
            read.name = c.name ∧ read.default? = some (.text content) := by
  have spelled := filled.isSpelled kept named
  obtain ⟨e, entry, read⟩ := wholeColumn_run d composite spelled follow
  refine ⟨e, Scan.orElse_run read, fun total inlineKey? first => ?_⟩
  refine ⟨_, _, resolveColumn_run total spelled first entry, rfl, ?_⟩
  simp [readColumn, filled.uncounted, filled.default]

theorem parse_of_text {d : Dialect} {s : Schema} (origin : IsObtained s)
    (writable : IsWritableTable d s) (content : String) :
    ∃ s', parse (d.createTableText s) = .ok s' ∧ ∀ c ∈ s.columns, IsFilledBy content c →
      ∃ read ∈ s'.columns, read.name = c.name ∧ read.default? = some (.text content) := by
  refine ⟨_, parse_of_writable origin writable, fun c hc filled => ?_⟩
  refine ⟨restored (isComposite s) c, List.mem_map_of_mem hc, rfl, ?_⟩
  rw [(isKept_restored hc).default filled.uncounted, filled.default]

/-- A string literal reads back as its content, and what follows it is left, exactly when the
dialect keeps the content; and then a text default reads back from the line of its column and from
the statement of its table, too. -/
theorem text_reads_back (d : Dialect) (content : String) :
    (∀ rest : List Char, rest.head? ≠ some '\'' →
      (stringLiteral ((d.stringLiteral content).toList ++ rest) = some (content, rest) ↔
        KeepsText d content.toList)) ∧
    (KeepsText d content.toList →
      (∀ (c : Column) (composite : Bool) (rest : List Char),
        c.name ≠ "" ∧ d.nameMarks.2 ∉ c.name.toList → IsFilledBy content c → EndsLine rest →
          ∃ e, entry ((d.columnText composite c).toList ++ rest) = some (.column e, rest) ∧
            ∀ (total : Nat) (inlineKey? : Option String),
              (isMarked composite c = true → inlineKey? = none) →
                ∃ read key?, resolveColumn total inlineKey? e = .ok (read, key?) ∧
                  read.name = c.name ∧ read.default? = some (.text content)) ∧
      ∀ s : Schema, IsObtained s → IsWritableTable d s →
        ∃ s', parse (d.createTableText s) = .ok s' ∧ ∀ c ∈ s.columns, IsFilledBy content c →
          ∃ read ∈ s'.columns, read.name = c.name ∧ read.default? = some (.text content)) := by
  refine ⟨fun rest stop => stringLiteral_run_iff d content stop, fun kept => ⟨?_, ?_⟩⟩
  · intro c composite rest named filled follow
    exact entry_run_of_text kept named filled composite follow
  · intro s origin writable
    exact parse_of_text origin writable content

def noteColumn : Column :=
  Column.withDefault { name := "note", type := .text none } (.text "it's\n(two) lines")

theorem text_reads_back_note :
    stringLiteral ((Dialect.mysql.stringLiteral "it's\n(two) lines").toList ++ [',']) =
        some ("it's\n(two) lines", [',']) ∧
      (∃ e, entry ((Dialect.mysql.columnText false noteColumn).toList ++ [',']) =
          some (.column e, [',']) ∧
        ∃ read key?, resolveColumn 0 none e = .ok (read, key?) ∧ read.name = "note" ∧
          read.default? = some (.text "it's\n(two) lines")) ∧
      ∃ s', parse (Dialect.mysql.createTableText ⟨"notes", [noteColumn]⟩) = .ok s' ∧
        ∃ read ∈ s'.columns, read.name = "note" ∧
          read.default? = some (.text "it's\n(two) lines") := by
  have kept : KeepsText .mysql "it's\n(two) lines".toList := by decide
  have named : IsWord "notes" ∧ IsWord "note" := by
    simp only [IsWord]
    decide +kernel
  have filled : IsFilledBy "it's\n(two) lines" noteColumn := ⟨by decide, rfl, rfl⟩
  have origin : IsObtained ⟨"notes", [noteColumn]⟩ := by
    have built : ∀ c ∈ [noteColumn], c.IsBuilt := by
      rw [List.forall_mem_singleton]
      exact (Column.IsBuilt.new ..).withDefault _
    have made : Schema.make "notes" [noteColumn] = .ok ⟨"notes", [noteColumn]⟩ := by
      decide +kernel
    exact .made built made
  have writable : IsWritableTable .mysql ⟨"notes", [noteColumn]⟩ := by
    refine ⟨named.1, ?_, ?_⟩
    · rw [List.forall_mem_singleton]
      exact ⟨named.2, by decide⟩
    · rw [List.forall_mem_singleton]
      rintro value ⟨⟩
      exact ⟨filled.other, kept⟩
  obtain ⟨literal, more⟩ := text_reads_back .mysql "it's\n(two) lines"
  obtain ⟨line, statement⟩ := more kept
  obtain ⟨e, read, resolved⟩ := line noteColumn false [','] (by decide) filled (.comma [])
  obtain ⟨s', parsed, each⟩ := statement _ origin writable
  exact ⟨(literal [','] (by decide)).2 kept, ⟨e, read, resolved 0 none (fun _ => rfl)⟩, s', parsed,
    each noteColumn List.mem_cons_self filled⟩

/-- A backslash comes back doubled from MySQL, whose literal is another text's literal in
PostgreSQL; a text in a column of truth values is written as it stands; and the default of a column
that counts up is not written. -/
theorem text_not_kept :
    Dialect.mysql.stringLiteral "a\\b" = Dialect.postgresql.stringLiteral "a\\\\b" ∧
      stringLiteral (Dialect.mysql.stringLiteral "a\\b").toList = some ("a\\\\b", []) ∧
      parse (Dialect.sqlite.createTableText
          ⟨"t", [{ name := "a", type := .boolean, default? := some (.text "maybe") }]⟩) =
        .ok ⟨"t", [{ name := "a", type := .boolean, default? := some (.expression "maybe") }]⟩ ∧
      parse (Dialect.mysql.createTableText ⟨"t", [Column.autoIncrement (Column.primaryKey
          { name := "a", type := .integer, default? := some (.text "x") })]⟩) =
        .ok ⟨"t", [Column.autoIncrement (Column.primaryKey { name := "a", type := .integer })]⟩ := by
  decide +kernel

end TableLoad.Ddl
