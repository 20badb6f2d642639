import TableLoad.Ddl.Statement
import TableLoad.Proofs.Ddl.Entries
import TableLoad.Proofs.Ddl.Resolution

/-! # Reading statements back

The statement that a dialect writes for a table is balanced and is read back to its end: the name of
the table and its lines.
-/
namespace TableLoad.Ddl
open Text Sql

def isComposite (s : Schema) : Bool := decide (1 < s.primaryKey.length)

def tableLines (s : Schema) : List Line :=
  s.columns.map .column ++
    if isComposite s then [.key (s.primaryKey.map Column.name)] else []

structure IsSpelledTable (d : Dialect) (s : Schema) : Prop where
  named : IsWord s.table
  filled : s.columns ≠ []
  columnNamed : ∀ c ∈ s.columns, IsWord c.name
  columns : ∀ c ∈ s.columns, IsSpelled d c
  keyed : ∀ c ∈ s.columns, c.isPrimaryKey = true → c.nullable = false

theorem isSpelled_of_mem_tableLines {d : Dialect} {s : Schema} (h : IsSpelledTable d s)
    {line : Line} (hl : line ∈ tableLines s) : line.IsSpelled d := by
  rcases List.mem_append.1 hl with hl | hl
  · obtain ⟨c, hc, rfl⟩ := List.mem_map.1 hl
    exact ⟨h.columnNamed c hc, h.columns c hc⟩
  · obtain ⟨composite, hl⟩ := List.mem_ite_nil_right.1 hl
    rw [List.mem_singleton.1 hl]
    refine ⟨fun none => ?_, fun name hn => ?_⟩
    · have few : 1 < s.primaryKey.length := of_decide_eq_true composite
      rw [List.map_eq_nil_iff.1 none] at few
      exact absurd few (by decide)
    · obtain ⟨c, hc, rfl⟩ := List.mem_map.1 hn
      exact h.columnNamed c (List.mem_filter.1 hc).1

theorem tableLines_ne_nil {s : Schema} (filled : s.columns ≠ []) : tableLines s ≠ [] := by
  simp [tableLines, filled]

theorem map_toList_tableLines (d : Dialect) (s : Schema) :
    (d.tableLines s).map String.toList = (tableLines s).map (lineText d (isComposite s)) := by
  have key : (", ".intercalate (s.primaryKey.map fun c => d.quoteName c.name)).toList =
      keyText d (s.primaryKey.map Column.name) := by
    rw [String.toList_intercalate, keyText, List.map_map, List.map_map]
    rfl
  rw [Dialect.tableLines, tableLines, List.map_append, List.map_append, List.map_map, List.map_map,
    ← isComposite]
  congr 1
  cases isComposite s with
  | false => rfl
  | true =>
    simp only [if_true, List.map_cons, List.map_nil, String.toList_append, key, List.append_assoc]
    rfl

theorem intercalate_indented (mark indent : List Char) {lines : List (List Char)}
    (filled : lines ≠ []) :
    mark.intercalate (lines.map (indent ++ ·)) = indent ++ (mark ++ indent).intercalate lines := by
  obtain ⟨line, lines, rfl⟩ := List.exists_cons_of_ne_nil filled
  rw [List.map_cons, Scan.intercalate_cons, Scan.intercalate_cons, List.flatMap_map]
  simp only [List.append_assoc]

theorem toList_createTableText (d : Dialect) {s : Schema} (some_column : s.columns ≠ []) :
    (d.createTableText s).toList = d.createTable.toList ++ (' ' :: ((d.quoteName s.table).toList ++
      (' ' :: '(' :: ("\n    ".toList ++ (",\n    ".toList.intercalate
        ((tableLines s).map (lineText d (isComposite s))) ++
          '\n' :: ')' :: d.tableOptions.toList))))) := by
  have lines : ((d.tableLines s).map ("    " ++ ·)).map String.toList =
      ((tableLines s).map (lineText d (isComposite s))).map ("    ".toList ++ ·) := by
    rw [← map_toList_tableLines, List.map_map, List.map_map]
    refine List.map_congr_left fun line _ => ?_
    simp only [Function.comp, String.toList_append]
  have filled : (tableLines s).map (lineText d (isComposite s)) ≠ [] := by
    simp [tableLines_ne_nil some_column]
  rw [Dialect.createTableText]
  simp only [String.toList_append, String.toList_intercalate, lines, List.append_assoc]
  rw [intercalate_indented _ _ filled]
  simp only [List.append_assoc]
  rfl

theorem imbalance?_createTableText (d : Dialect) {s : Schema} (h : IsSpelledTable d s) :
    imbalance? 0 .plain (d.createTableText s).toList = none := by
  have lines : Closed (",\n    ".toList.intercalate
      ((tableLines s).map (lineText d (isComposite s)))) := by
    refine .intercalate (.of_inert (by decide)) fun shown hs => ?_
    obtain ⟨line, hl, rfl⟩ := List.mem_map.1 hs
    exact closed_lineText d _ (isSpelled_of_mem_tableLines h hl)
  have inner : Closed ("\n    ".toList ++ (",\n    ".toList.intercalate
      ((tableLines s).map (lineText d (isComposite s))) ++ ['\n'])) :=
    (Closed.of_inert (by decide)).append (lines.append (.inert (by decide) .nil))
  have options : Closed d.tableOptions.toList := .of_inert (by cases d <;> decide)
  have start : Closed d.createTable.toList := .of_inert (by cases d <;> decide)
  have body := Closed.group inner options
  have closed := start.append (.inert (c := ' ') (by decide)
    ((closed_quoteName d h.named).append (.inert (c := ' ') (by decide) body)))
  have text : (d.createTableText s).toList = d.createTable.toList ++ ' ' ::
      ((d.quoteName s.table).toList ++ ' ' :: '(' :: ("\n    ".toList ++
        (",\n    ".toList.intercalate ((tableLines s).map (lineText d (isComposite s))) ++
          ['\n']) ++ ')' :: d.tableOptions.toList)) := by
    rw [toList_createTableText d h.filled]
    simp only [List.append_assoc, List.cons_append, List.nil_append]
  have passed := closed.imbalance?_append 0 []
  rw [List.append_nil] at passed
  rw [text, passed]
  rfl

theorem qualifiedName_run (d : Dialect) {shown : String} (filled : shown ≠ "")
    (free : d.nameMarks.2 ∉ shown.toList) (t : List Char) :
    qualifiedName ((d.quoteName shown).toList ++ ' ' :: '(' :: t) =
      some (shown, ' ' :: '(' :: t) := by
  have token : AtToken ('(' :: t) := rfl
  have alone : Scan.many (do gap; Scan.char '.'; gap; name) (' ' :: '(' :: t) =
      some ([], ' ' :: '(' :: t) := by
    rw [Scan.many, Scan.repeated_refused ((Scan.bind_run token.gap_space).trans rfl)]
  rw [qualifiedName, Scan.bind_run (name_run_of_free d free filled _), Scan.bind_run alone]
  rfl

theorem quoteName_atToken (d : Dialect) (shown : String) (t : List Char) :
    AtToken ((d.quoteName shown).toList ++ t) := by
  rw [Dialect.quoteName, String.toList_ofList, enclosed]
  cases d <;> exact atToken_cons _ rfl (by decide) (by decide)

theorem ifNotExists_run {s : List Char} (token : AtToken s) :
    Scan.optional (do phrase ["IF", "NOT", "EXISTS"]; gap)
      ("IF".toList ++ ' ' :: ("NOT".toList ++ ' ' :: ("EXISTS".toList ++ ' ' :: s))) =
        some (some (), s) := by
  have notToken (t : List Char) : AtToken ("NOT".toList ++ t) := rfl
  have condition : phrase ["IF", "NOT", "EXISTS"]
      ("IF".toList ++ ' ' :: ("NOT".toList ++ ' ' :: ("EXISTS".toList ++ ' ' :: s))) =
        some ((), ' ' :: s) := by
    rw [phrase, Scan.bind_run (keyword_run _ (by decide) (endsWord_space _)),
      Scan.bind_run (notToken _).gap_space]
    · exact phrase_run _ _ (by decide) (by decide) rfl (endsWord_space s)
    · simp
  exact Scan.optional_run ((Scan.bind_run condition).trans token.gap_space)

/-- The start of the statement is read back, with or without the condition that there be no such
table. -/
theorem header_run (d : Dialect) {shown : String} (filled : shown ≠ "")
    (free : d.nameMarks.2 ∉ shown.toList) (t : List Char) :
    header (d.createTable.toList ++ ' ' :: ((d.quoteName shown).toList ++ ' ' :: '(' :: t)) =
      some (shown, ' ' :: '(' :: t) := by
  have name := qualifiedName_run d filled free t
  have token := quoteName_atToken d shown (' ' :: '(' :: t)
  have noIf : keyword "IF" ((d.quoteName shown).toList ++ ' ' :: '(' :: t) = none := by
    rw [Dialect.quoteName, String.toList_ofList, enclosed]
    cases d <;> rfl
  generalize (d.quoteName shown).toList ++ ' ' :: '(' :: t = quoted at name token noIf
  have create (s : List Char) : keyword "CREATE" ("CREATE".toList ++ ' ' :: s) =
      some ((), ' ' :: s) := keyword_run _ (by decide) (endsWord_space s)
  have table (s : List Char) : keyword "TABLE" ("TABLE".toList ++ ' ' :: s) =
      some ((), ' ' :: s) := keyword_run _ (by decide) (endsWord_space s)
  have createToken (s : List Char) : AtToken ("CREATE".toList ++ s) := rfl
  have tableToken (s : List Char) : AtToken ("TABLE".toList ++ s) := rfl
  have plain (rest : List Char)
      (condition : Scan.optional (do phrase ["IF", "NOT", "EXISTS"]; gap) rest =
        some (none, quoted) ∨ Scan.optional (do phrase ["IF", "NOT", "EXISTS"]; gap) rest =
          some (some (), quoted)) (restToken : AtToken rest) :
      header ("CREATE".toList ++ ' ' :: ("TABLE".toList ++ ' ' :: rest)) =
        some (shown, ' ' :: '(' :: t) := by
    rw [header, Scan.bind_run (createToken _).gap_run, Scan.bind_run (create _),
      Scan.bind_run (tableToken _).gap_space, Scan.bind_run (Scan.optional_refused rfl),
      Scan.bind_run (table _), Scan.bind_run restToken.gap_space]
    rcases condition with condition | condition
    · rw [Scan.bind_run condition, name]
    · rw [Scan.bind_run condition, name]
  have bare := plain quoted (.inl (Scan.optional_refused (Scan.bind_refused
    (Scan.bind_refused noIf)))) token
  have conditional := plain
    ("IF".toList ++ ' ' :: ("NOT".toList ++ ' ' :: ("EXISTS".toList ++ ' ' :: quoted)))
    (.inr (ifNotExists_run token)) rfl
  cases d with
  | sqlserver => exact bare
  | _ => exact conditional

theorem afterOptions_tableOptions (d : Dialect) : afterOptions d.tableOptions.toList = [] := by
  have none : d.tableOptions.toList.dropWhile (· != ';') = [] := by cases d <;> decide
  rw [afterOptions, none]

theorem body_run (d : Dialect) {s : Schema} {IsRead : Line → Entry → Prop}
    (some_column : s.columns ≠ [])
    (reads : ∀ line ∈ tableLines s, ∀ t, EndsLine t →
      ∃ e, IsRead line e ∧ entry (lineText d (isComposite s) line ++ t) = some (e, t)) :
    ∃ entries, List.Forall₂ IsRead (tableLines s) entries ∧
      body (' ' :: '(' :: ("\n    ".toList ++ (",\n    ".toList.intercalate
        ((tableLines s).map (lineText d (isComposite s))) ++
          '\n' :: ')' :: d.tableOptions.toList))) = .ok (entries, []) := by
  have filled := tableLines_ne_nil some_column
  obtain ⟨entries, each, read⟩ := entries_run d (isComposite s) filled reads d.tableOptions.toList
  refine ⟨entries, each, ?_⟩
  have start (t : List Char) : AtToken ('(' :: t) := rfl
  have close : AtToken (')' :: d.tableOptions.toList) := rfl
  have lines : AtToken (",\n    ".toList.intercalate
      ((tableLines s).map (lineText d (isComposite s))) ++
        '\n' :: ')' :: d.tableOptions.toList) := by
    obtain ⟨line, more, hl⟩ := List.exists_cons_of_ne_nil filled
    rw [hl, List.map_cons, Scan.intercalate_cons, List.append_assoc]
    exact lineText_atToken d _ line _
  have indent {t : List Char} (ht : AtToken t) : afterGap ("\n    ".toList ++ t) = t :=
    congrArg Prod.snd (Option.some.inj (gap_indent ht))
  rw [body, afterGap_cons_of_blank rfl, (start _).afterGap_eq]
  simp only [indent lines, read, afterGap_cons_of_blank (c := '\n') rfl, close.afterGap_eq,
    afterOptions_tableOptions]

/-- The statement of a table is read to its end if its name and its lines are. -/
theorem exists_entries_of_createTableText (d : Dialect) {s : Schema} {IsRead : Line → Entry → Prop}
    (named : s.table ≠ "" ∧ d.nameMarks.2 ∉ s.table.toList) (some_column : s.columns ≠ [])
    (reads : ∀ line ∈ tableLines s, ∀ t, EndsLine t →
      ∃ e, IsRead line e ∧ entry (lineText d (isComposite s) line ++ t) = some (e, t)) :
    ∃ entries rest, List.Forall₂ IsRead (tableLines s) entries ∧
      header (d.createTableText s).toList = some (s.table, rest) ∧
        body rest = .ok (entries, []) := by
  obtain ⟨entries, each, read⟩ := body_run d some_column reads
  refine ⟨entries, _, each, ?_, read⟩
  rw [toList_createTableText d some_column]
  exact header_run d named.1 named.2 _

/-- The statement of a table is resolved from the entries that are read from its lines. -/
theorem parse_createTableText (d : Dialect) {s : Schema} (h : IsSpelledTable d s) :
    ∃ entries, List.Forall₂ (IsReadFrom d (isComposite s)) (tableLines s) entries ∧
      parse (d.createTableText s) =
        resolve (byteLength (d.createTableText s).toList) s.table entries := by
  obtain ⟨entries, rest, each, start, read⟩ := exists_entries_of_createTableText d
    ⟨h.named.1, h.named.mark_not_mem d⟩ h.filled
    fun line hl t ht => entry_run d (isComposite s) (isSpelled_of_mem_tableLines h hl) ht
  refine ⟨entries, each, ?_⟩
  rw [parse, schemaOf, imbalance?_createTableText d h]
  simp only [start, read]

end TableLoad.Ddl
