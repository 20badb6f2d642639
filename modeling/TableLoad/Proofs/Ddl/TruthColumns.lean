import TableLoad.Proofs.Ddl.Tables
import TableLoad.Proofs.Ddl.WellFormed

/-! # Columns of truth values in a dialect without them

One dialect writes a column of truth values as a column of integers with a check, and the check is
all that tells the two apart when the statement is read again.  Which columns hold truth values then
depends on their names alone, if each default is read to its end.
-/
namespace TableLoad.Ddl
open Text Sql

/-- A table whose names the quotes of names leave as they are. -/
structure IsUnquotedTable (s : Schema) : Prop where
  filled : s.columns ≠ []
  named : IsUnquoted s.table
  columnNamed : ∀ c ∈ s.columns, IsUnquoted c.name

/-- The default of a column that is written as it stands: an expression, a number, and a number or
text in a column of truth values that stands for none. -/
def rawDefault? (c : Column) : Option String :=
  if c.isAutoIncrement then none
  else
    match c.default? with
    | some (.number numeral) =>
      if c.type = .boolean ∧ truth? numeral ≠ none then none else some numeral
    | some (.text content) =>
      if c.type = .boolean ∧ truth? content = none then some content else none
    | some (.expression code) => some code
    | _ => none

section Column
variable {composite : Bool} {c : Column}

theorem readsToEnd_truth (b : Bool) : ReadsToEnd (Dialect.sqlite.booleanLiteral b).toList := by
  refine (readsDefault_digits ?_).readsToEnd
  cases b <;> exact ⟨by decide, by decide⟩

theorem readsToEnd_truthOr {shown : String}
    (raw : truth? shown = none → ReadsToEnd shown.toList) :
    ReadsToEnd (((truth? shown).map Dialect.sqlite.booleanLiteral).getD shown).toList := by
  cases truth : truth? shown with
  | none => exact raw truth
  | some b => exact readsToEnd_truth b

theorem readsToEnd_defaultCode (uncounted : c.isAutoIncrement = false)
    (raw : ∀ code, rawDefault? c = some code → ReadsToEnd code.toList) {value : Default}
    (hv : c.default? = some value) : ReadsToEnd (defaultCode .sqlite c.type value).toList := by
  have shown : defaultCode .sqlite c.type value = Dialect.sqlite.defaultText c.type value :=
    ite_self _
  simp only [rawDefault?, uncounted, hv, Bool.false_eq_true, if_false] at raw
  rw [shown]
  cases value with
  | null => exact readsDefault_null.readsToEnd
  | boolean b => exact readsToEnd_truth b
  | number numeral =>
    rw [Dialect.defaultText]
    split
    · exact readsToEnd_truthOr fun none => raw numeral (if_neg fun some => some.2 none)
    · rename_i other
      exact raw numeral (if_neg fun some => other some.1)
  | text content =>
    rw [Dialect.defaultText]
    split
    · rename_i boolean
      exact readsToEnd_truthOr fun none => raw content (if_pos ⟨boolean, none⟩)
    · rw [Dialect.stringLiteral, String.toList_ofList]
      exact (ReadsDefault.string .sqlite content.toList).readsToEnd
  | currentTimestamp =>
    have plain : IsWritableDefault .sqlite c.type .currentTimestamp := trivial
    have read := (defaultRun_of_writable plain).run.readsToEnd
    rwa [shown] at read
  | expression code => exact raw code rfl

theorem isReadDefault_of_parse {text : String} {s : Schema} (parsed : parse text = .ok s)
    (hc : c ∈ s.columns) {value : Default} (hv : c.default? = some value) :
    IsReadDefault value := by
  obtain ⟨rest, entries, -, read, resolved⟩ := exists_of_parse parsed
  obtain ⟨e, member, own⟩ := resolved.exists_entry hc
  obtain ⟨found, written, constraint, made⟩ := own.default value hv
  have given : IsReadDefault found :=
    (isRead_of_body read _ member e rfl).constraints _ constraint found written rfl
  rw [made]
  split
  · rcases truthDefault_cases found with ⟨b, truth⟩ | ⟨same, -⟩
    · rw [truth]
      exact .of_ne (by simp) (by simp)
    · rwa [same]
  · exact given

/-- In a table that was read from a statement, only the text of a column of truth values may be
written so that it is not read to its end. -/
theorem readsToEnd_rawDefault_of_parse {text : String} {s : Schema} (parsed : parse text = .ok s)
    (hc : c ∈ s.columns)
    (textless : c.type = .boolean → ∀ content, c.default? ≠ some (.text content)) {code : String}
    (raw : rawDefault? c = some code) : ReadsToEnd code.toList := by
  rw [rawDefault?.eq_def] at raw
  split at raw
  · cases raw
  · split at raw
    · rename_i numeral hv
      split at raw
      · cases raw
      · obtain rfl := Option.some.inj raw
        have number := (isReadDefault_of_parse parsed hc hv).numeral numeral rfl
        exact (ReadsDefault.numeral number).readsToEnd
    · rename_i content hv
      split at raw
      · rename_i truth
        exact absurd hv (textless truth.1 content)
      · cases raw
    · rename_i code hv
      obtain rfl := Option.some.inj raw
      exact (isReadDefault_of_parse parsed hc hv).code _ rfl
    · cases raw

/-- A part is read as its constraint, but for a default, which is read as some default. -/
def IsSameButDefault (part : List Char × Constraint) (x : Constraint) : Prop :=
  part.2 = x ∨ IsDefault part.2 ∧ IsDefault x

/-- The checks that are read from the line of a column are those that it writes. -/
theorem check_mem_iff_of_forall₂ {constraints : List Constraint}
    (each : List.Forall₂ IsSameButDefault (columnParts .sqlite composite c) constraints)
    (code : List Char) : .check code ∈ constraints ↔
      (c.type = .boolean ∧ Dialect.sqlite = .sqlite) ∧ code = truthCode .sqlite c := by
  have written : .check code ∈ columnConstraints .sqlite composite c ↔ _ := check_mem_iff
  rw [← written, columnConstraints, List.mem_map]
  constructor
  · intro found
    obtain ⟨part, hp, same | ⟨-, other⟩⟩ := Scan.exists_of_forall₂ each found
    · exact ⟨part, hp, same⟩
    · exact absurd other id
  · rintro ⟨part, hp, check⟩
    obtain ⟨x, hx, same | ⟨other, -⟩⟩ := Scan.exists_of_forall₂ each.flip hp
    · exact check ▸ same ▸ hx
    · rw [check] at other
      exact absurd other id

/-- An entry that is read from the line of a column, as far as it tells whether the column holds
truth values. -/
structure IsTruthEntryOf (c : Column) (e : ColumnEntry) : Prop where
  name : e.name = c.name
  type : ∃ resolved, ResolvedType.ofName e.typeName e.arguments = .ok resolved ∧
    (promotedType resolved e.name e.constraints = .boolean ↔
      c.type = .boolean ∧ KeepsCheck c.name)

theorem promotedType_of_forall₂ (named : IsUnquoted c.name) {constraints : List Constraint}
    (each : List.Forall₂ IsSameButDefault (columnParts .sqlite composite c) constraints) :
    promotedType (columnReadType .sqlite c) c.name constraints = .boolean ↔
      c.type = .boolean ∧ KeepsCheck c.name := by
  have resolved : columnReadType .sqlite c = readType .sqlite c.type := if_neg (by simp)
  have stored : (columnReadType .sqlite c).type ≠ .boolean := by
    rw [resolved, readType]
    by_cases boolean : c.type = .boolean <;> simp [boolean]
  have integer : (columnReadType .sqlite c).type = .integer ↔
      c.type = .boolean ∨ c.type = .integer := by
    rw [resolved, readType]
    by_cases boolean : c.type = .boolean <;> simp [boolean]
  rw [promotedType_eq_boolean_iff stored, integer, ← isTruthCheck_truthCode_iff named]
  · constructor
    · rintro ⟨-, code, check, truth⟩
      obtain ⟨⟨boolean, -⟩, rfl⟩ := (check_mem_iff_of_forall₂ each code).1 check
      exact ⟨boolean, truth⟩
    · rintro ⟨boolean, truth⟩
      exact ⟨.inl boolean, _, (check_mem_iff_of_forall₂ each _).2 ⟨⟨boolean, rfl⟩, rfl⟩, truth⟩
  · intro dates
    rw [resolved, readType, decide_eq_true_eq] at dates
    rw [resolved, readType, dates.1]
    simp

theorem exists_truthEntry (named : IsUnquoted c.name)
    (raw : ∀ code, rawDefault? c = some code → ReadsToEnd code.toList) {rest : List Char}
    (follow : EndsLine rest) : ∃ e, IsTruthEntryOf c e ∧
      entry (lineText .sqlite composite (.column c) ++ rest) = some (.column e, rest) := by
  have free := named.mark_not_mem .sqlite
  have checked (_ : c.type = .boolean) : Closed (truthCode .sqlite c) :=
    closed_truthCode (closed_quoteName_of_free (by decide) free)
  have reads : ∀ part ∈ columnParts .sqlite composite c,
      ReadsKind part.1 (IsSameButDefault part) := by
    intro part hp
    rcases mem_defaultPart_or_readsConstraint checked hp with default | reads
    · obtain ⟨uncounted, value, hv, rfl⟩ := mem_defaultPart.1 default
      have read := readsKind_default (readsToEnd_defaultCode uncounted raw hv)
      refine ⟨fun t ht => ?_, read.opening⟩
      obtain ⟨x, own, run⟩ := read.run t ht
      exact ⟨x, .inr ⟨trivial, own⟩, run⟩
    · exact reads.readsKind (.inl rfl)
  obtain ⟨e, name, type, each, read⟩ :=
    columnEntry_run_of ⟨named.1, free⟩ reads follow.endsPart follow.no_constraint
  refine ⟨e, ⟨name, _, type, ?_⟩, Scan.orElse_run (wholeColumn_of_columnEntry read type follow)⟩
  rw [name]
  exact promotedType_of_forall₂ named each

end Column

def Line.column? : Line → Option Column
  | .column c => some c
  | .key _ => none

def IsTruthReadFrom : Line → Entry → Prop
  | .column c, .column e => IsTruthEntryOf c e
  | .key _, .primaryKey _ => True
  | _, _ => False

theorem exists_truthRead {s : Schema} (unquoted : IsUnquotedTable s)
    (raw : ∀ c ∈ s.columns, ∀ code, rawDefault? c = some code → ReadsToEnd code.toList)
    {line : Line} (hl : line ∈ tableLines s) {rest : List Char} (follow : EndsLine rest) :
    ∃ e, IsTruthReadFrom line e ∧
      entry (lineText .sqlite (isComposite s) line ++ rest) = some (e, rest) := by
  rcases List.mem_append.1 hl with hl | hl
  · obtain ⟨c, hc, rfl⟩ := List.mem_map.1 hl
    obtain ⟨e, own, read⟩ := exists_truthEntry (unquoted.columnNamed c hc) (raw c hc) follow
    exact ⟨.column e, own, read⟩
  · obtain ⟨composite, hl⟩ := List.mem_ite_nil_right.1 hl
    rw [List.mem_singleton.1 hl]
    have filled : s.primaryKey.map Column.name ≠ [] := by
      have few : 1 < s.primaryKey.length := of_decide_eq_true composite
      intro none
      rw [List.map_eq_nil_iff.1 none] at few
      exact absurd few (by decide)
    have closed : Closed (keyText .sqlite (s.primaryKey.map Column.name)) := by
      refine .intercalate (.of_inert (by decide)) fun part hp => ?_
      obtain ⟨name, hn, rfl⟩ := List.mem_map.1 hp
      obtain ⟨c, hc, rfl⟩ := List.mem_map.1 hn
      have named := unquoted.columnNamed c (List.mem_filter.1 hc).1
      exact closed_quoteName_of_free (by decide) (named.mark_not_mem .sqlite)
    exact ⟨.primaryKey _, trivial, entry_run_key .sqlite _ filled closed rest⟩

theorem filterMap_column?_tableLines (s : Schema) :
    (tableLines s).filterMap Line.column? = s.columns := by
  have columns : (s.columns.map Line.column).filterMap Line.column? = s.columns := by
    rw [List.filterMap_map]
    exact List.filterMap_some
  rw [tableLines, List.filterMap_append, columns]
  split <;> simp [Line.column?]

/-- Read again from the statement of the dialect without truth values, a table has the same columns,
and a column holds truth values exactly if it held them and its name keeps its check. -/
theorem boolean_reparsed_iff {s s' : Schema} (unquoted : IsUnquotedTable s)
    (raw : ∀ c ∈ s.columns, ∀ code, rawDefault? c = some code → ReadsToEnd code.toList)
    (parsed : parse (Dialect.sqlite.createTableText s) = .ok s') :
    List.Forall₂ (fun c c' => c'.name = c.name ∧
        (c'.type = .boolean ↔ c.type = .boolean ∧ KeepsCheck c.name))
      s.columns s'.columns := by
  obtain ⟨rest, entries, head, read, resolved⟩ := exists_of_parse parsed
  obtain ⟨entries', rest', each, head', read'⟩ := exists_entries_of_createTableText .sqlite
    ⟨unquoted.named.1, unquoted.named.mark_not_mem .sqlite⟩ unquoted.filled
    fun line hl t ht => exists_truthRead unquoted raw hl ht
  -- the statement is read in one way only
  obtain ⟨-, rfl⟩ := Prod.mk.inj (Option.some.inj (head.symm.trans head'))
  obtain ⟨rfl, -⟩ := Prod.mk.inj (Except.ok.inj (read.symm.trans read'))
  have columns : List.Forall₂ IsTruthEntryOf s.columns (entries.filterMap Entry.column?) := by
    rw [← filterMap_column?_tableLines s]
    refine List.rel_filterMap (fun line e own => ?_) each
    cases line <;> cases e <;> first | exact .some own | exact .none | exact absurd own id
  refine Scan.forall₂_trans (fun c e c' own column => ?_) columns resolved.columns
  obtain ⟨found, type, promoted, -⟩ := column.type
  obtain ⟨found', type', truth⟩ := own.type
  obtain rfl := Except.ok.inj (type.symm.trans type')
  exact ⟨column.name.trans own.name, by rw [promoted, truth]⟩

/-- A name with an accent keeps its check, one with a blank does not, and a number stays one. -/
theorem boolean_reparsed_answers :
    let s : Schema := ⟨"answers",
      [{ name := "été", type := .boolean, default? := some (.boolean true) },
        { name := "is active", type := .boolean },
        { name := "count", type := .integer, default? := some (.number "-7") }]⟩
    IsUnquotedTable s ∧
    (∀ c ∈ s.columns, ∀ code, rawDefault? c = some code → ReadsToEnd code.toList) ∧
    ∃ s', parse (Dialect.sqlite.createTableText s) = .ok s' ∧
      List.Forall₂ (fun c c' => c'.name = c.name ∧
          (c'.type = .boolean ↔ c.type = .boolean ∧ KeepsCheck c.name))
        s.columns s'.columns := by
  intro s
  have unquoted : IsUnquotedTable s := by
    refine ⟨by simp [s], ⟨by decide, by decide⟩, ?_⟩
    simp only [s, List.forall_mem_cons, IsUnquoted]
    decide
  have raw : ∀ c ∈ s.columns, ∀ code, rawDefault? c = some code → ReadsToEnd code.toList := by
    simp only [s, List.forall_mem_cons]
    refine ⟨?_, ?_, ?_, by simp⟩
    · rintro code ⟨⟩
    · rintro code ⟨⟩
    · rintro code ⟨⟩
      exact (ReadsDefault.numeral
        ⟨['-'], ['7'], [], rfl, by decide, ⟨by decide, by decide⟩, .inl rfl⟩).readsToEnd
  have parsed : parse (Dialect.sqlite.createTableText s) = .ok ⟨"answers",
      [{ name := "été", type := .boolean, default? := some (.boolean true) },
        { name := "is active", type := .integer },
        { name := "count", type := .integer, default? := some (.number "-7") }]⟩ := by
    decide +kernel
  exact ⟨unquoted, raw, _, parsed, boolean_reparsed_iff unquoted raw parsed⟩

/-- A blank in the name or a capital sigma at its end hides the check, and so does a default that is
written as it stands and goes on as another column. -/
theorem boolean_lost :
    (∀ name ∈ ["is active", "ΑΣ"], IsUnquoted name ∧
      parse (Dialect.sqlite.createTableText ⟨"t", [{ name, type := .boolean }]⟩) =
        .ok ⟨"t", [{ name, type := .integer }]⟩) ∧
    parse (Dialect.sqlite.createTableText
        ⟨"t", [{ name := "a", type := .boolean, default? := some (.text "0, b INT") }]⟩) =
      .ok ⟨"t", [{ name := "a", type := .integer, default? := some (.number "0") },
        { name := "b", type := .integer }]⟩ := by
  simp only [List.forall_mem_cons, IsUnquoted]
  decide +kernel

end TableLoad.Ddl
