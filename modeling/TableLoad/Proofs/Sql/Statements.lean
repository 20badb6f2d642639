import TableLoad.Proofs.Text.Scan
import TableLoad.Proofs.Sql.Literals

/-! # Reading statements back

The text of a statement reads back to its end: the table, the named columns, and for each row a
tuple whose literals stand for the values at the named places.
-/
namespace TableLoad.Sql.Reading
open Text

def StartsFilled (rest : List Char) : Prop := ∀ c ∈ rest.head?, c ≠ ' ' ∧ c ≠ '\n'

theorem startsFilled_cons {c : Char} {rest : List Char} (space : c ≠ ' ') (line : c ≠ '\n') :
    StartsFilled (c :: rest) := by
  simp [StartsFilled, space, line]

theorem StartsFilled.blanks_run {rest : List Char} (h : StartsFilled rest) :
    blanks rest = some ((), rest) := by
  cases rest with
  | nil => rfl
  | cons c rest =>
    obtain ⟨space, line⟩ := h c rfl
    simp [blanks, space, line]

theorem StartsFilled.blanks_space {rest : List Char} (h : StartsFilled rest) :
    blanks (' ' :: rest) = some ((), rest) := h.blanks_run

theorem StartsFilled.blanks_line {rest : List Char} (h : StartsFilled rest) :
    blanks ('\n' :: rest) = some ((), rest) := h.blanks_run

theorem comma_run {blank : Char} (isBlank : blank = ' ' ∨ blank = '\n') {rest : List Char}
    (h : StartsFilled rest) : comma (',' :: blank :: rest) = some ((), rest) := by
  have first : StartsFilled (',' :: blank :: rest) := startsFilled_cons (by decide) (by decide)
  rw [comma, Scan.bind_run first.blanks_run, Scan.bind_run (Scan.char_cons_self _ _)]
  rcases isBlank with rfl | rfl
  · exact h.blanks_space
  · exact h.blanks_line

theorem comma_refused_close (rest : List Char) : comma (')' :: rest) = none := by
  have first : StartsFilled (')' :: rest) := startsFilled_cons (by decide) (by decide)
  rw [comma, Scan.bind_run first.blanks_run]
  exact Scan.bind_refused (Scan.char_cons_ne (by decide) rest)

theorem exactly_run (shown rest : List Char) :
    exactly shown (shown ++ rest) = some ((), rest) := by
  simp [exactly]

theorem exactly_refused {shown s : List Char} (h : shown.isPrefixOf s = false) :
    exactly shown s = none := by
  simp [exactly, h]

section Lists
variable {α γ : Type} (item : Scan α) (shown : γ → List Char) (Reads : γ → α → Prop)

/-- A list in parentheses reads back if its items do wherever a comma or the closing parenthesis
follows. -/
theorem list_run (items : List γ)
    (reads : ∀ x ∈ items, ∀ t, EndsItem t →
      ∃ a, Reads x a ∧ item (shown x ++ t) = some (a, t))
    (filled : ∀ x ∈ items, ∀ t, StartsFilled (shown x ++ t))
    (refused : ∀ t, item (')' :: t) = none) (rest : List Char) :
    ∃ values, List.Forall₂ Reads items values ∧
      list item ('(' :: ([',', ' '].intercalate (items.map shown) ++ ')' :: rest)) =
        some (values, rest) := by
  have close : StartsFilled (')' :: rest) := startsFilled_cons (by decide) (by decide)
  have first : StartsFilled ([',', ' '].intercalate (items.map shown) ++ ')' :: rest) := by
    cases items with
    | nil => exact close
    | cons x items =>
      rw [List.map_cons, Scan.intercalate_cons, List.append_assoc]
      exact filled x List.mem_cons_self _
  obtain ⟨values, each, read⟩ := Scan.separated_intercalate shown EndsItem Reads [',', ' '] items
    (by simp) reads
    (fun x hx t => comma_run (.inl rfl) (filled x hx t)) (fun t => by simp [EndsItem])
    (by simp [EndsItem]) (fun _ => refused rest) (Scan.bind_refused (comma_refused_close rest))
  refine ⟨values, each, ?_⟩
  rw [list, Scan.bind_run (Scan.char_cons_self _ _), Scan.bind_run first.blanks_run,
    Scan.bind_run read, Scan.bind_run close.blanks_run, Scan.bind_run (Scan.char_cons_self _ _)]
  rfl

end Lists

theorem quoteName_startsFilled (d : Dialect) (shown : String) (rest : List Char) :
    StartsFilled ((d.quoteName shown).toList ++ rest) := by
  rw [Dialect.quoteName, String.toList_ofList, enclosed]
  cases d <;> exact startsFilled_cons (by decide) (by decide)

theorem space_ne_nameMark (d : Dialect) {rest : List Char} :
    (' ' :: rest).head? ≠ some (nameMarks d).2 := by
  cases d <;> simp [nameMarks]

theorem name_refused_close (d : Dialect) (rest : List Char) : name d (')' :: rest) = none := by
  refine Scan.bind_refused (Scan.char_cons_ne ?_ rest)
  cases d <;> decide

theorem literal_refused (d : Dialect) {c : Char} (bare : isBareChar c = false) (plain : c ≠ '\'')
    (rest : List Char) : literal d (c :: rest) = none := by
  have apostrophe : Scan.char '\'' (c :: rest) = none := Scan.char_cons_ne plain rest
  have mark : stringMark d (c :: rest) = some ((), c :: rest) := by
    cases d with
    | sqlserver =>
      have other : c ≠ 'N' := by
        rintro rfl
        exact absurd bare (by decide)
      rw [stringMark, Scan.bind_run (Scan.optional_refused (Scan.char_cons_ne other rest))]
      rfl
    | _ => rfl
  have refused : string d (c :: rest) = none := by
    rw [string, Scan.bind_run mark, Scan.bind_refused apostrophe]
  rw [literal, Scan.orElse_refused (Scan.bind_refused refused)]
  exact Scan.bind_refused (Scan.some1_refused (by simp [bare]))

theorem literal_startsFilled (d : Dialect) {type : ColumnType} {v : Value}
    (fits : v.IsOfType type) (rest : List Char) :
    StartsFilled ((d.literal type v).toList ++ rest) := by
  have last : EndsItem [] := by simp [EndsItem]
  obtain ⟨l, -, read⟩ := literal_run d fits last
  cases h : (d.literal type v).toList with
  | nil =>
    rw [h] at read
    cases d <;> cases read
  | cons c shown =>
    rw [h] at read
    refine startsFilled_cons ?_ ?_
    all_goals
      rintro rfl
      rw [List.cons_append, literal_refused d (by decide) (by decide)] at read
      cases read

/-- A literal that stands for the value of an entry in its column. -/
def StandsFor (d : Dialect) (entry : Column × Value) (l : Literal) : Prop :=
  datum? d entry.1.type l = some (entry.2.datum entry.1.type)

def columnsAt (s : Schema) (positions : List Nat) : List Column :=
  positions.filterMap fun i => s.columns[i]?

def entries (s : Schema) (positions : List Nat) (row : List Value) : List (Column × Value) :=
  positions.filterMap fun i => (s.columns.zip row)[i]?

theorem toList_tupleText (d : Dialect) (s : Schema) (positions : List Nat) (row : List Value) :
    (d.tupleText s positions row).toList =
      '(' :: ([',', ' '].intercalate
        ((entries s positions row).map fun e => (d.literal e.1.type e.2).toList) ++ [')']) := by
  have same : d.tupleText s positions row =
      "(" ++ ", ".intercalate ((entries s positions row).map fun e => d.literal e.1.type e.2) ++
        ")" := by
    refine congrArg (fun literals => "(" ++ ", ".intercalate literals ++ ")") ?_
    rw [entries, List.map_filterMap]
    refine List.filterMap_congr fun i _ => ?_
    rw [List.zip, List.getElem?_zipWith]
    cases s.columns[i]? <;> cases row[i]? <;> rfl
  rw [same]
  simp only [String.toList_append, String.toList_intercalate, List.map_map]
  rfl

theorem tuple_run (d : Dialect) (s : Schema) (positions : List Nat) {row : List Value}
    (fits : ∀ e ∈ entries s positions row, e.2.IsOfType e.1.type) (rest : List Char) :
    ∃ tuple, List.Forall₂ (StandsFor d) (entries s positions row) tuple ∧
      list (literal d) ((d.tupleText s positions row).toList ++ rest) = some (tuple, rest) := by
  obtain ⟨tuple, each, read⟩ := list_run (literal d)
    (fun e : Column × Value => (d.literal e.1.type e.2).toList) (StandsFor d) (entries s positions row)
    (fun e he t ht => literal_run d (fits e he) ht)
    (fun e he t => literal_startsFilled d (fits e he) t)
    (literal_refused d (by decide) (by decide)) rest
  refine ⟨tuple, each, ?_⟩
  rw [toList_tupleText, List.cons_append, List.append_assoc]
  exact read

theorem tuples_run (d : Dialect) (s : Schema) (positions : List Nat) {rows : List (List Value)}
    (fits : ∀ row ∈ rows, ∀ e ∈ entries s positions row, e.2.IsOfType e.1.type) :
    ∃ tuples, List.Forall₂ (fun row => List.Forall₂ (StandsFor d) (entries s positions row))
        rows tuples ∧
      Scan.separated comma (list (literal d))
        ([',', '\n'].intercalate (rows.map fun row => (d.tupleText s positions row).toList)) =
          some (tuples, []) := by
  have stop : (do comma; list (literal d) : Scan (List Literal)) [] = none := rfl
  have read := Scan.separated_intercalate
    (fun row => (d.tupleText s positions row).toList) (fun _ => True)
    (fun row => List.Forall₂ (StandsFor d) (entries s positions row)) [',', '\n'] rows
    (by simp) (fun row hr t _ => tuple_run d s positions (fits row hr) t)
    (fun row _ t => comma_run (.inr rfl) (by
      rw [toList_tupleText]
      exact startsFilled_cons (by decide) (by decide)))
    (fun _ => trivial) trivial (fun _ => rfl) stop
  simpa only [List.append_nil] using read

theorem toList_insertText (d : Dialect) (s : Schema) (positions : List Nat)
    (rows : List (List Value)) :
    (d.statementText s (.insert positions rows)).toList =
      "INSERT INTO".toList ++ (' ' :: ((d.quoteName s.table).toList ++ (' ' :: '(' ::
        ([',', ' '].intercalate ((columnsAt s positions).map
            fun c => (d.quoteName c.name).toList) ++ ')' ::
          (' ' :: ("VALUES".toList ++ ('\n' :: [',', '\n'].intercalate
            (rows.map fun row => (d.tupleText s positions row).toList)))))))) := by
  have names : (positions.filterMap fun i => s.columns[i]?.map fun c => d.quoteName c.name) =
      (columnsAt s positions).map fun c => d.quoteName c.name := by
    rw [columnsAt, List.map_filterMap]
  delta Dialect.statementText
  dsimp only
  rw [names]
  simp only [String.toList_append, String.toList_intercalate, List.map_map, List.append_assoc]
  rfl

theorem statement?_insert (d : Dialect) (s : Schema) (positions : List Nat)
    {rows : List (List Value)}
    (fits : ∀ row ∈ rows, ∀ e ∈ entries s positions row, e.2.IsOfType e.1.type) :
    ∃ tuples, List.Forall₂ (fun row => List.Forall₂ (StandsFor d) (entries s positions row))
        rows tuples ∧
      statement? d (d.statementText s (.insert positions rows)) =
        some (.insert s.table ((columnsAt s positions).map Column.name) tuples) := by
  obtain ⟨tuples, each, read⟩ := tuples_run d s positions fits
  refine ⟨tuples, each, ?_⟩
  have columns : ∀ rest, list (name d) ('(' :: ([',', ' '].intercalate
      ((columnsAt s positions).map fun c => (d.quoteName c.name).toList) ++ ')' :: rest)) =
      some ((columnsAt s positions).map Column.name, rest) := by
    intro rest
    obtain ⟨names, same, run⟩ := list_run (name d)
      (fun c : Column => (d.quoteName c.name).toList) (fun c shown => c.name = shown) (columnsAt s positions)
      (fun c _ t ht => ⟨c.name, rfl, name_run d c.name
        (ht.head?_ne (by cases d <;> decide) (by cases d <;> decide))⟩)
      (fun c _ t => quoteName_startsFilled d c.name t) (name_refused_close d) rest
    have : (columnsAt s positions).map Column.name = names := by
      rw [← List.forall₂_eq_eq_eq, List.forall₂_map_left_iff]
      exact same
    rw [this, run]
  have table : ∀ rest, name d ((d.quoteName s.table).toList ++ ' ' :: rest) =
      some (s.table, ' ' :: rest) := fun rest => name_run d s.table (space_ne_nameMark d)
  have keyword : ∀ rest, StartsFilled ("VALUES".toList ++ rest) := fun rest =>
    startsFilled_cons (c := 'V') (by decide) (by decide)
  have tupleStart : StartsFilled ([',', '\n'].intercalate
      (rows.map fun row => (d.tupleText s positions row).toList)) := by
    cases rows with
    | nil => simp [StartsFilled]
    | cons row rows =>
      rw [List.map_cons, Scan.intercalate_cons, toList_tupleText]
      exact startsFilled_cons (by decide) (by decide)
  have whole : insertStatement d (d.statementText s (.insert positions rows)).toList =
      some (.insert s.table ((columnsAt s positions).map Column.name) tuples, []) := by
    rw [toList_insertText, insertStatement, Scan.bind_run (exactly_run _ _),
      Scan.bind_run (quoteName_startsFilled d s.table _).blanks_space, Scan.bind_run (table _),
      Scan.bind_run (startsFilled_cons (by decide) (by decide)).blanks_space,
      Scan.bind_run (columns _), Scan.bind_run (keyword _).blanks_space,
      Scan.bind_run (exactly_run _ _), Scan.bind_run tupleStart.blanks_line, Scan.bind_run read]
    rfl
  rw [statement?, Scan.orElse_run whole]
  rfl

theorem statement?_toggle (d : Dialect) (s : Schema) (on : Bool) :
    statement? d (d.statementText s (.toggle on)) = some (.toggle s.table on) := by
  have text : (d.statementText s (.toggle on)).toList =
      "SET IDENTITY_INSERT".toList ++ (' ' :: ((d.quoteName s.table).toList ++
        (' ' :: (if on then "ON" else "OFF").toList))) := by
    have ending : (if on then " ON" else " OFF").toList =
        ' ' :: (if on then "ON" else "OFF").toList := by
      cases on <;> rfl
    have keyword : "SET IDENTITY_INSERT ".toList = "SET IDENTITY_INSERT".toList ++ [' '] := by
      decide
    have written : d.statementText s (.toggle on) =
        "SET IDENTITY_INSERT " ++ d.quoteName s.table ++ (if on then " ON" else " OFF") := rfl
    rw [written, String.toList_append, String.toList_append, List.append_assoc, ending, keyword,
      List.append_assoc, List.singleton_append]
  have other : insertStatement d (d.statementText s (.toggle on)).toList = none := by
    rw [text]
    exact Scan.bind_refused (exactly_refused rfl)
  have table : ∀ rest, name d ((d.quoteName s.table).toList ++ ' ' :: rest) =
      some (s.table, ' ' :: rest) := fun rest => name_run d s.table (space_ne_nameMark d)
  rw [statement?, Scan.orElse_refused other, text, toggleStatement,
    Scan.bind_run (exactly_run _ _),
    Scan.bind_run (quoteName_startsFilled d s.table _).blanks_space, Scan.bind_run (table _)]
  cases on <;> rfl

end TableLoad.Sql.Reading
