import TableLoad.Proofs.Ddl.Columns

/-! # Reading the entries of a table back

The lines between the parentheses of a statement are read back one by one: the columns, and the key
if it has several of them.
-/
namespace TableLoad.Ddl
open Text Sql

inductive Line where
  | column (c : Column)
  /-- The key of several columns, by their names. -/
  | key (names : List String)

def keyText (d : Dialect) (names : List String) : List Char :=
  [',', ' '].intercalate (names.map fun name => (d.quoteName name).toList)

def lineText (d : Dialect) (composite : Bool) : Line → List Char
  | .column c => (d.columnText composite c).toList
  | .key names => "PRIMARY KEY (".toList ++ (keyText d names ++ [')'])

def Line.IsSpelled (d : Dialect) : Line → Prop
  | .column c => IsWord c.name ∧ Ddl.IsSpelled d c
  | .key names => names ≠ [] ∧ ∀ name ∈ names, IsWord name

def IsReadFrom (d : Dialect) (composite : Bool) : Line → Entry → Prop
  | .column c, .column e => IsEntryOf d composite c e
  | .key names, .primaryKey found => found = names
  | _, _ => False

inductive EndsLine : List Char → Prop
  | comma (t : List Char) : EndsLine (',' :: t)
  | close (t : List Char) : EndsLine ('\n' :: ')' :: t)

namespace EndsLine
variable {rest : List Char}

theorem endsPart (h : EndsLine rest) : EndsPart rest := by
  cases h with
  | comma t => exact .comma t
  | close t => exact .close t

theorem afterGap_eq (h : EndsLine rest) : ∃ c t, afterGap rest = c :: t ∧ (c = ',' ∨ c = ')') := by
  cases h with
  | comma t =>
    have token : AtToken (',' :: t) := rfl
    exact ⟨',', t, token.afterGap_eq, .inl rfl⟩
  | close t =>
    have token : AtToken (')' :: t) := rfl
    exact ⟨')', t, (afterGap_cons_of_blank rfl _).trans token.afterGap_eq, .inr rfl⟩

theorem no_constraint (h : EndsLine rest) :
    (do gap; columnConstraint : Scan Constraint) rest = none := by
  cases h with
  | comma t =>
    have token : AtToken (',' :: t) := rfl
    exact (Scan.bind_run token.gap_run).trans rfl
  | close t =>
    have token : AtToken (')' :: t) := rfl
    exact (Scan.bind_run ((gap_cons_of_blank rfl _).trans token.gap_run)).trans rfl

end EndsLine

theorem wholeColumn_of_columnEntry {s rest : List Char} {e : ColumnEntry} {resolved : ResolvedType}
    (read : columnEntry s = some (e, rest))
    (type : ResolvedType.ofName e.typeName e.arguments = .ok resolved) (follow : EndsLine rest) :
    wholeColumn s = some (.column e, rest) := by
  have known : (TypeFamily.ofName? e.typeName).isSome = true := by
    rw [ResolvedType.ofName] at type
    cases hf : TypeFamily.ofName? e.typeName with
    | some family => rfl
    | none =>
      rw [hf] at type
      cases type
  have ends : atEntryEnd rest = true := by
    obtain ⟨c, t, gone, last⟩ := follow.afterGap_eq
    rw [atEntryEnd, gone]
    rcases last with rfl | rfl <;> rfl
  rw [wholeColumn, read]
  simp [known, ends]

theorem wholeColumn_run (d : Dialect) (composite : Bool) {c : Column} (h : IsSpelled d c)
    {rest : List Char} (follow : EndsLine rest) :
    ∃ e, IsEntryOf d composite c e ∧
      wholeColumn ((d.columnText composite c).toList ++ rest) = some (.column e, rest) := by
  obtain ⟨e, entry, read⟩ := columnEntry_run d composite h follow.endsPart follow.no_constraint
  exact ⟨e, entry, wholeColumn_of_columnEntry read entry.type follow⟩

theorem closed_keyText (d : Dialect) {names : List String} (h : ∀ name ∈ names, IsWord name) :
    Closed (keyText d names) := by
  refine .intercalate (.of_inert (by decide)) fun part hp => ?_
  obtain ⟨name, hn, rfl⟩ := List.mem_map.1 hp
  exact closed_quoteName d (h name hn)

theorem splitAtCommas_of_no_comma {s : List Char} (free : ',' ∉ s) : splitAtCommas s = [s] := by
  induction s with
  | nil => rfl
  | cons c s ih =>
    rw [List.mem_cons, not_or] at free
    rw [splitAtCommas, ih free.2]
    simp [Ne.symm free.1]

theorem splitAtCommas_append {s : List Char} (free : ',' ∉ s) (t : List Char) :
    splitAtCommas (s ++ ',' :: t) = s :: splitAtCommas t := by
  induction s with
  | nil =>
    rw [List.nil_append, splitAtCommas]
    cases h : splitAtCommas t with
    | nil =>
      cases t with
      | nil => cases h
      | cons c t =>
        rw [splitAtCommas] at h
        split at h
        · split at h <;> cases h
        · cases h
    | cons part parts => simp
  | cons c s ih =>
    rw [List.mem_cons, not_or] at free
    rw [List.cons_append, splitAtCommas, ih free.2]
    simp [Ne.symm free.1]

theorem splitAtCommas_intercalate {first : List Char} (free : ',' ∉ first)
    {parts : List (List Char)} (frees : ∀ part ∈ parts, ',' ∉ part) :
    splitAtCommas (first ++ parts.flatMap ([',', ' '] ++ ·)) =
      first :: parts.map (' ' :: ·) := by
  induction parts generalizing first with
  | nil => simpa using splitAtCommas_of_no_comma free
  | cons part parts ih =>
    rw [List.forall_mem_cons] at frees
    have next : ',' ∉ ' ' :: part := by simp [frees.1]
    rw [List.flatMap_cons, List.append_assoc, List.cons_append, List.singleton_append,
      splitAtCommas_append free, ← List.cons_append, ih next frees.2, List.map_cons]

theorem trimmed_quoteName (d : Dialect) {name : String} (h : IsWord name) :
    trimmed (d.quoteName name).toList = (d.quoteName name).toList := by
  rw [toList_quoteName d h]
  refine trimmed_eq_self ?_ ?_
  · cases d <;> simp [Dialect.nameMarks] <;> decide
  · rw [← List.cons_append, List.getLast?_concat]
    cases d <;> simp [Dialect.nameMarks] <;> decide

theorem comma_not_mem_quoteName (d : Dialect) {name : String} (h : IsWord name) :
    ',' ∉ (d.quoteName name).toList := by
  have free : ',' ∉ name.toList := fun hm => ne_of_isWordChar (h.2 _ hm) (d := ',') rfl rfl
  rw [toList_quoteName d h]
  cases d <;> simp [Dialect.nameMarks, backtick, free]

theorem keyColumns_keyText (d : Dialect) {names : List String} (filled : names ≠ [])
    (h : ∀ name ∈ names, IsWord name) : keyColumns (keyText d names) = names := by
  obtain ⟨first, more, rfl⟩ := List.exists_cons_of_ne_nil filled
  rw [List.forall_mem_cons] at h
  have read : ∀ shown, IsWord shown →
      (name (trimmed (d.quoteName shown).toList)).map Prod.fst = some shown := by
    intro shown hs
    have run := name_run d hs []
    rw [List.append_nil] at run
    rw [trimmed_quoteName d hs, run]
    rfl
  have frees : ∀ part ∈ more.map fun name => (d.quoteName name).toList, ',' ∉ part := by
    intro part hp
    obtain ⟨shown, hs, rfl⟩ := List.mem_map.1 hp
    exact comma_not_mem_quoteName d (h.2 shown hs)
  rw [keyColumns, keyText, List.map_cons, Scan.intercalate_cons,
    splitAtCommas_intercalate (comma_not_mem_quoteName d h.1) frees, List.filterMap_cons,
    read first h.1, List.map_map, List.filterMap_map]
  apply congrArg (first :: ·)
  have each : ∀ shown ∈ more, ((fun part => (name (trimmed part)).map Prod.fst) ∘
      (fun part => ' ' :: part) ∘ fun name => (d.quoteName name).toList) shown = some shown := by
    intro shown hs
    simp only [Function.comp]
    rw [trimmed_cons_of_blank (by decide), read shown (h.2 shown hs)]
  exact (List.filterMap_congr each).trans List.filterMap_some

theorem typeArguments_refused {mark : Char} (quote : mark = '"' ∨ mark = backtick ∨ mark = '[')
    (inner : List Char) : typeArguments ('(' :: mark :: inner) = none := by
  have token : AtToken (mark :: inner) := by rcases quote with rfl | rfl | rfl <;> rfl
  have refused : typeArgument (mark :: inner) = none := by
    rcases quote with rfl | rfl | rfl <;> rfl
  have close : Scan.char ')' (mark :: inner) = none := by
    rcases quote with rfl | rfl | rfl <;> rfl
  rw [typeArguments, Scan.bind_run (Scan.char_cons_self _ _), Scan.bind_run token.gap_run,
    Scan.bind_run (Scan.separated_refused refused), Scan.bind_run token.gap_run]
  exact Scan.bind_refused close

/-- Two words and a list of quoted names read as a column without arguments, which goes on. -/
theorem columnEntry_key {mark : Char} (quote : mark = '"' ∨ mark = backtick ∨ mark = '[')
    (inner : List Char) : ∃ bytes,
    columnEntry ("PRIMARY".toList ++ ' ' :: ("KEY".toList ++ ' ' :: '(' :: mark :: inner)) =
      some (⟨"PRIMARY", "KEY", [], [], bytes⟩, ' ' :: '(' :: mark :: inner) := by
  have first : name ("PRIMARY".toList ++ ' ' :: ("KEY".toList ++ ' ' :: '(' :: mark :: inner)) =
      some ("PRIMARY", ' ' :: ("KEY".toList ++ ' ' :: '(' :: mark :: inner)) := by
    iterate 3 refine (Scan.orElse_refused rfl).trans ?_
    exact word_run (by decide) (by decide) (endsWord_space _)
  have second : word ("KEY".toList ++ ' ' :: '(' :: mark :: inner) =
      some ("KEY", ' ' :: '(' :: mark :: inner) :=
    word_run (by decide) (by decide) (endsWord_space _)
  have keyToken : AtToken ("KEY".toList ++ ' ' :: '(' :: mark :: inner) := rfl
  have token : AtToken ('(' :: mark :: inner) := rfl
  have refused {α : Type} {p : Scan α} (h : p ('(' :: mark :: inner) = none) :
      (do gap; p : Scan α) (' ' :: '(' :: mark :: inner) = none :=
    (Scan.bind_run token.gap_space).trans h
  have constraints : Scan.many (do gap; columnConstraint) (' ' :: '(' :: mark :: inner) =
      some ([], ' ' :: '(' :: mark :: inner) := by
    rw [Scan.many, Scan.repeated_refused (refused rfl)]
  refine ⟨byteLength
    ("PRIMARY".toList ++ ' ' :: ("KEY".toList ++ ' ' :: '(' :: mark :: inner)), ?_⟩
  rw [columnEntry]
  rw [Scan.bind_run first, Scan.bind_run keyToken.gap_space, Scan.bind_run second,
    Scan.bind_run (Scan.optional_refused (refused rfl)),
    Scan.bind_run (Scan.optional_refused (refused (typeArguments_refused quote inner))),
    Scan.bind_run (Scan.optional_refused (refused rfl)), Scan.bind_run constraints]
  rfl

/-- The line of a key does not read as a column: its second word is no type. -/
theorem wholeColumn_refused_key (d : Dialect) {names : List String} (filled : names ≠ [])
    (rest : List Char) :
    wholeColumn ("PRIMARY KEY (".toList ++ (keyText d names ++ ')' :: rest)) = none := by
  obtain ⟨first, more, rfl⟩ := List.exists_cons_of_ne_nil filled
  obtain ⟨mark, inner, quote, text⟩ : ∃ mark inner, (mark = '"' ∨ mark = backtick ∨ mark = '[') ∧
      keyText d (first :: more) ++ ')' :: rest = mark :: inner := by
    rw [keyText, List.map_cons, Scan.intercalate_cons, Dialect.quoteName, String.toList_ofList,
      enclosed]
    cases d with
    | mysql => exact ⟨backtick, _, by simp, rfl⟩
    | postgresql => exact ⟨'"', _, by simp, rfl⟩
    | sqlite => exact ⟨'"', _, by simp, rfl⟩
    | sqlserver => exact ⟨'[', _, by simp, rfl⟩
  obtain ⟨bytes, read⟩ := columnEntry_key quote inner
  have words : "PRIMARY KEY (".toList ++ mark :: inner =
      "PRIMARY".toList ++ ' ' :: ("KEY".toList ++ ' ' :: '(' :: mark :: inner) := rfl
  have unknown : TypeFamily.ofName? "KEY" = none := by decide
  rw [text, words, wholeColumn, read]
  simp [unknown]

theorem tableKey_run_of_closed {list : List Char} (closed : Closed list) (rest : List Char) :
    tableKey ("PRIMARY KEY (".toList ++ (list ++ ')' :: rest)) =
      some (.primaryKey (keyColumns list), rest) := by
  have text : "PRIMARY KEY (".toList ++ (list ++ ')' :: rest) =
      "PRIMARY".toList ++ ' ' :: ("KEY".toList ++ ' ' :: '(' :: (list ++ ')' :: rest)) := rfl
  have phrase := phrase_run "PRIMARY" "KEY" (by decide) (by decide) rfl
    (endsWord_space ('(' :: (list ++ ')' :: rest)))
  have token : AtToken ('(' :: (list ++ ')' :: rest)) := rfl
  rw [text, tableKey, Scan.bind_run (Scan.optional_refused rfl), Scan.bind_run phrase,
    Scan.bind_run token.gap_space, Scan.bind_run (Scan.optional_refused rfl),
    Scan.bind_run (group_run closed rest)]
  rfl

/-- The line of a key is read as a key, of whatever names are found in its list. -/
theorem entry_run_key (d : Dialect) (composite : Bool) {names : List String} (filled : names ≠ [])
    (closed : Closed (keyText d names)) (rest : List Char) :
    entry (lineText d composite (.key names) ++ rest) =
      some (.primaryKey (keyColumns (keyText d names)), rest) := by
  have text : lineText d composite (.key names) ++ rest =
      "PRIMARY KEY (".toList ++ (keyText d names ++ ')' :: rest) := by
    change "PRIMARY KEY (".toList ++ (keyText d names ++ [')']) ++ rest = _
    rw [List.append_assoc, List.append_assoc, List.singleton_append]
  rw [text]
  apply (Scan.orElse_refused (wholeColumn_refused_key d filled rest)).trans
  exact Scan.orElse_run (tableKey_run_of_closed closed rest)

/-- A line is read back as its entry. -/
theorem entry_run (d : Dialect) (composite : Bool) {line : Line} (h : line.IsSpelled d)
    {rest : List Char} (follow : EndsLine rest) :
    ∃ e, IsReadFrom d composite line e ∧
      entry (lineText d composite line ++ rest) = some (e, rest) := by
  cases line with
  | column c =>
    obtain ⟨e, entry, read⟩ := wholeColumn_run d composite h.2 follow
    exact ⟨.column e, entry, Scan.orElse_run read⟩
  | key names =>
    refine ⟨.primaryKey names, rfl, ?_⟩
    rw [entry_run_key d composite h.1 (closed_keyText d h.2), keyColumns_keyText d h.1 h.2]

theorem lineText_atToken (d : Dialect) (composite : Bool) (line : Line) (t : List Char) :
    AtToken (lineText d composite line ++ t) := by
  cases line with
  | column c =>
    have text : lineText d composite (.column c) = (d.columnText composite c).toList := rfl
    rw [text, toList_columnText, Dialect.quoteName, String.toList_ofList, enclosed,
      List.cons_append, List.cons_append]
    cases d <;> exact atToken_cons _ rfl (by decide) (by decide)
  | key names => rfl

theorem closed_lineText (d : Dialect) (composite : Bool) {line : Line} (h : line.IsSpelled d) :
    Closed (lineText d composite line) := by
  cases line with
  | column c =>
    obtain ⟨word, tail, args, type⟩ := exists_columnTypeRun d c
    have parts : Closed ((columnParts d composite c).flatMap spaced) :=
      .flatMap fun part hp => .inert (by decide) (readsConstraint_part h.2 hp).closed
    have typeClosed : Closed (columnType d c).toList := by
      rw [type.text]
      exact (Closed.of_inert fun c hc => isInert_of_isWordChar (type.all c hc)).append type.closed
    have text : lineText d composite (.column c) = (d.columnText composite c).toList := rfl
    rw [text, toList_columnText]
    exact (closed_quoteName d h.1).append (.inert (by decide) (typeClosed.append parts))
  | key names =>
    exact (Closed.of_inert (s := "PRIMARY KEY ".toList) (by decide)).append
      (.group (closed_keyText d h.2) .nil)

theorem gap_indent {s : List Char} (h : AtToken s) :
    gap ("\n    ".toList ++ s) = some ((), s) := by
  have blanks : "\n    ".toList ++ s = '\n' :: ' ' :: ' ' :: ' ' :: ' ' :: s := rfl
  rw [blanks, gap_cons_of_blank rfl, gap_cons_of_blank rfl, gap_cons_of_blank rfl,
    gap_cons_of_blank rfl, h.gap_space]

theorem entries_run (d : Dialect) (composite : Bool) {lines : List Line}
    {IsRead : Line → Entry → Prop} (filled : lines ≠ [])
    (reads : ∀ line ∈ lines, ∀ t, EndsLine t →
      ∃ e, IsRead line e ∧ entry (lineText d composite line ++ t) = some (e, t))
    (rest : List Char) :
    ∃ entries, List.Forall₂ IsRead lines entries ∧
      Scan.separated comma entry
          (",\n    ".toList.intercalate (lines.map (lineText d composite)) ++ '\n' :: ')' :: rest) =
        some (entries, '\n' :: ')' :: rest) := by
  have close : AtToken (')' :: rest) := rfl
  refine Scan.separated_intercalate _ EndsLine _ _ _ (by decide) reads (fun line _ t => ?_)
    (fun t => .comma _) (.close rest) (fun he => absurd he filled) (Scan.bind_refused ?_)
  · have token : AtToken (",\n    ".toList ++ (lineText d composite line ++ t)) := rfl
    apply (Scan.bind_run token.gap_run).trans
    apply (Scan.bind_run (Scan.char_cons_self ',' _)).trans
    exact gap_indent (lineText_atToken d composite line t)
  · have step : comma ('\n' :: ')' :: rest) = none := by
      rw [comma, Scan.bind_run ((gap_cons_of_blank rfl _).trans close.gap_run)]
      rfl
    exact step

end TableLoad.Ddl
