import TableLoad.Ddl.Statement
import TableLoad.Proofs.Ddl.EntryTexts

/-! # Places of errors

What an error of a statement says of its place: the position is a boundary between characters, and
the statement goes on from there with the text that is shown, or with the column whose type has a
fault.  No reader hands back a text that is not an end of the statement, so no length that is taken
from another is the longer one.
-/
namespace TableLoad.Ddl
open Text Scan

/-! ### Positions in a text -/

/-- At the byte position the text goes on with `rest`. -/
def GoesOnAt (s : List Char) (position : Nat) (rest : List Char) : Prop :=
  ∃ front, s = front ++ rest ∧ byteLength front = position

variable {s rest : List Char}

theorem byteLength_le_of_suffix (h : rest <:+ s) : byteLength rest ≤ byteLength s := by
  obtain ⟨front, rfl⟩ := h
  rw [byteLength_append]
  omega

theorem goesOnAt_bytePosition (h : rest <:+ s) : GoesOnAt s (bytePosition s rest) rest := by
  obtain ⟨front, rfl⟩ := h
  refine ⟨front, rfl, ?_⟩
  rw [bytePosition, byteLength_append]
  omega

theorem byteLength_eq_zero_iff : byteLength s = 0 ↔ s = [] := by
  cases s with
  | nil => simp
  | cons c s =>
    have := c.utf8Size_pos
    simp only [byteLength_cons, reduceCtorEq, iff_false]
    omega

theorem GoesOnAt.unique {position : Nat} {rest' : List Char} (h : GoesOnAt s position rest)
    (h' : GoesOnAt s position rest') : rest = rest' := by
  obtain ⟨front, rfl, rfl⟩ := h
  obtain ⟨front', same, size⟩ := h'
  rcases List.append_eq_append_iff.1 same with ⟨more, rfl, rfl⟩ | ⟨more, rfl, rfl⟩
  all_goals
    obtain rfl := byteLength_eq_zero_iff.1 (show byteLength more = 0 by
      rw [byteLength_append] at size; omega)
    rfl

theorem utf8ByteSize_ofList (s : List Char) : (String.ofList s).utf8ByteSize = byteLength s := by
  induction s with
  | nil => rfl
  | cons c s ih => rw [String.ofList_cons, String.utf8ByteSize_append, ih]; simp

theorem GoesOnAt.isValid {text : String} {position : Nat}
    (h : GoesOnAt text.toList position rest) :
    (String.Pos.Raw.mk position).IsValid text ∧ position ≤ text.utf8ByteSize := by
  obtain ⟨front, parts, rfl⟩ := h
  obtain rfl : text = String.ofList front ++ String.ofList rest := by
    rw [← String.ofList_append, ← parts, String.ofList_toList]
  refine ⟨String.Pos.Raw.isValid_iff_exists_append.2 ⟨_, _, rfl, ?_⟩, ?_⟩
  · rw [String.Pos.Raw.ext_iff]
    exact (utf8ByteSize_ofList front).symm
  · rw [String.utf8ByteSize_append, utf8ByteSize_ofList]
    omega

/-! ### What is left of a statement -/

theorem imbalance?_suffix {depth : Nat} {stretch : Stretch} {kind : Imbalance}
    (h : imbalance? depth stretch s = some (kind, rest)) : rest <:+ s := by
  have behind (front : List Char) {t : List Char} (within : rest <:+ t) : rest <:+ front ++ t :=
    within.trans (List.suffix_append front t)
  fun_induction imbalance? depth stretch s with
  | case2 => cases h
  | case1 | case3 | case12 => cases h; exact List.suffix_rfl
  | case4 depth q c s ih | case5 depth c s ih | case7 depth c s _ ih | case10 depth c s _ _ _ ih =>
    exact behind [c] (ih h)
  | case6 depth s ih => exact behind ['*', '/'] (ih h)
  | case8 depth s ih => exact behind ['-', '-'] (ih h)
  | case9 depth s ih => exact behind ['/', '*'] (ih h)
  | case11 depth s _ _ _ ih => exact behind ['('] (ih h)
  | case13 s depth _ _ _ _ ih => exact behind [')'] (ih h)
  | case14 depth c s _ _ _ _ _ ih => exact behind [c] (ih h)

theorem staysWithin_header : header.StaysWithin := by
  have word {w : String} (filled : w ≠ "") : (keyword w).StaysWithin :=
    (advances_keyword filled).staysWithin
  refine staysWithin_gap.bind fun _ => (word (by decide)).bind fun _ => staysWithin_gap.bind
    fun _ => StaysWithin.bind ?_ fun _ => (word (by decide)).bind fun _ => staysWithin_gap.bind
      fun _ => StaysWithin.bind ?_ fun _ => staysWithin_qualifiedName
  · exact ((advances_oneOf (by decide)).staysWithin.bind fun _ => staysWithin_gap).optional
  · exact ((staysWithin_phrase (by decide)).bind fun _ => staysWithin_gap).optional

theorem afterOptions_suffix (s : List Char) : afterOptions s <:+ s := by
  have within := List.dropWhile_suffix (l := s) (· != ';')
  rw [afterOptions]
  split
  · rename_i c rest left
    rw [left] at within
    exact ((afterGap_suffix rest).trans (List.suffix_cons c rest)).trans within
  · exact List.nil_suffix

/-- The body of a table is a list of entries in parentheses, or there is a place where it is
not. -/
theorem body_cases (s : List Char) :
    (∃ rest, body s = .error rest ∧ rest <:+ s) ∨
      ∃ inner entries middle last, afterGap s = '(' :: inner ∧
        separated comma entry (afterGap inner) = some (entries, middle) ∧
          body s = .ok (entries, afterOptions last) ∧ afterOptions last <:+ s := by
  have start := afterGap_suffix s
  rw [body]
  split
  · rename_i inner opened
    have within : afterGap inner <:+ s := by
      rw [opened] at start
      exact ((afterGap_suffix inner).trans (List.suffix_cons '(' inner)).trans start
    split
    · rename_i entries middle read
      have left : afterGap middle <:+ s :=
        (afterGap_suffix middle).trans
          ((advances_comma.staysWithin.separated staysWithin_entry read).trans within)
      split
      · rename_i last closed
        rw [closed] at left
        exact .inr ⟨inner, entries, middle, last, opened, read, rfl,
          ((afterOptions_suffix last).trans (List.suffix_cons ')' last)).trans left⟩
      · exact .inl ⟨_, rfl, left⟩
    · exact .inl ⟨_, rfl, within⟩
  · exact .inl ⟨_, rfl, start⟩

theorem body_suffix : (∀ left, body s = .error left → left <:+ s) ∧
    ∀ entries left, body s = .ok (entries, left) → left <:+ s := by
  rcases body_cases s with ⟨rest, same, within⟩ | ⟨inner, entries, middle, last, -, -, same, within⟩
  · rw [same]
    exact ⟨fun left h => by cases h; exact within, nofun⟩
  · rw [same]
    exact ⟨nofun, fun entries left h => by cases h; exact within⟩

/-! ### Where columns start -/

theorem tableKey_yields : tableKey.Yields fun e => ∃ names, e = .primaryKey names :=
  yields_bind fun _ => yields_bind fun _ => yields_bind fun _ => yields_bind fun _ =>
    yields_bind fun _ => yields_pure ⟨_, rfl⟩

theorem skippedConstraint_yields : skippedConstraint.Yields (· = .skipped) :=
  yields_bind fun _ => yields_bind fun _ => yields_bind fun _ => yields_pure rfl

theorem columnEntry_of_entry {e : ColumnEntry} (h : entry s = some (.column e, rest)) :
    columnEntry s = some (e, rest) := by
  rcases orElse_cases h with whole | h
  · rw [wholeColumn] at whole
    split at whole
    · split at whole
      · rename_i read _
        cases whole
        exact read
      · cases whole
    · cases whole
  rcases orElse_cases h with key | h
  · obtain ⟨names, same⟩ := tableKey_yields key
    cases same
  rcases orElse_cases h with skipped | column
  · cases skippedConstraint_yields skipped
  · obtain ⟨e', middle, read, last⟩ := exists_of_bind column
    cases last
    exact read

/-- A column keeps how much of the statement was left where it starts. -/
theorem bytesLeft_of_columnEntry {e : ColumnEntry} (h : columnEntry s = some (e, rest)) :
    e.bytesLeft = byteLength s := by
  rw [columnEntry_eq] at h
  obtain ⟨e', middle, -, last⟩ := exists_of_bind h
  cases last
  rfl

def HasEntryAt (s : List Char) (e : Entry) (u : List Char) : Prop :=
  ∃ table rest inner, header s = some (table, rest) ∧ afterGap rest = '(' :: inner ∧
    ReadsItem comma entry (afterGap inner) e u

theorem HasEntryAt.suffix {e : Entry} {u : List Char} (h : HasEntryAt s e u) : u <:+ s := by
  obtain ⟨table, rest, inner, head, opened, here⟩ := h
  have start := (afterGap_suffix rest).trans (staysWithin_header head)
  rw [opened] at start
  exact (here.suffix advances_comma.staysWithin staysWithin_entry).trans
    (((afterGap_suffix inner).trans (List.suffix_cons '(' inner)).trans start)

/-- Each column of a body starts at a place of the statement. -/
theorem exists_hasEntryAt {table : String} {entries : List Entry} {left : List Char}
    {e : ColumnEntry} (head : header s = some (table, rest)) (read : body rest = .ok (entries, left))
    (he : .column e ∈ entries) : ∃ u last, HasEntryAt s (.column e) u ∧
      columnEntry u = some (e, last) ∧ e.bytesLeft = byteLength u := by
  rcases body_cases rest with ⟨_, refused, -⟩ | ⟨inner, entries', middle, last, opened, list, whole, -⟩
  · rw [refused] at read
    cases read
  · rw [whole] at read
    cases read
    obtain ⟨u, here⟩ := exists_readsItem list he
    obtain ⟨last, run⟩ := here.exists_run
    have column := columnEntry_of_entry run
    exact ⟨u, last, ⟨table, rest, inner, head, opened, here⟩, column,
      bytesLeft_of_columnEntry column⟩

/-! ### Faults of tables -/

theorem resolveColumn_error {total : Nat} {inlineKey? : Option String} {e : ColumnEntry}
    {error : DdlError} (h : resolveColumn total inlineKey? e = .error error) :
    (∃ fault, ResolvedType.ofName e.typeName e.arguments = .error fault ∧
      error = .ofTypeFault (total - e.bytesLeft) fault) ∨
    error = .duplicatePrimaryKey e.name := by
  rw [resolveColumn] at h
  split at h
  · rename_i fault bad
    cases h
    exact .inl ⟨fault, bad, rfl⟩
  · split at h
    · cases h
      exact .inr rfl
    · cases h

theorem gather_error {total : Nat} {g : Gathered} {entries : List Entry} {error : DdlError}
    (h : gather total g entries = .error error) :
    (∃ e fault, .column e ∈ entries ∧
      ResolvedType.ofName e.typeName e.arguments = .error fault ∧
        error = .ofTypeFault (total - e.bytesLeft) fault) ∨
    ∃ names, error = .duplicatePrimaryKey names := by
  fun_induction gather total g entries with
  | case1 => cases h
  | case2 g e entries fault bad =>
    cases h
    rcases resolveColumn_error bad with ⟨fault, type, rfl⟩ | rfl
    · exact .inl ⟨e, fault, List.mem_cons_self, type, rfl⟩
    · exact .inr ⟨_, rfl⟩
  | case4 g names entries second =>
    cases h
    exact .inr ⟨_, rfl⟩
  | case3 _ _ _ _ _ _ ih | case5 _ _ _ _ ih | case6 _ _ ih =>
    rcases ih h with ⟨e, fault, he, bad, rfl⟩ | other
    · exact .inl ⟨e, fault, List.mem_cons_of_mem _ he, bad, rfl⟩
    · exact .inr other

theorem markKeys_error {columns : List Column} {names : List String} {error : DdlError}
    (h : markKeys columns names = .error error) :
    ∃ name, error = .malformed 0 (.unknownKeyColumn name) := by
  fun_induction markKeys columns names with
  | case1 => cases h
  | case2 _ _ _ _ _ ih => exact ih h
  | case3 => cases h; exact ⟨_, rfl⟩

/-- A fault of the table as a whole is told at the start of the statement, or without a place. -/
inductive IsTableFault : DdlError → Prop where
  | duplicatePrimaryKey (names : String) : IsTableFault (.duplicatePrimaryKey names)
  | emptyKey : IsTableFault (.malformed 0 .emptyKey)
  | unknownKeyColumn (name : String) : IsTableFault (.malformed 0 (.unknownKeyColumn name))
  | schema (fault : SchemaFault) : IsTableFault (.ofSchemaFault fault)

theorem isTableFault_keyed {g : Gathered} {error : DdlError} (h : g.keyed = .error error) :
    IsTableFault error := by
  rw [Gathered.keyed] at h
  split at h
  · cases h
  · split at h
    · cases h
      exact .duplicatePrimaryKey _
    · split at h
      · cases h
        exact .emptyKey
      · obtain ⟨name, rfl⟩ := markKeys_error h
        exact .unknownKeyColumn name

/-- What is wrong with a table is the type of one of its columns, or the table as a whole. -/
theorem resolve_error {total : Nat} {table : String} {entries : List Entry} {error : DdlError}
    (h : resolve total table entries = .error error) :
    (∃ e fault, .column e ∈ entries ∧
      ResolvedType.ofName e.typeName e.arguments = .error fault ∧
        error = .ofTypeFault (total - e.bytesLeft) fault) ∨
    IsTableFault error := by
  cases hg : gather total {} entries with
  | error fault =>
    rw [resolve, hg] at h
    cases h
    rcases gather_error hg with type | ⟨names, rfl⟩
    · exact .inl type
    · exact .inr (.duplicatePrimaryKey names)
  | ok g =>
    rw [resolve, hg] at h
    simp only [bind, Except.bind] at h
    refine .inr ?_
    split at h
    · cases h
      exact .schema _
    · cases hk : g.keyed with
      | error fault =>
        rw [hk] at h
        cases h
        exact isTableFault_keyed hk
      | ok columns =>
        rw [hk] at h
        simp only at h
        cases hm : Schema.make table columns with
        | error fault =>
          rw [hm] at h
          cases h
          exact .schema fault
        | ok made => rw [hm] at h; cases h

/-! ### Faults of statements -/

/-- The errors of a statement, each with the place that its position stands for. -/
inductive IsPlaced (s : List Char) : DdlError → Prop where
  | imbalance (kind : Imbalance) {rest : List Char} (within : rest <:+ s) :
      IsPlaced s (.at s rest (.imbalance kind))
  | notCreateTable : IsPlaced s (.malformed 0 .notCreateTable)
  | unexpectedInput {rest : List Char} (within : rest <:+ s) :
      IsPlaced s (.at s rest (.unexpectedInput (String.ofList (snippet rest))))
  | unexpectedContent {rest : List Char} (within : rest <:+ s) :
      IsPlaced s (.at s rest (.unexpectedContent (String.ofList (snippet rest))))
  | type {e : ColumnEntry} {u last : List Char} {fault : TypeFault}
      (here : HasEntryAt s (.column e) u) (read : columnEntry u = some (e, last))
      (bad : ResolvedType.ofName e.typeName e.arguments = .error fault) :
      IsPlaced s (.ofTypeFault (bytePosition s u) fault)
  | table {error : DdlError} (h : IsTableFault error) : IsPlaced s error

theorem isPlaced_schemaOf {error : DdlError} (h : schemaOf s = .error error) :
    IsPlaced s error := by
  rw [schemaOf] at h
  split at h
  · rename_i kind rest unbalanced
    cases h
    exact .imbalance kind (imbalance?_suffix unbalanced)
  split at h
  · cases h
    exact .notCreateTable
  rename_i table rest head
  have start := staysWithin_header head
  split at h
  · rename_i left refused
    cases h
    exact .unexpectedInput ((body_suffix.1 _ refused).trans start)
  · rename_i entries read
    rcases resolve_error h with ⟨e, fault, he, bad, rfl⟩ | fault
    · obtain ⟨u, last, here, column, left⟩ := exists_hasEntryAt head read he
      rw [left]
      exact .type here column bad
    · exact .table fault
  · rename_i entries left _ read
    cases h
    exact .unexpectedContent ((body_suffix.2 _ _ read).trans start)

theorem ofTypeFault_eq_malformed_iff {place position : Nat} {fault : TypeFault} {reason : Reason} :
    DdlError.ofTypeFault place fault = .malformed position reason ↔
      place = position ∧ reason = .type fault ∧ ∀ name, fault ≠ .unknown name := by
  cases fault <;> simp [DdlError.ofTypeFault, eq_comm]

theorem IsPlaced.exists_goesOnAt {position : Nat} {reason : Reason}
    (h : IsPlaced s (.malformed position reason)) : ∃ rest, GoesOnAt s position rest := by
  generalize same : DdlError.malformed position reason = error at h
  cases h with
  | imbalance kind within | unexpectedInput within | unexpectedContent within =>
    cases same
    exact ⟨_, goesOnAt_bytePosition within⟩
  | notCreateTable =>
    cases same
    exact ⟨s, [], rfl, rfl⟩
  | type here read bad =>
    obtain ⟨rfl, -⟩ := ofTypeFault_eq_malformed_iff.1 same.symm
    exact ⟨_, goesOnAt_bytePosition here.suffix⟩
  | table fault =>
    cases fault <;> cases same <;> exact ⟨s, [], rfl, rfl⟩

/-- What the errors of a statement tell about places in it. -/
structure PlacesErrors (statement : String) : Prop where
  /-- A position stands between characters. -/
  boundary (position : Nat) (reason : Reason) :
    parse statement = .error (.malformed position reason) →
      (String.Pos.Raw.mk position).IsValid statement ∧ position ≤ statement.utf8ByteSize
  /-- What is shown is the start of what stands at the position. -/
  shown (position : Nat) (reason : Reason) (shown : String) :
    reason = .unexpectedInput shown ∨ reason = .unexpectedContent shown →
      parse statement = .error (.malformed position reason) →
        (∃ rest, GoesOnAt statement.toList position rest) ∧
          ∀ rest, GoesOnAt statement.toList position rest → shown = String.ofList (snippet rest)
  /-- A column whose type has a fault starts at the position. -/
  column (position : Nat) (fault : TypeFault) :
    parse statement = .error (.malformed position (.type fault)) →
      ∃ e u rest, HasEntryAt statement.toList (.column e) u ∧ columnEntry u = some (e, rest) ∧
        GoesOnAt statement.toList position u ∧
          ResolvedType.ofName e.typeName e.arguments = .error fault
  /-- What is left where a table stops making sense is no longer than the statement. -/
  refused (table : String) (rest left : List Char) :
    header statement.toList = some (table, rest) → body rest = .error left →
      byteLength left ≤ byteLength statement.toList
  /-- Neither is what is left behind a table or at the start of one of its columns. -/
  read (table : String) (rest left : List Char) (entries : List Entry) :
    header statement.toList = some (table, rest) → body rest = .ok (entries, left) →
      byteLength left ≤ byteLength statement.toList ∧
        ∀ e, .column e ∈ entries → e.bytesLeft ≤ byteLength statement.toList

/-- Positions point into the statement, at what they are said to point at. -/
theorem parse_placesErrors (statement : String) : PlacesErrors statement where
  boundary position reason h := by
    obtain ⟨rest, here⟩ := (isPlaced_schemaOf h).exists_goesOnAt
    exact here.isValid
  shown position reason shown form h := by
    refine ⟨(isPlaced_schemaOf h).exists_goesOnAt, fun rest here => ?_⟩
    generalize same : DdlError.malformed position reason = error at h
    cases isPlaced_schemaOf h with
    | unexpectedInput within | unexpectedContent within =>
      cases same
      rcases form with form | form <;> cases form
      rw [here.unique (goesOnAt_bytePosition within)]
    | imbalance | notCreateTable => cases same; rcases form with form | form <;> cases form
    | type =>
      obtain ⟨-, rfl, -⟩ := ofTypeFault_eq_malformed_iff.1 same.symm
      rcases form with form | form <;> cases form
    | table fault => cases fault <;> cases same <;> rcases form with form | form <;> cases form
  column position fault h := by
    generalize same : DdlError.malformed position (.type fault) = error at h
    cases isPlaced_schemaOf h with
    | type here read bad =>
      obtain ⟨rfl, reason, -⟩ := ofTypeFault_eq_malformed_iff.1 same.symm
      cases reason
      exact ⟨_, _, _, here, read, goesOnAt_bytePosition here.suffix, bad⟩
    | imbalance | notCreateTable | unexpectedInput | unexpectedContent => cases same
    | table fault => cases fault <;> cases same
  refused table rest left head refused :=
    byteLength_le_of_suffix ((body_suffix.1 _ refused).trans (staysWithin_header head))
  read table rest left entries head read := by
    refine ⟨byteLength_le_of_suffix ((body_suffix.2 _ _ read).trans (staysWithin_header head)), ?_⟩
    intro e he
    obtain ⟨u, last, here, -, size⟩ := exists_hasEntryAt head read he
    rw [size]
    exact byteLength_le_of_suffix here.suffix

/-- A statement with a letter of two bytes in which a comma is missing, and one with a type that
takes two arguments. -/
theorem parse_placesErrors_accented :
    parse "CREATE TABLE é (a INT b)" =
        .error (.malformed 23 (.unexpectedInput "b)")) ∧
      PlacesErrors "CREATE TABLE é (a INT b)" ∧
      parse "CREATE TABLE é (a INT, b DECIMAL(1,2,3))" =
        .error (.malformed 24 (.type (.moreThanTwo "DECIMAL"))) ∧
      PlacesErrors "CREATE TABLE é (a INT, b DECIMAL(1,2,3))" :=
  ⟨by decide +kernel, parse_placesErrors _, by decide +kernel, parse_placesErrors _⟩

end TableLoad.Ddl
