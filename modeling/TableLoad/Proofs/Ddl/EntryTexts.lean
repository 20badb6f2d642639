import TableLoad.Ddl.Statement
import TableLoad.Proofs.Ddl.AlikeEntries
import TableLoad.Proofs.Ddl.Parsed

/-! # Statements put together from their entries

A statement whose entries are read one by one, whatever stands behind each, is read as these
entries.  Entries that are passed over and the places of entries do not count for its schema.
-/
namespace TableLoad.Ddl
open Text Scan

/-! ### What the schema depends on -/

theorem eq_ok_iff_toOption {ε α : Type} (r : Except ε α) (a : α) :
    r = .ok a ↔ r.toOption = some a := by
  cases r <;> simp [Except.toOption]

/-- The entries that count, without their places. -/
def told (entries : List Entry) : List Entry :=
  (entries.map Entry.unplaced).filter (· ≠ .skipped)

theorem toOption_resolveColumn (total : Nat) (inlineKey? : Option String) (e : ColumnEntry) :
    (resolveColumn total inlineKey? e).toOption =
      (resolveColumn 0 inlineKey? { e with bytesLeft := 0 }).toOption := by
  rw [resolveColumn, resolveColumn]
  cases ResolvedType.ofName e.typeName e.arguments with
  | error fault => rfl
  | ok resolved => rfl

theorem toOption_gather (total : Nat) (g : Gathered) (entries : List Entry) :
    (gather total g entries).toOption = (gather 0 g (told entries)).toOption := by
  induction entries generalizing g with
  | nil => rfl
  | cons e entries ih =>
    cases e with
    | column e =>
      have same := toOption_resolveColumn total g.inlineKey? e
      change (gather total g (.column e :: entries)).toOption =
        (gather 0 g (.column { e with bytesLeft := 0 } :: told entries)).toOption
      rw [gather, gather]
      cases left : resolveColumn total g.inlineKey? e with
      | error fault =>
        rw [left] at same
        cases right : resolveColumn 0 g.inlineKey? { e with bytesLeft := 0 } with
        | error _ => rfl
        | ok _ => rw [right] at same; cases same
      | ok column =>
        rw [left] at same
        cases right : resolveColumn 0 g.inlineKey? { e with bytesLeft := 0 } with
        | error _ => rw [right] at same; cases same
        | ok column' =>
          rw [right] at same
          obtain rfl : column = column' := Option.some.inj same
          exact ih _
    | primaryKey names =>
      change (gather total g (.primaryKey names :: entries)).toOption =
        (gather 0 g (.primaryKey names :: told entries)).toOption
      rw [gather, gather]
      split
      · rfl
      · exact ih _
    | skipped => exact ih g

/-- The schema depends on the entries that count only. -/
theorem toOption_resolve (total : Nat) (table : String) (entries : List Entry) :
    (resolve total table entries).toOption = (resolve 0 table (told entries)).toOption := by
  have same := toOption_gather total {} entries
  rw [resolve, resolve]
  cases left : gather total {} entries with
  | error fault =>
    rw [left] at same
    cases right : gather 0 {} (told entries) with
    | error _ => rfl
    | ok _ => rw [right] at same; cases same
  | ok g =>
    rw [left] at same
    cases right : gather 0 {} (told entries) with
    | error _ => rw [right] at same; cases same
    | ok g' =>
      rw [right] at same
      obtain rfl : g = g' := Option.some.inj same
      rfl

/-! ### Entries in their places -/

/-- The scanner reads the text to its end, whatever stands behind the mark that ends it. -/
def ReadsWhole (p : Scan Entry) (u : List Char) (e : Entry) : Prop :=
  ∀ stop t, (stop = ',' ∨ stop = ')') → ∃ E z,
    p (afterGap (u ++ stop :: t)) = some (E, z) ∧ afterGap z = stop :: t ∧ E.unplaced = e

theorem ReadsWhole.of_wholeColumn {u : List Char} {e : Entry} (h : ReadsWhole wholeColumn u e) :
    ReadsWhole keptEntry u e := by
  intro stop t marked
  obtain ⟨E, z, read, rest⟩ := h stop t marked
  exact ⟨E, z, orElse_run read, rest⟩

theorem ReadsWhole.of_keptEntry {u : List Char} {e : Entry} (h : ReadsWhole keptEntry u e) :
    ReadsWhole entry u e := by
  intro stop t marked
  obtain ⟨E, z, read, rest⟩ := h stop t marked
  refine ⟨E, z, ?_, rest⟩
  rcases orElse_cases read with column | key
  · exact orElse_run column
  · cases column : wholeColumn (afterGap (u ++ stop :: t)) with
    | some result =>
      have first := (orElse_run column : keptEntry _ = _)
      exact (orElse_run column).trans (first.symm.trans read)
    | none => exact (orElse_refused column).trans (orElse_run key)

theorem exists_of_unplaced {p : Scan Entry} {s z : List Char} {e : Entry}
    (h : (do return (← p).unplaced : Scan Entry) s = some (e, z)) :
    ∃ E, p s = some (E, z) ∧ E.unplaced = e := by
  obtain ⟨E, middle, read, last⟩ := exists_of_bind h
  cases last
  exact ⟨E, read, rfl⟩

section Alike
variable {α : Type} {p : Scan α} {special r r' x y z : List Char} {a : α}

theorem Alike.exists_run_left (h : Alike special r r' x y) (ends : EndAlike r r')
    (keeps : Keeps (Alike special r r') p) (read : p y = some (a, z))
    (whole : Ddl.afterGap z = r') :
    ∃ z', p x = some (a, z') ∧ Ddl.afterGap z' = r := by
  rcases keeps h with ⟨-, refused⟩ | ⟨b, x', y', left, right, next⟩
  · rw [refused] at read
    cases read
  · rw [read] at right
    cases right
    exact ⟨x', left, (next.afterGap ends).1.eq_rest_iff.2 whole⟩

theorem Alike.exists_run_right (h : Alike special r r' x y) (ends : EndAlike r r')
    (keeps : Keeps (Alike special r r') p) (read : p x = some (a, z)) (whole : Ddl.afterGap z = r) :
    ∃ z', p y = some (a, z') ∧ Ddl.afterGap z' = r' := by
  rcases keeps h with ⟨refused, -⟩ | ⟨b, x', y', left, right, next⟩
  · rw [refused] at read
    cases read
  · rw [read] at left
    cases left
    exact ⟨y', right, (next.afterGap ends).1.eq_rest_iff.1 whole⟩

end Alike

/-- A text that is read to its end before a comma is read so before every mark, and so is a text
that is like it. -/
theorem readsWhole_of_alike {p : Scan Entry} {special u v : List Char}
    (keeps : ∀ {r r'}, EndEntry r r' →
      Keeps (Alike special r r') (do return (← p).unplaced))
    (alike : Alike special [] [] u v) {E : Entry} {z : List Char}
    (read : p (afterGap (v ++ [','])) = some (E, z)) (whole : afterGap z = [',']) :
    ReadsWhole p u E.unplaced ∧ ReadsWhole p v E.unplaced := by
  have here : (do return (← p).unplaced : Scan Entry) (afterGap (v ++ [','])) =
      some (E.unplaced, z) := bind_run read
  have left {stop : Char} (t : List Char) (marked : stop = ',' ∨ stop = ')') : ∃ x',
      (do return (← p).unplaced : Scan Entry) (afterGap (u ++ stop :: t)) =
        some (E.unplaced, x') ∧ afterGap x' = stop :: t := by
    have ends : EndEntry (stop :: t) [','] := ⟨_, _, _, _, marked, .inl rfl, rfl, rfl⟩
    have next := ((alike.append ends.endAlike).afterGap ends.endAlike).1
    exact next.exists_run_left ends.endAlike (keeps ends) here whole
  constructor
  · intro stop t marked
    obtain ⟨x', run, rest⟩ := left t marked
    obtain ⟨E', read', same⟩ := exists_of_unplaced run
    exact ⟨E', x', read', rest, same⟩
  · intro stop t marked
    obtain ⟨x', run, rest⟩ := left t marked
    have ends : EndEntry (stop :: t) (stop :: t) := ⟨_, _, _, _, marked, marked, rfl, rfl⟩
    have next := ((alike.append ends.endAlike).afterGap ends.endAlike).1
    obtain ⟨z', run', rest'⟩ := next.exists_run_right ends.endAlike (keeps ends) run rest
    obtain ⟨E', read', same⟩ := exists_of_unplaced run'
    exact ⟨E', z', read', rest', same⟩

/-! ### Progress -/

theorem staysWithin_typeArguments : typeArguments.StaysWithin := by
  have argument : typeArgument.StaysWithin :=
    advances_stringLiteral.staysWithin.orElse <|
      advances_numeral.staysWithin.orElse advances_word.staysWithin
  exact (advances_char '(').staysWithin.bind fun _ => staysWithin_gap.bind fun _ =>
    (advances_comma.staysWithin.separated argument).bind fun _ => staysWithin_gap.bind fun _ =>
      (advances_char ')').staysWithin.bind fun _ => staysWithin_pure _

theorem staysWithin_columnTail (columnName : String) : (columnTail columnName).StaysWithin := by
  refine staysWithin_gap.bind fun _ => advances_word.staysWithin.bind fun _ => StaysWithin.bind ?_
    fun _ => StaysWithin.bind ?_ fun _ => StaysWithin.bind ?_ fun _ =>
      (staysWithin_gap.bind fun _ => advances_columnConstraint.staysWithin).many.bind fun _ =>
        staysWithin_pure _
  · exact (staysWithin_gap.bind fun _ => (advances_oneOf (by decide)).staysWithin).optional
  · exact (staysWithin_gap.bind fun _ => staysWithin_typeArguments).optional
  · exact (staysWithin_gap.bind fun _ => (advances_oneOf (by decide)).staysWithin.bind fun _ =>
      staysWithin_gap.bind fun _ => staysWithin_phrase (by decide)).optional

theorem staysWithin_columnEntry : columnEntry.StaysWithin := by
  intro s e rest h
  rw [columnEntry_eq] at h
  exact ((advances_name.staysWithin.bind staysWithin_columnTail).bind
    fun _ => staysWithin_pure _) h

theorem staysWithin_wholeColumn : wholeColumn.StaysWithin := by
  intro s e rest h
  rw [wholeColumn] at h
  split at h
  · rename_i column last read
    split at h
    · cases h
      exact staysWithin_columnEntry read
    · cases h
  · cases h

theorem staysWithin_tableKey : tableKey.StaysWithin :=
  advances_constraintName.staysWithin.optional.bind fun _ =>
    (staysWithin_phrase (by decide)).bind fun _ => staysWithin_gap.bind fun _ =>
      ((advances_oneOf (by decide)).staysWithin.bind fun _ => staysWithin_gap).optional.bind
        fun _ => advances_group.staysWithin.bind fun _ => staysWithin_pure _

theorem entryEnd?_suffix {depth : Nat} {quote? : Option Char} {s rest : List Char}
    (h : entryEnd? depth quote? s = some rest) : rest <:+ s := by
  induction s generalizing depth quote? with
  | nil => cases h
  | cons c s ih =>
    have step {depth : Nat} {quote? : Option Char} (h : entryEnd? depth quote? s = some rest) :
        rest <:+ c :: s := (ih h).trans (List.suffix_cons c s)
    rw [entryEnd?.eq_def] at h
    dsimp only at h
    repeat' split at h
    all_goals first | exact step h | (cases h; exact List.suffix_rfl)

theorem staysWithin_restOfEntry : restOfEntry.StaysWithin := by
  intro s a last h
  obtain ⟨rest, read, he⟩ := Option.map_eq_some_iff.1 h
  cases he
  exact entryEnd?_suffix read

theorem staysWithin_skippedConstraint : skippedConstraint.StaysWithin :=
  advances_constraintName.staysWithin.optional.bind fun _ =>
    (advances_oneOf (by decide)).staysWithin.bind fun _ =>
      staysWithin_restOfEntry.bind fun _ => staysWithin_pure _

theorem staysWithin_entry : entry.StaysWithin :=
  staysWithin_wholeColumn.orElse <| staysWithin_tableKey.orElse <|
    staysWithin_skippedConstraint.orElse <|
      staysWithin_columnEntry.bind fun _ => staysWithin_pure _

/-! ### The table -/

section Table
variable {us : List (List Char)} {es : List Entry} {options : List Char}

/-- What follows an entry: the entries behind it, each after a comma, and the end of the table. -/
def behindEntry : List (List Char) → List Char → List Char
  | [], options => ')' :: options
  | u :: us, options => ',' :: (u ++ behindEntry us options)

theorem exists_stop (us : List (List Char)) (options : List Char) :
    ∃ stop t, (stop = ',' ∨ stop = ')') ∧ behindEntry us options = stop :: t := by
  cases us with
  | nil => exact ⟨')', options, .inr rfl, rfl⟩
  | cons u us => exact ⟨',', _, .inl rfl, rfl⟩

theorem intercalate_behindEntry (u : List Char) (us : List (List Char)) (options : List Char) :
    [','].intercalate (u :: us) ++ ')' :: options = u ++ behindEntry us options := by
  induction us generalizing u with
  | nil => rw [intercalate_cons]; simp [behindEntry]
  | cons v us ih =>
    rw [behindEntry, ← ih, intercalate_cons, intercalate_cons]
    simp

theorem more_entries_run (each : List.Forall₂ (ReadsWhole entry) us es) {z : List Char}
    (here : afterGap z = behindEntry us options) :
    ∃ Es z', Scan.repeated (do comma; entry) z = (Es, z') ∧ afterGap z' = ')' :: options ∧
      Es.map Entry.unplaced = es := by
  induction each generalizing z with
  | nil =>
    refine ⟨[], z, repeated_refused (bind_refused ?_), here, rfl⟩
    refine (bind_run rfl).trans ?_
    rw [here]
    exact bind_refused (char_cons_ne (by decide) _)
  | @cons u e us es first _ ih =>
    obtain ⟨stop, t, marked, behind⟩ := exists_stop us options
    obtain ⟨E, z', read, rest, same⟩ := first stop t marked
    rw [← behind] at read rest
    obtain ⟨Es, z'', more, last, sames⟩ := ih rest
    have separator : comma z = some ((), afterGap (u ++ behindEntry us options)) := by
      refine (bind_run rfl).trans ?_
      rw [here, behindEntry, bind_run (char_cons_self _ _)]
      rfl
    have step : (do comma; entry : Scan Entry) z = some (E, z') := (bind_run separator).trans read
    have shorter := (advances_comma.bind fun _ => staysWithin_entry).length_lt step
    refine ⟨E :: Es, z'', ?_, last, ?_⟩
    · rw [repeated_run step shorter, more]
    · rw [List.map_cons, same, sames]

/-- The entries of a table are read one after the other. -/
theorem body_of_entries (each : List.Forall₂ (ReadsWhole entry) us es) (filled : us ≠ [])
    {z : List Char} (here : afterGap z = '(' :: ([','].intercalate us ++ ')' :: options)) :
    ∃ Es, body z = .ok (Es, afterOptions options) ∧ Es.map Entry.unplaced = es := by
  cases each with
  | nil => exact absurd rfl filled
  | @cons u e us es first more =>
    obtain ⟨stop, t, marked, behind⟩ := exists_stop us options
    obtain ⟨E, z', read, rest, same⟩ := first stop t marked
    rw [← behind] at read rest
    obtain ⟨Es, z'', repeats, last, sames⟩ := more_entries_run more rest
    have list : Scan.separated comma entry (afterGap (u ++ behindEntry us options)) =
        some (E :: Es, z'') := by
      rw [Scan.separated, read]
      simp only [repeats]
    rw [intercalate_behindEntry] at here
    refine ⟨E :: Es, ?_, ?_⟩
    · rw [body, here]
      simp only [list, last]
    · rw [List.map_cons, same, sames]

def statementText (head : List Char) (us : List (List Char)) (options : List Char) : List Char :=
  head ++ '(' :: ([','].intercalate us ++ ')' :: options)

def ReadsHead (head : List Char) (table : String) : Prop :=
  ∀ x, ∃ z, header (head ++ '(' :: x) = some (table, z) ∧ afterGap z = '(' :: x

theorem toOption_schemaOf {head : List Char} {table : String} (named : ReadsHead head table)
    (each : List.Forall₂ (ReadsWhole entry) us es) (filled : us ≠ []) :
    (schemaOf (statementText head us options)).toOption =
      if imbalance? 0 .plain (statementText head us options) = none ∧ afterOptions options = [] then
        (resolve 0 table (es.filter (· ≠ .skipped))).toOption
      else none := by
  obtain ⟨z, read, rest⟩ := named ([','].intercalate us ++ ')' :: options)
  obtain ⟨Es, entries, rfl⟩ := body_of_entries each filled rest
  rw [schemaOf]
  cases balanced : imbalance? 0 .plain (statementText head us options) with
  | some fault => simp [Except.toOption]
  | none =>
    rw [show header (statementText head us options) = _ from read]
    dsimp only
    rw [entries]
    cases last : afterOptions options with
    | nil =>
      rw [if_pos ⟨rfl, rfl⟩]
      exact toOption_resolve _ _ _
    | cons c more => simp [Except.toOption]

end Table

end TableLoad.Ddl
