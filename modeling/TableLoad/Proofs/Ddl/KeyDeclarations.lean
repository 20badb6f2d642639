import TableLoad.Proofs.Ddl.KeyLookup

/-! # Where a key is declared

A key of one column may be declared at the column, among its constraints in any place, or for the
table, in any place among the entries: the tables and the faults are the same.  Constraints of the
table that are passed over change nothing.
-/
namespace TableLoad.Ddl
open Text

def Entry.IsKeyless : Entry → Prop
  | .column e => .primaryKey ∉ e.constraints
  | .primaryKey _ => False
  | .skipped => True

section Column
variable (total : Nat) {e : ColumnEntry} {front back : List Constraint}

/-- To be a key is independent of what the other constraints say. -/
theorem foldl_constrain_key (front back : List Constraint) (c : Column) :
    (front ++ .primaryKey :: back).foldl constrain c =
      { (front ++ back).foldl constrain c with isPrimaryKey := true } := by
  rw [foldl_constrain_eq, foldl_constrain_eq]
  simp [Constraint.nullable?, Constraint.default?]

theorem promotedType_key (resolved : ResolvedType) (columnName : String)
    (front back : List Constraint) :
    promotedType resolved columnName (front ++ .primaryKey :: back) =
      promotedType resolved columnName (front ++ back) := by
  simp [promotedType, writtenDefault?]

/-- A column that is no key passes on what was said of the key before. -/
theorem resolveColumn_keyless (keyless : .primaryKey ∉ e.constraints)
    (inlineKey? : Option String) : resolveColumn total inlineKey? e =
      (resolveColumn total none e).map fun read => (read.1, inlineKey?) := by
  have second (k : Option String) : hasSecondKey k e.constraints = false := by
    simp [hasSecondKey, keyless]
  rw [resolveColumn, resolveColumn]
  cases ResolvedType.ofName e.typeName e.arguments with
  | error fault => rfl
  | ok resolved =>
    obtain ⟨-, key, -⟩ := foldl_constrain e.constraints
      { name := e.name, type := resolved.type, isAutoIncrement := resolved.autoIncrement }
    simp [second, key, keyless, Except.map]

theorem key?_eq_none_of_keyless (keyless : .primaryKey ∉ e.constraints) {c : Column}
    {key? : Option String} (h : resolveColumn total none e = .ok (c, key?)) : key? = none := by
  have passed := resolveColumn_keyless total keyless none
  rw [h] at passed
  simpa [Except.map] using passed

/-- The key leaves all else in a column as it is. -/
theorem resolveColumn_key (keyless : .primaryKey ∉ e.constraints)
    (split : e.constraints = front ++ back) :
    resolveColumn total none { e with constraints := front ++ .primaryKey :: back } =
      (resolveColumn total none e).map fun read => (read.1.primaryKey, some e.name) := by
  rw [split] at keyless
  have second : hasSecondKey none (front ++ .primaryKey :: back) = false := by
    rw [List.mem_append, not_or] at keyless
    simp [hasSecondKey, List.count_append, List.count_eq_zero.2 keyless.1,
      List.count_eq_zero.2 keyless.2]
  have second' : hasSecondKey none (front ++ back) = false := by simp_all [hasSecondKey]
  rw [resolveColumn, resolveColumn, split]
  cases ResolvedType.ofName e.typeName e.arguments with
  | error fault => rfl
  | ok resolved =>
    simp only [second, second', foldl_constrain_key, promotedType_key, Bool.false_eq_true, if_false,
      if_true, Bool.not_true, Bool.and_false]
    rfl

end Column

section Gathering
variable (total : Nat)

theorem gather_append (g : Gathered) (entries more : List Entry) :
    gather total g (entries ++ more) =
      gather total g entries >>= fun last => gather total last more := by
  induction entries generalizing g with
  | nil => rfl
  | cons e entries ih =>
    cases e with
    | column e =>
      rw [List.cons_append, gather, gather]
      cases resolveColumn total g.inlineKey? e with
      | error fault => rfl
      | ok read => exact ih _
    | primaryKey names =>
      rw [List.cons_append, gather, gather]
      split
      · rfl
      · exact ih _
    | skipped => exact ih g

theorem gather_keyless {entries : List Entry} (keyless : ∀ x ∈ entries, x.IsKeyless)
    (g : Gathered) : gather total g entries =
      (gather total {} entries).map fun last => { g with columns := g.columns ++ last.columns } := by
  induction entries generalizing g with
  | nil => simp [gather, Except.map]
  | cons e entries ih =>
    rw [List.forall_mem_cons] at keyless
    cases e with
    | column e =>
      rw [gather, gather, resolveColumn_keyless total keyless.1 g.inlineKey?]
      cases read : resolveColumn total none e with
      | error fault => rfl
      | ok r =>
        obtain ⟨c, key?⟩ := r
        obtain rfl := key?_eq_none_of_keyless total keyless.1 read
        simp only [Except.map]
        rw [ih keyless.2, ih keyless.2 { columns := [] ++ [c] }]
        cases gather total {} entries with
        | error fault => rfl
        | ok last => simp [Except.map]
    | primaryKey names => exact absurd keyless.1 id
    | skipped => exact ih keyless.2 g

theorem gather_around {before after : List Entry} (hb : ∀ x ∈ before, x.IsKeyless)
    (ha : ∀ x ∈ after, x.IsKeyless) (e : ColumnEntry) :
    gather total {} (before ++ .column e :: after) = (do
      let first ← gather total {} before
      let read ← resolveColumn total none e
      let last ← gather total {} after
      return {
        columns := first.columns ++ read.1 :: last.columns
        inlineKey? := read.2 }) := by
  rw [gather_append, gather_keyless total hb]
  cases gather total {} before with
  | error fault => rfl
  | ok first =>
    simp only [Except.map, bind, Except.bind, gather]
    cases resolveColumn total none e with
    | error fault => rfl
    | ok read =>
      simp only
      rw [gather_keyless total ha]
      cases gather total {} after with
      | error fault => rfl
      | ok last => simp [Except.map, pure, Except.pure]

/-- The key of the table may be declared anywhere among entries that declare no key. -/
theorem gather_tableKey {left right : List Entry} (hl : ∀ x ∈ left, x.IsKeyless)
    (hr : ∀ x ∈ right, x.IsKeyless) (names : List String) :
    gather total {} (left ++ .primaryKey names :: right) =
      (gather total {} (left ++ right)).map fun g => { g with tableKey? := some names } := by
  rw [gather_append, gather_append, gather_keyless total hl]
  cases gather total {} left with
  | error fault => rfl
  | ok first =>
    simp only [Except.map, bind, Except.bind, gather, Option.isSome_none, Bool.false_eq_true,
      if_false]
    rw [gather_keyless total hr, gather_keyless total hr { columns := [] ++ first.columns }]
    cases gather total {} right with
    | error fault => rfl
    | ok last => rfl

/-- Constraints that are passed over add nothing. -/
theorem gather_filter_skipped (g : Gathered) (entries : List Entry) :
    gather total g (entries.filter (· ≠ .skipped)) = gather total g entries := by
  induction entries generalizing g with
  | nil => rfl
  | cons e entries ih =>
    cases e with
    | column e =>
      rw [List.filter_cons_of_pos (by simp), gather, gather]
      cases resolveColumn total g.inlineKey? e with
      | error fault => rfl
      | ok read => exact ih _
    | primaryKey names =>
      rw [List.filter_cons_of_pos (by simp), gather, gather, ih]
    | skipped =>
      rw [List.filter_cons_of_neg (by simp), ih]
      rfl

end Gathering

/-- A table in which a column is made the key by its name is that in which it is the key, even if
other columns have the name: then neither can be created. -/
theorem make_markKey? (table : String) (before after : List Column) (c : Column) :
    ∃ keyed, markKey? c.name (before ++ c :: after) = some keyed ∧
      Schema.make table keyed = Schema.make table (before ++ c.primaryKey :: after) := by
  have here : (before ++ c :: after)[before.length]? = some c := by simp
  obtain ⟨p, place⟩ := exists_columnPlace?_of_getElem? here (eqAsciiCaseless_self _)
  rw [markKey?_eq_modify, place]
  refine ⟨_, rfl, ?_⟩
  by_cases distinct : ((before ++ c :: after).map Column.key).Nodup
  · rw [columnPlace?_name distinct here] at place
    obtain rfl := Option.some.inj place
    dsimp only
    rw [List.modify_eq_take_drop, List.take_left, List.drop_left, List.modifyHead_cons]
  · apply Schema.make_eq_of_duplicate
    · simp [map_name_modify, Column.primaryKey]
    · rwa [map_key_eq, map_name_modify, ← map_key_eq]

/-- A key of one column is the same whether it is declared at the column, at any place among its
constraints, or for the table, at any place among the entries; and what is passed over may stand
anywhere. -/
theorem resolve_inlineKey_eq_tableKey (total : Nat) (table : String) :
    (∀ (before after : List Entry) (e : ColumnEntry),
      (∀ x ∈ before ++ .column e :: after, x.IsKeyless) →
      ∀ front back, e.constraints = front ++ back →
      ∀ left right, before ++ .column e :: after = left ++ right →
        resolve total table (before ++
            .column { e with constraints := front ++ .primaryKey :: back } :: after) =
          resolve total table (left ++ .primaryKey [e.name] :: right)) ∧
    ∀ entries more : List Entry,
      entries.filter (· ≠ .skipped) = more.filter (· ≠ .skipped) →
        resolve total table entries = resolve total table more := by
  constructor
  · intro before after e keyless front back split left right place
    obtain ⟨hl, hr⟩ := List.forall_mem_append.1 (place ▸ keyless)
    rw [List.forall_mem_append, List.forall_mem_cons] at keyless
    obtain ⟨hb, he, ha⟩ := keyless
    rw [resolve, resolve, gather_tableKey total hl hr, ← place, gather_around total hb ha,
      gather_around total hb ha, resolveColumn_key total he split]
    cases gather total {} before with
    | error fault => rfl
    | ok first =>
      cases read : resolveColumn total none e with
      | error fault => rfl
      | ok r =>
        cases gather total {} after with
        | error fault => rfl
        | ok last =>
          obtain ⟨c, key?⟩ := r
          obtain rfl := key?_eq_none_of_keyless total he read
          have name : c.name = e.name := (isColumnOf_resolveColumn read).name
          obtain ⟨keyed, marked, made⟩ := make_markKey? table first.columns last.columns c
          rw [name] at marked
          simp only [bind, Except.bind, Except.map, pure, Except.pure, Gathered.keyed, markKeys,
            marked, ← made]
          simp
  · intro entries more same
    rw [resolve, resolve, ← gather_filter_skipped, same, gather_filter_skipped]

/-- A column that may be empty is declared the key between its constraints, or by the table before
it, with a constraint that is passed over. -/
theorem resolve_inlineKey_eq_tableKey_users :
    let id : ColumnEntry := ⟨"id", "INT", [], [.null, .unique], 30⟩
    let mail : ColumnEntry := ⟨"mail", "TEXT", [], [], 20⟩
    let users : Except DdlError Schema := .ok {
      table := "users"
      columns := [
        { name := "mail", type := .text none },
        Column.unique (Column.primaryKey { name := "id", type := .integer })] }
    (∀ x ∈ [Entry.column mail, .column id], x.IsKeyless) ∧
      resolve 40 "users" [.column mail,
        .column { id with constraints := [.null, .primaryKey, .unique] }] = users ∧
      resolve 40 "users" [.primaryKey ["id"], .column mail, .skipped, .column id] = users := by
  intro id mail users
  obtain ⟨place, passed⟩ := resolve_inlineKey_eq_tableKey 40 "users"
  have keyless : ∀ x ∈ [Entry.column mail, .column id], x.IsKeyless := by
    simp [Entry.IsKeyless, id, mail]
  have inline : resolve 40 "users" [.column mail,
      .column { id with constraints := [.null, .primaryKey, .unique] }] = users := by
    decide +kernel
  have same := place [.column mail] [] id keyless [.null] [.unique] rfl [] [.column mail, .column id]
    rfl
  have more := passed [.primaryKey ["id"], .column mail, .skipped, .column id]
    [.primaryKey ["id"], .column mail, .column id] (by decide)
  exact ⟨keyless, inline, more.trans (same.symm.trans inline)⟩

end TableLoad.Ddl
