import TableLoad.Ddl.Statement
import TableLoad.Proofs.Ddl.KeyColumns
import TableLoad.Proofs.Ddl.Resolution

/-! # Tables that are read

A table that is read from a statement can be created.  Each of its columns is the column of an
entry, and the columns of the key, wherever it is declared, are never empty.
-/
namespace TableLoad

def Column.IsKeyed (c : Column) : Prop := c.isPrimaryKey = true → c.nullable = false

/-- Columns made from a name and a type by the methods of columns. -/
inductive Column.IsBuilt : Column → Prop
  | new (name : String) (type : ColumnType) : IsBuilt { name, type }
  | notNull {c : Column} : IsBuilt c → IsBuilt c.notNull
  | primaryKey {c : Column} : IsBuilt c → IsBuilt c.primaryKey
  | autoIncrement {c : Column} : IsBuilt c → IsBuilt c.autoIncrement
  | unique {c : Column} : IsBuilt c → IsBuilt c.unique
  | withDefault {c : Column} (value : Default) : IsBuilt c → IsBuilt (c.withDefault value)

theorem Column.IsBuilt.isKeyed {c : Column} (h : c.IsBuilt) : c.IsKeyed := by
  induction h with
  | new name type => exact fun key => absurd key (by simp)
  | notNull _ _ => exact fun _ => rfl
  | primaryKey _ _ => exact fun _ => rfl
  | autoIncrement _ ih => exact ih
  | unique _ ih => exact ih
  | withDefault _ _ ih => exact ih

namespace Ddl
open Text

def Entry.column? : Entry → Option ColumnEntry
  | .column e => some e
  | _ => none

/-- A column with what its entry says, which the key of the table may have made a key column. -/
structure IsColumnOf (e : ColumnEntry) (c : Column) : Prop where
  name : c.name = e.name
  type : ∃ resolved, ResolvedType.ofName e.typeName e.arguments = .ok resolved ∧
    c.type = promotedType resolved e.name e.constraints ∧
      c.isAutoIncrement = (resolved.autoIncrement || decide (.autoIncrement ∈ e.constraints))
  unique : c.isUnique = decide (.unique ∈ e.constraints)
  key : .primaryKey ∈ e.constraints → c.isPrimaryKey = true
  keyed : c.IsKeyed
  default : ∀ d, c.default? = some d → ∃ value written, .default value written ∈ e.constraints ∧
    d = if c.type = .boolean then truthDefault value else value

theorem IsColumnOf.primaryKey {e : ColumnEntry} {c : Column} (h : IsColumnOf e c) :
    IsColumnOf e c.primaryKey :=
  ⟨h.name, h.type, h.unique, fun _ => rfl, fun _ => rfl, h.default⟩

theorem exists_default_of_foldl {constraints : List Constraint} {start : Column} {d : Default}
    (empty : start.default? = none) (h : (constraints.foldl constrain start).default? = some d) :
    ∃ written, .default d written ∈ constraints := by
  rw [foldl_constrain_eq, empty, Option.or_none] at h
  obtain ⟨⟨value, written⟩, last, rfl⟩ := Option.map_eq_some_iff.1 h
  obtain ⟨x, hx, said⟩ := List.mem_filterMap.1 (List.mem_of_getLast? last)
  exact ⟨written, Constraint.default?_eq_some_iff.1 said ▸ hx⟩

theorem isColumnOf_resolveColumn {total : Nat} {inlineKey? next : Option String} {e : ColumnEntry}
    {c : Column} (h : resolveColumn total inlineKey? e = .ok (c, next)) : IsColumnOf e c := by
  rw [resolveColumn] at h
  split at h
  · cases h
  · rename_i resolved type
    split at h
    · cases h
    · cases h
      obtain ⟨name, key, counting, unique⟩ := foldl_constrain e.constraints
        { name := e.name, type := resolved.type, isAutoIncrement := resolved.autoIncrement }
      refine ⟨name, ⟨resolved, type, rfl, counting⟩, by simpa using unique, fun declared => ?_,
        fun key => ?_, fun d hd => ?_⟩
      · simpa [declared] using key
      · simp only at key
        simp [key]
      · simp only at hd ⊢
        split at hd
        · rename_i boolean
          obtain ⟨value, hv, rfl⟩ := Option.map_eq_some_iff.1 hd
          obtain ⟨written, member⟩ := exists_default_of_foldl rfl hv
          exact ⟨value, written, member, (if_pos boolean).symm⟩
        · rename_i other
          obtain ⟨written, member⟩ := exists_default_of_foldl rfl hd
          exact ⟨d, written, member, (if_neg other).symm⟩

theorem forall₂_gather {total : Nat} {entries : List Entry} {g last : Gathered}
    (h : gather total g entries = .ok last) {before : List ColumnEntry}
    (each : List.Forall₂ IsColumnOf before g.columns) :
    List.Forall₂ IsColumnOf (before ++ entries.filterMap Entry.column?) last.columns := by
  induction entries generalizing g before with
  | nil =>
    cases h
    simpa using each
  | cons e entries ih =>
    cases e with
    | column e =>
      rw [gather] at h
      split at h
      · cases h
      · rename_i c next resolved
        have more := ih h (List.rel_append each (.cons (isColumnOf_resolveColumn resolved) .nil))
        rw [List.append_assoc] at more
        exact more
    | primaryKey names =>
      rw [gather] at h
      split at h
      · cases h
      · exact ih h each
    | skipped => exact ih h each

theorem tableKey?_gather {total : Nat} {entries : List Entry} {g last : Gathered}
    (h : gather total g entries = .ok last) {names : List String}
    (declared : g.tableKey? = some names ∨ .primaryKey names ∈ entries) :
    last.tableKey? = some names := by
  induction entries generalizing g with
  | nil =>
    cases h
    simpa using declared
  | cons e entries ih =>
    cases e with
    | column e =>
      rw [gather] at h
      split at h
      · cases h
      · exact ih h (by simpa using declared)
    | primaryKey first =>
      rw [gather] at h
      split at h
      · cases h
      · rename_i none
        refine ih h ?_
        rcases declared with before | here
        · simp [before] at none
        · simpa [eq_comm] using here
    | skipped => exact ih h (by simpa using declared)

section Keys
variable {columns keyed : List Column}

theorem forall₂_markKeys {names : List String} (h : markKeys columns names = .ok keyed)
    {entries : List ColumnEntry} (each : List.Forall₂ IsColumnOf entries columns) :
    List.Forall₂ IsColumnOf entries keyed := by
  have marked := (markKeys_eq_ok_iff.1 h).2
  have same : keyed.length = columns.length := by
    simpa using congrArg List.length (map_name_markKeys h)
  rw [List.forall₂_iff_get] at each ⊢
  obtain ⟨length, each⟩ := each
  refine ⟨length.trans same.symm, fun p inside inside' => ?_⟩
  have own := each p inside (same ▸ inside')
  have key := marked p
  rw [List.getElem?_eq_getElem inside', List.getElem?_eq_getElem (same ▸ inside'),
    Option.map_some, Option.some.injEq] at key
  rw [List.get_eq_getElem (l := keyed), key]
  split
  · exact own.primaryKey
  · exact own

def HasKeyNamed (columns : List Column) (name : String) : Prop :=
  ∃ c ∈ columns, eqAsciiCaseless c.name.toList name.toList = true ∧ c.isPrimaryKey = true

theorem hasKeyNamed_markKeys {names : List String} (h : markKeys columns names = .ok keyed) :
    ∀ name ∈ names, HasKeyNamed keyed name := by
  obtain ⟨known, marked⟩ := markKeys_eq_ok_iff.1 h
  intro name hn
  obtain ⟨p, place⟩ := Option.isSome_iff_exists.1 (known name hn)
  obtain ⟨c, hc, alike⟩ := exists_of_columnPlace? place
  have key := marked p
  rw [hc, Option.map_some, if_pos ⟨name, hn, place⟩] at key
  exact ⟨c.primaryKey, List.mem_of_getElem? key, alike, rfl⟩

end Keys

theorem forall₂_keyed {g : Gathered} {columns : List Column} (h : g.keyed = .ok columns)
    {entries : List ColumnEntry} (each : List.Forall₂ IsColumnOf entries g.columns) :
    List.Forall₂ IsColumnOf entries columns := by
  rw [Gathered.keyed] at h
  split at h
  · cases h
    exact each
  · split at h
    · cases h
    · split at h
      · cases h
      · exact forall₂_markKeys h each

theorem hasKeyNamed_keyed {g : Gathered} {columns : List Column} (h : g.keyed = .ok columns)
    {names : List String} (declared : g.tableKey? = some names) :
    ∀ name ∈ names, HasKeyNamed columns name := by
  rw [Gathered.keyed, declared] at h
  dsimp only at h
  split at h
  · cases h
  · split at h
    · cases h
    · exact hasKeyNamed_markKeys h

/-- What a table that is resolved went through. -/
theorem exists_of_resolve {total : Nat} {table : String} {entries : List Entry} {s : Schema}
    (h : resolve total table entries = .ok s) :
    ∃ g columns, gather total {} entries = .ok g ∧ g.keyed = .ok columns ∧
      Schema.make table columns = .ok s := by
  cases hg : gather total {} entries with
  | error fault => rw [resolve, hg] at h; cases h
  | ok g =>
    rw [resolve, hg] at h
    simp only [bind, Except.bind] at h
    split at h
    · cases h
    · cases hk : g.keyed with
      | error fault => rw [hk] at h; cases h
      | ok columns =>
        rw [hk] at h
        simp only at h
        cases hm : Schema.make table columns with
        | error fault => rw [hm] at h; cases h
        | ok made =>
          rw [hm] at h
          cases h
          exact ⟨g, columns, rfl, hk, hm⟩

/-- A table as its entries say. -/
structure IsTableOf (table : String) (entries : List Entry) (s : Schema) : Prop where
  name : s.table = table
  made : Schema.make s.table s.columns = .ok s
  columns : List.Forall₂ IsColumnOf (entries.filterMap Entry.column?) s.columns
  key : ∀ names, .primaryKey names ∈ entries → ∀ name ∈ names, HasKeyNamed s.columns name

theorem isTableOf_resolve {total : Nat} {table : String} {entries : List Entry} {s : Schema}
    (h : resolve total table entries = .ok s) : IsTableOf table entries s := by
  obtain ⟨g, columns, gathered, keyed, made⟩ := exists_of_resolve h
  obtain ⟨-, -, -, -, rfl⟩ := Schema.make_eq_ok_iff.1 made
  refine ⟨rfl, made, forall₂_keyed keyed ?_, fun names declared => ?_⟩
  · exact forall₂_gather gathered .nil
  · exact hasKeyNamed_keyed keyed (tableKey?_gather gathered (.inr declared))

/-- A table that is read is the table of the entries of its statement. -/
theorem exists_of_parse {text : String} {s : Schema} (h : parse text = .ok s) :
    ∃ rest entries, header text.toList = some (s.table, rest) ∧ body rest = .ok (entries, []) ∧
      IsTableOf s.table entries s := by
  rw [parse, schemaOf] at h
  split at h
  · cases h
  · split at h
    · cases h
    · rename_i table rest head
      split at h
      · cases h
      · rename_i entries read
        have resolved := isTableOf_resolve h
        obtain rfl := resolved.name
        exact ⟨rest, entries, head, read, resolved⟩
      · cases h

theorem column_mem_iff {entries : List Entry} {e : ColumnEntry} :
    .column e ∈ entries ↔ e ∈ entries.filterMap Entry.column? := by
  rw [List.mem_filterMap]
  constructor
  · exact fun member => ⟨_, member, rfl⟩
  · rintro ⟨entry, member, column⟩
    cases entry with
    | column e =>
      obtain rfl := Option.some.inj column
      exact member
    | primaryKey names => cases column
    | skipped => cases column

theorem IsTableOf.exists_entry {table : String} {entries : List Entry} {s : Schema}
    (h : IsTableOf table entries s) {c : Column} (hc : c ∈ s.columns) :
    ∃ e, .column e ∈ entries ∧ IsColumnOf e c := by
  simp only [column_mem_iff]
  exact Scan.exists_of_forall₂ h.columns hc

/-- A table that is read from a statement can be created, and its keys are not empty. -/
theorem make_of_parse {text : String} {s : Schema} (h : parse text = .ok s) :
    Schema.make s.table s.columns = .ok s ∧ ∀ c ∈ s.columns, c.IsKeyed := by
  obtain ⟨rest, entries, -, -, resolved⟩ := exists_of_parse h
  refine ⟨resolved.made, fun c hc => ?_⟩
  obtain ⟨e, -, own⟩ := resolved.exists_entry hc
  exact own.keyed

end Ddl

end TableLoad
