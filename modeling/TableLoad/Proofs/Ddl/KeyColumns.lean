import TableLoad.Ddl.Resolve
import TableLoad.Proofs.Schema.Lookup

/-! # Key columns by their names

The names in the key of a table find their columns as every other look-up does, and the columns at
their places are made key columns.
-/
namespace TableLoad.Ddl
open Text

theorem map_name_modify (columns : List Column) (p : Nat) :
    (columns.modify p Column.primaryKey).map Column.name = columns.map Column.name := by
  induction columns generalizing p with
  | nil => simp
  | cons c columns ih =>
    cases p with
    | zero => rfl
    | succ p => simp [ih p]

/-- The column at the place of a name is made a key column. -/
theorem markKey?_eq_modify (name : String) (columns : List Column) :
    markKey? name columns =
      (columnPlace? columns name).map fun p => columns.modify p Column.primaryKey := by
  induction columns with
  | nil => rfl
  | cons c columns ih =>
    rw [markKey?, columnPlace?, List.findIdx?_cons]
    by_cases same : eqAsciiCaseless c.name.toList name.toList = true
    · simp [same]
    · rw [if_neg same, if_neg same, ih, columnPlace?, Option.map_map, Option.map_map]
      rfl

section Names
variable {columns keyed : List Column} {names : List String}

/-- All names are found, and the columns at their places are made key columns, the others staying as
they were; or else a name is unknown. -/
theorem markKeys_eq_ok_iff :
    markKeys columns names = .ok keyed ↔
      (∀ name ∈ names, (columnPlace? columns name).isSome = true) ∧
        ∀ p, keyed[p]? = columns[p]?.map fun c =>
          if ∃ name ∈ names, columnPlace? columns name = some p then c.primaryKey else c := by
  induction names generalizing columns with
  | nil =>
    have same : columns = keyed ↔ ∀ p : Nat, keyed[p]? = columns[p]? := by
      rw [eq_comm, List.ext_getElem?_iff]
    simp [markKeys, same]
  | cons name names ih =>
    rw [markKeys, markKey?_eq_modify, List.forall_mem_cons]
    cases found : columnPlace? columns name with
    | none => simp
    | some q =>
      have places (other : String) : columnPlace? (columns.modify q Column.primaryKey) other =
          columnPlace? columns other := columnPlace?_congr (map_name_modify columns q) other
      simp only [Option.map_some, ih, places, Option.isSome_some, true_and]
      apply and_congr_right
      intro _
      apply forall_congr'
      intro p
      -- a column that is made a key column twice is one
      rw [List.getElem?_modify]
      by_cases here : q = p
      · subst here
        cases columns[q]? with
        | none => rfl
        | some c => simp [found, Column.primaryKey]
      · simp [found, here]

theorem map_name_markKeys (h : markKeys columns names = .ok keyed) :
    keyed.map Column.name = columns.map Column.name := by
  apply List.ext_getElem?
  intro p
  rw [List.getElem?_map, List.getElem?_map, (markKeys_eq_ok_iff.1 h).2]
  cases columns[p]? with
  | none => rfl
  | some c =>
    simp only [Option.map_some]
    split <;> rfl

/-- Of columns of different names, those of the given names are made key columns. -/
theorem markKeys_eq (found : ∀ name ∈ names, name ∈ columns.map Column.name)
    (distinct : (columns.map Column.key).Nodup) : markKeys columns names =
      .ok (columns.map fun c => if c.name ∈ names then c.primaryKey else c) := by
  rw [markKeys_eq_ok_iff]
  constructor
  · intro name hn
    obtain ⟨c, hc, rfl⟩ := List.mem_map.1 (found name hn)
    obtain ⟨p, place⟩ := List.getElem?_of_mem hc
    rw [columnPlace?_name distinct place, Option.isSome_some]
  · intro p
    rw [List.getElem?_map]
    cases place : columns[p]? with
    | none => rfl
    | some c =>
      have named : (∃ name ∈ names, columnPlace? columns name = some p) ↔ c.name ∈ names := by
        constructor
        · rintro ⟨name, hn, at?⟩
          obtain ⟨d, hd, rfl⟩ := List.mem_map.1 (found name hn)
          obtain ⟨q, place'⟩ := List.getElem?_of_mem hd
          rw [columnPlace?_name distinct place', Option.some.injEq] at at?
          rw [at?, place, Option.some.injEq] at place'
          rwa [place']
        · exact fun hn => ⟨c.name, hn, columnPlace?_name distinct place⟩
      simp only [Option.map_some, named]

end Names

end TableLoad.Ddl
