import TableLoad.Proofs.Schema.Made

/-! # Columns by their names

Among columns of which no two names have one lower case, a name finds the one column whose name
differs from it at most in the case of ASCII letters.
-/
namespace TableLoad
open Text

/-- The place of the first column of a name, in which the case of ASCII letters does not count. -/
def columnPlace? (columns : List Column) (name : String) : Option Nat :=
  columns.findIdx? fun c => eqAsciiCaseless c.name.toList name.toList

theorem eqAsciiCaseless_self (s : List Char) : eqAsciiCaseless s s = true := by
  simp [eqAsciiCaseless]

/-- A place depends on the names of the columns alone. -/
theorem columnPlace?_congr {columns others : List Column}
    (names : columns.map Column.name = others.map Column.name) (name : String) :
    columnPlace? columns name = columnPlace? others name := by
  have byName (l : List Column) : columnPlace? l name =
      (l.map Column.name).findIdx? fun n => eqAsciiCaseless n.toList name.toList := by
    rw [List.findIdx?_map]
    rfl
  rw [byName, byName, names]

section Places
variable {columns : List Column} {name : String} {p q : Nat} {c d : Column}

theorem exists_of_columnPlace? (h : columnPlace? columns name = some p) :
    ∃ c, columns[p]? = some c ∧ eqAsciiCaseless c.name.toList name.toList = true := by
  obtain ⟨inside, alike, -⟩ := List.findIdx?_eq_some_iff_getElem.1 h
  exact ⟨columns[p], List.getElem?_eq_getElem inside, alike⟩

theorem exists_columnPlace?_of_getElem? (hc : columns[p]? = some c)
    (alike : eqAsciiCaseless c.name.toList name.toList = true) :
    ∃ q, columnPlace? columns name = some q := by
  rw [← Option.isSome_iff_exists, columnPlace?, List.findIdx?_isSome, List.any_eq_true]
  exact ⟨c, List.mem_of_getElem? hc, alike⟩

variable (distinct : (columns.map Column.key).Nodup)
include distinct

/-- Names of one lower case are those of one column. -/
theorem eq_of_key_eq (hc : columns[p]? = some c) (hd : columns[q]? = some d)
    (same : c.key = d.key) : p = q := by
  have inside : p < (columns.map Column.key).length := by
    rw [List.length_map]
    exact (List.getElem?_eq_some_iff.1 hc).1
  apply (List.getElem?_inj inside distinct).1
  rw [List.getElem?_map, List.getElem?_map, hc, hd, Option.map_some, Option.map_some, same]

/-- A name finds a column exactly when it is that of the column but for the case of ASCII
letters. -/
theorem columnPlace?_eq_some_iff : columnPlace? columns name = some p ↔
    ∃ c, columns[p]? = some c ∧ eqAsciiCaseless c.name.toList name.toList = true := by
  constructor
  · exact exists_of_columnPlace?
  · rintro ⟨c, hc, alike⟩
    obtain ⟨q, found⟩ := exists_columnPlace?_of_getElem? hc alike
    obtain ⟨d, hd, alike'⟩ := exists_of_columnPlace? found
    have key : d.key = c.key := by
      rw [Column.key, Column.key, lowercase_eq_of_eqAsciiCaseless alike,
        lowercase_eq_of_eqAsciiCaseless alike']
    rw [found, eq_of_key_eq distinct hd hc key]

theorem columnPlace?_name (hc : columns[p]? = some c) : columnPlace? columns c.name = some p :=
  (columnPlace?_eq_some_iff distinct).2 ⟨c, hc, eqAsciiCaseless_self _⟩

end Places

namespace Schema

theorem position?_eq_some_iff_caseless {s : Schema} {table : String} {columns : List Column}
    (made : Schema.make table columns = .ok s) {name : String} {p : Nat} :
    s.position? name = some p ↔
      ∃ c, s.columns[p]? = some c ∧ eqAsciiCaseless c.name.toList name.toList = true :=
  columnPlace?_eq_some_iff (nodup_keys made)

theorem column?_eq_bind (s : Schema) (name : String) :
    s.column? name = (s.position? name).bind fun p => s.columns[p]? :=
  List.find?_eq_bind_findIdx?_getElem?

end Schema

end TableLoad
