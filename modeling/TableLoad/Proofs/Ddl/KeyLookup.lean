import TableLoad.Proofs.Ddl.Parsed
import TableLoad.Proofs.Text.AsciiCase

/-! # Names in the key of a table

The names in the key of a table find their columns as every other look-up does.  They find what is
taken for the same name when the table is created only where the two comparisons of names agree.
-/
namespace TableLoad.Ddl
open Text

theorem not_isPrimaryKey_of_resolveColumn {total : Nat} {inlineKey? : Option String}
    {e : ColumnEntry} {c : Column} (h : resolveColumn total inlineKey? e = .ok (c, none)) :
    c.isPrimaryKey = false ∧ inlineKey? = none := by
  rw [resolveColumn] at h
  split at h
  · cases h
  · split at h
    · cases h
    · simp only [Except.ok.injEq, Prod.mk.injEq] at h
      obtain ⟨rfl, next⟩ := h
      split at next
      · cases next
      · rename_i other
        exact ⟨by simpa using other, next⟩

/-- Where no column declares the key, none is a key column yet. -/
theorem not_isPrimaryKey_of_gather {total : Nat} {entries : List Entry} {g last : Gathered}
    (h : gather total g entries = .ok last) (keyless : last.inlineKey? = none) :
    g.inlineKey? = none ∧ ((∀ c ∈ g.columns, c.isPrimaryKey = false) →
      ∀ c ∈ last.columns, c.isPrimaryKey = false) := by
  induction entries generalizing g with
  | nil =>
    cases h
    exact ⟨keyless, id⟩
  | cons e entries ih =>
    cases e with
    | column e =>
      rw [gather] at h
      split at h
      · cases h
      · rename_i c next resolved
        obtain ⟨none, later⟩ := ih h
        simp only at none
        subst none
        have own := not_isPrimaryKey_of_resolveColumn resolved
        refine ⟨own.2, fun before => later ?_⟩
        simpa [or_imp, forall_and, own.1] using before
    | primaryKey names =>
      rw [gather] at h
      split at h
      · cases h
      · exact ih (g := { g with tableKey? := some names }) h
    | skipped => exact ih h

/-- Of a table with a key of its own, the key columns are those that the names of the key find. -/
theorem isPrimaryKey_iff_of_resolve {total : Nat} {table : String} {entries : List Entry}
    {s : Schema} (h : resolve total table entries = .ok s) {names : List String}
    (declared : .primaryKey names ∈ entries) :
    (∀ name ∈ names, (s.position? name).isSome = true) ∧ ∀ p c, s.columns[p]? = some c →
      (c.isPrimaryKey = true ↔ ∃ name ∈ names, s.position? name = some p) := by
  obtain ⟨g, columns, gathered, keyed, made⟩ := exists_of_resolve h
  obtain ⟨-, -, -, -, rfl⟩ := Schema.make_eq_ok_iff.1 made
  rw [Gathered.keyed, tableKey?_gather gathered (.inr declared)] at keyed
  dsimp only at keyed
  split at keyed
  · cases keyed
  · rename_i keyless
    split at keyed
    · cases keyed
    · have plain := (not_isPrimaryKey_of_gather gathered keyless).2 (by simp)
      have place (name : String) : columnPlace? g.columns name = columnPlace? columns name :=
        columnPlace?_congr (map_name_markKeys keyed).symm name
      obtain ⟨known, marked⟩ := markKeys_eq_ok_iff.1 keyed
      simp only [place] at known marked
      refine ⟨known, fun p c hc => ?_⟩
      change columns[p]? = some c at hc
      rw [marked] at hc
      obtain ⟨d, hd, rfl⟩ := Option.map_eq_some_iff.1 hc
      have other := plain d (List.mem_of_getElem? hd)
      change _ ↔ ∃ name ∈ names, columnPlace? columns name = some p
      by_cases named : ∃ name ∈ names, columnPlace? columns name = some p
      · simp [named, Column.primaryKey]
      · simp [named, other]

/-- A name finds the column that has its lower case and agrees with it beyond ASCII, and no other
column has its lower case.  So it finds every column that would make it a duplicate where all
characters beyond ASCII are their own lower case.  The column of a name and the names in the key of
a table are found in the same way. -/
theorem position?_eq_some_iff_lowercase {s : Schema} {table : String} {columns : List Column}
    (made : Schema.make table columns = .ok s) (name : String) :
    (∀ p, s.position? name = some p ↔ ∃ c, s.columns[p]? = some c ∧
      lowercase c.name.toList = lowercase name.toList ∧
        AgreeBeyondAscii c.name.toList name.toList) ∧
    (∀ (p q : Nat) (c d : Column), s.columns[p]? = some c → s.columns[q]? = some d →
      lowercase c.name.toList = lowercase name.toList →
        lowercase d.name.toList = lowercase name.toList → p = q) ∧
    ((∀ c ∈ s.columns, IsLowerBeyondAscii c.name.toList) → IsLowerBeyondAscii name.toList →
      ∀ p, s.position? name = some p ↔
        ∃ c, s.columns[p]? = some c ∧ lowercase c.name.toList = lowercase name.toList) ∧
    s.column? name = (s.position? name).bind (fun p => s.columns[p]?) ∧
    markKey? name s.columns =
      (s.position? name).map (fun p => s.columns.modify p Column.primaryKey) ∧
    ∀ total entries names, resolve total table entries = .ok s → .primaryKey names ∈ entries →
      (∀ x ∈ names, (s.position? x).isSome = true) ∧ ∀ p c, s.columns[p]? = some c →
        (c.isPrimaryKey = true ↔ ∃ x ∈ names, s.position? x = some p) := by
  have found (p : Nat) : s.position? name = some p ↔ ∃ c, s.columns[p]? = some c ∧
      eqAsciiCaseless c.name.toList name.toList = true := Schema.position?_eq_some_iff_caseless made
  refine ⟨fun p => ?_, fun p q c d hc hd same same' => ?_, fun lower own p => ?_,
    Schema.column?_eq_bind s name, markKey?_eq_modify name s.columns,
    fun total entries names resolved declared => isPrimaryKey_iff_of_resolve resolved declared⟩
  · simp only [found, eqAsciiCaseless_iff]
  · exact eq_of_key_eq (Schema.nodup_keys made) hc hd (same.trans same'.symm)
  · rw [found]
    constructor
    · rintro ⟨c, hc, alike⟩
      exact ⟨c, hc, lowercase_eq_of_eqAsciiCaseless alike⟩
    · rintro ⟨c, hc, same⟩
      exact ⟨c, hc, (eqAsciiCaseless_iff_of_lower (lower c (List.mem_of_getElem? hc)) own).2 same⟩

/-- A name in other case than that of its column, but for the accented letter. -/
theorem position?_eq_some_iff_lowercase_accented :
    let s : Schema := { table := "t", columns := [{ name := "código", type := .integer }] }
    Schema.make "t" s.columns = .ok s ∧ s.position? "CóDIGO" = some 0 ∧
      s.column? "CóDIGO" = s.columns[0]? := by
  intro s
  have made : Schema.make "t" s.columns = .ok s := by decide +kernel
  obtain ⟨found, -, -, column, -⟩ := position?_eq_some_iff_lowercase made "CóDIGO"
  have place : s.position? "CóDIGO" = some 0 := by
    refine (found 0).2 ⟨{ name := "código", type := .integer }, rfl, ?_⟩
    rw [← eqAsciiCaseless_iff]
    decide +kernel
  rw [place] at column
  exact ⟨made, place, column⟩

/-- The capital of an accented letter: the name is a duplicate of the column, which it does not
find, neither by a look-up nor in a key. -/
theorem position?_of_accented_capital :
    let s : Schema := { table := "t", columns := [{ name := "código", type := .integer }] }
    Schema.make "t" s.columns = .ok s ∧
      lowercase "código".toList = lowercase "CÓDIGO".toList ∧
      parse "CREATE TABLE t (código INT, CÓDIGO INT)" =
        .error (.malformed 0 (.schema (.duplicateColumn "CÓDIGO"))) ∧
      s.position? "CÓDIGO" = none ∧ s.column? "CÓDIGO" = none ∧
      parse "CREATE TABLE t (código INT, PRIMARY KEY (CÓDIGO))" =
        .error (.malformed 0 (.unknownKeyColumn "CÓDIGO")) := by
  decide +kernel

end TableLoad.Ddl
