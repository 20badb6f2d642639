import Mathlib.Data.List.Nodup
import TableLoad.Proofs.Text.Case
import TableLoad.Schema.Basic

/-! # Which tables can be created

The conditions of `Schema.make`, of which the distinctness of the names is a recursion.
-/
namespace TableLoad
open Text

def Column.key (c : Column) : List Char := lowercase c.name.toList

theorem firstDuplicate?_eq_none_iff (seen : List (List Char)) (columns : List Column) :
    firstDuplicate? seen columns = none ↔
      (columns.map Column.key).Nodup ∧ ∀ c ∈ columns, c.key ∉ seen := by
  induction columns generalizing seen with
  | nil => simp [firstDuplicate?]
  | cons c columns ih =>
    by_cases hc : c.key ∈ seen
    · have found : firstDuplicate? seen (c :: columns) = some c := by
        have : lowercase c.name.toList ∈ seen := hc
        simp [firstDuplicate?, this]
      simp [found, hc]
    · have next : firstDuplicate? seen (c :: columns) = firstDuplicate? (c.key :: seen) columns := by
        have : lowercase c.name.toList ∉ seen := hc
        simp [firstDuplicate?, this, Column.key]
      rw [next, ih, List.map_cons, List.nodup_cons, List.forall_mem_cons]
      constructor
      · rintro ⟨distinct, apart⟩
        refine ⟨⟨fun hm => ?_, distinct⟩, hc, fun b hb => ?_⟩
        · obtain ⟨b, hb, same⟩ := List.mem_map.1 hm
          exact apart b hb (by rw [same]; exact List.mem_cons_self)
        · exact fun hm => apart b hb (List.mem_cons_of_mem _ hm)
      · rintro ⟨⟨first, distinct⟩, -, apart⟩
        refine ⟨distinct, fun b hb hm => ?_⟩
        rcases List.mem_cons.1 hm with same | hm
        · exact first (same ▸ List.mem_map_of_mem hb)
        · exact apart b hb hm

/-- A table can be created exactly when it has a name, columns, no two names alike, and nothing is
wrong with its auto-increment columns. -/
theorem Schema.make_eq_ok_iff {table : String} {columns : List Column} {s : Schema} :
    Schema.make table columns = .ok s ↔ table ≠ "" ∧ columns ≠ [] ∧
      (columns.map Column.key).Nodup ∧ autoIncrementFault? columns = none ∧
        s = ⟨table, columns⟩ := by
  have distinct := firstDuplicate?_eq_none_iff [] columns
  simp only [List.not_mem_nil, not_false_eq_true, implies_true, and_true] at distinct
  rw [← distinct, Schema.make]
  by_cases ht : table = ""
  · subst ht
    simp
  have named : table.isEmpty = false := by simpa using ht
  cases columns with
  | nil => simp [named]
  | cons c columns =>
    cases hd : firstDuplicate? [] (c :: columns) with
    | some c => simp [named]
    | none =>
      cases hf : autoIncrementFault? (c :: columns) with
      | some fault => simp [named]
      | none => simp [named, ht, eq_comm]

/-- The name that is found twice depends on the names alone. -/
theorem map_name_firstDuplicate? {a b : List Column} (names : a.map Column.name = b.map Column.name)
    (seen : List (List Char)) :
    (firstDuplicate? seen a).map Column.name = (firstDuplicate? seen b).map Column.name := by
  induction a generalizing b seen with
  | nil =>
    obtain rfl : b = [] := by simpa using names.symm
    rfl
  | cons c a ih =>
    cases b with
    | nil => cases names
    | cons d b =>
      obtain ⟨same, names⟩ := List.cons.inj names
      rw [firstDuplicate?, firstDuplicate?, same]
      split
      · exact congrArg some same
      · exact ih names _

/-- Tables of the same names, two of which are alike, cannot be created for one reason. -/
theorem Schema.make_eq_of_duplicate {a b : List Column}
    (names : a.map Column.name = b.map Column.name) (duplicate : ¬ (a.map Column.key).Nodup)
    (table : String) : Schema.make table a = Schema.make table b := by
  have empty : a.isEmpty = b.isEmpty := by
    have same := congrArg List.isEmpty names
    simpa using same
  have twice : firstDuplicate? [] a ≠ none := by
    rw [ne_eq, firstDuplicate?_eq_none_iff]
    exact fun distinct => duplicate distinct.1
  have found := map_name_firstDuplicate? names []
  rw [Schema.make, Schema.make, empty]
  cases first : firstDuplicate? [] a with
  | none => exact absurd first twice
  | some c =>
    rw [first] at found
    obtain ⟨d, hd, same⟩ := Option.map_eq_some_iff.1 found.symm
    rw [hd]
    simp only [same]

theorem map_key_eq (columns : List Column) : columns.map Column.key =
    (columns.map Column.name).map fun name => lowercase name.toList := by
  rw [List.map_map]
  rfl

theorem nodup_names_of_nodup_keys {columns : List Column}
    (distinct : (columns.map Column.key).Nodup) : (columns.map Column.name).Nodup := by
  rw [map_key_eq] at distinct
  exact List.Nodup.of_map _ distinct

theorem Schema.nodup_keys {table : String} {columns : List Column} {s : Schema}
    (h : Schema.make table columns = .ok s) : (s.columns.map Column.key).Nodup := by
  obtain ⟨-, -, distinct, -, rfl⟩ := Schema.make_eq_ok_iff.1 h
  exact distinct

theorem Schema.nodup_names {table : String} {columns : List Column} {s : Schema}
    (h : Schema.make table columns = .ok s) : (s.columns.map Column.name).Nodup :=
  nodup_names_of_nodup_keys (nodup_keys h)

/-- Nothing is wrong with the auto-increment columns exactly when there is none, or one that is an
integer and the whole primary key. -/
theorem autoIncrementFault?_eq_none_iff {columns : List Column} :
    autoIncrementFault? columns = none ↔ columns.filter Column.isAutoIncrement = [] ∨
      ∃ c, columns.filter Column.isAutoIncrement = [c] ∧
        columns.filter Column.isPrimaryKey = [c] ∧ c.type = .integer := by
  rw [autoIncrementFault?]
  cases counting : columns.filter Column.isAutoIncrement with
  | nil => simp
  | cons c more =>
    cases more with
    | cons d more => simp
    | nil =>
      have counts : c ∈ columns.filter Column.isAutoIncrement :=
        counting ▸ List.mem_singleton_self c
      simp only [List.cons_ne_nil, false_or, List.cons.injEq, and_true, exists_eq_left']
      constructor
      · intro h
        split at h
        · cases h
        · rename_i key
          split at h
          · cases h
          · rename_i few
            split at h
            · cases h
            · rename_i integer
              refine ⟨?_, not_not.1 integer⟩
              have own : c ∈ columns.filter Column.isPrimaryKey :=
                List.mem_filter.2 ⟨(List.mem_filter.1 counts).1, by simpa using key⟩
              obtain ⟨d, only⟩ := List.length_eq_one_iff.1
                (Nat.le_antisymm (Nat.not_lt.1 few) (List.length_pos_of_mem own))
              rw [only, List.mem_singleton] at own
              rw [only, own]
      · rintro ⟨only, integer⟩
        have own : c ∈ columns.filter Column.isPrimaryKey := only ▸ List.mem_singleton_self c
        have key := (List.mem_filter.1 own).2
        simp [key, only, integer]

theorem of_isAutoIncrement {columns : List Column} (h : autoIncrementFault? columns = none)
    {c : Column} (hc : c ∈ columns) (counting : c.isAutoIncrement = true) :
    c.type = .integer ∧ columns.filter Column.isPrimaryKey = [c] := by
  have found : c ∈ columns.filter Column.isAutoIncrement := List.mem_filter.2 ⟨hc, counting⟩
  rcases autoIncrementFault?_eq_none_iff.1 h with none | ⟨d, single, only, integer⟩
  · rw [none] at found
    cases found
  · rw [single, List.mem_singleton] at found
    subst found
    exact ⟨integer, only⟩

theorem type_of_isAutoIncrement {columns : List Column} (h : autoIncrementFault? columns = none)
    {c : Column} (hc : c ∈ columns) (counting : c.isAutoIncrement = true) : c.type = .integer :=
  (of_isAutoIncrement h hc counting).1

end TableLoad
