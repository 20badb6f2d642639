import TableLoad.Proofs.Ddl.Tables

/-! # Tables from their entries

The entries that are read from the lines of a table give its columns in order.
-/
namespace TableLoad.Ddl
open Text Sql

/-- The columns of entries are gathered in order, if at most one of them is declared the key. -/
theorem gather_columns (total : Nat) {d : Dialect} {composite : Bool} {columns : List Column}
    {entries : List Entry} (h : ∀ c ∈ columns, IsSpelled d c)
    (each : List.Forall₂ (fun c e => IsReadFrom d composite (.column c) e) columns entries)
    (g : Gathered) (few : (columns.filter (isMarked composite)).length +
      (if g.inlineKey?.isSome then 1 else 0) ≤ 1) (more : List Entry) :
    ∃ inlineKey?, ((∀ c ∈ columns, isMarked composite c = false) → inlineKey? = g.inlineKey?) ∧
      gather total g (entries ++ more) =
        gather total { g with
          columns := g.columns ++ columns.map (readColumn composite), inlineKey? } more := by
  induction each generalizing g with
  | nil => exact ⟨g.inlineKey?, fun _ => rfl, by simp⟩
  | @cons c e columns entries entry each ih =>
    rw [List.forall_mem_cons] at h
    cases e with
    | column e =>
      have first : isMarked composite c = true → g.inlineKey? = none := by
        intro marked
        rw [List.filter_cons_of_pos marked, List.length_cons] at few
        cases hk : g.inlineKey? with
        | none => rfl
        | some name =>
          rw [hk, Option.isSome_some, if_pos rfl] at few
          omega
      have resolved := resolveColumn_run total h.1 first entry
      obtain ⟨inlineKey?, same, next⟩ := ih h.2
        { g with
          columns := g.columns ++ [readColumn composite c]
          inlineKey? := if isMarked composite c then some c.name else g.inlineKey? } (by
        cases hm : isMarked composite c with
        | true =>
          rw [List.filter_cons_of_pos hm, List.length_cons, first hm] at few
          simpa using few
        | false =>
          rw [List.filter_cons_of_neg (by simp [hm])] at few
          simpa using few)
      refine ⟨inlineKey?, fun none => ?_, ?_⟩
      · rw [List.forall_mem_cons] at none
        rw [same none.2]
        simp [none.1]
      · rw [List.cons_append, gather, resolved]
        simp only [next, List.map_cons, List.append_assoc, List.singleton_append]
    | primaryKey names => exact absurd entry id
    | skipped => exact absurd entry id

end TableLoad.Ddl
