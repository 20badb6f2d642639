import TableLoad.Proofs.Ddl.Grammar
import TableLoad.Proofs.Ddl.Tokens

/-! # Names with a closing mark

The quotes of a dialect double every closing mark of a name.  The grammar ends a name at the first
closing mark, so what is read back of a name is the part before its own first mark.
-/
namespace TableLoad.Ddl
open Text Sql

/-- A name is cut at its first closing mark: its other half stays behind, with the second mark of
the pair in front. -/
theorem name_quoteName_of_mark (d : Dialect) {shown : String} {before after : List Char}
    (parts : shown.toList = before ++ d.nameMarks.2 :: after) (free : d.nameMarks.2 ∉ before)
    (rest : List Char) :
    name ((d.quoteName shown).toList ++ rest) =
      if before = [] then none
      else some (String.ofList before, d.nameMarks.2 ::
        (doubling [d.nameMarks.2] after ++ d.nameMarks.2 :: rest)) := by
  have plain : doubling [d.nameMarks.2] before = before := by
    apply doubling_eq_self
    intro c hc mark
    exact free (List.mem_singleton.1 mark ▸ hc)
  have quoted : (d.quoteName shown).toList ++ rest =
      d.nameMarks.1 :: (before ++ d.nameMarks.2 :: (d.nameMarks.2 ::
        (doubling [d.nameMarks.2] after ++ d.nameMarks.2 :: rest))) := by
    rw [Dialect.quoteName, String.toList_ofList, enclosed, parts, doubling_append, plain]
    simp
  rw [quoted, name_mark, quotedName_eq free]

/-- A name in the quotes of a dialect is read back, and nothing else with it, exactly when it is
not empty and has no closing mark of the dialect. -/
theorem name_quoteName_iff (d : Dialect) (shown : String) (rest : List Char) :
    name ((d.quoteName shown).toList ++ rest) = some (shown, rest) ↔
      shown ≠ "" ∧ d.nameMarks.2 ∉ shown.toList := by
  constructor
  · intro read
    refine ⟨name_yields read, fun mark => ?_⟩
    obtain ⟨before, after, parts, free⟩ := List.eq_append_cons_of_mem mark
    rw [name_quoteName_of_mark d parts free] at read
    by_cases empty : before = []
    · simp [empty] at read
    · simp only [if_neg empty, Option.some.injEq, Prod.mk.injEq] at read
      have whole := congrArg (List.length ∘ String.toList) read.1
      simp [parts] at whole
  · rintro ⟨filled, free⟩
    exact name_run_of_free d free filled rest

/-- A bracket in a name ends it, though it was doubled: another name is read, and not all of the
text. -/
theorem name_quoteName_cut :
    (Dialect.sqlserver.quoteName "a]b" = "[a]]b]") ∧
      name (Dialect.sqlserver.quoteName "a]b").toList = some ("a", "]b]".toList) := by
  decide

end TableLoad.Ddl
