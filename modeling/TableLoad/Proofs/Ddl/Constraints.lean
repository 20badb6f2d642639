import TableLoad.Proofs.Ddl.Types

/-! # Reading constraints back

The constraints that a dialect writes behind the type of a column are read back one by one.
-/
namespace TableLoad.Ddl
open Text Sql

/-- A text that is read as a constraint, wherever a column may go on. -/
structure ReadsConstraint (code : List Char) (constraint : Constraint) : Prop where
  run : ∀ rest, EndsPart rest → columnConstraint (code ++ rest) = some (constraint, rest)
  opening : ∃ opening ∈ openings, ∃ t, code = opening.toList ++ t
  closed : Closed code

structure ReadsKind (code : List Char) (kind : Constraint → Prop) : Prop where
  run : ∀ rest, EndsPart rest → ∃ x, kind x ∧ columnConstraint (code ++ rest) = some (x, rest)
  opening : ∃ opening ∈ openings, ∃ t, code = opening.toList ++ t

theorem ReadsConstraint.readsKind {code : List Char} {constraint : Constraint}
    {kind : Constraint → Prop} (h : ReadsConstraint code constraint) (own : kind constraint) :
    ReadsKind code kind :=
  ⟨fun rest hr => ⟨constraint, own, h.run rest hr⟩, h.opening⟩

def IsDefault : Constraint → Prop
  | .default _ _ => True
  | _ => False

theorem phrase_run (first second : String) {rest : List Char}
    (upper : first.toList.map Char.toUpper = first.toList)
    (upper' : second.toList.map Char.toUpper = second.toList)
    (token : AtToken (second.toList ++ rest)) (stop : EndsWord rest) :
    phrase [first, second] (first.toList ++ ' ' :: (second.toList ++ rest)) = some ((), rest) := by
  rw [phrase, Scan.bind_run (keyword_run first upper (endsWord_space _)),
    Scan.bind_run token.gap_space]
  · exact keyword_run second upper' stop
  · simp

theorem readsConstraint_notNull : ReadsConstraint "NOT NULL".toList .notNull where
  run rest h := by
    have read := phrase_run "NOT" "NULL" (by decide) (by decide) rfl
      h.endsWord
    refine (Scan.orElse_refused rfl).trans (Scan.orElse_run ?_)
    exact (Scan.bind_run read).trans rfl
  opening := ⟨"NOT NULL", by decide, [], rfl⟩
  closed := .of_inert (by decide)

theorem readsConstraint_unique : ReadsConstraint "UNIQUE".toList .unique where
  run rest h := by
    have read := keyword_run "UNIQUE" (by decide) h.endsWord
    have alone : Scan.optional (do gap; keyword "KEY") rest = some (none, rest) := by
      refine Scan.optional_refused (h.refused rfl (fun _ => rfl) (fun _ => rfl) ?_)
      intro opening ho t
      fin_cases ho <;> rfl
    iterate 5 apply (Scan.orElse_refused rfl).trans
    apply Scan.orElse_run
    rw [Scan.bind_run read, Scan.bind_run alone]
    rfl
  opening := ⟨"UNIQUE", by decide, [], rfl⟩
  closed := .of_inert (by decide)

theorem readsConstraint_primaryKey : ReadsConstraint "PRIMARY KEY".toList .primaryKey where
  run rest h := by
    have read := phrase_run "PRIMARY" "KEY" (by decide) (by decide) rfl
      h.endsWord
    have alone : Scan.optional (do gap; oneOf ["ASC", "DESC", "CLUSTERED", "NONCLUSTERED"]) rest =
        some (none, rest) := by
      refine Scan.optional_refused (h.refused rfl (fun _ => rfl) (fun _ => rfl) ?_)
      intro opening ho t
      fin_cases ho <;> rfl
    apply Scan.orElse_run
    apply (Scan.bind_run read).trans
    rw [Scan.bind_run alone]
    rfl
  opening := ⟨"PRIMARY KEY", by decide, [], rfl⟩
  closed := .of_inert (by decide)

theorem readsConstraint_autoIncrement {word : String}
    (h : word = "AUTO_INCREMENT" ∨ word = "AUTOINCREMENT") :
    ReadsConstraint word.toList .autoIncrement where
  run rest hr := by
    rcases h with rfl | rfl
    · have read := keyword_run "AUTO_INCREMENT" (by decide) hr.endsWord
      iterate 3 apply (Scan.orElse_refused rfl).trans
      exact Scan.orElse_run ((Scan.bind_run (Scan.orElse_run read)).trans rfl)
    · have read := keyword_run "AUTOINCREMENT" (by decide) hr.endsWord
      have other : oneOf ["AUTO_INCREMENT", "AUTOINCREMENT"] ("AUTOINCREMENT".toList ++ rest) =
          some ((), rest) := (Scan.orElse_refused rfl).trans (Scan.orElse_run read)
      iterate 3 apply (Scan.orElse_refused rfl).trans
      exact Scan.orElse_run ((Scan.bind_run other).trans rfl)
  opening := by
    rcases h with rfl | rfl
    · exact ⟨"AUTO_INCREMENT", by decide, [], rfl⟩
    · exact ⟨"AUTOINCREMENT", by decide, [], rfl⟩
  closed := by
    rcases h with rfl | rfl <;> exact .of_inert (by decide)

theorem readsConstraint_identity : ReadsConstraint "IDENTITY(1,1)".toList .autoIncrement where
  run rest _ := by
    have inner : Closed ['1', ',', '1'] := .of_inert (by decide)
    have read := keyword_run "IDENTITY" (by decide)
      (endsWord_cons (c := '(') rfl ("1,1)".toList ++ rest))
    have token : AtToken ("(1,1)".toList ++ rest) := rfl
    have step : (do gap; group : Scan (List Char)) ("(1,1)".toList ++ rest) =
        some (['1', ',', '1'], rest) :=
      (Scan.bind_run token.gap_run).trans (group_run inner rest)
    have group : optionalGroup ("(1,1)".toList ++ rest) = some ((), rest) :=
      (Scan.bind_run (Scan.optional_run step)).trans rfl
    iterate 4 apply (Scan.orElse_refused rfl).trans
    apply Scan.orElse_run
    apply (Scan.bind_run read).trans
    exact (Scan.bind_run group).trans rfl
  opening := ⟨"IDENTITY(1,1)", by decide, [], rfl⟩
  closed := by
    have inner : Closed ['1', ',', '1'] := .of_inert (by decide)
    exact (Closed.of_inert (s := "IDENTITY".toList) (by decide)).append (.group inner .nil)

theorem readsConstraint_default {code : List Char} {value : Default} (h : ReadsDefault code value) :
    ReadsConstraint ("DEFAULT ".toList ++ code) (.default value code) where
  run rest hr := by
    have read := keyword_run "DEFAULT" (by decide) (endsWord_space (code ++ rest))
    iterate 6 apply (Scan.orElse_refused rfl).trans
    apply Scan.orElse_run
    apply (Scan.bind_run read).trans
    rw [Scan.bind_run (h.token rest).gap_space, Scan.bind_run (Scan.consumed_run (h.run rest hr))]
    rfl
  opening := ⟨"DEFAULT ", by decide, code, rfl⟩
  closed := (Closed.of_inert (s := "DEFAULT ".toList) (by decide)).append h.closed

/-- A default that is read to its end is read as a default, whatever it is. -/
theorem readsKind_default {code : List Char} (h : ReadsToEnd code) :
    ReadsKind ("DEFAULT ".toList ++ code) IsDefault where
  run rest hr := by
    obtain ⟨value, read⟩ := h rest hr
    have keyword := keyword_run "DEFAULT" (by decide) (endsWord_space (code ++ rest))
    have gapped : gap (' ' :: (code ++ rest)) = some ((), afterGap (code ++ rest)) :=
      gap_cons_of_blank (by decide) _
    have value_read : defaultValue (afterGap (code ++ rest)) = some (value, rest) := read
    refine ⟨.default value ((afterGap (code ++ rest)).take
      ((afterGap (code ++ rest)).length - rest.length)), trivial, ?_⟩
    iterate 6 apply (Scan.orElse_refused rfl).trans
    apply Scan.orElse_run
    apply (Scan.bind_run keyword).trans
    rw [Scan.bind_run gapped, Scan.bind_run (Scan.consumed_eq value_read)]
    rfl
  opening := ⟨"DEFAULT ", by decide, code, rfl⟩

theorem readsConstraint_check {code : List Char} (h : Closed code) :
    ReadsConstraint ("CHECK (".toList ++ (code ++ [')'])) (.check code) where
  run rest _ := by
    have read := keyword_run "CHECK" (by decide)
      (endsWord_space ('(' :: (code ++ ')' :: rest)))
    have token : AtToken ('(' :: (code ++ ')' :: rest)) := rfl
    have text : "CHECK (".toList ++ (code ++ [')']) ++ rest =
        "CHECK".toList ++ ' ' :: '(' :: (code ++ ')' :: rest) := by
      rw [List.append_assoc, List.append_assoc]
      rfl
    rw [text]
    iterate 7 apply (Scan.orElse_refused rfl).trans
    apply Scan.orElse_run
    apply (Scan.bind_run read).trans
    rw [Scan.bind_run token.gap_space, Scan.bind_run (group_run h rest)]
    rfl
  opening := ⟨"CHECK (", by decide, code ++ [')'], rfl⟩
  closed := (Closed.of_inert (s := "CHECK ".toList) (by decide)).append (.group h .nil)

end TableLoad.Ddl
