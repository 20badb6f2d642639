import TableLoad.Ddl.Statement
import TableLoad.Proofs.Ddl.Expressions

/-! # What the grammar gives

The grammar alone keeps names from being empty and holds the numbers among the defaults to the
form of numerals, however deep in parentheses they stand, and the expressions to what is a default
again.
-/
namespace TableLoad.Ddl
open Text Scan

theorem ofList_ne_empty {s : List Char} (h : s ≠ []) : String.ofList s ≠ "" := by
  intro empty
  exact h (by simpa using congrArg String.toList empty)

theorem word_yields : word.Yields (· ≠ "") :=
  (some1_yields _).bind fun _ filled => yields_pure (ofList_ne_empty filled)

theorem quotedName_yields (first last : Char) : (quotedName first last).Yields (· ≠ "") :=
  yields_bind fun _ => (some1_yields _).bind fun _ filled =>
    yields_bind fun _ => yields_pure (ofList_ne_empty filled)

theorem name_yields : name.Yields (· ≠ "") :=
  (quotedName_yields _ _).orElse <| (quotedName_yields _ _).orElse <|
    (quotedName_yields _ _).orElse word_yields

theorem numeral_spec {s rest : List Char} {n : String} (h : numeral s = some (n, rest)) :
    s = n.toList ++ rest ∧ IsNumeral n.toList := by
  have sign := ((char_reads '-').orElse (char_reads '+')).optional
  have digits := some1_reads Char.isDigit
  have point := ((char_reads '.').bind fun _ => digits).optional
  have body := sign.bind fun _ => digits.bind fun _ => point
  obtain ⟨⟨shown, _⟩, middle, read, same⟩ := exists_of_bind h
  cases same
  obtain ⟨whole, sign, _, parts, signed, digitsRead, fraction, rfl, digits, optional⟩ :=
    body.of_consumed read
  rw [String.toList_ofList]
  refine ⟨whole, sign, digitsRead, fraction, parts, signed, digits, optional.imp_right ?_⟩
  rintro ⟨_, more, rfl, rfl, digits⟩
  exact ⟨more, rfl, digits⟩

theorem numeral_yields : numeral.Yields fun n => IsNumeral n.toList :=
  fun _ _ _ h => (numeral_spec h).2

def HasNumeral (d : Default) : Prop := ∀ n, d = .number n → IsNumeral n.toList

def HasCode (d : Default) : Prop := ∀ code, d = .expression code → ReadsToEnd code.toList

/-- A default as the grammar gives it. -/
structure IsReadDefault (d : Default) : Prop where
  numeral : HasNumeral d
  code : HasCode d

theorem IsReadDefault.of_ne {d : Default} (number : ∀ n, d ≠ .number n)
    (expression : ∀ code, d ≠ .expression code) : IsReadDefault d :=
  ⟨fun n h => absurd h (number n), fun code h => absurd h (expression code)⟩

theorem isReadDefault_wordDefault {shown : List Char} (read : ReadsToEnd (trimmed shown)) :
    IsReadDefault (wordDefault shown) := by
  constructor
  · intro n h
    unfold wordDefault at h
    simp only at h
    repeat' split at h
    all_goals cases h
  · intro code h
    unfold wordDefault at h
    simp only at h
    repeat' split at h
    all_goals cases h
    rwa [String.toList_ofList]

theorem plainDefault_yields : Yields plainDefault IsReadDefault := by
  intro s d rest h
  rw [plainDefault] at h
  split at h
  · cases h
    exact .of_ne (by simp) (by simp)
  · obtain ⟨⟨shown, last⟩, read, same⟩ := Option.map_eq_some_iff.1 h
    cases same
    refine ⟨?_, fun code h => absurd h (by simp)⟩
    rintro n ⟨⟩
    exact numeral_yields read

/-- A number is a numeral and an expression is read to its end, however many parentheses stand
around them. -/
theorem defaultValue_yields : Yields defaultValue IsReadDefault := by
  intro s d rest h
  have expression {s inner rest : List Char} (read : group s = some (inner, rest)) :
      IsReadDefault (.expression (String.ofList ('(' :: (trimmed inner ++ [')'])))) := by
    refine ⟨fun n h => absurd h (by simp), ?_⟩
    rintro code ⟨⟩
    rw [String.toList_ofList]
    exact readsToEnd_group read
  -- a case for each look inside one more pair of parentheses
  fun_induction defaultValue s generalizing d rest with
  | case1 s result plain =>
    cases h
    exact plainDefault_yields plain
  | case2 s refused inner last opened body value tail read whole =>
    rename_i inside
    cases h
    exact inside read
  | case3 s refused inner last opened body value tail read part =>
    cases h
    exact expression opened
  | case4 s refused inner last opened body read =>
    cases h
    exact expression opened
  | case5 s refused opened =>
    obtain ⟨⟨shown, last⟩, read, same⟩ := Option.map_eq_some_iff.1 h
    cases same
    obtain ⟨word, behind, isCall, rfl, -⟩ := exists_of_call read
    refine isReadDefault_wordDefault ?_
    rw [(isTrimmed_call isCall).trimmed_eq]
    exact readsToEnd_call refused read

def Constraint.IsRead (x : Constraint) : Prop :=
  ∀ value written, x = .default value written → IsReadDefault value

theorem columnConstraint_yields : columnConstraint.Yields Constraint.IsRead := by
  have plain {x : Constraint} (h : ∀ value written, x ≠ .default value written) :
      (pure x : Scan Constraint).Yields Constraint.IsRead :=
    yields_pure fun value written same => absurd same (h value written)
  refine (yields_bind fun _ => yields_bind fun _ => plain (by simp)).orElse ?_
  refine (yields_bind fun _ => plain (by simp)).orElse ?_
  refine (yields_bind fun _ => plain (by simp)).orElse ?_
  refine (yields_bind fun _ => plain (by simp)).orElse ?_
  refine (yields_bind fun _ => yields_bind fun _ => plain (by simp)).orElse ?_
  refine (yields_bind fun _ => yields_bind fun _ => plain (by simp)).orElse ?_
  refine Yields.orElse ?_ (.orElse ?_ ?_)
  · refine yields_bind fun _ => yields_bind fun _ => ?_
    refine defaultValue_yields.consumed.bind fun ⟨written, value⟩ read => yields_pure ?_
    rintro _ _ ⟨rfl, rfl⟩
    exact read
  · exact yields_bind fun _ => yields_bind fun _ => yields_bind fun _ => plain (by simp)
  · exact yields_bind fun _ => plain (by simp)

structure ColumnEntry.IsRead (e : ColumnEntry) : Prop where
  named : e.name ≠ ""
  constraints : ∀ x ∈ e.constraints, x.IsRead

theorem columnEntry_yields : columnEntry.Yields ColumnEntry.IsRead := by
  intro s e rest h
  have constraint : (do gap; columnConstraint : Scan Constraint).Yields Constraint.IsRead :=
    yields_bind fun _ => columnConstraint_yields
  refine (name_yields.bind fun columnName named => ?_ : Yields _ ColumnEntry.IsRead) h
  -- the gap, and the four parts that say what the type is
  iterate 5 refine yields_bind fun _ => ?_
  exact constraint.many.bind fun constraints read => yields_pure ⟨named, read⟩

def Entry.IsRead (entry : Entry) : Prop := ∀ e, entry = .column e → e.IsRead

theorem wholeColumn_yields : wholeColumn.Yields Entry.IsRead := by
  intro s e rest h
  rw [wholeColumn] at h
  split at h
  · rename_i entry last read
    split at h
    · cases h
      rintro _ ⟨rfl⟩
      exact columnEntry_yields read
    · cases h
  · cases h

theorem entry_yields : entry.Yields Entry.IsRead := by
  refine wholeColumn_yields.orElse (.orElse ?_ (.orElse ?_ ?_))
  · iterate 5 refine yields_bind fun _ => ?_
    exact yields_pure (by simp [Entry.IsRead])
  · iterate 3 refine yields_bind fun _ => ?_
    exact yields_pure (by simp [Entry.IsRead])
  · refine columnEntry_yields.bind fun e read => yields_pure ?_
    rintro _ ⟨rfl⟩
    exact read

/-- The entries of a statement are as the grammar gives them. -/
theorem isRead_of_body {s rest : List Char} {entries : List Entry}
    (h : body s = .ok (entries, rest)) : ∀ e ∈ entries, e.IsRead := by
  rw [body] at h
  split at h
  · split at h
    · rename_i read
      split at h
      · cases h
        exact entry_yields.separated read
      · cases h
    · cases h
  · cases h

end TableLoad.Ddl
