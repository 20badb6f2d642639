import TableLoad.Proofs.Ddl.PassedOver

/-! # Statements with comments

Comments are blanks of a statement where every look at it takes them for comments: between the
words of a column or a key, where no group follows, and in a constraint that is passed over if no
quote, parenthesis or comma stands in them.  With such comments a statement gives the schema that it
gives without them.
-/
namespace TableLoad.Ddl
open Text Scan

/-! ### Constraints that are passed over -/

theorem EndsWord.uncommented {s : List Char} (h : EndsWord s) :
    EndsWord (Ddl.uncommented .plain s) := by
  intro c hc
  rw [head?_uncommented] at hc
  split at hc
  · cases hc
    rfl
  · exact h c hc

theorem takeWhile_uncommented (s : List Char) :
    (uncommented .plain s).takeWhile isWordChar = s.takeWhile isWordChar := by
  induction s with
  | nil => rfl
  | cons c s ih =>
    cases hc : isWordChar c with
    | true =>
      rw [uncommented_inert (isInert_of_isWordChar hc), List.takeWhile_cons_of_pos hc,
        List.takeWhile_cons_of_pos hc, ih]
    | false =>
      have stop : EndsWord (uncommented .plain (c :: s)) := (endsWord_cons hc s).uncommented
      rw [List.takeWhile_cons_of_neg (by simp [hc])]
      cases left : uncommented .plain (c :: s) with
      | nil => rfl
      | cons d more => exact List.takeWhile_cons_of_neg (by simp [stop d (by simp [left])])

theorem firstWord_uncommented (s : List Char) : firstWord (uncommented .plain s) = firstWord s :=
  congrArg String.ofList (takeWhile_uncommented s)

/-- The gap at the front of a text ends before the same word without its comments. -/
theorem Inside.firstWord_uncommented {mark : Char} {s : List Char} (h : Inside mark s) :
    firstWord (afterGap (Ddl.uncommented .plain s)) = firstWord (afterGap s) := by
  have at_tokens {s : List Char} (before : AtToken s)
      (behind : AtToken (Ddl.uncommented .plain s)) :
      firstWord (afterGap (Ddl.uncommented .plain s)) = firstWord (afterGap s) := by
    rw [before.afterGap_eq, behind.afterGap_eq, Ddl.firstWord_uncommented]
  induction h with
  | nil => rfl
  | @plain mark c s hc _ _ ih =>
    cases blank : isGapChar c with
    | true =>
      rw [uncommented_inert hc, afterGap_cons_of_blank blank, afterGap_cons_of_blank blank, ih]
    | false =>
      refine at_tokens (atToken_of_inert hc blank s) ?_
      rw [uncommented_inert hc]
      exact atToken_of_inert hc blank _
  | sign sign single _ _ =>
    refine at_tokens (atToken_of_sign sign single) ?_
    rw [uncommented_sign sign single]
    exact atToken_of_sign sign (opensComment_uncommented single)
  | quoted hq free _ _ =>
    refine at_tokens (atToken_of_isQuote hq _) ?_
    rw [uncommented_quote hq free]
    exact atToken_of_isQuote hq _
  | group _ _ _ _ =>
    refine at_tokens (atToken_of_isStop (by decide) _) ?_
    have opening (t : List Char) : Ddl.uncommented .plain ('(' :: t) = _ :=
      uncommented_stop (by decide) t
    rw [opening]
    exact atToken_of_isStop (by decide) _
  | comment hp _ _ ih =>
    rw [hp.uncommented_append, (IsGap.of_blanks hp.uncommented_blank.2).afterGap_append,
      hp.afterGap_append, ih]

def Label.uncommented (l : Label) : Label where
  word := l.word
  gap := Ddl.uncommented .plain l.gap
  name := Ddl.uncommented .plain l.name
  last := Ddl.uncommented .plain l.last

namespace Label.IsWritten
variable {l : Label} {w : List Char}

theorem chars_uncommented (h : l.IsWritten w) :
    Ddl.uncommented .plain l.chars = l.uncommented.chars := by
  have word := isWordChar_of_spelled (by decide) h.word
  rw [Label.chars, (ScansAlone.word word).comments, (ScansAlone.gap h.gap).comments,
    h.name.scansAlone.comments, uncommented_of_word word]
  rfl

theorem uncommented (h : l.IsWritten w) (all : ∀ c ∈ w, isWordChar c = true) :
    l.uncommented.IsWritten w where
  word := h.word
  gap := h.gap.uncommented
  name := h.name.uncommented.1
  last := h.last.uncommented
  wordEnds := by
    have ends := h.wordEnds.uncommented
    rwa [(ScansAlone.gap h.gap).comments] at ends
  nameEnds := by
    intro last
    have ends := (h.nameEnds (h.name.uncommented.2.2 ▸ last)).uncommented
    rwa [(ScansAlone.gap h.last).comments, uncommented_of_word all] at ends

end Label.IsWritten

namespace ConstraintText
variable {k : ConstraintText}

def uncommented (k : ConstraintText) : ConstraintText where
  lead := Ddl.uncommented .plain k.lead
  label? := k.label?.map Label.uncommented
  word := k.word
  body := Ddl.uncommented .plain k.body

theorem IsPassedOver.chars_uncommented (h : k.IsPassedOver) :
    Ddl.uncommented .plain k.chars = k.uncommented.chars := by
  have label (x : List Char) : Ddl.uncommented .plain (k.label?.elim [] Label.chars ++ x) =
      k.uncommented.label?.elim [] Label.chars ++ Ddl.uncommented .plain x := by
    rw [uncommented]
    cases labelled : k.label? with
    | none => rfl
    | some l =>
      have written := h.label l labelled
      exact (written.scansAlone.comments x).trans (by rw [written.chars_uncommented]; rfl)
  rw [chars, (ScansAlone.gap h.lead).comments, label, (ScansAlone.word h.wordChars).comments,
    uncommented_of_word h.wordChars]
  rfl

theorem IsPassedOver.uncommented (h : k.IsPassedOver) : k.uncommented.IsPassedOver where
  lead := h.lead.uncommented
  label := by
    intro l hl
    obtain ⟨l, labelled, rfl⟩ := Option.mem_map.1 hl
    exact (h.label l labelled).uncommented h.wordChars
  word := h.word
  wordEnds := h.wordEnds.uncommented
  body := h.body.uncommented (by decide)
  noType := by
    have noType := h.noType
    rw [secondWord] at noType ⊢
    rw [ConstraintText.uncommented]
    cases labelled : k.label? with
    | none =>
      rw [labelled] at noType
      exact (congrArg _ h.body.firstWord_uncommented).trans noType
    | some l =>
      rw [labelled] at noType
      exact (congrArg _ (h.label l labelled).name.uncommented.2.1).trans noType

end ConstraintText

/-! ### Statements -/

/-- An entry whose comments are blanks. -/
inductive IsCommentedEntry : List Char → Prop
  /-- A column or a primary key, which is read to its end without the comments. -/
  | kept {u : List Char} : Alike entryMarks [] [] u (uncommented .plain u) →
      (∃ e z, keptEntry (afterGap (uncommented .plain u ++ [','])) = some (e, z) ∧
        afterGap z = [',']) → IsCommentedEntry u
  | passedOver {k : ConstraintText} : k.IsPassedOver → IsCommentedEntry k.chars

/-- A head whose comments are blanks, with the name of a table in it. -/
structure IsCommentedHead (head : List Char) : Prop where
  alike : Alike entryMarks [] [] head (uncommented .plain head)
  reads : ∃ table z, header (uncommented .plain head ++ ['(']) = some (table, z) ∧
    afterGap z = ['(']

/-- Options without a semicolon, in their comments too, but for one that ends the statement. -/
def IsCommentedOptions (options : List Char) : Prop :=
  ∃ o last, options = o ++ last ∧ ';' ∉ o ∧ (last = [] ∨ ∃ g, last = ';' :: g ∧ afterGap g = [])

theorem IsCommentedEntry.stands {u : List Char} (h : IsCommentedEntry u) : Stands u := by
  cases h with
  | kept alike _ => exact alike.stands
  | passedOver passed => exact passed.stands

theorem IsCommentedEntry.exists_readsWhole {u : List Char} (h : IsCommentedEntry u) :
    ∃ e, ReadsWhole entry u e ∧ ReadsWhole entry (uncommented .plain u) e := by
  cases h with
  | kept alike reads =>
    obtain ⟨e, z, read, whole⟩ := reads
    have both := readsWhole_of_alike (fun ends => keeps_keptEntry ends (by decide)) alike read whole
    exact ⟨_, both.1.of_keptEntry, both.2.of_keptEntry⟩
  | passedOver passed =>
    rw [passed.chars_uncommented]
    exact ⟨.skipped, passed.readsWhole, passed.uncommented.readsWhole⟩

theorem exists_entries_readsWhole {us : List (List Char)} (each : ∀ u ∈ us, IsCommentedEntry u) :
    ∃ es, List.Forall₂ (ReadsWhole entry) us es ∧
      List.Forall₂ (ReadsWhole entry) (us.map (uncommented .plain)) es := by
  induction us with
  | nil => exact ⟨[], .nil, .nil⟩
  | cons u us ih =>
    rw [List.forall_mem_cons] at each
    obtain ⟨e, own, bare⟩ := each.1.exists_readsWhole
    obtain ⟨es, owns, bares⟩ := ih each.2
    exact ⟨e :: es, .cons own owns, .cons bare bares⟩

theorem IsCommentedOptions.afterOptions_eq {options : List Char} (h : IsCommentedOptions options) :
    afterOptions options = [] := by
  obtain ⟨o, last, rfl, free, ends⟩ := h
  have passed : (o ++ last).dropWhile (· != ';') = last.dropWhile (· != ';') :=
    List.dropWhile_append_of_pos fun c hc => by
      simpa using fun he : c = ';' => free (he ▸ hc)
  rw [afterOptions, passed]
  rcases ends with rfl | ⟨g, rfl, gap⟩
  · rfl
  · exact gap

/-- Comments of a statement are blanks: what it gives without them it gives with them, if no look at
the statement takes a comment for anything else. -/
theorem parse_of_parse_uncommented {head options : List Char} {us : List (List Char)} {s : Schema}
    (named : IsCommentedHead head) (each : ∀ u ∈ us, IsCommentedEntry u) (filled : us ≠ [])
    (last : IsCommentedOptions options)
    (h : parse (String.ofList (uncommented .plain (statementText head us options))) = .ok s) :
    parse (String.ofList (statementText head us options)) = .ok s := by
  obtain ⟨table, z, read, whole⟩ := named.reads
  obtain ⟨reads, readsBare⟩ := readsHead_of_alike named.alike read whole
  obtain ⟨es, own, bare⟩ := exists_entries_readsWhole each
  have parts :=
    uncommented_statementText named.alike.stands (fun u hu => (each u hu).stands) options
  have balanced : (imbalance? 0 .plain (uncommented .plain _)).isNone = _ :=
    isNone_imbalance?_uncommented 0 .plain (statementText head us options)
  rw [parse, String.toList_ofList, eq_ok_iff_toOption] at h ⊢
  rw [parts] at balanced
  rw [parts, toOption_schemaOf readsBare bare (by simpa using filled)] at h
  rw [toOption_schemaOf reads own filled]
  split at h
  case isTrue both =>
    rw [both.1] at balanced
    rw [if_pos ⟨Option.isNone_iff_eq_none.1 balanced.symm, last.afterOptions_eq⟩]
    exact h
  case isFalse => cases h

/-- Comments in the head, a column, a constraint that is passed over and the options. -/
theorem parse_of_parse_uncommented_everywhere :
    let head := "CREATE TABLE ".toList ++ ("-- it's\n".toList ++ "t ".toList)
    let column := "a INT ".toList ++ ("/* one, (two */".toList ++ " NOT NULL".toList)
    let index : ConstraintText := ⟨[' '], none, "KEY".toList,
      " k ".toList ++ '(' :: (['a'] ++ ')' :: ' ' :: ("/* kept */".toList ++ []))⟩
    let us := [column, index.chars, " b INT".toList]
    let options := " -- last\n; -- done".toList
    IsCommentedHead head ∧ (∀ u ∈ us, IsCommentedEntry u) ∧ us ≠ [] ∧ IsCommentedOptions options ∧
      parse (String.ofList (statementText head us options)) = .ok ⟨"t",
        [{ name := "a", type := .integer, nullable := false },
          { name := "b", type := .integer }]⟩ := by
  intro head column index us options
  have blank {x y : List Char} {p : List Char} (hp : IsComment p)
      (before : (afterGap x).head? ≠ some '(') (h : Alike entryMarks [] [] x y) :
      Alike entryMarks [] [] (p ++ x) (uncommented .plain p ++ y) :=
    .blank hp hp.uncommented_blank.1 hp.uncommented_blank.2 (fun opens => absurd opens before) h
  have named : IsCommentedHead head := by
    refine ⟨.inert_append (by decide) (blank ?_ (by decide +kernel) (.of_inert (by decide))), "t",
      " (".toList, by decide +kernel, by decide +kernel⟩
    exact .line (show ∀ c ∈ " it's".toList, _ by decide) (.inl rfl)
  have columnRead : IsCommentedEntry column :=
    .kept (.inert_append (by decide)
        (blank (.block (by decide)) (by decide +kernel) (.of_inert (by decide))))
      ⟨.column ⟨"a", "INT", [], [.notNull], 17⟩, [','], by decide +kernel, by decide +kernel⟩
  have plainRead : IsCommentedEntry " b INT".toList :=
    .kept (.of_inert (by decide))
      ⟨.column ⟨"b", "INT", [], [], 6⟩, [','], by decide +kernel, by decide +kernel⟩
  have indexOver : index.IsPassedOver := {
    lead := .blank (by decide) .nil
    label := nofun
    word := ⟨"KEY", by decide, by decide⟩
    wordEnds := endsWord_space _
    body := .inert_append (by decide) (.group (.of_inert (by decide))
      (.plain (by decide) (by decide) (.comment (.block (by decide)) (by decide) .nil)))
    noType := by decide +kernel }
  have each : ∀ u ∈ us, IsCommentedEntry u := by
    simp only [us, List.forall_mem_cons]
    exact ⟨columnRead, .passedOver indexOver, plainRead, by simp⟩
  have last : IsCommentedOptions options :=
    ⟨" -- last\n".toList, "; -- done".toList, rfl, by decide, .inr ⟨" -- done".toList, rfl,
      by decide +kernel⟩⟩
  refine ⟨named, each, by simp [us], last, ?_⟩
  exact parse_of_parse_uncommented named each (by simp [us]) last (by decide +kernel)

/-- An apostrophe in a comment opens a quote for a constraint that is passed over, and a semicolon
in a comment behind the table ends the statement. -/
theorem parse_comment_marks :
    let index := "CREATE TABLE t (a INT, KEY k (a) -- it's\n, b INT)"
    let options := "CREATE TABLE t (a INT) -- one; two\n"
    let a : Column := { name := "a", type := .integer }
    let b : Column := { name := "b", type := .integer }
    parse (String.ofList (uncommented .plain index.toList)) = .ok ⟨"t", [a, b]⟩ ∧
      parse index = .error (.unknownType "k") ∧
      parse (String.ofList (uncommented .plain options.toList)) = .ok ⟨"t", [a]⟩ ∧
      parse options = .error (.malformed 31 (.unexpectedContent "two")) := by
  decide +kernel

end TableLoad.Ddl
