import TableLoad.Ddl.Entry
import TableLoad.Proofs.Ddl.Groups
import TableLoad.Proofs.Text.Progress

/-! # Progress through a statement

Every scanner of a statement stays within its text, and whatever starts with a keyword, a name or a
mark advances in it.
-/
namespace TableLoad.Ddl
open Text Scan

theorem afterLineComment?_suffix {s rest : List Char} (h : afterLineComment? s = some rest) :
    rest <:+ s := by
  fun_induction afterLineComment? s with
  | case1 | case2 | case3 => cases h; exact List.suffix_rfl
  | case4 => cases h
  | case5 c s _ _ _ ih => exact (ih h).trans (List.suffix_cons c s)

theorem afterBlockComment?_suffix {s rest : List Char} (h : afterBlockComment? s = some rest) :
    rest <:+ s := by
  fun_induction afterBlockComment? s with
  | case1 =>
    cases h
    exact List.suffix_append ['*', '/'] _
  | case2 c s _ ih => exact (ih h).trans (List.suffix_cons c s)
  | case3 => cases h

theorem afterGapPiece?_suffix {s rest : List Char} (h : afterGapPiece? s = some rest) :
    rest <:+ s ∧ rest.length < s.length := by
  have behind (front : List Char) {t : List Char} (filled : front ≠ []) (within : rest <:+ t) :
      rest <:+ front ++ t ∧ rest.length < (front ++ t).length := by
    have more := List.length_pos_iff.2 filled
    have less := within.length_le
    rw [List.length_append]
    exact ⟨within.trans (List.suffix_append front t), by omega⟩
  fun_cases afterGapPiece? s with
  | case1 s =>
    rw [afterGapPiece?] at h
    exact behind ['-', '-'] (by simp) (afterLineComment?_suffix h)
  | case2 s =>
    rw [afterGapPiece?] at h
    exact behind ['/', '*'] (by simp) (afterBlockComment?_suffix h)
  | case3 c s line block blank =>
    rw [afterGapPiece?.eq_3 c s line block, if_pos blank] at h
    cases h
    exact behind [c] (by simp) List.suffix_rfl
  | case4 c s line block other =>
    rw [afterGapPiece?.eq_3 c s line block, if_neg other] at h
    cases h
  | case5 => cases h

/-- A gap is one blank or comment after the other. -/
theorem afterGap_eq_of_piece {s rest : List Char} (h : afterGapPiece? s = some rest) :
    afterGap s = afterGap rest := by
  rw [afterGap, h]
  simp [(afterGapPiece?_suffix h).2]

theorem afterGap_suffix (s : List Char) : afterGap s <:+ s := by
  fun_induction afterGap s with
  | case1 s rest piece shorter ih => exact ih.trans (afterGapPiece?_suffix piece).1
  | case2 | case3 => exact List.suffix_rfl

theorem staysWithin_gap : gap.StaysWithin := by
  intro s a rest h
  cases h
  exact afterGap_suffix s

theorem advances_keyword {word : String} (filled : word ≠ "") : (keyword word).Advances := by
  intro s a rest h
  rw [keyword] at h
  split at h
  · rename_i read
    cases h
    have size : 0 < word.toList.length := List.length_pos_iff.2 (by simpa using filled)
    have same := congrArg List.length read.1
    simp only [List.length_map, List.length_take, String.length_toList] at same size
    refine ⟨List.drop_suffix _ _, ?_⟩
    rw [List.length_drop]
    omega
  · cases h

theorem advances_oneOf {words : List String} (filled : ∀ word ∈ words, word ≠ "") :
    (oneOf words).Advances := by
  induction words with
  | nil => intro s a rest h; cases h
  | cons word words ih =>
    rw [List.forall_mem_cons] at filled
    exact (advances_keyword filled.1).orElse (ih filled.2)

theorem staysWithin_phrase {words : List String} (filled : ∀ word ∈ words, word ≠ "") :
    (phrase words).StaysWithin := by
  fun_induction phrase words with
  | case1 => exact staysWithin_pure ()
  | case2 word => exact (advances_keyword (filled word (by simp))).staysWithin
  | case3 word words _ ih =>
    rw [List.forall_mem_cons] at filled
    exact (advances_keyword filled.1).staysWithin.bind fun _ =>
      staysWithin_gap.bind fun _ => ih filled.2

theorem advances_phrase {word : String} {words : List String}
    (filled : ∀ w ∈ word :: words, w ≠ "") : (phrase (word :: words)).Advances := by
  have first := advances_keyword (filled word (by simp))
  cases words with
  | nil => exact first
  | cons next words =>
    rw [List.forall_mem_cons] at filled
    exact first.bind fun _ => staysWithin_gap.bind fun _ => staysWithin_phrase filled.2

theorem advances_word : word.Advances := (advances_some1 _).bind fun _ => staysWithin_pure _

theorem advances_quotedName (first last : Char) : (quotedName first last).Advances :=
  (advances_char first).bind fun _ => (advances_some1 _).staysWithin.bind fun _ =>
    (advances_char last).staysWithin.bind fun _ => staysWithin_pure _

theorem advances_name : name.Advances :=
  (advances_quotedName _ _).orElse <| (advances_quotedName _ _).orElse <|
    (advances_quotedName _ _).orElse advances_word

theorem staysWithin_qualifiedName : qualifiedName.StaysWithin :=
  advances_name.staysWithin.bind fun _ =>
    (staysWithin_gap.bind fun _ => (advances_char '.').staysWithin.bind fun _ =>
      staysWithin_gap.bind fun _ => advances_name.staysWithin).many.bind fun _ => staysWithin_pure _

theorem stringTail?_suffix {s content rest : List Char} (h : stringTail? s = some (content, rest)) :
    rest <:+ s ∧ rest.length < s.length := by
  have behind (c : Char) {s : List Char} (within : rest <:+ s) :
      rest <:+ c :: s ∧ rest.length < (c :: s).length :=
    ⟨within.trans (List.suffix_cons c s), Nat.lt_succ_of_le within.length_le⟩
  fun_induction stringTail? s generalizing content with
  | case1 s ih =>
    obtain ⟨⟨more, last⟩, read, he⟩ := Option.map_eq_some_iff.1 h
    cases he
    exact behind _ (behind _ (ih read).1).1
  | case2 =>
    cases h
    exact behind _ List.suffix_rfl
  | case3 c s _ _ ih =>
    obtain ⟨⟨more, last⟩, read, he⟩ := Option.map_eq_some_iff.1 h
    cases he
    exact behind _ (ih read).1
  | case4 => cases h

theorem advances_stringLiteral : stringLiteral.Advances := by
  have letter : (Scan.char 'N' <|> Scan.char 'n').StaysWithin :=
    ((advances_char 'N').orElse (advances_char 'n')).staysWithin
  refine letter.optional.bind_advances fun _ => (advances_char _).bind fun _ => ?_
  intro s a rest h
  obtain ⟨⟨content, last⟩, read, he⟩ := Option.map_eq_some_iff.1 h
  cases he
  exact (stringTail?_suffix read).1

theorem advances_numeral : numeral.Advances := by
  have sign : (Scan.char '-' <|> Scan.char '+').StaysWithin :=
    ((advances_char '-').orElse (advances_char '+')).staysWithin
  have fraction : (do Scan.char '.'; digitRun : Scan (List Char)).StaysWithin :=
    (advances_char '.').staysWithin.bind fun _ => (advances_some1 _).staysWithin
  have digits : (do
      let _ ← Scan.optional (Scan.char '-' <|> Scan.char '+')
      let _ ← digitRun
      Scan.optional (do Scan.char '.'; digitRun) : Scan (Option (List Char))).Advances :=
    sign.optional.bind_advances fun _ => (advances_some1 _).bind fun _ => fraction.optional
  exact digits.consumed.bind fun _ => staysWithin_pure _

theorem advances_group : group.Advances := by
  intro s inner rest h
  have := group_length h
  refine ⟨?_, by omega⟩
  obtain ⟨rfl, -⟩ := group_eq_some_iff.1 h
  exact (List.suffix_cons ')' rest).trans ((List.suffix_append inner _).trans (List.suffix_cons _ _))

theorem advances_call : call.Advances := by
  have text :
      (do let _ ← word; Scan.optional (do gap; group) : Scan (Option (List Char))).Advances :=
    advances_word.bind fun _ => (staysWithin_gap.bind fun _ => advances_group.staysWithin).optional
  exact text.consumed.bind fun _ => staysWithin_pure _

theorem advances_plainDefault : plainDefault.Advances := by
  intro s a rest h
  rw [plainDefault] at h
  split at h
  · rename_i read
    cases h
    exact advances_stringLiteral read
  · obtain ⟨⟨shown, last⟩, read, he⟩ := Option.map_eq_some_iff.1 h
    cases he
    exact advances_numeral read

/-- What is left of a default is what its literal, its group or its call leaves. -/
theorem advances_defaultValue : Scan.Advances defaultValue := by
  intro s a rest h
  rw [defaultValue] at h
  split at h
  · rename_i read
    cases h
    exact advances_plainDefault read
  · split at h
    · rename_i inner last read
      have shorter := advances_group read
      dsimp only at h
      split at h
      · split at h
        · cases h
          exact shorter
        · cases h
          exact shorter
      · cases h
        exact shorter
    · obtain ⟨⟨shown, last⟩, read, he⟩ := Option.map_eq_some_iff.1 h
      cases he
      exact advances_call read

theorem advances_constraintName : constraintName.Advances :=
  (advances_keyword (by decide)).bind fun _ => staysWithin_gap.bind fun _ =>
    advances_name.staysWithin.bind fun _ => staysWithin_gap

theorem staysWithin_optionalGroup : optionalGroup.StaysWithin :=
  (staysWithin_gap.bind fun _ => advances_group.staysWithin).optional.bind fun _ =>
    staysWithin_pure _

theorem staysWithin_optionalEquals : optionalEquals.StaysWithin :=
  ((advances_char '=').staysWithin.bind fun _ => staysWithin_gap).optional.bind fun _ =>
    staysWithin_pure _

theorem staysWithin_referentialAction : referentialAction.StaysWithin := by
  refine .orElse ?_ (.orElse ?_ (.orElse ?_ (.orElse ?_ ?_)))
  · exact (advances_keyword (by decide)).staysWithin.bind fun _ => staysWithin_gap.bind fun _ =>
      (advances_oneOf (by decide)).staysWithin
  · exact staysWithin_phrase (by decide)
  · exact (advances_keyword (by decide)).staysWithin
  · exact (advances_keyword (by decide)).staysWithin
  · exact advances_defaultValue.staysWithin.bind fun _ => staysWithin_pure _

theorem advances_ignoredConstraint : ignoredConstraint.Advances := by
  have named : (do gap; optionalEquals; let _ ← name : Scan Unit).StaysWithin :=
    staysWithin_gap.bind fun _ => staysWithin_optionalEquals.bind fun _ =>
      advances_name.staysWithin.bind fun _ => staysWithin_pure _
  refine .orElse (advances_oneOf (by decide)) (.orElse ?_ (.orElse ?_ (.orElse ?_ (.orElse ?_
    (.orElse ?_ advances_constraintName)))))
  · exact (advances_phrase (by decide)).bind fun _ => named
  · exact (advances_oneOf (by decide)).bind fun _ => named
  · exact (advances_keyword (by decide)).bind fun _ => staysWithin_gap.bind fun _ =>
      advances_stringLiteral.staysWithin.bind fun _ => staysWithin_pure _
  · exact (advances_keyword (by decide)).bind fun _ => staysWithin_gap.bind fun _ =>
      (advances_oneOf (by decide)).staysWithin.bind fun _ => staysWithin_gap.bind fun _ =>
        staysWithin_referentialAction
  · exact (advances_keyword (by decide)).bind fun _ => staysWithin_gap.bind fun _ =>
      staysWithin_qualifiedName.bind fun _ => staysWithin_optionalGroup

theorem advances_columnConstraint : columnConstraint.Advances := by
  refine .orElse ?_ (.orElse ?_ (.orElse ?_ (.orElse ?_ (.orElse ?_ (.orElse ?_ (.orElse ?_
    (.orElse ?_ ?_)))))))
  · exact (advances_phrase (by decide)).bind fun _ =>
      (staysWithin_gap.bind fun _ => (advances_oneOf (by decide)).staysWithin).optional.bind
        fun _ => staysWithin_pure _
  · exact (advances_phrase (by decide)).bind fun _ => staysWithin_pure _
  · exact (advances_keyword (by decide)).bind fun _ => staysWithin_pure _
  · exact (advances_oneOf (by decide)).bind fun _ => staysWithin_pure _
  · exact (advances_keyword (by decide)).bind fun _ => staysWithin_optionalGroup.bind fun _ =>
      staysWithin_pure _
  · exact (advances_keyword (by decide)).bind fun _ =>
      (staysWithin_gap.bind fun _ => (advances_keyword (by decide)).staysWithin).optional.bind
        fun _ => staysWithin_pure _
  · exact (advances_keyword (by decide)).bind fun _ => staysWithin_gap.bind fun _ =>
      advances_defaultValue.consumed.staysWithin.bind fun _ => staysWithin_pure _
  · exact (advances_keyword (by decide)).bind fun _ => staysWithin_gap.bind fun _ =>
      advances_group.staysWithin.bind fun _ => staysWithin_pure _
  · exact advances_ignoredConstraint.bind fun _ => staysWithin_pure _

theorem advances_comma : comma.Advances :=
  staysWithin_gap.bind_advances fun _ => (advances_char ',').bind fun _ => staysWithin_gap

end TableLoad.Ddl
