import TableLoad.Proofs.Ddl.AlikeTokens

/-! # Entries of texts that are alike

Constraints, columns and keys are read the same from texts that differ in their comments only, and
so is the head of a statement.
-/
namespace TableLoad.Ddl
open Text Scan

section
variable {special r r' : List Char}

/-! ### Types -/

def argumentList : Scan (List String) := do
  gap
  let args ← Scan.separated comma typeArgument
  gap
  return args

theorem typeArguments_eq :
    typeArguments = do Scan.char '('; let args ← argumentList; Scan.char ')'; return args := by
  simp [typeArguments, argumentList]

theorem keeps_argumentList (ends : EndAlike r r') (other : Apart ',' r r') :
    Keeps (Alike special r r') argumentList := by
  have comma : Keeps (Alike special r r') comma :=
    (keeps_gap ends).bind fun _ =>
      (copies_char (by decide) (by decide) (by decide) other).keeps.bind fun _ => keeps_gap ends
  have argument : Keeps (Alike special r r') typeArgument :=
    (copies_stringLiteral ends).keeps.orElse <|
      (copies_numeral ends).keeps.orElse (copies_word ends).keeps
  have within : typeArgument.StaysWithin :=
    advances_stringLiteral.staysWithin.orElse <|
      advances_numeral.staysWithin.orElse advances_word.staysWithin
  refine (keeps_gap ends).bind fun _ => Keeps.bind ?_ fun args => (keeps_gap ends).bind fun _ =>
    keeps_pure args
  exact comma.separated argument (advances_comma.bind fun _ => within)

/-- A parenthesis that closes stands only where both texts end. -/
theorem Alike.eq_rest_or_head?_ne {x y : List Char} (h : Alike special r r' x y) :
    (x = r ∧ y = r') ∨ (x.head? ≠ some ')' ∧ y.head? ≠ some ')') := by
  have comment {p x : List Char} (hp : IsComment p) : (p ++ x).head? ≠ some ')' := by
    obtain ⟨d, p, rfl, rfl | rfl⟩ := hp.exists_cons <;> simp
  cases h with
  | rest => exact .inl ⟨rfl, rfl⟩
  | @plain c x y hc _ _ =>
    have other := (isInert_cases hc).2.2.1
    exact .inr ⟨by simpa using other, by simpa using other⟩
  | sign sign _ _ _ => rcases sign with rfl | rfl <;> exact .inr ⟨by simp, by simp⟩
  | @quoted q content x y hq _ _ =>
    have other : q ≠ ')' := by
      rintro rfl
      exact absurd hq (by decide)
    exact .inr ⟨by simpa using other, by simpa using other⟩
  | bracketed _ _ _ => exact .inr ⟨by simp, by simp⟩
  | group _ _ => exact .inr ⟨by simp, by simp⟩
  | comment hp _ => exact .inr ⟨comment hp, comment hp⟩
  | blank hp filled blanks _ _ =>
    obtain ⟨d, q, rfl⟩ := List.exists_cons_of_ne_nil filled
    have gap := blanks d List.mem_cons_self
    have other : d ≠ ')' := by
      rintro rfl
      exact absurd gap (by decide)
    exact .inr ⟨comment hp, by simpa using other⟩

/-- The arguments of a type end at the parenthesis that closes their group in both texts. -/
theorem keeps_typeArguments (other : Apart '(' r r') :
    Keeps (Alike special r r') typeArguments := by
  intro x y h
  rcases h.at_head (c := '(') (by decide) (by decide) other with ⟨left, right⟩ | ⟨x', y', next,
    ⟨hc, -⟩ | ⟨hq, -⟩ | ⟨he, -⟩ | ⟨-, inner, inside, rfl, rfl⟩⟩
  · exact .inl ⟨bind_refused (char_refused left), bind_refused (char_refused right)⟩
  · exact absurd hc (by decide)
  · exact absurd hq (by decide)
  · exact absurd he (by decide)
  · have ends : EndAlike (')' :: x') (')' :: y') := ⟨_, _, _, _, by decide, by decide, rfl, rfl⟩
    have alike := inside.alike.append ends
    rw [typeArguments_eq, bind_run (char_cons_self _ _), bind_run (char_cons_self _ _)]
    rcases keeps_argumentList ends ⟨by simp, by simp⟩ alike with
      ⟨left, right⟩ | ⟨args, z, z', left, right, last⟩
    · exact .inl ⟨bind_refused left, bind_refused right⟩
    · rw [bind_run left, bind_run right]
      rcases last.eq_rest_or_head?_ne with ⟨rfl, rfl⟩ | ⟨open', open''⟩
      · exact .inr ⟨args, x', y', rfl, rfl, next⟩
      · exact .inl ⟨bind_refused (char_refused open'), bind_refused (char_refused open'')⟩

/-! ### Constraints -/

theorem keeps_optionalGroup (ends : EndAlike r r') (other : Apart '(' r r') :
    Keeps (Alike special r r') optionalGroup :=
  ((keeps_gap ends).bind fun _ => (copies_group other).keeps).optional.bind fun _ => keeps_pure _

theorem keeps_qualifiedName (ends : EndAlike r r') (held : '[' ∈ special) :
    Keeps (Alike special r r') qualifiedName := by
  have point : Keeps (Alike special r r') (Scan.char '.') :=
    (copies_char (by decide) (by decide) (by decide) (ends.apart (by decide))).keeps
  have part : Keeps (Alike special r r') (do gap; Scan.char '.'; gap; name) :=
    (keeps_gap ends).bind fun _ => point.bind fun _ => (keeps_gap ends).bind fun _ =>
      keeps_name ends held
  have advances : (do gap; Scan.char '.'; gap; name : Scan String).Advances :=
    staysWithin_gap.bind_advances fun _ => (advances_char '.').bind fun _ =>
      staysWithin_gap.bind fun _ => advances_name.staysWithin
  exact (keeps_name ends held).bind fun _ => (part.many advances).bind fun _ => keeps_pure _

theorem keeps_constraintName (ends : EndAlike r r') (held : '[' ∈ special) :
    Keeps (Alike special r r') constraintName :=
  (keeps_keyword ends (by decide)).bind fun _ => (keeps_gap ends).bind fun _ =>
    (keeps_name ends held).bind fun _ => keeps_gap ends

theorem keeps_referentialAction (ends : EndAlike r r') (other : Apart '(' r r') :
    Keeps (Alike special r r') referentialAction := by
  refine .orElse ?_ (.orElse ?_ (.orElse ?_ (.orElse ?_ ?_)))
  · exact (keeps_keyword ends (by decide)).bind fun _ => (keeps_gap ends).bind fun _ =>
      keeps_oneOf ends (by decide)
  · exact keeps_phrase ends (by decide)
  · exact keeps_keyword ends (by decide)
  · exact keeps_keyword ends (by decide)
  · exact (copies_defaultValue ends other).keeps.bind fun _ => keeps_pure _

theorem keeps_ignoredConstraint (ends : EndAlike r r') (other : Apart '(' r r')
    (held : '[' ∈ special) : Keeps (Alike special r r') ignoredConstraint := by
  have equals : Keeps (Alike special r r') (Scan.char '=') :=
    (copies_char (by decide) (by decide) (by decide) (ends.apart (by decide))).keeps
  have named : Keeps (Alike special r r') (do gap; optionalEquals; let _ ← name) :=
    (keeps_gap ends).bind fun _ =>
      ((equals.bind fun _ => keeps_gap ends).optional.bind fun _ => keeps_pure _).bind fun _ =>
        (keeps_name ends held).bind fun _ => keeps_pure _
  refine .orElse (keeps_oneOf ends (by decide)) (.orElse ?_ (.orElse ?_ (.orElse ?_ (.orElse ?_
    (.orElse ?_ (keeps_constraintName ends held))))))
  · exact (keeps_phrase ends (by decide)).bind fun _ => named
  · exact (keeps_oneOf ends (by decide)).bind fun _ => named
  · exact (keeps_keyword ends (by decide)).bind fun _ => (keeps_gap ends).bind fun _ =>
      (copies_stringLiteral ends).keeps.bind fun _ => keeps_pure _
  · exact (keeps_keyword ends (by decide)).bind fun _ => (keeps_gap ends).bind fun _ =>
      (keeps_oneOf ends (by decide)).bind fun _ => (keeps_gap ends).bind fun _ =>
        keeps_referentialAction ends other
  · exact (keeps_keyword ends (by decide)).bind fun _ => (keeps_gap ends).bind fun _ =>
      (keeps_qualifiedName ends held).bind fun _ => keeps_optionalGroup ends other

theorem keeps_columnConstraint (ends : EndAlike r r') (other : Apart '(' r r')
    (held : '[' ∈ special) : Keeps (Alike special r r') columnConstraint := by
  refine .orElse ?_ (.orElse ?_ (.orElse ?_ (.orElse ?_ (.orElse ?_ (.orElse ?_ (.orElse ?_
    (.orElse ?_ ?_)))))))
  · exact (keeps_phrase ends (by decide)).bind fun _ =>
      ((keeps_gap ends).bind fun _ => keeps_oneOf ends (by decide)).optional.bind fun _ =>
        keeps_pure _
  · exact (keeps_phrase ends (by decide)).bind fun _ => keeps_pure _
  · exact (keeps_keyword ends (by decide)).bind fun _ => keeps_pure _
  · exact (keeps_oneOf ends (by decide)).bind fun _ => keeps_pure _
  · exact (keeps_keyword ends (by decide)).bind fun _ =>
      (keeps_optionalGroup ends other).bind fun _ => keeps_pure _
  · exact (keeps_keyword ends (by decide)).bind fun _ =>
      ((keeps_gap ends).bind fun _ => keeps_keyword ends (by decide)).optional.bind fun _ =>
        keeps_pure _
  · exact (keeps_keyword ends (by decide)).bind fun _ => (keeps_gap ends).bind fun _ =>
      (copies_defaultValue ends other).consumed.keeps.bind fun _ => keeps_pure _
  · exact (keeps_keyword ends (by decide)).bind fun _ => (keeps_gap ends).bind fun _ =>
      (copies_group other).keeps.bind fun _ => keeps_pure _
  · exact (keeps_ignoredConstraint ends other held).bind fun _ => keeps_pure _

/-! ### Columns -/

/-- What follows the name of a column; where the column stands is left out. -/
def columnTail (columnName : String) : Scan ColumnEntry := do
  gap
  let typeName ← word
  let _ ← Scan.optional (do gap; oneOf ["PRECISION", "VARYING"])
  let args ← Scan.optional (do gap; typeArguments)
  let _ ← Scan.optional do
    gap
    oneOf ["WITHOUT", "WITH"]
    gap
    phrase ["TIME", "ZONE"]
  let constraints ← Scan.many (do gap; columnConstraint)
  return ⟨columnName, typeName, args.getD [], constraints, 0⟩

theorem columnEntry_eq (s : List Char) :
    columnEntry s = (do
      let e ← name >>= columnTail
      return { e with bytesLeft := byteLength s } : Scan ColumnEntry) s := by
  simp [columnEntry, columnTail]

theorem keeps_columnTail (ends : EndAlike r r') (other : Apart '(' r r') (held : '[' ∈ special)
    (columnName : String) : Keeps (Alike special r r') (columnTail columnName) := by
  have gaps : Keeps (Alike special r r') gap := keeps_gap ends
  have zone : Keeps (Alike special r r') (do
      gap
      oneOf ["WITHOUT", "WITH"]
      gap
      phrase ["TIME", "ZONE"]) :=
    gaps.bind fun _ => (keeps_oneOf ends (by decide)).bind fun _ => gaps.bind fun _ =>
      keeps_phrase ends (by decide)
  refine gaps.bind fun _ => (copies_word ends).keeps.bind fun _ => Keeps.bind ?_ fun _ =>
    Keeps.bind ?_ fun _ => zone.optional.bind fun _ => Keeps.bind ?_ fun _ => keeps_pure _
  · exact (gaps.bind fun _ => keeps_oneOf ends (by decide)).optional
  · exact (gaps.bind fun _ => keeps_typeArguments other).optional
  · exact (gaps.bind fun _ => keeps_columnConstraint ends other held).many
      (staysWithin_gap.bind_advances fun _ => advances_columnConstraint)

/-! ### Entries -/

def Entry.unplaced : Entry → Entry
  | .column e => .column { e with bytesLeft := 0 }
  | e => e

def EndEntry (r r' : List Char) : Prop :=
  ∃ stop stop' t t', (stop = ',' ∨ stop = ')') ∧ (stop' = ',' ∨ stop' = ')') ∧ r = stop :: t ∧
    r' = stop' :: t'

theorem EndEntry.endAlike (h : EndEntry r r') : EndAlike r r' := by
  obtain ⟨stop, stop', t, t', marked, marked', rfl, rfl⟩ := h
  exact ⟨stop, stop', t, t', isStop_of_end marked, isStop_of_end marked', rfl, rfl⟩

theorem EndEntry.apart (h : EndEntry r r') : Apart '(' r r' := by
  obtain ⟨stop, stop', t, t', marked, marked', rfl, rfl⟩ := h
  constructor
  · rcases marked with rfl | rfl <;> simp
  · rcases marked' with rfl | rfl <;> simp

theorem atEntryEnd_eq (s : List Char) :
    atEntryEnd s = (afterGap s).head?.any fun c => c == ',' || c == ')' := by
  rw [atEntryEnd]
  cases afterGap s <;> rfl

theorem Alike.atEntryEnd_eq {x y : List Char} (h : Alike special r r' x y)
    (ends : EndEntry r r') : atEntryEnd x = atEntryEnd y := by
  rw [Ddl.atEntryEnd_eq, Ddl.atEntryEnd_eq]
  rcases (h.afterGap ends.endAlike).2 with ⟨left, right⟩ | same
  · obtain ⟨stop, stop', t, t', marked, marked', rfl, rfl⟩ := ends
    rw [left, right]
    rcases marked with rfl | rfl <;> rcases marked' with rfl | rfl <;> rfl
  · rw [same]

/-- A column of a known type that takes up the whole entry, wherever it stands. -/
def unplacedColumn : Scan Entry := fun s =>
  match (name >>= columnTail) s with
  | some (e, rest) =>
    if (TypeFamily.ofName? e.typeName).isSome && atEntryEnd rest then
      some ((Entry.column e).unplaced, rest)
    else none
  | none => none

theorem unplaced_wholeColumn :
    (do return (← wholeColumn).unplaced : Scan Entry) = unplacedColumn := by
  funext s
  rw [unplacedColumn]
  cases read : (name >>= columnTail) s with
  | none =>
    have refused : columnEntry s = none := (columnEntry_eq s).trans (bind_refused read)
    exact bind_refused (by rw [wholeColumn, refused])
  | some result =>
    obtain ⟨e, rest⟩ := result
    have column : columnEntry s = some ({ e with bytesLeft := byteLength s }, rest) :=
      (columnEntry_eq s).trans (bind_run read)
    dsimp only
    split
    · rename_i whole
      have kept : wholeColumn s = some (.column { e with bytesLeft := byteLength s }, rest) := by
        rw [wholeColumn, column]
        exact if_pos whole
      exact (bind_run kept).trans rfl
    · rename_i other
      have refused : wholeColumn s = none := by
        rw [wholeColumn, column]
        exact if_neg other
      exact bind_refused refused

theorem keeps_wholeColumn (ends : EndEntry r r') (held : '[' ∈ special) :
    Keeps (Alike special r r') (do return (← wholeColumn).unplaced) := by
  rw [unplaced_wholeColumn]
  intro x y h
  have read : Keeps (Alike special r r') (name >>= columnTail) :=
    (keeps_name ends.endAlike held).bind (keeps_columnTail ends.endAlike ends.apart held)
  rcases read h with ⟨left, right⟩ | ⟨e, x', y', left, right, next⟩
  · refine .inl ⟨?_, ?_⟩
    · rw [unplacedColumn, left]
    · rw [unplacedColumn, right]
  · rw [unplacedColumn, unplacedColumn, left, right]
    dsimp only
    rw [next.atEntryEnd_eq ends]
    split
    · exact .inr ⟨_, x', y', rfl, rfl, next⟩
    · exact .inl ⟨rfl, rfl⟩

theorem keeps_tableKey (ends : EndAlike r r') (other : Apart '(' r r') (held : '[' ∈ special) :
    Keeps (Alike special r r') tableKey := by
  refine (keeps_constraintName ends held).optional.bind fun _ =>
    (keeps_phrase ends (by decide)).bind fun _ => (keeps_gap ends).bind fun _ =>
      Keeps.bind ?_ fun _ => (copies_group other).keeps.bind fun _ => keeps_pure _
  exact ((keeps_oneOf ends (by decide)).bind fun _ => keeps_gap ends).optional

/-- An entry that is read from end to end: a column or the primary key. -/
def keptEntry : Scan Entry := wholeColumn <|> tableKey

theorem keeps_keptEntry (ends : EndEntry r r') (held : '[' ∈ special) :
    Keeps (Alike special r r') (do return (← keptEntry).unplaced) := by
  rw [keptEntry, orElse_map]
  exact (keeps_wholeColumn ends held).orElse <|
    (keeps_tableKey ends.endAlike ends.apart held).bind fun _ => keeps_pure _

theorem keeps_header (ends : EndAlike r r') (held : '[' ∈ special) :
    Keeps (Alike special r r') header := by
  have gaps : Keeps (Alike special r r') gap := keeps_gap ends
  refine gaps.bind fun _ => (keeps_keyword ends (by decide)).bind fun _ => gaps.bind fun _ =>
    Keeps.bind ?_ fun _ => (keeps_keyword ends (by decide)).bind fun _ => gaps.bind fun _ =>
      Keeps.bind ?_ fun _ => keeps_qualifiedName ends held
  · exact ((keeps_oneOf ends (by decide)).bind fun _ => gaps).optional
  · exact ((keeps_phrase ends (by decide)).bind fun _ => gaps).optional

end

end TableLoad.Ddl
