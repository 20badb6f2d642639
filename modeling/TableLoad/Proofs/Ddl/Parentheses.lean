import TableLoad.Proofs.Ddl.Grammar
import TableLoad.Proofs.Ddl.Standing

/-! # Parentheses around defaults

A default that is read to its end leaves no quote and no parenthesis open, so a pair of parentheses
around it closes where it ends, and what stands between them is read as before.  A comment between
a word and its arguments is the exception: it may hold a quote or a parenthesis of its own, which a
group does not pass over.

Every look inside parentheses spends one that opens, so there are no more looks than these.
-/
namespace TableLoad.Ddl
open Text Scan

section Closing
variable {s inner : List Char}

/-- Parentheses that are open around a text stay open in it. -/
theorem groupStep_add {depth depth' : Nat} {quote? quote?' : Option Char} {c : Char}
    (h : groupStep depth quote? c = some (depth', quote?')) (more : Nat) :
    groupStep (depth + more) quote? c = some (depth' + more, quote?') := by
  rw [groupStep.eq_def] at h ⊢
  cases quote? with
  | some q =>
    cases h
    rfl
  | none => grind

theorem groupState_add {state next : Nat × Option Char} (h : groupState state s = some next)
    (more : Nat) : groupState (state.1 + more, state.2) s = some (next.1 + more, next.2) := by
  induction s generalizing state with
  | nil =>
    cases h
    rfl
  | cons c s ih =>
    rw [groupState_cons] at h ⊢
    obtain ⟨middle, step, rest⟩ := Option.bind_eq_some_iff.1 h
    rw [groupStep_add step more]
    exact ih rest

theorem groupState_group (h : groupState (0, none) inner = some (0, none)) :
    groupState (0, none) ('(' :: (inner ++ [')'])) = some (0, none) := by
  have opening : groupStep 0 none '(' = some (1, none) := rfl
  have closing : groupState (1, none) [')'] = some (0, none) := rfl
  have inside : groupState (1, none) inner = some (1, none) := groupState_add h 1
  rw [groupState_cons, opening, Option.bind_some, groupState_append, inside, Option.bind_some,
    closing]

theorem Closed.groupState_eq (h : Closed s) : groupState (0, none) s = some (0, none) :=
  (group_eq_some_iff.1 (group_run h [])).2

end Closing

/-- A text that may stand between parentheses: it closes what it opens, and no blank is at its
ends. -/
structure IsBody (s : List Char) : Prop where
  filled : s ≠ []
  trim : IsTrimmed s
  closed : groupState (0, none) s = some (0, none)

section Bodies
variable {s rest content : List Char}

/-- Of a string, all apostrophes but the last one are doubled. -/
theorem stringTail?_spec (h : stringTail? s = some (content, rest)) :
    s = doubling ['\''] content ++ '\'' :: rest := by
  fun_induction stringTail? s generalizing content with
  | case1 s ih =>
    obtain ⟨⟨more, last⟩, read, same⟩ := Option.map_eq_some_iff.1 h
    cases same
    rw [ih read]
    rfl
  | case2 s single =>
    cases h
    rfl
  | case3 c s doubled last ih =>
    obtain ⟨⟨more, left⟩, read, same⟩ := Option.map_eq_some_iff.1 h
    cases same
    have other : ¬ c = '\'' := last
    rw [ih read]
    simp [other]
  | case4 => cases h

theorem isBody_of_stringLiteral {text : String} (h : stringLiteral s = some (text, [])) :
    IsBody s := by
  have letter := ((char_reads 'N').orElse (char_reads 'n')).optional
  obtain ⟨_, middle, mark, read⟩ := exists_of_bind h
  obtain ⟨shown, rfl, marked⟩ := letter mark
  obtain ⟨_, behind, opening, read⟩ := exists_of_bind read
  obtain ⟨_, rfl, rfl⟩ := char_reads '\'' opening
  obtain ⟨⟨content, last⟩, tail, same⟩ := Option.map_eq_some_iff.1 read
  cases same
  obtain rfl := stringTail?_spec tail
  have closed : Closed ('\'' :: (doubling ['\''] content ++ ['\''])) :=
    .doubled (by decide) content .nil
  have letters : ∀ c ∈ shown, isInert c = true := by
    rcases marked with rfl | rfl | rfl <;> decide
  refine ⟨by simp, ⟨?_, ?_⟩, ((Closed.of_inert letters).append closed).groupState_eq⟩
  · rcases marked with rfl | rfl | rfl <;> simp <;> decide
  · rw [List.singleton_append, ← List.cons_append, ← List.append_assoc, List.getLast?_concat]
    rintro c ⟨⟩
    decide

theorem isBody_of_numeral (h : IsNumeral s) : IsBody s where
  filled := by
    obtain ⟨c, t, rfl, -⟩ := h.exists_cons
    exact List.cons_ne_nil c t
  trim := by
    obtain ⟨⟨c, t, rfl, -, filled, -⟩, last⟩ := startsLiteral_numeral h
    exact ⟨by simpa using filled, last⟩
  closed := h.closed.groupState_eq

theorem isBody_of_plainDefault {value : Default} (h : plainDefault s = some (value, [])) :
    IsBody s := by
  rw [plainDefault] at h
  split at h
  · rename_i read
    cases h
    exact isBody_of_stringLiteral read
  · obtain ⟨⟨shown, last⟩, read, same⟩ := Option.map_eq_some_iff.1 h
    cases same
    obtain ⟨whole, numeral⟩ := numeral_spec read
    rw [List.append_nil] at whole
    exact whole ▸ isBody_of_numeral numeral

theorem isBody_parentheses (h : groupState (0, none) content = some (0, none)) :
    IsBody ('(' :: (content ++ [')'])) where
  filled := List.cons_ne_nil _ _
  trim := by
    constructor
    · rintro c ⟨⟩
      decide
    · rw [← List.cons_append, List.getLast?_concat]
      rintro c ⟨⟩
      decide
  closed := groupState_group h

theorem IsGap.blank_of_uncommented {g x : List Char} (h : IsGap g)
    (free : Ddl.uncommented .plain (g ++ x) = g ++ x) : ∀ c ∈ g, isGapChar c = true := by
  induction h with
  | nil => simp
  | @blank c g blank _ ih =>
    rw [List.cons_append, uncommented_inert (isInert_of_isGapChar blank)] at free
    rw [List.forall_mem_cons]
    exact ⟨blank, ih (List.cons.inj free).2⟩
  | @comment p g comment _ _ =>
    obtain ⟨filled, blank⟩ := comment.uncommented_blank
    obtain ⟨b, blanks, space⟩ := List.exists_cons_of_ne_nil filled
    obtain ⟨c, text, rfl, sign⟩ := comment.exists_cons
    rw [List.append_assoc, comment.uncommented_append, space] at free
    obtain rfl : b = c := (List.cons.inj free).1
    have gapChar : isGapChar b = true := blank b (space ▸ List.mem_cons_self)
    rcases sign with rfl | rfl <;> exact absurd gapChar (by decide)

theorem isBody_of_call {word behind : List Char} (h : IsCall word behind)
    (free : uncommented .plain (word ++ behind) = word ++ behind) : IsBody (word ++ behind) where
  filled := by simp [h.filled]
  trim := isTrimmed_call h
  closed := by
    have letters : ∀ c ∈ word, isInert c = true := fun c hc => isInert_of_isWordChar (h.word c hc)
    rcases h.behind with rfl | ⟨g, inner, gap, inside, rfl⟩
    · rw [List.append_nil]
      exact (Closed.of_inert letters).groupState_eq
    · rw [(ScansAlone.word h.word).comments, uncommented_of_word h.word,
        List.append_right_inj] at free
      have blank := gap.blank_of_uncommented free
      have front : Closed (word ++ g) := by
        refine (Closed.of_inert letters).append (.of_inert fun c hc => ?_)
        exact isInert_of_isGapChar (blank c hc)
      rw [← List.append_assoc, groupState_append, front.groupState_eq]
      exact groupState_group inside

end Bodies

/-- What is read to its end as a default may stand between parentheses. -/
theorem isBody_of_defaultValue {s : List Char} {value : Default}
    (h : defaultValue s = some (value, [])) (free : uncommented .plain s = s) : IsBody s := by
  rw [defaultValue_eq] at h
  rcases orElse_cases h with plain | h
  · exact isBody_of_plainDefault plain
  · rcases orElse_cases h with opened | called
    · obtain ⟨inner, rest, opened, same⟩ := exists_of_bind opened
      cases same
      obtain ⟨rfl, inside⟩ := group_eq_some_iff.1 opened
      exact isBody_parentheses inside
    · obtain ⟨shown, rest, read, same⟩ := exists_of_bind called
      cases same
      obtain ⟨word, behind, isCall, rfl, rfl⟩ := exists_of_call read
      rw [List.append_nil] at free ⊢
      exact isBody_of_call isCall free

section Layers
variable {s : List Char} {value : Default}

/-- The text in pairs of parentheses, each with what stands in it before and behind the text; the
first pair is the outermost. -/
def parenthesized : (layers : List (List Char × List Char)) → List Char → List Char
  | [], s => s
  | (front, back) :: layers, s => '(' :: (front ++ (parenthesized layers s ++ back) ++ [')'])

/-- A pair of parentheses around a default that is read to its end. -/
theorem defaultValue_parentheses {front back : List Char} (body : IsBody s)
    (h : defaultValue s = some (value, [])) (frontBlank : ∀ c ∈ front, isBlank c = true)
    (backBlank : ∀ c ∈ back, isBlank c = true) :
    IsBody ('(' :: (front ++ (s ++ back) ++ [')'])) ∧
      defaultValue ('(' :: (front ++ (s ++ back) ++ [')'])) = some (value, []) := by
  have inside : groupState (0, none) (front ++ (s ++ back)) = some (0, none) := by
    rw [groupState_append, groupState_blanks frontBlank (by simp), Option.bind_some,
      groupState_append, body.closed, Option.bind_some, groupState_blanks backBlank (by simp)]
  refine ⟨isBody_parentheses inside, defaultValue_group (front ++ (s ++ back)) rfl ?_ ?_⟩
  · exact group_eq_some_iff.2 ⟨rfl, inside⟩
  · rw [body.trim.trimmed_between body.filled frontBlank backBlank, h]

/-- Any number of pairs: with each of them, the text stays one that may stand between
parentheses. -/
theorem defaultValue_parenthesized {layers : List (List Char × List Char)} (body : IsBody s)
    (h : defaultValue s = some (value, []))
    (blank : ∀ layer ∈ layers, ∀ c ∈ layer.1 ++ layer.2, isBlank c = true) :
    IsBody (parenthesized layers s) ∧
      defaultValue (parenthesized layers s) = some (value, []) := by
  induction layers with
  | nil => exact ⟨body, h⟩
  | cons layer layers ih =>
    obtain ⟨front, back⟩ := layer
    rw [List.forall_mem_cons, List.forall_mem_append] at blank
    obtain ⟨⟨frontBlank, backBlank⟩, blank⟩ := blank
    obtain ⟨inner, read⟩ := ih blank
    exact defaultValue_parentheses inner read frontBlank backBlank

end Layers

section Looks
variable {s inner rest : List Char}

/-- What a group stands for, given its body and what is read of that. -/
def bodyDefault (body : List Char) : Option (Default × List Char) → Default
  | some (value, last) =>
    if (afterGap last).isEmpty then value
    else .expression (String.ofList ('(' :: (body ++ [')'])))
  | none => .expression (String.ofList ('(' :: (body ++ [')'])))

/-- A default, read with a bounded number of looks, each inside the parentheses of the one before;
nothing if they are not enough. -/
def defaultWithin? : (looks : Nat) → List Char → Option (Option (Default × List Char))
  | 0, _ => none
  | looks + 1, s =>
    match plainDefault s with
    | some result => some (some result)
    | none =>
      match group s with
      | some (inner, rest) =>
        (defaultWithin? looks (trimmed inner)).map fun read =>
          some (bodyDefault (trimmed inner) read, rest)
      | none => some ((call s).map fun (shown, rest) => (wordDefault shown, rest))

theorem defaultValue_of_group (plain : plainDefault s = none)
    (opened : group s = some (inner, rest)) :
    defaultValue s =
      some (bodyDefault (trimmed inner) (defaultValue (trimmed inner)), rest) := by
  have same : groupDefault inner = bodyDefault (trimmed inner) (defaultValue (trimmed inner)) := by
    rw [groupDefault]
    rfl
  rw [← same]
  refine (congrFun defaultValue_eq s).trans ((orElse_refused plain).trans ?_)
  exact orElse_run (bind_run opened)

theorem defaultValue_of_refused (plain : plainDefault s = none) (refused : group s = none) :
    defaultValue s = (call s).map fun (shown, rest) => (wordDefault shown, rest) := by
  refine (congrFun defaultValue_eq s).trans ((orElse_refused plain).trans ?_)
  refine (orElse_refused (bind_refused refused)).trans ?_
  cases read : call s with
  | some result => exact bind_run read
  | none => exact bind_refused read

/-- A look inside a group leaves a parenthesis that opens behind. -/
theorem count_trimmed_lt (opened : group s = some (inner, rest)) :
    (trimmed inner).count '(' < s.count '(' := by
  obtain ⟨rfl, -⟩ := group_eq_some_iff.1 opened
  obtain ⟨front, back, whole, -, -⟩ := exists_blanks_trimmed inner
  have parts := congrArg (List.count '(') whole
  rw [List.count_append, List.count_append] at parts
  rw [List.count_cons_self, List.count_append]
  omega

theorem defaultWithin?_eq {looks : Nat} (enough : s.count '(' < looks) :
    defaultWithin? looks s = some (defaultValue s) := by
  induction looks generalizing s with
  | zero => exact absurd enough (Nat.not_lt_zero _)
  | succ looks ih =>
    rw [defaultWithin?]
    cases plain : plainDefault s with
    | some result => rw [defaultValue_plain plain]
    | none =>
      cases opened : group s with
      | some result =>
        have fewer := count_trimmed_lt opened
        rw [defaultValue_of_group plain opened]
        have inside := ih (s := trimmed result.1) (by omega)
        simp only [inside, Option.map_some]
      | none => rw [defaultValue_of_refused plain opened]

end Looks

/-- Parentheses around a default do not count, and it takes a bounded number of looks inside them
to read one: a text that is read to its end, and in which no comment starts outside of quotes (one
without the marks of comments is such a text by `uncommented_eq_self`), is read to its end as the
same default in any number of pairs of parentheses, whatever blanks stand in them. -/
theorem defaultValue_redundant_parentheses (s : List Char) :
    (∀ looks, s.count '(' < looks → defaultWithin? looks s = some (defaultValue s)) ∧
      ∀ value layers, defaultValue s = some (value, []) → uncommented .plain s = s →
        (∀ layer ∈ layers, ∀ c ∈ layer.1 ++ layer.2, isBlank c = true) →
          defaultValue (parenthesized layers s) = some (value, []) := by
  refine ⟨fun looks enough => defaultWithin?_eq enough, ?_⟩
  intro value layers read free blank
  exact (defaultValue_parenthesized (isBody_of_defaultValue read free) read blank).2

/-- A text with an apostrophe and a parenthesis in it, in two pairs of parentheses. -/
theorem defaultValue_redundant_parentheses_text :
    let s := "N'it''s ('".toList
    defaultValue s = some (.text "it's (", []) ∧ uncommented .plain s = s ∧
      defaultWithin? 2 s = some (defaultValue s) ∧
        defaultValue "( (\tN'it''s (' ))".toList = some (.text "it's (", []) := by
  intro s
  have read : defaultValue s = some (.text "it's (", []) := defaultValue_plain rfl
  have free : uncommented .plain s = s := uncommented_eq_self (by decide +kernel) (by decide +kernel)
  obtain ⟨looks, layers⟩ := defaultValue_redundant_parentheses s
  refine ⟨read, free, looks 2 (by decide), ?_⟩
  exact layers (.text "it's (") [([' '], []), (['\t'], [' '])] read free (by decide)

/-- The parenthesis in a comment opens one for a group, and for a call it does not. -/
example : defaultValue "f/*(*/()".toList = some (.expression "f/*(*/()", []) ∧
    defaultValue "(f/*(*/())".toList = none := by
  decide +kernel

end TableLoad.Ddl
