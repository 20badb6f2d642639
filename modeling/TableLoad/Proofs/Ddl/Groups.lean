import TableLoad.Proofs.Ddl.Closed
import TableLoad.Proofs.Text.Blank

/-! # Groups in parentheses

A group ends where the parentheses and quotes behind its opening are closed but for one.  So what
follows its end does not matter, and the group stays one when blanks go at its ends.
-/
namespace TableLoad.Ddl
open Text

/-- The open parentheses and the open quote behind one more character, unless it closes the
group. -/
def groupStep (depth : Nat) (quote? : Option Char) (c : Char) : Option (Nat × Option Char) :=
  match quote? with
  | some q => some (depth, if c = q then none else some q)
  | none =>
    if isQuote c then some (depth, some c)
    else if c = '(' then some (depth + 1, none)
    else if c = ')' then
      match depth with
      | 0 => none
      | depth + 1 => some (depth, none)
    else some (depth, none)

def groupState (state : Nat × Option Char) (s : List Char) : Option (Nat × Option Char) :=
  s.foldlM (fun state c => groupStep state.1 state.2 c) state

@[simp] theorem groupState_nil (state : Nat × Option Char) : groupState state [] = some state := rfl

theorem groupState_cons (state : Nat × Option Char) (c : Char) (s : List Char) :
    groupState state (c :: s) =
      (groupStep state.1 state.2 c).bind fun next => groupState next s :=
  List.foldlM_cons

theorem groupState_append (state : Nat × Option Char) (s t : List Char) :
    groupState state (s ++ t) = (groupState state s).bind fun next => groupState next t :=
  List.foldlM_append

theorem groupStep_eq_none_iff {depth : Nat} {quote? : Option Char} {c : Char} :
    groupStep depth quote? c = none ↔ depth = 0 ∧ quote? = none ∧ c = ')' := by
  rw [groupStep.eq_def]
  cases quote? with
  | some q => simp
  | none =>
    have quote : isQuote ')' = false := by decide
    by_cases close : c = ')'
    · subst close
      cases depth <;> simp [quote]
    · simp only [close, if_false, and_false]
      split
      · simp
      · split <;> simp

theorem groupTail?_cons (depth : Nat) (quote? : Option Char) (c : Char) (s : List Char) :
    groupTail? depth quote? (c :: s) =
      match groupStep depth quote? c with
      | some (depth, quote?) => before [c] (groupTail? depth quote? s)
      | none => some ([], s) := by
  rw [groupTail?.eq_def, groupStep.eq_def]
  cases quote? with
  | some q => rfl
  | none =>
    simp only
    split
    · rfl
    · split
      · rfl
      · split
        · cases depth <;> rfl
        · rfl

/-- The end of a group is the first closing parenthesis with none open before it. -/
theorem groupTail?_eq_some_iff {depth : Nat} {quote? : Option Char} {s inner rest : List Char} :
    groupTail? depth quote? s = some (inner, rest) ↔
      s = inner ++ ')' :: rest ∧ groupState (depth, quote?) inner = some (0, none) := by
  induction s generalizing depth quote? inner with
  | nil => simp [groupTail?]
  | cons c s ih =>
    rw [groupTail?_cons]
    cases hstep : groupStep depth quote? c with
    | none =>
      obtain ⟨rfl, rfl, rfl⟩ := groupStep_eq_none_iff.1 hstep
      constructor
      · rintro ⟨⟩
        exact ⟨rfl, rfl⟩
      · rintro ⟨whole, state⟩
        cases inner with
        | nil => rw [(List.cons.inj whole).2]
        | cons d inner =>
          obtain ⟨rfl, -⟩ := List.cons.inj whole
          rw [groupState_cons, hstep] at state
          cases state
    | some next =>
      constructor
      · intro read
        obtain ⟨⟨more, last⟩, read, same⟩ := Option.map_eq_some_iff.1 read
        cases same
        obtain ⟨rfl, state⟩ := ih.1 read
        exact ⟨rfl, by rw [List.singleton_append, groupState_cons, hstep]; exact state⟩
      · rintro ⟨whole, state⟩
        cases inner with
        | nil =>
          obtain ⟨rfl, -⟩ := List.cons.inj whole
          obtain ⟨rfl, rfl⟩ := Prod.mk.inj (Option.some.inj state)
          cases hstep
        | cons d inner =>
          obtain ⟨rfl, behind⟩ := List.cons.inj whole
          rw [groupState_cons, hstep] at state
          have read := ih.2 ⟨behind, state⟩
          simp only [read, before, Option.map_some, List.singleton_append]

/-- A group is read whatever follows it exactly if its inside closes what it opens. -/
theorem group_eq_some_iff {s inner rest : List Char} : group s = some (inner, rest) ↔
    s = '(' :: (inner ++ ')' :: rest) ∧ groupState (0, none) inner = some (0, none) := by
  cases s with
  | nil => simp [group, bind, Scan.char]
  | cons c s =>
    by_cases opening : c = '('
    · subst opening
      change groupTail? 0 none s = _ ↔ _
      rw [groupTail?_eq_some_iff, List.cons.injEq, and_iff_right rfl]
    · rw [group_refused opening, List.cons.injEq]
      simp [opening]

theorem groupStep_blank {c : Char} (h : isBlank c = true) {state : Nat × Option Char}
    (quote : ∀ q ∈ state.2, isQuote q = true) : groupStep state.1 state.2 c = some state := by
  have plain : isQuote c = false ∧ c ≠ '(' ∧ c ≠ ')' := by
    have every : ∀ d ∈ everyBlank, isQuote d = false ∧ d ≠ '(' ∧ d ≠ ')' := by decide
    exact every c (mem_everyBlank_of_isBlank h)
  obtain ⟨depth, quote?⟩ := state
  cases quote? with
  | none => simp [groupStep, plain]
  | some q =>
    have other : c ≠ q := by
      rintro rfl
      rw [quote c rfl] at plain
      exact absurd plain.1 (by decide)
    simp [groupStep, other]

theorem isQuote_of_groupStep {state next : Nat × Option Char} {c : Char}
    (h : groupStep state.1 state.2 c = some next) (quote : ∀ q ∈ state.2, isQuote q = true) :
    ∀ q ∈ next.2, isQuote q = true := by
  obtain ⟨depth, quote?⟩ := state
  rw [groupStep.eq_def] at h
  cases quote? with
  | some q =>
    cases h
    dsimp only
    split
    · simp
    · exact quote
  | none =>
    simp only at h
    split at h
    · rename_i opened
      cases h
      simpa using opened
    · split at h
      · cases h
        simp
      · split at h
        · cases depth <;> cases h
          simp
        · cases h
          simp

section Blanks
variable {state next : Nat × Option Char} {s : List Char}

theorem isQuote_of_groupState (h : groupState state s = some next)
    (quote : ∀ q ∈ state.2, isQuote q = true) : ∀ q ∈ next.2, isQuote q = true := by
  induction s generalizing state with
  | nil =>
    cases h
    exact quote
  | cons c s ih =>
    rw [groupState_cons] at h
    obtain ⟨middle, step, more⟩ := Option.bind_eq_some_iff.1 h
    exact ih more (isQuote_of_groupStep step quote)

theorem groupState_blanks (blanks : ∀ c ∈ s, isBlank c = true)
    (quote : ∀ q ∈ state.2, isQuote q = true) : groupState state s = some state := by
  induction s with
  | nil => rfl
  | cons c s ih =>
    rw [List.forall_mem_cons] at blanks
    rw [groupState_cons, groupStep_blank blanks.1 quote]
    exact ih blanks.2

/-- The inside of a group stays one without the blanks at its ends. -/
theorem groupState_trimmed (h : groupState (0, none) s = some (0, none)) :
    groupState (0, none) (trimmed s) = some (0, none) := by
  obtain ⟨front, back, whole, frontBlank, backBlank⟩ := exists_blanks_trimmed s
  rw [whole, groupState_append, groupState_blanks frontBlank (by simp), Option.bind_some,
    groupState_append] at h
  obtain ⟨state, inside, last⟩ := Option.bind_eq_some_iff.1 h
  rw [groupState_blanks backBlank (isQuote_of_groupState inside (by simp))] at last
  rw [inside, last]

end Blanks

end TableLoad.Ddl
