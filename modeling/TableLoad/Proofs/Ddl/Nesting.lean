import TableLoad.Proofs.Ddl.Parentheses

/-! # Nesting

How deep in parentheses a text ends, and in which quote.  A group ends at the first parenthesis
that brings the depth to zero, and an entry of a table at the first comma or closing parenthesis at
depth zero.  What stands in quotes does not count for either, so an entry goes on behind a group
that starts in it.
-/
namespace TableLoad.Ddl
open Text Scan

/-- The quote that is open behind a text, and how many more parentheses open than close in it;
those in quotes do not count. -/
structure Nesting where
  quote? : Option Char := none
  depth : Int := 0
  deriving DecidableEq

def Nesting.next (n : Nesting) (c : Char) : Nesting :=
  match n.quote? with
  | some q => { n with quote? := if c = q then none else some q }
  | none =>
    if isQuote c then { n with quote? := some c }
    else if c = '(' then { n with depth := n.depth + 1 }
    else if c = ')' then { n with depth := n.depth - 1 }
    else n

def nesting (s : List Char) : Nesting := s.foldl Nesting.next {}

/-- A parenthesis that closes behind the text stands outside quotes and brings the depth to zero. -/
def BringsToZero (s : List Char) : Prop :=
  (nesting s).quote? = none ∧ (nesting (s ++ [')'])).depth = 0

/-- A group and what follows it: no parenthesis before its last one brings the depth to zero. -/
structure IsGroup (s inner rest : List Char) : Prop where
  whole : s = '(' :: (inner ++ ')' :: rest)
  closes : BringsToZero ('(' :: inner)
  first : ∀ front, front ++ [')'] <+: inner → ¬ BringsToZero ('(' :: front)

/-- A comma or a closing parenthesis behind the text, at depth zero and outside quotes. -/
def EndsEntry (s : List Char) (c : Char) : Prop := (c = ',' ∨ c = ')') ∧ nesting s = {}

/-- The text of an entry up to its end, and what is left from there on. -/
structure IsEntryText (s taken rest : List Char) : Prop where
  whole : s = taken ++ rest
  ends : ∃ c more, rest = c :: more ∧ EndsEntry taken c
  first : ∀ front c, front ++ [c] <+: taken → ¬ EndsEntry front c

/-! ### The first stop -/

/-- The rest starts with the first character at which the scan stops, which starts at the given
nesting. -/
def StopsFirst (stop : Nesting → Char → Prop) (n : Nesting) (taken rest : List Char) : Prop :=
  (∃ c more, rest = c :: more ∧ stop (taken.foldl Nesting.next n) c) ∧
    ∀ front c, front ++ [c] <+: taken → ¬ stop (front.foldl Nesting.next n) c

section Stops
variable {stop : Nesting → Char → Prop} {n : Nesting} {c : Char} {taken rest : List Char}

theorem stopsFirst_nil :
    StopsFirst stop n [] rest ↔ ∃ c more, rest = c :: more ∧ stop n c := by
  simp [StopsFirst]

theorem stopsFirst_cons : StopsFirst stop n (c :: taken) rest ↔
    ¬ stop n c ∧ StopsFirst stop (n.next c) taken rest := by
  constructor
  · rintro ⟨here, first⟩
    refine ⟨first [] c (by simp), here, fun front d part => ?_⟩
    exact first (c :: front) d (List.cons_prefix_cons.2 ⟨rfl, part⟩)
  · rintro ⟨pass, here, first⟩
    refine ⟨here, fun front d part => ?_⟩
    cases front with
    | nil =>
      obtain ⟨rfl, -⟩ := List.cons_prefix_cons.1 part
      exact pass
    | cons e front =>
      obtain ⟨rfl, inside⟩ := List.cons_prefix_cons.1 part
      exact first front d inside

end Stops

/-- The scan of a group goes from nesting to nesting; `more` parentheses are open around it. -/
theorem next_of_groupStep {depth depth' : Nat} {quote? quote?' : Option Char} {c : Char}
    (h : groupStep depth quote? c = some (depth', quote?')) (more : Int) :
    Nesting.next ⟨quote?, depth + more⟩ c = ⟨quote?', depth' + more⟩ := by
  rw [groupStep.eq_def] at h
  rw [Nesting.next]
  cases quote? with
  | some q =>
    cases h
    rfl
  | none =>
    dsimp only at h ⊢
    split at h
    · cases h
      rw [if_pos ‹_›]
    · rw [if_neg ‹_›]
      split at h
      · cases h
        rw [if_pos ‹_›]
        simp [Int.add_right_comm]
      · rw [if_neg ‹_›]
        split at h
        · cases depth with
          | zero => cases h
          | succ depth =>
            cases h
            rw [if_pos ‹_›]
            congr 1
            push_cast
            omega
        · cases h
          rw [if_neg ‹_›]

/-! ### Groups -/

def closesGroup (n : Nesting) (c : Char) : Prop := c = ')' ∧ n = { depth := 1 }

theorem closesGroup_iff {depth : Nat} {quote? : Option Char} {c : Char} :
    closesGroup ⟨quote?, depth + 1⟩ c ↔ groupStep depth quote? c = none := by
  rw [groupStep_eq_none_iff, closesGroup, Nesting.mk.injEq]
  constructor
  · rintro ⟨rfl, rfl, zero⟩
    exact ⟨by omega, rfl, rfl⟩
  · rintro ⟨rfl, rfl, rfl⟩
    exact ⟨rfl, rfl, rfl⟩

theorem groupState_iff_stopsFirst (depth : Nat) (quote? : Option Char) (inner rest : List Char) :
    groupState (depth, quote?) inner = some (0, none) ↔
      StopsFirst closesGroup ⟨quote?, depth + 1⟩ inner (')' :: rest) := by
  induction inner generalizing depth quote? with
  | nil =>
    rw [stopsFirst_nil]
    simp [closesGroup, and_comm]
  | cons c inner ih =>
    rw [stopsFirst_cons, groupState_cons, closesGroup_iff]
    cases step : groupStep depth quote? c with
    | none => simp
    | some next =>
      rw [next_of_groupStep step 1, ← ih]
      simp

/-- The text up to the end of a group is counted from its opening parenthesis on. -/
theorem isGroup_iff_stopsFirst {s inner rest : List Char} : IsGroup s inner rest ↔
    s = '(' :: (inner ++ ')' :: rest) ∧
      StopsFirst closesGroup { depth := 1 } inner (')' :: rest) := by
  have closing (front : List Char) :
      BringsToZero ('(' :: front) ↔ closesGroup (front.foldl Nesting.next { depth := 1 }) ')' := by
    have start : nesting ('(' :: front) = front.foldl Nesting.next { depth := 1 } := rfl
    have last : nesting ('(' :: front ++ [')']) = (nesting ('(' :: front)).next ')' := by
      rw [nesting, List.foldl_append]
      rfl
    rw [BringsToZero, last, start]
    obtain ⟨quote?, depth⟩ := front.foldl Nesting.next { depth := 1 }
    cases quote? with
    | some q => simp [closesGroup]
    | none =>
      have closed : (Nesting.next ⟨none, depth⟩ ')').depth = depth - 1 := rfl
      simp only [closed, closesGroup, true_and, Nesting.mk.injEq]
      omega
  constructor
  · rintro ⟨whole, closes, first⟩
    refine ⟨whole, ⟨_, _, rfl, (closing inner).1 closes⟩, ?_⟩
    rintro front c part stop
    obtain rfl := stop.1
    exact first front part ((closing front).2 stop)
  · rintro ⟨whole, ⟨c, more, same, stop⟩, first⟩
    cases same
    exact ⟨whole, (closing inner).2 stop, fun front part closes =>
      first front ')' part ((closing front).1 closes)⟩

theorem group_eq_some_iff_isGroup {s inner rest : List Char} :
    group s = some (inner, rest) ↔ IsGroup s inner rest := by
  rw [group_eq_some_iff, isGroup_iff_stopsFirst,
    groupState_iff_stopsFirst 0 none inner rest]
  rfl

/-! ### Entries -/

def endsEntry (n : Nesting) (c : Char) : Prop := (c = ',' ∨ c = ')') ∧ n = {}

theorem entryEnd?_cons (depth : Nat) (quote? : Option Char) (c : Char) (s : List Char) :
    entryEnd? depth quote? (c :: s) =
      if (c = ',' ∨ c = ')') ∧ depth = 0 ∧ quote? = none then some (c :: s)
      else (groupStep depth quote? c).bind fun next => entryEnd? next.1 next.2 s := by
  rw [entryEnd?.eq_def, groupStep.eq_def]
  cases quote? with
  | some q => simp
  | none =>
    have comma : isQuote ',' = false := by decide
    have close : isQuote ')' = false := by decide
    by_cases quote : isQuote c = true
    · have other : ¬ (c = ',' ∨ c = ')') := by rintro (rfl | rfl) <;> simp_all
      simp [quote, other]
    · cases depth with
      | zero => by_cases open' : c = '(' <;> by_cases close' : c = ')' <;> simp_all
      | succ depth => by_cases open' : c = '(' <;> by_cases close' : c = ')' <;> simp_all

/-- By induction on the text: the scan stops at its first character, or goes on behind it. -/
theorem entryEnd?_eq_some_iff {depth : Nat} {quote? : Option Char} {s rest : List Char} :
    entryEnd? depth quote? s = some rest ↔
      ∃ taken, s = taken ++ rest ∧ StopsFirst endsEntry ⟨quote?, depth⟩ taken rest := by
  induction s generalizing depth quote? with
  | nil =>
    refine ⟨fun h => (by cases h), ?_⟩
    rintro ⟨taken, whole, ⟨c, more, rfl, -⟩, -⟩
    exact absurd whole (by simp)
  | cons c s ih =>
    have stops : (c = ',' ∨ c = ')') ∧ depth = 0 ∧ quote? = none ↔
        endsEntry ⟨quote?, depth⟩ c := by
      simp [endsEntry, and_comm]
    rw [entryEnd?_cons]
    by_cases stop : endsEntry ⟨quote?, depth⟩ c
    · rw [if_pos (stops.2 stop)]
      constructor
      · rintro ⟨rfl⟩
        exact ⟨[], rfl, stopsFirst_nil.2 ⟨c, s, rfl, stop⟩⟩
      · rintro ⟨taken, whole, first⟩
        cases taken with
        | nil => rw [whole, List.nil_append]
        | cons d taken =>
          obtain ⟨rfl, -⟩ := List.cons.inj whole
          exact absurd stop (stopsFirst_cons.1 first).1
    · rw [if_neg fun h => stop (stops.1 h)]
      cases step : groupStep depth quote? c with
      | none =>
        obtain ⟨zero, none, close⟩ := groupStep_eq_none_iff.1 step
        exact absurd (stops.1 ⟨.inr close, zero, none⟩) stop
      | some next =>
        have next_eq := next_of_groupStep step 0
        simp only [Int.add_zero] at next_eq
        rw [Option.bind_some, ih]
        constructor
        · rintro ⟨taken, rfl, first⟩
          exact ⟨c :: taken, rfl, stopsFirst_cons.2 ⟨stop, next_eq ▸ first⟩⟩
        · rintro ⟨taken, whole, first⟩
          cases taken with
          | nil =>
            obtain ⟨d, more, rfl, here⟩ := stopsFirst_nil.1 first
            obtain ⟨rfl, -⟩ := List.cons.inj whole
            exact absurd here stop
          | cons d taken =>
            obtain ⟨rfl, rfl⟩ := List.cons.inj whole
            exact ⟨taken, rfl, next_eq ▸ (stopsFirst_cons.1 first).2⟩

theorem isEntryText_iff_stopsFirst {s taken rest : List Char} :
    IsEntryText s taken rest ↔ s = taken ++ rest ∧ StopsFirst endsEntry {} taken rest :=
  ⟨fun h => ⟨h.whole, h.ends, h.first⟩, fun h => ⟨h.1, h.2.1, h.2.2⟩⟩

theorem consumed_restOfEntry_eq_some_iff {s taken rest : List Char} :
    consumed restOfEntry s = some ((taken, ()), rest) ↔ IsEntryText s taken rest := by
  have run : restOfEntry s = some ((), rest) ↔ entryEnd? 0 none s = some rest := by
    simp [restOfEntry]
  rw [staysWithin_restOfEntry.consumed_eq_some_iff, isEntryText_iff_stopsFirst, run,
    entryEnd?_eq_some_iff]
  refine and_congr_right fun whole => ⟨?_, fun first => ⟨taken, whole, first⟩⟩
  rintro ⟨other, same, first⟩
  exact List.append_cancel_right (whole.symm.trans same) ▸ first

/-! ### Groups in entries -/

/-- In a group nothing ends the entry that it stands in. -/
theorem entryEnd?_append {depth depth' : Nat} {quote? quote?' : Option Char} {s : List Char}
    (h : groupState (depth, quote?) s = some (depth', quote?')) (rest : List Char) :
    entryEnd? (depth + 1) quote? (s ++ rest) = entryEnd? (depth' + 1) quote?' rest := by
  induction s generalizing depth quote? with
  | nil =>
    cases h
    rfl
  | cons c s ih =>
    rw [groupState_cons] at h
    obtain ⟨middle, step, more⟩ := Option.bind_eq_some_iff.1 h
    rw [List.cons_append, entryEnd?_cons, if_neg (by simp), groupStep_add step 1, Option.bind_some]
    exact ih more

theorem entryEnd?_group {s inner rest : List Char} (h : group s = some (inner, rest))
    (depth : Nat) : entryEnd? depth none s = entryEnd? depth none rest := by
  obtain ⟨rfl, inside⟩ := group_eq_some_iff.1 h
  have closed := groupState_add inside depth
  rw [Nat.zero_add] at closed
  rw [entryEnd?_open, entryEnd?_append closed, entryEnd?_close]

theorem consumed_restOfEntry_group {s inner rest : List Char} (h : group s = some (inner, rest))
    (taken last : List Char) : consumed restOfEntry s = some ((taken, ()), last) ↔
      ∃ more, taken = '(' :: (inner ++ ')' :: more) ∧
        consumed restOfEntry rest = some ((more, ()), last) := by
  have same : restOfEntry s = restOfEntry rest := by
    rw [restOfEntry, restOfEntry, entryEnd?_group h]
  obtain ⟨rfl, -⟩ := group_eq_some_iff.1 h
  simp only [staysWithin_restOfEntry.consumed_eq_some_iff, same]
  constructor
  · rintro ⟨whole, read⟩
    obtain ⟨more, rfl⟩ := staysWithin_restOfEntry read
    have parts : '(' :: (inner ++ ')' :: (more ++ last)) =
        '(' :: (inner ++ ')' :: more) ++ last := by simp
    exact ⟨more, List.append_cancel_right (whole.symm.trans parts), rfl, read⟩
  · rintro ⟨more, rfl, rfl, read⟩
    exact ⟨by simp, read⟩

/-- A group is read exactly up to the first parenthesis that brings the depth to zero, and an entry
exactly up to the first comma or closing parenthesis at depth zero; neither is read if there is no
such place.  Wherever a group stands in an entry, the entry goes on behind it. -/
theorem group_and_restOfEntry_stop_first (s : List Char) :
    (∀ inner rest, group s = some (inner, rest) ↔ IsGroup s inner rest) ∧
      (group s = none ↔ ¬ ∃ inner rest, IsGroup s inner rest) ∧
      (∀ taken rest, consumed restOfEntry s = some ((taken, ()), rest) ↔
        IsEntryText s taken rest) ∧
      (consumed restOfEntry s = none ↔ ¬ ∃ taken rest, IsEntryText s taken rest) ∧
      ∀ inner rest, group s = some (inner, rest) →
        (∀ taken last, consumed restOfEntry s = some ((taken, ()), last) ↔
          ∃ more, taken = '(' :: (inner ++ ')' :: more) ∧
            consumed restOfEntry rest = some ((more, ()), last)) ∧
          ∀ depth, entryEnd? depth none s = entryEnd? depth none rest := by
  refine ⟨fun _ _ => group_eq_some_iff_isGroup, ?_, fun _ _ => consumed_restOfEntry_eq_some_iff,
    ?_, fun _ _ h => ⟨consumed_restOfEntry_group h, entryEnd?_group h⟩⟩
  · simp [Option.eq_none_iff_forall_ne_some, group_eq_some_iff_isGroup]
  · rw [Option.eq_none_iff_forall_ne_some]
    constructor
    · rintro refused ⟨taken, rest, text⟩
      exact refused _ (consumed_restOfEntry_eq_some_iff.2 text)
    · rintro none ⟨⟨taken, ⟨⟩⟩, rest⟩ read
      exact none ⟨taken, rest, consumed_restOfEntry_eq_some_iff.1 read⟩

/-- A group with a quoted parenthesis and a group in it. -/
theorem group_and_restOfEntry_stop_first_quoted :
    let s := "(a, ')' (b)) x, c)".toList
    group s = some ("a, ')' (b)".toList, " x, c)".toList) ∧
      IsGroup s "a, ')' (b)".toList " x, c)".toList ∧
        IsEntryText s "(a, ')' (b)) x".toList ", c)".toList := by
  intro s
  obtain ⟨groups, -, entries, -, inside⟩ := group_and_restOfEntry_stop_first s
  have read : group s = some ("a, ')' (b)".toList, " x, c)".toList) := by decide
  have behind : consumed restOfEntry " x, c)".toList = some ((" x".toList, ()), ", c)".toList) := by
    decide
  refine ⟨read, (groups _ _).1 read, (entries _ _).1 ?_⟩
  exact ((inside _ _ read).1 _ _).2 ⟨" x".toList, by decide, behind⟩

end TableLoad.Ddl
