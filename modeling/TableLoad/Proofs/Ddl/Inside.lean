import TableLoad.Proofs.Ddl.Comments

/-! # Texts between marks

A text that can stand before a mark: quotes and parentheses that open in it close in it, and the
mark does not stand in it outside of them.  Comments in it hold no quote, no parenthesis and no
mark, so every look at the text, whether it knows comments or not, gets to the mark.
-/
namespace TableLoad.Ddl
open Text

/-- Marks that end a part of a statement. -/
def isStop (c : Char) : Bool := c == ',' || c == '(' || c == ')' || c == ']'

theorem isStop_cases {c : Char} (h : isStop c = true) : c = ',' ∨ c = '(' ∨ c = ')' ∨ c = ']' := by
  simpa [isStop, or_assoc] using h

theorem isStop_of_end {stop : Char} (h : stop = ',' ∨ stop = ')') : isStop stop = true := by
  rcases h with rfl | rfl <;> rfl

theorem opensComment_append_stop {c stop : Char} {s : List Char} (h : opensComment (c :: s) = false)
    (marked : isStop stop = true) (t : List Char) :
    opensComment (c :: (s ++ stop :: t)) = false := by
  cases s with
  | nil =>
    rw [List.nil_append, opensComment]
    · rintro s he
      obtain ⟨rfl, -⟩ := List.cons.inj (List.cons.inj he).2
      exact absurd marked (by decide)
    · rintro s he
      obtain ⟨rfl, -⟩ := List.cons.inj (List.cons.inj he).2
      exact absurd marked (by decide)
  | cons d s => rw [← h]; exact opensComment_cons_congr rfl

/-- A character that counts for no look at a text that ends at the mark. -/
def isTame (mark c : Char) : Bool := !isQuote c && c != '(' && c != ')' && c != mark

inductive Inside : (mark : Char) → List Char → Prop
  | nil {mark : Char} : Inside mark []
  | plain {mark c : Char} {s : List Char} :
      isInert c = true → c ≠ mark → Inside mark s → Inside mark (c :: s)
  /-- A minus sign or a slash that starts no comment. -/
  | sign {mark c : Char} {s : List Char} : c = '-' ∨ c = '/' → opensComment (c :: s) = false →
      Inside mark s → Inside mark (c :: s)
  | quoted {mark q : Char} {content s : List Char} : isQuote q = true → q ∉ content →
      Inside mark s → Inside mark (q :: (content ++ q :: s))
  | group {mark : Char} {inner s : List Char} : Inside ')' inner → Inside mark s →
      Inside mark ('(' :: (inner ++ ')' :: s))
  | comment {mark : Char} {p s : List Char} : IsComment p → (∀ c ∈ p, isTame mark c = true) →
      Inside mark s → Inside mark (p ++ s)

theorem isTame_cases {mark c : Char} (h : isTame mark c = true) :
    isQuote c = false ∧ c ≠ '(' ∧ c ≠ ')' ∧ c ≠ mark := by
  simpa [isTame, and_assoc] using h

theorem isInert_cases {c : Char} (h : isInert c = true) :
    isQuote c = false ∧ c ≠ '(' ∧ c ≠ ')' ∧ c ≠ '-' ∧ c ≠ '/' := by
  simpa [isInert, and_assoc] using h

theorem isTame_of_isInert {mark c : Char} (h : isInert c = true) (free : c ≠ mark) :
    isTame mark c = true := by
  obtain ⟨quote, opening, closing, -, -⟩ := isInert_cases h
  simp [isTame, quote, opening, closing, free]

namespace Inside
variable {mark : Char} {s : List Char}

theorem inert_append {t : List Char} (all : ∀ c ∈ s, isInert c = true ∧ c ≠ mark)
    (ht : Inside mark t) : Inside mark (s ++ t) := by
  induction s with
  | nil => exact ht
  | cons c s ih =>
    rw [List.forall_mem_cons] at all
    exact plain all.1.1 all.1.2 (ih all.2)

theorem of_inert (all : ∀ c ∈ s, isInert c = true ∧ c ≠ mark) : Inside mark s := by
  simpa using inert_append all nil

end Inside

/-! ### The end of a group -/

theorem groupTail?_tame {mark : Char} {s : List Char} (tame : ∀ c ∈ s, isTame mark c = true)
    (depth : Nat) (x : List Char) :
    groupTail? depth none (s ++ x) = before s (groupTail? depth none x) := by
  induction s with
  | nil => cases he : groupTail? depth none x <;> simp [before, he]
  | cons c s ih =>
    rw [List.forall_mem_cons] at tame
    obtain ⟨quote, opening, closing, -⟩ := isTame_cases tame.1
    rw [List.cons_append, groupTail?_plain quote opening closing, ih tame.2, before_before,
      List.singleton_append]

theorem Inside.groupTail?_append {mark : Char} {s : List Char} (h : Inside mark s) (depth : Nat)
    (x : List Char) : groupTail? depth none (s ++ x) = before s (groupTail? depth none x) := by
  induction h generalizing depth x with
  | nil => cases he : groupTail? depth none x <;> simp [before, he]
  | plain hc free _ ih =>
    have tame := groupTail?_tame (s := [_]) (by simpa using isTame_of_isInert hc free) depth
    rw [List.cons_append, ← List.singleton_append, tame, ih, before_before,
      List.singleton_append]
  | @sign mark c s sign _ _ ih =>
    have plain : isQuote c = false ∧ c ≠ '(' ∧ c ≠ ')' := by rcases sign with rfl | rfl <;> decide
    rw [List.cons_append, groupTail?_plain plain.1 plain.2.1 plain.2.2, ih, before_before,
      List.singleton_append]
  | quoted hq free _ ih =>
    rw [List.cons_append, List.append_assoc, List.cons_append, groupTail?_quote hq,
      groupTail?_quoted depth free, ih, before_before, before_before]
    simp
  | group _ _ inside ih =>
    rw [List.cons_append, List.append_assoc, List.cons_append, groupTail?_open, inside,
      groupTail?_close, ih, before_before, before_before, before_before]
    simp
  | comment _ tame _ ih => rw [List.append_assoc, groupTail?_tame tame, ih, before_before]

theorem Inside.group_run {inner : List Char} (h : Inside ')' inner) (rest : List Char) :
    Ddl.group ('(' :: (inner ++ ')' :: rest)) = some (inner, rest) := by
  have start (s : List Char) : Ddl.group ('(' :: s) = groupTail? 0 none s := rfl
  have last : groupTail? 0 none (')' :: rest) = some ([], rest) := by
    rw [groupTail?.eq_def]
    rfl
  rw [start, h.groupTail?_append, last]
  simp [before]

/-! ### The end of an entry -/

section EntryEnd
variable {depth : Nat} {rest : List Char}

theorem entryEnd?_quoted {q : Char} {content : List Char} (free : q ∉ content) :
    entryEnd? depth (some q) (content ++ q :: rest) = entryEnd? depth none rest := by
  induction content with
  | nil => simp [entryEnd?]
  | cons c content ih =>
    rw [List.mem_cons, not_or] at free
    rw [List.cons_append, entryEnd?]
    simp only [if_neg (Ne.symm free.1), ih free.2]

theorem entryEnd?_quote {q : Char} (h : isQuote q = true) :
    entryEnd? depth none (q :: rest) = entryEnd? depth (some q) rest := by
  rw [entryEnd?.eq_def]
  simp only [h, if_true]

theorem entryEnd?_open : entryEnd? depth none ('(' :: rest) = entryEnd? (depth + 1) none rest := by
  rw [entryEnd?.eq_def]
  rfl

theorem entryEnd?_close :
    entryEnd? (depth + 1) none (')' :: rest) = entryEnd? depth none rest := by
  rw [entryEnd?.eq_def]
  rfl

theorem entryEnd?_plain {c : Char} (quote : isQuote c = false) (opening : c ≠ '(')
    (closing : c ≠ ')') (comma : c = ',' → 0 < depth) :
    entryEnd? depth none (c :: rest) = entryEnd? depth none rest := by
  have inner : ¬ (c = ',' ∧ depth = 0) := fun h => absurd (comma h.1) (by omega)
  rw [entryEnd?.eq_def]
  simp only [quote, Bool.false_eq_true, if_false, opening, closing, inner]

theorem entryEnd?_stop {stop : Char} (h : stop = ',' ∨ stop = ')') :
    entryEnd? 0 none (stop :: rest) = some (stop :: rest) := by
  rcases h with rfl | rfl <;> rw [entryEnd?.eq_def] <;> rfl

theorem entryEnd?_tame {mark : Char} {s : List Char} (tame : ∀ c ∈ s, isTame mark c = true)
    (inner : mark = ',' ∨ 0 < depth) :
    entryEnd? depth none (s ++ rest) = entryEnd? depth none rest := by
  induction s with
  | nil => rfl
  | cons c s ih =>
    rw [List.forall_mem_cons] at tame
    obtain ⟨quote, opening, closing, free⟩ := isTame_cases tame.1
    rw [List.cons_append, entryEnd?_plain quote opening closing, ih tame.2]
    exact fun he => inner.resolve_left fun hm => free (he.trans hm.symm)

/-- The search for the end of an entry passes over a text in parentheses, and over a text without
a comma outside of them. -/
theorem Inside.entryEnd?_append {mark : Char} {s : List Char} (h : Inside mark s)
    (inner : mark = ',' ∨ 0 < depth) :
    entryEnd? depth none (s ++ rest) = entryEnd? depth none rest := by
  induction h generalizing depth rest with
  | nil => rfl
  | @plain mark c s hc free _ ih =>
    have tame : ∀ d ∈ [c], isTame mark d = true := by simpa using isTame_of_isInert hc free
    exact (entryEnd?_tame tame inner).trans (ih inner)
  | @sign mark c s sign _ _ ih =>
    have plain : isQuote c = false ∧ c ≠ '(' ∧ c ≠ ')' ∧ c ≠ ',' := by
      rcases sign with rfl | rfl <;> decide
    rw [List.cons_append, entryEnd?_plain plain.1 plain.2.1 plain.2.2.1, ih inner]
    exact fun he => absurd he plain.2.2.2
  | quoted hq free _ ih =>
    rw [List.cons_append, List.append_assoc, List.cons_append, entryEnd?_quote hq,
      entryEnd?_quoted free, ih inner]
  | group _ _ inside ih =>
    rw [List.cons_append, List.append_assoc, List.cons_append, entryEnd?_open,
      inside (.inr depth.succ_pos), entryEnd?_close, ih inner]
  | comment _ tame _ ih => rw [List.append_assoc, entryEnd?_tame tame inner, ih inner]

end EntryEnd

/-! ### Balance and comments -/

section Stops
variable {mark stop : Char} {s : List Char}

theorem Inside.imbalance?_append (h : Inside mark s) (marked : isStop stop = true) (depth : Nat)
    (t : List Char) :
    imbalance? depth .plain (s ++ stop :: t) = imbalance? depth .plain (stop :: t) := by
  induction h generalizing depth stop t with
  | nil => rfl
  | plain hc _ _ ih => rw [List.cons_append, imbalance?_inert hc, ih marked]
  | sign sign single _ ih =>
    rw [List.cons_append, imbalance?_sign sign (opensComment_append_stop single marked t),
      ih marked]
  | quoted hq free _ ih =>
    rw [List.cons_append, List.append_assoc, List.cons_append, imbalance?_quote hq,
      imbalance?_quoted depth free, ih marked]
  | group _ _ inside ih =>
    rw [List.cons_append, List.append_assoc, List.cons_append, imbalance?_open,
      inside (by decide), imbalance?_close, ih marked]
  | comment hp _ _ ih => rw [List.append_assoc, hp.imbalance?_append, ih marked]

theorem uncommented_stop (marked : isStop stop = true) (t : List Char) :
    uncommented .plain (stop :: t) = stop :: uncommented .plain t := by
  rcases isStop_cases marked with rfl | rfl | rfl | rfl <;>
    exact uncommented_plain (by rfl) (by decide)

theorem uncommented_quote {q : Char} {content : List Char} (hq : isQuote q = true)
    (free : q ∉ content) (t : List Char) :
    uncommented .plain (q :: (content ++ q :: t)) =
      q :: (content ++ q :: uncommented .plain t) := by
  rw [uncommented_cons (opensComment_eq_false_of_isQuote hq _), if_pos hq,
    uncommented_quoted free]

theorem uncommented_inert {c : Char} (h : isInert c = true) (t : List Char) :
    uncommented .plain (c :: t) = c :: uncommented .plain t :=
  uncommented_plain (opensComment_eq_false_of_isInert h t) (isInert_cases h).1

theorem uncommented_sign {c : Char} (sign : c = '-' ∨ c = '/') {t : List Char}
    (single : opensComment (c :: t) = false) :
    uncommented .plain (c :: t) = c :: uncommented .plain t :=
  uncommented_plain single (by rcases sign with rfl | rfl <;> decide)

theorem Inside.uncommented_append (h : Inside mark s) (marked : isStop stop = true)
    (t : List Char) :
    uncommented .plain (s ++ stop :: t) =
      uncommented .plain s ++ uncommented .plain (stop :: t) := by
  induction h generalizing stop t with
  | nil => rfl
  | plain hc _ _ ih =>
    rw [List.cons_append, uncommented_inert hc, uncommented_inert hc, ih marked, List.cons_append]
  | sign sign single _ ih =>
    rw [List.cons_append, uncommented_sign sign (opensComment_append_stop single marked t),
      uncommented_sign sign single, ih marked, List.cons_append]
  | quoted hq free _ ih =>
    rw [List.cons_append, List.append_assoc, List.cons_append, uncommented_quote hq free,
      uncommented_quote hq free, ih marked, List.cons_append, List.append_assoc, List.cons_append]
  | @group _ inner s _ _ inside ih =>
    have opening (t : List Char) : uncommented .plain ('(' :: t) = _ :=
      uncommented_stop (by decide) t
    have closing (t : List Char) : uncommented .plain (')' :: t) = _ :=
      uncommented_stop (by decide) t
    rw [List.cons_append, List.append_assoc, List.cons_append, opening, opening,
      inside (by decide), inside (by decide), closing, closing, ih marked, List.cons_append,
      List.append_assoc, List.cons_append]
  | comment hp _ _ ih =>
    rw [List.append_assoc, hp.uncommented_append, hp.uncommented_append, ih marked,
      List.append_assoc]

theorem Inside.uncommented (h : Inside mark s) (marked : isGapChar mark = false) :
    Inside mark (Ddl.uncommented .plain s) := by
  induction h with
  | nil => exact .nil
  | plain hc free _ ih =>
    rw [uncommented_inert hc]
    exact .plain hc free (ih marked)
  | sign sign single _ ih =>
    rw [uncommented_sign sign single]
    exact .sign sign (opensComment_uncommented single) (ih marked)
  | quoted hq free _ ih =>
    rw [uncommented_quote hq free]
    exact .quoted hq free (ih marked)
  | @group _ inner s hi _ inside ih =>
    rw [uncommented_stop (by decide), hi.uncommented_append (by decide),
      uncommented_stop (by decide)]
    exact .group (inside (by decide)) (ih marked)
  | @comment mark p s hp _ _ ih =>
    have blank := hp.uncommented_blank.2
    rw [hp.uncommented_append]
    generalize Ddl.uncommented .plain p = q at blank
    induction q with
    | nil => exact ih marked
    | cons c q more =>
      rw [List.forall_mem_cons] at blank
      refine .plain (isInert_of_isGapChar blank.1) ?_ (more blank.2)
      rintro rfl
      exact absurd blank.1 (by simp [marked])

end Stops

end TableLoad.Ddl
