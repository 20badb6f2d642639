import TableLoad.Proofs.Ddl.Inside

/-! # Texts that differ in their comments

Two texts that are the same up to their ends, but for comments in the place of blanks.  Gaps, words
and groups come to the same in both of them.
-/
namespace TableLoad.Ddl
open Text

/-- The texts are the same before `r` and `r'`, but where one has a comment the other may have
blanks.  Quotes, names in brackets and groups stand in them as a whole, and no character is
`special` outside of them.  A comment that stands for blanks stands before no group: what a call
is read from would be another text. -/
inductive Alike (special r r' : List Char) : List Char → List Char → Prop
  | rest : Alike special r r' r r'
  | plain {c : Char} {x y : List Char} : isInert c = true → c ∉ special →
      Alike special r r' x y → Alike special r r' (c :: x) (c :: y)
  /-- A minus sign or a slash that starts no comment. -/
  | sign {c : Char} {x y : List Char} : c = '-' ∨ c = '/' → opensComment (c :: x) = false →
      opensComment (c :: y) = false → Alike special r r' x y → Alike special r r' (c :: x) (c :: y)
  | quoted {q : Char} {content x y : List Char} : isQuote q = true → q ∉ content →
      Alike special r r' x y →
        Alike special r r' (q :: (content ++ q :: x)) (q :: (content ++ q :: y))
  | bracketed {content x y : List Char} : ']' ∉ content → Inside ']' content →
      Alike special r r' x y →
        Alike special r r' ('[' :: (content ++ ']' :: x)) ('[' :: (content ++ ']' :: y))
  | group {inner x y : List Char} : Inside ')' inner → Alike special r r' x y →
      Alike special r r' ('(' :: (inner ++ ')' :: x)) ('(' :: (inner ++ ')' :: y))
  | comment {p x y : List Char} : IsComment p → Alike special r r' x y →
      Alike special r r' (p ++ x) (p ++ y)
  | blank {p q x y : List Char} : IsComment p → q ≠ [] → (∀ c ∈ q, isGapChar c = true) →
      ((afterGap x).head? = some '(' → afterGap x = r) → Alike special r r' x y →
        Alike special r r' (p ++ x) (q ++ y)

def EndAlike (r r' : List Char) : Prop :=
  ∃ stop stop' t t', isStop stop = true ∧ isStop stop' = true ∧ r = stop :: t ∧ r' = stop' :: t'

theorem atToken_of_sign {c : Char} {x : List Char} (sign : c = '-' ∨ c = '/')
    (single : opensComment (c :: x) = false) : AtToken (c :: x) := by
  unfold AtToken
  rw [afterGapPiece?]
  · rcases sign with rfl | rfl <;> rfl
  · rintro s rfl rfl
    exact absurd single (by simp [opensComment])
  · rintro s rfl rfl
    exact absurd single (by simp [opensComment])

theorem atToken_of_inert {c : Char} (h : isInert c = true) (blank : isGapChar c = false)
    (x : List Char) : AtToken (c :: x) :=
  atToken_cons x blank (isInert_cases h).2.2.2.1 (isInert_cases h).2.2.2.2

theorem atToken_of_isQuote {q : Char} (h : isQuote q = true) (x : List Char) :
    AtToken (q :: x) := by
  simp only [isQuote, Bool.or_eq_true, beq_iff_eq, or_assoc] at h
  rcases h with rfl | rfl | rfl <;> exact atToken_cons x (by decide) (by decide) (by decide)

theorem atToken_of_isStop {stop : Char} (h : isStop stop = true) (x : List Char) :
    AtToken (stop :: x) := by
  rcases isStop_cases h with rfl | rfl | rfl | rfl <;>
    exact atToken_cons x (by decide) (by decide) (by decide)

theorem isWordChar_of_isQuote {q : Char} (h : isQuote q = true) : isWordChar q = false := by
  simp only [isQuote, Bool.or_eq_true, beq_iff_eq, or_assoc] at h
  rcases h with rfl | rfl | rfl <;> rfl

theorem isWordChar_of_isStop {stop : Char} (h : isStop stop = true) : isWordChar stop = false := by
  rcases isStop_cases h with rfl | rfl | rfl | rfl <;> rfl

theorem EndAlike.atToken {r r' : List Char} (h : EndAlike r r') : AtToken r ∧ AtToken r' := by
  obtain ⟨stop, stop', t, t', marked, marked', rfl, rfl⟩ := h
  exact ⟨atToken_of_isStop marked t, atToken_of_isStop marked' t'⟩

namespace Alike
variable {special r r' x y : List Char}

theorem inert_append {s : List Char} (all : ∀ c ∈ s, isInert c = true ∧ c ∉ special)
    (h : Alike special r r' x y) : Alike special r r' (s ++ x) (s ++ y) := by
  induction s with
  | nil => exact h
  | cons c s ih =>
    rw [List.forall_mem_cons] at all
    exact plain all.1.1 all.1.2 (ih all.2)

theorem of_inert {s : List Char} (all : ∀ c ∈ s, isInert c = true ∧ c ∉ special) :
    Alike special [] [] s s := by
  simpa using inert_append all (rest : Alike special [] [] [] [])

theorem gap_append {g : List Char} (hg : IsGap g) (free : ∀ c ∈ special, isGapChar c = false)
    (h : Alike special r r' x y) : Alike special r r' (g ++ x) (g ++ y) := by
  induction hg with
  | nil => exact h
  | @blank c g hc _ ih =>
    exact plain (isInert_of_isGapChar hc) (fun held => by simp [free c held] at hc) ih
  | comment hp _ ih =>
    rw [List.append_assoc, List.append_assoc]
    exact comment hp ih

/-! ### Where the texts end -/

theorem eq_rest_or_lt (h : Alike special r r' x y) :
    (x = r ∧ y = r') ∨ (r.length < x.length ∧ r'.length < y.length) := by
  induction h with
  | rest => exact .inl ⟨rfl, rfl⟩
  | @comment p x y hp _ ih =>
    have filled := hp.length_pos
    refine .inr ?_
    rcases ih with ⟨rfl, rfl⟩ | ih <;> simp only [List.length_append] <;> omega
  | @blank p q x y hp filled _ _ _ ih =>
    have left := hp.length_pos
    have right := List.length_pos_iff.2 filled
    refine .inr ?_
    rcases ih with ⟨rfl, rfl⟩ | ih <;> simp only [List.length_append] <;> omega
  | plain _ _ _ ih | sign _ _ _ _ ih | quoted _ _ _ ih | bracketed _ _ _ ih | group _ _ ih =>
    refine .inr ?_
    rcases ih with ⟨rfl, rfl⟩ | ih <;> simp only [List.length_cons, List.length_append] <;> omega

theorem eq_rest_iff (h : Alike special r r' x y) : x = r ↔ y = r' := by
  rcases h.eq_rest_or_lt with ⟨rfl, rfl⟩ | ⟨left, right⟩
  · exact iff_of_true rfl rfl
  · refine iff_of_false ?_ ?_
    · rintro rfl
      exact absurd left (lt_irrefl _)
    · rintro rfl
      exact absurd right (lt_irrefl _)

/-! ### Gaps -/

/-- Behind the gap at their front the texts are alike still, and go on with the same character
unless they end. -/
theorem afterGap (h : Alike special r r' x y) (ends : EndAlike r r') :
    Alike special r r' (Ddl.afterGap x) (Ddl.afterGap y) ∧
      ((Ddl.afterGap x = r ∧ Ddl.afterGap y = r') ∨
        (Ddl.afterGap x).head? = (Ddl.afterGap y).head?) := by
  have at_tokens {x y : List Char} (h : Alike special r r' x y) (left : AtToken x)
      (right : AtToken y) (same : (x = r ∧ y = r') ∨ x.head? = y.head?) :
      Alike special r r' (Ddl.afterGap x) (Ddl.afterGap y) ∧
        ((Ddl.afterGap x = r ∧ Ddl.afterGap y = r') ∨
          (Ddl.afterGap x).head? = (Ddl.afterGap y).head?) := by
    rw [left.afterGap_eq, right.afterGap_eq]
    exact ⟨h, same⟩
  induction h with
  | rest => exact at_tokens rest ends.atToken.1 ends.atToken.2 (.inl ⟨rfl, rfl⟩)
  | @plain c x y hc free h ih =>
    cases blank : isGapChar c with
    | true =>
      rw [afterGap_cons_of_blank blank, afterGap_cons_of_blank blank]
      exact ih
    | false =>
      exact at_tokens (plain hc free h) (atToken_of_inert hc blank x) (atToken_of_inert hc blank y)
        (.inr rfl)
  | sign sign left right h _ =>
    exact at_tokens (.sign sign left right h) (atToken_of_sign sign left)
      (atToken_of_sign sign right) (.inr rfl)
  | quoted hq free h _ =>
    exact at_tokens (quoted hq free h) (atToken_of_isQuote hq _) (atToken_of_isQuote hq _)
      (.inr rfl)
  | bracketed free inside h _ =>
    exact at_tokens (bracketed free inside h) (atToken_of_inert (by decide) (by decide) _)
      (atToken_of_inert (by decide) (by decide) _) (.inr rfl)
  | group inside h _ =>
    exact at_tokens (group inside h) (atToken_of_isStop (by decide) _)
      (atToken_of_isStop (by decide) _) (.inr rfl)
  | comment hp _ ih =>
    rw [hp.afterGap_append, hp.afterGap_append]
    exact ih
  | blank hp _ blanks _ _ ih =>
    rw [hp.afterGap_append, (IsGap.of_blanks blanks).afterGap_append]
    exact ih

/-- A gap before a group is the same in both texts. -/
theorem exists_gap_of_group (h : Alike special r r' x y) (ends : EndAlike r r')
    (other : r.head? ≠ some '(') (opens : (Ddl.afterGap x).head? = some '(') :
    ∃ g, x = g ++ Ddl.afterGap x ∧ y = g ++ Ddl.afterGap y := by
  have at_tokens {x y : List Char} (left : AtToken x) (right : AtToken y) :
      ∃ g, x = g ++ Ddl.afterGap x ∧ y = g ++ Ddl.afterGap y :=
    ⟨[], left.afterGap_eq.symm, right.afterGap_eq.symm⟩
  induction h with
  | rest => exact at_tokens ends.atToken.1 ends.atToken.2
  | @plain c x y hc free h ih =>
    cases blank : isGapChar c with
    | true =>
      rw [afterGap_cons_of_blank blank] at opens
      obtain ⟨g, left, right⟩ := ih opens
      refine ⟨c :: g, ?_, ?_⟩
      · rw [afterGap_cons_of_blank blank, List.cons_append, ← left]
      · rw [afterGap_cons_of_blank blank, List.cons_append, ← right]
    | false => exact at_tokens (atToken_of_inert hc blank x) (atToken_of_inert hc blank y)
  | sign sign left right _ _ =>
    exact at_tokens (atToken_of_sign sign left) (atToken_of_sign sign right)
  | quoted hq _ _ _ => exact at_tokens (atToken_of_isQuote hq _) (atToken_of_isQuote hq _)
  | bracketed _ _ _ _ =>
    exact at_tokens (atToken_of_inert (by decide) (by decide) _)
      (atToken_of_inert (by decide) (by decide) _)
  | group _ _ _ =>
    exact at_tokens (atToken_of_isStop (by decide) _) (atToken_of_isStop (by decide) _)
  | @comment p x y hp _ ih =>
    rw [hp.afterGap_append] at opens
    obtain ⟨g, left, right⟩ := ih opens
    refine ⟨p ++ g, ?_, ?_⟩
    · rw [hp.afterGap_append, List.append_assoc, ← left]
    · rw [hp.afterGap_append, List.append_assoc, ← right]
  | blank hp _ _ before _ _ =>
    rw [hp.afterGap_append] at opens
    rw [before opens] at opens
    exact absurd opens other

/-! ### Words -/

theorem takeWhile (h : Alike special r r' x y) (ends : EndAlike r r') {p : Char → Bool}
    (words : ∀ c, p c = true → isWordChar c = true) :
    x.takeWhile p = y.takeWhile p ∧ Alike special r r' (x.dropWhile p) (y.dropWhile p) := by
  have other {c : Char} (hc : isWordChar c = false) : p c = false := by
    rw [← Bool.not_eq_true]
    exact fun hp => absurd (words c hp) (by simp [hc])
  have stops {c d : Char} {x y : List Char} (h : Alike special r r' (c :: x) (d :: y))
      (left : isWordChar c = false) (right : isWordChar d = false) :
      (c :: x).takeWhile p = (d :: y).takeWhile p ∧
        Alike special r r' ((c :: x).dropWhile p) ((d :: y).dropWhile p) := by
    simpa [other left, other right] using h
  have signs {c : Char} (sign : c = '-' ∨ c = '/') : isWordChar c = false := by
    rcases sign with rfl | rfl <;> rfl
  induction h with
  | rest =>
    obtain ⟨stop, stop', t, t', marked, marked', rfl, rfl⟩ := ends
    exact stops rest (isWordChar_of_isStop marked) (isWordChar_of_isStop marked')
  | @plain c x y hc free h ih =>
    cases hp : p c with
    | true => simpa [hp] using ih
    | false => simpa [hp] using plain hc free h
  | sign sign left right h _ => exact stops (.sign sign left right h) (signs sign) (signs sign)
  | quoted hq free h _ =>
    exact stops (quoted hq free h) (isWordChar_of_isQuote hq) (isWordChar_of_isQuote hq)
  | bracketed free inside h _ => exact stops (bracketed free inside h) rfl rfl
  | group inside h _ => exact stops (group inside h) rfl rfl
  | comment hp h _ =>
    obtain ⟨c, p, rfl, sign⟩ := hp.exists_cons
    exact stops (comment hp h) (signs sign) (signs sign)
  | blank hp filled blanks before h _ =>
    obtain ⟨c, p, rfl, sign⟩ := hp.exists_cons
    obtain ⟨d, q, rfl⟩ := List.exists_cons_of_ne_nil filled
    exact stops (blank hp filled blanks before h) (signs sign)
      (isWordChar_of_isGapChar (blanks d List.mem_cons_self))

/-! ### Texts put together -/

/-- The gap at the front of a text ends in it, or at the mark behind it. -/
theorem afterGap_append (h : Alike special [] [] x y) (ends : EndAlike r r') :
    Ddl.afterGap (x ++ r) = Ddl.afterGap x ++ r := by
  have at_tokens {x : List Char} (whole : AtToken (x ++ r)) (alone : AtToken x) :
      Ddl.afterGap (x ++ r) = Ddl.afterGap x ++ r := by
    rw [whole.afterGap_eq, alone.afterGap_eq]
  obtain ⟨stop, -, t, -, marked, -, rfl, -⟩ := ends
  induction h with
  | rest => exact at_tokens (atToken_of_isStop marked t) rfl
  | @plain c x y hc _ _ ih =>
    cases blank : isGapChar c with
    | true =>
      rw [List.cons_append, afterGap_cons_of_blank blank, afterGap_cons_of_blank blank]
      exact ih
    | false => exact at_tokens (atToken_of_inert hc blank _) (atToken_of_inert hc blank x)
  | sign sign single _ _ _ =>
    exact at_tokens (atToken_of_sign sign (opensComment_append_stop single marked t))
      (atToken_of_sign sign single)
  | quoted hq _ _ _ => exact at_tokens (atToken_of_isQuote hq _) (atToken_of_isQuote hq _)
  | bracketed _ _ _ _ =>
    exact at_tokens (atToken_of_inert (by decide) (by decide) _)
      (atToken_of_inert (by decide) (by decide) _)
  | group _ _ _ =>
    exact at_tokens (atToken_of_isStop (by decide) _) (atToken_of_isStop (by decide) _)
  | comment hp _ ih | blank hp _ _ _ _ ih =>
    rw [List.append_assoc, hp.afterGap_append, hp.afterGap_append]
    exact ih

theorem append (h : Alike special [] [] x y) (ends : EndAlike r r') :
    Alike special r r' (x ++ r) (y ++ r') := by
  induction h with
  | rest => exact rest
  | plain hc free _ ih => exact plain hc free ih
  | sign sign left right _ ih =>
    obtain ⟨stop, stop', t, t', marked, marked', rfl, rfl⟩ := ends
    exact .sign sign (opensComment_append_stop left marked t)
      (opensComment_append_stop right marked' t') ih
  | quoted hq free _ ih =>
    simp only [List.cons_append, List.append_assoc]
    exact quoted hq free ih
  | bracketed free inside _ ih =>
    simp only [List.cons_append, List.append_assoc]
    exact bracketed free inside ih
  | group inside _ ih =>
    simp only [List.cons_append, List.append_assoc]
    exact group inside ih
  | comment hp _ ih =>
    simp only [List.append_assoc]
    exact comment hp ih
  | @blank p q x y hp filled blanks before h ih =>
    simp only [List.append_assoc]
    refine blank hp filled blanks ?_ ih
    rw [h.afterGap_append ends]
    intro opens
    cases next : Ddl.afterGap x with
    | nil => rfl
    | cons c more =>
      rw [next] at before opens
      exact absurd (before opens) (by simp)

theorem imbalance?_eq (h : Alike special r r' x y) (depth : Nat) :
    imbalance? depth .plain x = imbalance? depth .plain r := by
  induction h with
  | rest => rfl
  | plain hc _ _ ih => rw [imbalance?_inert hc, ih]
  | sign sign single _ _ ih => rw [imbalance?_sign sign single, ih]
  | quoted hq free _ ih => rw [imbalance?_quote hq, imbalance?_quoted depth free, ih]
  | bracketed _ inside _ ih =>
    rw [imbalance?_inert (by decide), inside.imbalance?_append (by decide),
      imbalance?_inert (by decide), ih]
  | group inside _ ih =>
    rw [imbalance?_open, inside.imbalance?_append (by decide), imbalance?_close, ih]
  | comment hp _ ih | blank hp _ _ _ _ ih => rw [hp.imbalance?_append, ih]

theorem uncommented_append (h : Alike special [] [] x y) {stop : Char}
    (marked : isStop stop = true) (t : List Char) :
    uncommented .plain (x ++ stop :: t) =
      uncommented .plain x ++ uncommented .plain (stop :: t) := by
  induction h with
  | rest => rfl
  | plain hc _ _ ih =>
    rw [List.cons_append, uncommented_inert hc, uncommented_inert hc, ih, List.cons_append]
  | sign sign single _ _ ih =>
    rw [List.cons_append, uncommented_sign sign (opensComment_append_stop single marked t),
      uncommented_sign sign single, ih, List.cons_append]
  | quoted hq free _ ih =>
    rw [List.cons_append, List.append_assoc, List.cons_append, uncommented_quote hq free,
      uncommented_quote hq free, ih, List.cons_append, List.append_assoc, List.cons_append]
  | bracketed _ inside _ ih =>
    have closing (t : List Char) : uncommented .plain (']' :: t) = _ :=
      uncommented_stop (by decide) t
    rw [List.cons_append, List.append_assoc, List.cons_append, uncommented_inert (by decide),
      uncommented_inert (by decide), inside.uncommented_append (by decide),
      inside.uncommented_append (by decide), closing, closing, ih, List.cons_append,
      List.append_assoc, List.cons_append]
  | group inside _ ih =>
    have opening (t : List Char) : uncommented .plain ('(' :: t) = _ :=
      uncommented_stop (by decide) t
    have closing (t : List Char) : uncommented .plain (')' :: t) = _ :=
      uncommented_stop (by decide) t
    rw [List.cons_append, List.append_assoc, List.cons_append, opening, opening,
      inside.uncommented_append (by decide), inside.uncommented_append (by decide), closing,
      closing, ih, List.cons_append, List.append_assoc, List.cons_append]
  | comment hp _ ih | blank hp _ _ _ _ ih =>
    rw [List.append_assoc, hp.uncommented_append, hp.uncommented_append, ih, List.append_assoc]

end Alike

theorem Inside.alike {mark : Char} {s : List Char} (h : Inside mark s) : Alike [] [] [] s s := by
  induction h with
  | nil => exact .rest
  | plain hc _ _ ih => exact .plain hc (by simp) ih
  | sign sign single _ ih => exact .sign sign single single ih
  | quoted hq free _ ih => exact .quoted hq free ih
  | group inside _ _ ih => exact .group inside ih
  | comment hp _ _ ih => exact .comment hp ih

end TableLoad.Ddl
