import TableLoad.Ddl.Statement
import TableLoad.Proofs.Ddl.Progress
import TableLoad.Proofs.Ddl.Tokens

/-! # Comments of a statement

The comments that the first look at a statement finds, and the statement without them.  Where a
comment was, a space is left; the statement is balanced as it was before.
-/
namespace TableLoad.Ddl
open Text

def opensComment : List Char → Bool
  | '-' :: '-' :: _ => true
  | '/' :: '*' :: _ => true
  | _ => false

/-- Comments that end: with their line, which a carriage return alone does not end, or with their
first end mark. -/
inductive IsComment : List Char → Prop
  | line {text last : List Char} : (∀ c ∈ text, c ≠ '\n' ∧ c ≠ '\r') →
      last = ['\n'] ∨ last = ['\r', '\n'] → IsComment ('-' :: '-' :: (text ++ last))
  | block {text : List Char} : afterBlockComment? text = some [] → IsComment ('/' :: '*' :: text)

/-- The text without its comments, a space in the place of each; `stretch` is what it starts in.
The end of a line is not part of the comment before it. -/
def uncommented : (stretch : Stretch) → List Char → List Char
  | _, [] => []
  | .quoted q, c :: rest => c :: uncommented (if c = q then .plain else .quoted q) rest
  | .lineComment, c :: rest =>
    if c = '\n' then c :: uncommented .plain rest else uncommented .lineComment rest
  | .blockComment, '*' :: '/' :: rest => uncommented .plain rest
  | .blockComment, _ :: rest => uncommented .blockComment rest
  | .plain, '-' :: '-' :: rest => ' ' :: uncommented .lineComment rest
  | .plain, '/' :: '*' :: rest => ' ' :: uncommented .blockComment rest
  | .plain, c :: rest => c :: uncommented (if isQuote c then .quoted c else .plain) rest

theorem opensComment_eq_false_of_ne {c : Char} (minus : c ≠ '-') (slash : c ≠ '/')
    (s : List Char) : opensComment (c :: s) = false := by
  rw [opensComment]
  · rintro s he
    exact minus (List.cons.inj he).1
  · rintro s he
    exact slash (List.cons.inj he).1

theorem opensComment_eq_false_of_isInert {c : Char} (h : isInert c = true) (s : List Char) :
    opensComment (c :: s) = false := by
  simp only [isInert, Bool.and_eq_true, bne_iff_ne] at h
  exact opensComment_eq_false_of_ne h.1.2 h.2 s

theorem opensComment_eq_false_of_isQuote {c : Char} (h : isQuote c = true) (s : List Char) :
    opensComment (c :: s) = false := by
  refine opensComment_eq_false_of_ne ?_ ?_ s
  all_goals
    rintro rfl
    exact absurd h (by decide)

theorem opensComment_iff {s : List Char} :
    opensComment s = true ↔ ['-', '-'] <+: s ∨ ['/', '*'] <+: s := by
  rw [opensComment.eq_def]
  split
  case h_1 => simp
  case h_2 => simp
  case h_3 line block =>
    simp only [Bool.false_eq_true, false_iff, not_or]
    constructor
    · rintro ⟨rest, rfl⟩
      exact line rest rfl
    · rintro ⟨rest, rfl⟩
      exact block rest rfl

theorem isInert_of_isGapChar {c : Char} (h : isGapChar c = true) : isInert c = true := by
  simp only [isGapChar, Bool.or_eq_true, beq_iff_eq, or_assoc] at h
  rcases h with rfl | rfl | rfl | rfl <;> rfl

theorem isWordChar_of_isGapChar {c : Char} (h : isGapChar c = true) : isWordChar c = false := by
  simp only [isGapChar, Bool.or_eq_true, beq_iff_eq, or_assoc] at h
  rcases h with rfl | rfl | rfl | rfl <;> rfl

theorem opensComment_cons_congr {c : Char} {s t : List Char} (h : s.head? = t.head?) :
    opensComment (c :: s) = opensComment (c :: t) := by
  cases s with
  | nil =>
    cases t with
    | nil => rfl
    | cons d t => cases h
  | cons d s =>
    cases t with
    | nil => cases h
    | cons e t =>
      obtain rfl : d = e := Option.some.inj h
      by_cases line : c = '-' ∧ d = '-'
      · obtain ⟨rfl, rfl⟩ := line
        rfl
      · by_cases block : c = '/' ∧ d = '*'
        · obtain ⟨rfl, rfl⟩ := block
          rfl
        · rw [opensComment.eq_3, opensComment.eq_3]
          all_goals simp_all

theorem IsComment.exists_cons {p : List Char} (h : IsComment p) :
    ∃ c rest, p = c :: rest ∧ (c = '-' ∨ c = '/') := by
  cases h with
  | line => exact ⟨_, _, rfl, .inl rfl⟩
  | block => exact ⟨_, _, rfl, .inr rfl⟩

theorem IsComment.length_pos {p : List Char} (h : IsComment p) : 0 < p.length := by
  obtain ⟨c, rest, rfl, -⟩ := h.exists_cons
  exact Nat.succ_pos _

section Gaps
variable {p x rest : List Char}

theorem afterLineComment?_append {text last : List Char} (free : ∀ c ∈ text, c ≠ '\n' ∧ c ≠ '\r')
    (ends : last = ['\n'] ∨ last = ['\r', '\n']) :
    afterLineComment? (text ++ last ++ x) = some (last ++ x) := by
  induction text with
  | nil => rcases ends with rfl | rfl <;> rfl
  | cons c text ih =>
    rw [List.forall_mem_cons] at free
    obtain ⟨⟨feed, carriage⟩, free⟩ := free
    rw [List.cons_append, List.cons_append, afterLineComment?, ih free]
    · exact feed
    · exact fun _ he => absurd he carriage
    · exact carriage

theorem afterBlockComment?_append {text : List Char} (h : afterBlockComment? text = some rest) :
    afterBlockComment? (text ++ x) = some (rest ++ x) := by
  fun_induction afterBlockComment? text with
  | case1 => cases h; rfl
  | case2 c text other ih =>
    rw [List.cons_append, afterBlockComment?, ih h]
    rintro tail rfl he
    cases text with
    | nil => cases h
    | cons d text => exact other text rfl (by rw [(List.cons.inj he).1])
  | case3 => cases h

theorem IsComment.afterGap_append (h : IsComment p) (x : List Char) :
    afterGap (p ++ x) = afterGap x := by
  cases h with
  | @line text last free ends =>
    have piece : afterGapPiece? ('-' :: '-' :: (text ++ last ++ x)) = some (last ++ x) :=
      afterLineComment?_append free ends
    rw [List.cons_append, List.cons_append, afterGap_eq_of_piece piece]
    rcases ends with rfl | rfl
    · exact afterGap_cons_of_blank (by decide) x
    · exact (afterGap_cons_of_blank (by decide) _).trans (afterGap_cons_of_blank (by decide) x)
  | block ends => exact afterGap_eq_of_piece (afterBlockComment?_append ends)

inductive IsGap : List Char → Prop
  | nil : IsGap []
  | blank {c : Char} {g : List Char} : isGapChar c = true → IsGap g → IsGap (c :: g)
  | comment {p g : List Char} : IsComment p → IsGap g → IsGap (p ++ g)

theorem IsGap.of_blanks {g : List Char} (all : ∀ c ∈ g, isGapChar c = true) : IsGap g := by
  induction g with
  | nil => exact nil
  | cons c g ih =>
    rw [List.forall_mem_cons] at all
    exact blank all.1 (ih all.2)

theorem IsGap.afterGap_append {g : List Char} (h : IsGap g) (x : List Char) :
    afterGap (g ++ x) = afterGap x := by
  induction h with
  | nil => rfl
  | blank hc _ ih => rw [List.cons_append, afterGap_cons_of_blank hc, ih]
  | comment hp _ ih => rw [List.append_assoc, hp.afterGap_append, ih]

/-- A gap starts with a blank or with the sign that starts a comment. -/
theorem IsGap.head?_append {g : List Char} (h : IsGap g) (x : List Char) :
    ∀ c ∈ (g ++ x).head?, c ∈ x.head? ∨ isGapChar c = true ∨ c = '-' ∨ c = '/' := by
  cases h with
  | nil => exact fun c hc => .inl hc
  | blank blank _ =>
    rintro c ⟨⟩
    exact .inr (.inl blank)
  | comment comment _ =>
    obtain ⟨d, p, rfl, sign⟩ := comment.exists_cons
    rintro c ⟨⟩
    exact .inr (.inr sign)

theorem afterLineComment?_cases {s : List Char} (h : afterLineComment? s = some rest) :
    rest = [] ∨ ∃ text last x, (∀ c ∈ text, c ≠ '\n' ∧ c ≠ '\r') ∧
      (last = ['\n'] ∨ last = ['\r', '\n']) ∧ s = text ++ last ++ x := by
  fun_induction afterLineComment? s with
  | case1 => exact .inl (Option.some.inj h).symm
  | case2 x => exact .inr ⟨[], ['\n'], x, by simp, .inl rfl, rfl⟩
  | case3 x => exact .inr ⟨[], ['\r', '\n'], x, by simp, .inr rfl, rfl⟩
  | case4 => cases h
  | case5 c s feed _ carriage ih =>
    refine (ih h).imp_right ?_
    rintro ⟨text, last, x, free, ends, rfl⟩
    exact ⟨c :: text, last, x, List.forall_mem_cons.2 ⟨⟨feed, carriage⟩, free⟩, ends, rfl⟩

theorem exists_append_of_afterBlockComment? {s : List Char}
    (h : afterBlockComment? s = some rest) :
    ∃ text, afterBlockComment? text = some [] ∧ s = text ++ rest := by
  fun_induction afterBlockComment? s with
  | case1 =>
    cases h
    exact ⟨['*', '/'], rfl, rfl⟩
  | case2 c s other ih =>
    obtain ⟨text, ends, rfl⟩ := ih h
    refine ⟨c :: text, ?_, rfl⟩
    rw [afterBlockComment?, ends]
    rintro tail rfl rfl
    exact other (tail ++ rest) rfl rfl
  | case3 => cases h

/-- A piece of a gap is a blank or a comment, unless it is a last line. -/
theorem afterGapPiece?_cases {s : List Char} (h : afterGapPiece? s = some rest) :
    rest = [] ∨ (∃ c t, isGapChar c = true ∧ s = c :: t) ∨ ∃ p t, IsComment p ∧ s = p ++ t := by
  rw [afterGapPiece?.eq_def] at h
  split at h
  · refine (afterLineComment?_cases h).imp_right ?_
    rintro ⟨text, last, t, free, ends, whole⟩
    exact .inr ⟨'-' :: '-' :: (text ++ last), t, .line free ends, by rw [whole]; rfl⟩
  · obtain ⟨text, ends, whole⟩ := exists_append_of_afterBlockComment? h
    exact .inr (.inr ⟨'/' :: '*' :: text, rest, .block ends, by rw [whole]; rfl⟩)
  · rename_i c t _ _
    split at h
    · rename_i blank
      exact .inr (.inl ⟨c, t, blank, rfl⟩)
    · cases h
  · cases h

/-- What a gap takes away in front of something is blanks and comments. -/
theorem exists_isGap {s : List Char} (filled : afterGap s ≠ []) :
    ∃ g, IsGap g ∧ s = g ++ afterGap s := by
  induction hn : s.length using Nat.strong_induction_on generalizing s with
  | _ n ih =>
    cases piece : afterGapPiece? s with
    | none => exact ⟨[], .nil, by rw [afterGap, piece]; rfl⟩
    | some rest =>
      rcases afterGapPiece?_cases piece with rfl | ⟨c, t, blank, rfl⟩ | ⟨p, t, comment, rfl⟩
      · have token : AtToken [] := rfl
        rw [afterGap_eq_of_piece piece, token.afterGap_eq] at filled
        exact absurd rfl filled
      · rw [afterGap_cons_of_blank blank] at filled ⊢
        obtain ⟨g, gap, whole⟩ := ih t.length (by simp [← hn]) filled rfl
        exact ⟨c :: g, .blank blank gap, congrArg (c :: ·) whole⟩
      · rw [comment.afterGap_append] at filled ⊢
        have shorter := comment.length_pos
        obtain ⟨g, gap, whole⟩ := ih t.length (by rw [← hn, List.length_append]; omega) filled rfl
        exact ⟨p ++ g, .comment comment gap, by rw [List.append_assoc, ← whole]⟩

end Gaps

section Balance
variable {depth : Nat}

theorem imbalance?_cons {c : Char} {rest : List Char} (h : opensComment (c :: rest) = false) :
    imbalance? depth .plain (c :: rest) =
      if isQuote c then imbalance? depth (.quoted c) rest
      else if c = '(' then imbalance? (depth + 1) .plain rest
      else if c = ')' then
        match depth with
        | 0 => some (.parentheses, c :: rest)
        | depth + 1 => imbalance? depth .plain rest
      else imbalance? depth .plain rest := by
  rw [imbalance?.eq_def]
  split
  case h_9 he =>
    obtain ⟨rfl, rfl⟩ := List.cons.inj he
    rfl
  all_goals simp_all [opensComment]

theorem imbalance?_sign {c : Char} {rest : List Char} (sign : c = '-' ∨ c = '/')
    (h : opensComment (c :: rest) = false) :
    imbalance? depth .plain (c :: rest) = imbalance? depth .plain rest := by
  rw [imbalance?_cons h]
  rcases sign with rfl | rfl <;> rfl

theorem imbalance?_lineComment_append {text : List Char} (free : '\n' ∉ text) (x : List Char) :
    imbalance? depth .lineComment (text ++ '\n' :: x) = imbalance? depth .plain x := by
  induction text with
  | nil => rfl
  | cons c text ih =>
    rw [List.mem_cons, not_or] at free
    rw [List.cons_append, imbalance?, if_neg (Ne.symm free.1), ih free.2]

theorem imbalance?_lineComment {text last : List Char} (free : ∀ c ∈ text, c ≠ '\n' ∧ c ≠ '\r')
    (ends : last = ['\n'] ∨ last = ['\r', '\n']) (x : List Char) :
    imbalance? depth .lineComment (text ++ last ++ x) = imbalance? depth .plain x := by
  have line : '\n' ∉ text := fun here => (free _ here).1 rfl
  rcases ends with rfl | rfl
  · rw [List.append_assoc]
    exact imbalance?_lineComment_append line x
  · have whole : text ++ ['\r', '\n'] ++ x = (text ++ ['\r']) ++ '\n' :: x := by simp
    rw [whole]
    exact imbalance?_lineComment_append (by simp [line]) x

theorem imbalance?_blockComment {text rest : List Char} (h : afterBlockComment? text = some rest) :
    imbalance? depth .blockComment text = imbalance? depth .plain rest := by
  fun_induction afterBlockComment? text with
  | case1 => cases h; rfl
  | case2 c text other ih =>
    rw [imbalance?, ih h]
    exact other
  | case3 => cases h

theorem IsComment.imbalance?_append {p : List Char} (h : IsComment p) (x : List Char) :
    imbalance? depth .plain (p ++ x) = imbalance? depth .plain x := by
  cases h with
  | line free ends => exact imbalance?_lineComment free ends x
  | block ends => exact imbalance?_blockComment (afterBlockComment?_append ends)

end Balance

section Uncommented

theorem uncommented_cons {c : Char} {rest : List Char} (h : opensComment (c :: rest) = false) :
    uncommented .plain (c :: rest) =
      c :: uncommented (if isQuote c then .quoted c else .plain) rest := by
  rw [uncommented]
  · rintro s rfl rfl
    exact absurd h (by simp [opensComment])
  · rintro s rfl rfl
    exact absurd h (by simp [opensComment])

theorem uncommented_plain {c : Char} {rest : List Char} (h : opensComment (c :: rest) = false)
    (quote : isQuote c = false) :
    uncommented .plain (c :: rest) = c :: uncommented .plain rest := by
  rw [uncommented_cons h, quote]
  rfl

theorem uncommented_quoted {q : Char} {content : List Char} (free : q ∉ content)
    (rest : List Char) :
    uncommented (.quoted q) (content ++ q :: rest) = content ++ q :: uncommented .plain rest := by
  induction content with
  | nil => simp [uncommented]
  | cons c content ih =>
    rw [List.mem_cons, not_or] at free
    rw [List.cons_append, uncommented, if_neg (Ne.symm free.1), ih free.2, List.cons_append]

/-- A text without the marks that open a comment has none to take away. -/
theorem uncommented_eq_self {s : List Char} (line : ¬ ['-', '-'] <:+: s)
    (block : ¬ ['/', '*'] <:+: s) : uncommented .plain s = s := by
  -- inside of quotes the marks do not count, so the induction is on both stretches at once
  suffices same : ∀ stretch : Stretch, stretch = .plain ∨ (∃ q, stretch = .quoted q) →
      uncommented stretch s = s from same .plain (.inl rfl)
  induction s with
  | nil => simp [uncommented]
  | cons c s ih =>
    rw [List.infix_cons_iff, not_or] at line block
    have closed : opensComment (c :: s) = false := by
      rw [Bool.eq_false_iff, ne_eq, opensComment_iff]
      exact not_or.2 ⟨line.1, block.1⟩
    have rest := ih line.2 block.2
    rintro stretch (rfl | ⟨q, rfl⟩)
    · rw [uncommented_cons closed, rest]
      split
      · exact .inr ⟨c, rfl⟩
      · exact .inl rfl
    · rw [uncommented, rest]
      split
      · exact .inl rfl
      · exact .inr ⟨q, rfl⟩

theorem uncommented_lineComment {text last : List Char}
    (free : ∀ c ∈ text, c ≠ '\n' ∧ c ≠ '\r') (ends : last = ['\n'] ∨ last = ['\r', '\n'])
    (x : List Char) :
    uncommented .lineComment (text ++ last ++ x) = '\n' :: uncommented .plain x := by
  induction text with
  | nil => rcases ends with rfl | rfl <;> rfl
  | cons c text ih =>
    rw [List.forall_mem_cons] at free
    rw [List.cons_append, List.cons_append, uncommented, if_neg free.1.1, ih free.2]

theorem uncommented_blockComment {text rest : List Char}
    (h : afterBlockComment? text = some rest) :
    uncommented .blockComment text = uncommented .plain rest := by
  fun_induction afterBlockComment? text with
  | case1 => cases h; rfl
  | case2 c text other ih =>
    rw [uncommented, ih h]
    exact other
  | case3 => cases h

theorem IsComment.uncommented_blank {p : List Char} (h : IsComment p) :
    uncommented .plain p ≠ [] ∧ ∀ c ∈ uncommented .plain p, isGapChar c = true := by
  cases h with
  | @line text last free ends =>
    have alone := uncommented_lineComment free ends []
    rw [List.append_nil] at alone
    change ' ' :: uncommented .lineComment (text ++ last) ≠ [] ∧ ∀ c ∈ ' ' :: _, _
    rw [alone]
    decide
  | @block text ends =>
    change ' ' :: uncommented .blockComment text ≠ [] ∧ ∀ c ∈ ' ' :: _, _
    rw [uncommented_blockComment ends]
    decide

theorem IsComment.uncommented_append {p : List Char} (h : IsComment p) (x : List Char) :
    uncommented .plain (p ++ x) = uncommented .plain p ++ uncommented .plain x := by
  cases h with
  | @line text last free ends =>
    have whole := uncommented_lineComment free ends x
    have alone := uncommented_lineComment free ends []
    rw [List.append_nil] at alone
    change ' ' :: uncommented .lineComment (text ++ last ++ x) =
      ' ' :: uncommented .lineComment (text ++ last) ++ _
    rw [whole, alone]
    rfl
  | @block text ends =>
    have whole := uncommented_blockComment (afterBlockComment?_append (x := x) ends)
    have alone := uncommented_blockComment ends
    change ' ' :: uncommented .blockComment (text ++ x) = ' ' :: uncommented .blockComment text ++ _
    rw [whole, alone]
    rfl

/-- Nothing but spaces is new in a text without its comments. -/
theorem mem_uncommented {stretch : Stretch} {s : List Char} {c : Char}
    (h : c ∈ uncommented stretch s) : c ∈ s ∨ c = ' ' := by
  fun_induction uncommented stretch s with
  | case1 => exact .inl h
  | case2 _ _ _ ih | case3 _ ih | case9 _ _ _ _ ih =>
    rcases List.mem_cons.1 h with rfl | h
    · exact .inl List.mem_cons_self
    · exact (ih h).imp (List.mem_cons_of_mem _) id
  | case4 _ _ _ ih | case6 _ _ _ ih => exact (ih h).imp (List.mem_cons_of_mem _) id
  | case5 _ ih =>
    exact (ih h).imp (fun h => List.mem_cons_of_mem _ (List.mem_cons_of_mem _ h)) id
  | case7 _ ih | case8 _ ih =>
    rcases List.mem_cons.1 h with rfl | h
    · exact .inr rfl
    · exact (ih h).imp (fun h => List.mem_cons_of_mem _ (List.mem_cons_of_mem _ h)) id

theorem head?_uncommented (s : List Char) :
    (uncommented .plain s).head? = if opensComment s then some ' ' else s.head? := by
  cases h : opensComment s with
  | true =>
    revert h
    fun_cases opensComment s <;> simp [uncommented]
  | false =>
    cases s with
    | nil => rfl
    | cons c s => rw [uncommented_cons h]; rfl

/-- No comment starts where there was none. -/
theorem opensComment_uncommented {c : Char} {s : List Char}
    (h : opensComment (c :: s) = false) : opensComment (c :: uncommented .plain s) = false := by
  by_cases sign : c = '-' ∨ c = '/'
  · cases next : opensComment s with
    | true =>
      have space : (uncommented .plain s).head? = [' '].head? := by
        rw [head?_uncommented, next]
        rfl
      rw [opensComment_cons_congr space]
      rcases sign with rfl | rfl <;> rfl
    | false =>
      have same : (uncommented .plain s).head? = s.head? := by rw [head?_uncommented, next]; rfl
      rw [opensComment_cons_congr same, h]
  · rw [not_or] at sign
    exact opensComment_eq_false_of_ne sign.1 sign.2 _

def Stretch.outsideComments : Stretch → Stretch
  | .quoted q => .quoted q
  | _ => .plain

/-- A statement is balanced if and only if it is balanced without its comments. -/
theorem isNone_imbalance?_uncommented (depth : Nat) (stretch : Stretch) (s : List Char) :
    (imbalance? depth stretch.outsideComments (uncommented stretch s)).isNone =
      (imbalance? depth stretch s).isNone := by
  fun_induction uncommented stretch s generalizing depth with
  | case1 stretch => cases stretch <;> rfl
  | case2 q c rest ih =>
    by_cases hc : c = q
    · simpa [Stretch.outsideComments, imbalance?, hc] using ih depth
    · simpa [Stretch.outsideComments, imbalance?, hc] using ih depth
  | case3 rest ih =>
    rw [imbalance?, if_pos rfl, ← ih]
    exact congrArg _ (imbalance?_inert (by decide) depth _)
  | case4 c rest other ih =>
    rw [imbalance?, if_neg other, ← ih]
  | case5 rest ih => exact ih depth
  | case6 c rest other ih =>
    rw [imbalance?, ← ih]
    exact other
  | case7 rest ih =>
    exact (congrArg _ (imbalance?_inert (by decide) depth _)).trans (ih depth)
  | case8 rest ih =>
    exact (congrArg _ (imbalance?_inert (by decide) depth _)).trans (ih depth)
  | case9 c rest line block ih =>
    have single : opensComment (c :: rest) = false := by
      rw [opensComment]
      · rintro s ⟨rfl, rfl⟩
        exact line s rfl rfl
      · rintro s ⟨rfl, rfl⟩
        exact block s rfl rfl
    cases quote : isQuote c with
    | true =>
      simp only [quote, if_true] at ih ⊢
      rw [imbalance?_quote quote, ← ih]
      exact congrArg _ (imbalance?_quote quote depth _)
    | false =>
      simp only [quote, Bool.false_eq_true, if_false] at ih ⊢
      rw [imbalance?_cons single]
      change (imbalance? depth .plain _).isNone = _
      rw [imbalance?_cons (opensComment_uncommented single)]
      simp only [quote, Bool.false_eq_true, if_false]
      split
      · exact ih (depth + 1)
      · split
        · cases depth with
          | zero => rfl
          | succ depth => exact ih depth
        · exact ih depth

end Uncommented

end TableLoad.Ddl
