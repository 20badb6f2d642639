import Mathlib.Tactic.FinCases
import TableLoad.Ddl.Token
import TableLoad.Sql.Dialect
import TableLoad.Proofs.Ddl.Closed
import TableLoad.Proofs.Text.Blank
import TableLoad.Proofs.Text.Quoted

/-! # Reading tokens back

Gaps, keywords, words, quoted names, strings and numerals read back from their texts.  What may
follow a word is anything but a character of a word.
-/
namespace TableLoad.Ddl
open Text Sql

theorem not_isWordChar_of_mem_everyBlank : ∀ c ∈ everyBlank, isWordChar c = false := by
  decide +kernel

theorem not_isBlank_of_isWordChar {c : Char} (h : isWordChar c = true) : isBlank c = false := by
  rw [← Bool.not_eq_true]
  intro blank
  exact absurd h (by simp [not_isWordChar_of_mem_everyBlank c (mem_everyBlank_of_isBlank blank)])

theorem ne_of_isWordChar {c d : Char} (h : isWordChar c = true) (hd : isWordChar d = false) :
    c ≠ d := by
  rintro rfl
  exact absurd h (by simp [hd])

theorem isInert_of_isWordChar {c : Char} (h : isWordChar c = true) : isInert c = true := by
  have apostrophe := ne_of_isWordChar h (d := '\'') rfl
  have double := ne_of_isWordChar h (d := '"') rfl
  have back := ne_of_isWordChar h (d := backtick) rfl
  have opening := ne_of_isWordChar h (d := '(') rfl
  have closing := ne_of_isWordChar h (d := ')') rfl
  have minus := ne_of_isWordChar h (d := '-') rfl
  have slash := ne_of_isWordChar h (d := '/') rfl
  simp [isInert, isQuote, apostrophe, double, back, opening, closing, minus, slash]

theorem isWordChar_of_isDigit {c : Char} (h : c.isDigit = true) : isWordChar c = true := by
  have ascii : c.toNat < 0x80 := by
    rw [Char.isDigit_iff_toNat] at h
    simp only [Char.reduceToNat] at h
    omega
  simp [isWordChar, isAlphanumeric, ascii, Char.isAlphanum, h]

def EndsWord (rest : List Char) : Prop := ∀ c ∈ rest.head?, isWordChar c = false

theorem endsWord_cons {c : Char} (h : isWordChar c = false) (t : List Char) : EndsWord (c :: t) := by
  simpa [EndsWord] using h

theorem endsWord_space (t : List Char) : EndsWord (' ' :: t) := endsWord_cons rfl t

/-- A place where no gap starts. -/
def AtToken (s : List Char) : Prop := afterGapPiece? s = none

theorem atToken_cons {c : Char} (s : List Char) (blank : isGapChar c = false) (minus : c ≠ '-')
    (slash : c ≠ '/') : AtToken (c :: s) := by
  unfold AtToken
  rw [afterGapPiece?]
  · simp [blank]
  · exact fun _ he => absurd he minus
  · exact fun _ he => absurd he slash

theorem atToken_minus {c : Char} (s : List Char) (h : c ≠ '-') : AtToken ('-' :: c :: s) := by
  unfold AtToken
  rw [afterGapPiece?]
  · rfl
  · simp [h]
  · simp

theorem atToken_of_isWordChar {c : Char} (h : isWordChar c = true) (s : List Char) :
    AtToken (c :: s) := by
  have space := ne_of_isWordChar h (d := ' ') rfl
  have tab := ne_of_isWordChar h (d := '\t') rfl
  have feed := ne_of_isWordChar h (d := '\n') rfl
  have carriage := ne_of_isWordChar h (d := '\r') rfl
  refine atToken_cons s ?_ (ne_of_isWordChar h rfl) (ne_of_isWordChar h rfl)
  simp [isGapChar, space, tab, feed, carriage]

theorem AtToken.afterGap_eq {s : List Char} (h : AtToken s) : afterGap s = s := by
  unfold AtToken at h
  rw [afterGap, h]

theorem AtToken.gap_run {s : List Char} (h : AtToken s) : gap s = some ((), s) := by
  rw [gap, h.afterGap_eq]

theorem afterGap_cons_of_blank {c : Char} (h : isGapChar c = true) (s : List Char) :
    afterGap (c :: s) = afterGap s := by
  have piece : afterGapPiece? (c :: s) = some s := by
    simp only [isGapChar, Bool.or_eq_true, beq_iff_eq, or_assoc] at h
    rcases h with rfl | rfl | rfl | rfl <;> rfl
  rw [afterGap, piece]
  simp

theorem gap_cons_of_blank {c : Char} (h : isGapChar c = true) (s : List Char) :
    gap (c :: s) = gap s := by
  rw [gap, gap, afterGap_cons_of_blank h]

theorem AtToken.gap_space {s : List Char} (h : AtToken s) : gap (' ' :: s) = some ((), s) := by
  rw [gap_cons_of_blank (by decide), h.gap_run]

theorem keyword_run (word : String) (upper : word.toList.map Char.toUpper = word.toList)
    {rest : List Char} (stop : EndsWord rest) :
    keyword word (word.toList ++ rest) = some ((), rest) := by
  have next : ¬ (rest.head?.any isWordChar) = true := by
    cases rest with
    | nil => simp
    | cons c rest => simp [stop c rfl]
  have length : word.length = word.toList.length := String.length_toList.symm
  simp [keyword, length, upper, next]

theorem word_run {shown rest : List Char} (filled : shown ≠ [])
    (all : ∀ c ∈ shown, isWordChar c = true) (stop : EndsWord rest) :
    word (shown ++ rest) = some (String.ofList shown, rest) := by
  rw [word, Scan.bind_run (Scan.some1_run filled all stop)]
  rfl

/-- Names that can stand between any quotes. -/
def IsWord (name : String) : Prop := name ≠ "" ∧ ∀ c ∈ name.toList, isWordChar c = true

theorem IsWord.ne_nil {name : String} (h : IsWord name) : name.toList ≠ [] := by
  simpa using h.1

theorem quotedName_eq {first last : Char} {content : List Char} (free : last ∉ content)
    (rest : List Char) :
    quotedName first last (first :: (content ++ last :: rest)) =
      if content = [] then none else some (String.ofList content, rest) := by
  rw [quotedName, Scan.bind_run (Scan.char_cons_self _ _)]
  by_cases empty : content = []
  · rw [if_pos empty, empty]
    exact Scan.bind_refused (Scan.some1_refused (by simp))
  · have all : ∀ c ∈ content, (c != last) = true := fun c hc =>
      bne_iff_ne.2 fun he => free (he ▸ hc)
    rw [if_neg empty, Scan.bind_run (Scan.some1_run empty all (by simp)),
      Scan.bind_run (Scan.char_cons_self _ _)]
    rfl

/-- Behind the opening mark of a dialect, a name is looked for between its marks alone. -/
theorem name_mark (d : Dialect) (s : List Char) :
    name (d.nameMarks.1 :: s) = quotedName d.nameMarks.1 d.nameMarks.2 (d.nameMarks.1 :: s) := by
  rw [name]
  cases d with
  | mysql => exact Scan.orElse_of_refused rfl
  | postgresql | sqlite => exact (Scan.orElse_refused rfl).trans (Scan.orElse_of_refused rfl)
  | sqlserver =>
    exact (Scan.orElse_refused rfl).trans
      ((Scan.orElse_refused rfl).trans (Scan.orElse_of_refused rfl))

theorem toList_quoteName_of_free (d : Dialect) {shown : String}
    (free : d.nameMarks.2 ∉ shown.toList) :
    (d.quoteName shown).toList = d.nameMarks.1 :: (shown.toList ++ [d.nameMarks.2]) := by
  have single : doubling [d.nameMarks.2] shown.toList = shown.toList := by
    apply doubling_eq_self
    intro c hc mark
    exact free (List.mem_singleton.1 mark ▸ hc)
  rw [Dialect.quoteName, String.toList_ofList, enclosed, single]

/-- A name in the quotes of a dialect is read back if it has no closing mark. -/
theorem name_run_of_free (d : Dialect) {shown : String} (free : d.nameMarks.2 ∉ shown.toList)
    (filled : shown ≠ "") (rest : List Char) :
    name ((d.quoteName shown).toList ++ rest) = some (shown, rest) := by
  have some : shown.toList ≠ [] := by simpa using filled
  rw [toList_quoteName_of_free d free, List.cons_append, List.append_assoc,
    List.singleton_append, name_mark, quotedName_eq free, if_neg some, String.ofList_toList]

theorem IsWord.mark_not_mem {shown : String} (h : IsWord shown) (d : Dialect) :
    d.nameMarks.2 ∉ shown.toList := by
  have plain : isWordChar d.nameMarks.2 = false := by cases d <;> rfl
  intro mark
  exact ne_of_isWordChar (h.2 _ mark) plain rfl

theorem toList_quoteName (d : Dialect) {shown : String} (h : IsWord shown) :
    (d.quoteName shown).toList = d.nameMarks.1 :: (shown.toList ++ [d.nameMarks.2]) :=
  toList_quoteName_of_free d (h.mark_not_mem d)

theorem name_run (d : Dialect) {shown : String} (h : IsWord shown) (rest : List Char) :
    name ((d.quoteName shown).toList ++ rest) = some (shown, rest) :=
  name_run_of_free d (h.mark_not_mem d) h.1 rest

/-- The rest of a string is read up to the first apostrophe that is not doubled. -/
theorem stringTail?_doubling (s : List Char) {rest : List Char}
    (stop : rest.head? ≠ some '\'') :
    stringTail? (doubling ['\''] s ++ '\'' :: rest) = some (s, rest) := by
  induction s with
  | nil =>
    cases rest with
    | nil => rfl
    | cons c rest =>
      have : c ≠ '\'' := by simpa using stop
      rw [doubling_nil, List.nil_append, stringTail?]
      simpa using this
  | cons c s ih =>
    by_cases hc : c = '\''
    · subst hc
      simp [stringTail?, ih]
    · rw [doubling_cons, if_neg (by simpa using hc), List.append_assoc, List.singleton_append,
        stringTail?, ih]
      · rfl
      · exact fun _ he => absurd he hc
      · exact hc

/-- The characters that a string literal doubles besides the apostrophe. The grammar leaves them
double. -/
def leftDouble : Dialect → List Char
  | .mysql => ['\\']
  | _ => []

/-- A string literal doubles apostrophes last. -/
theorem literalChars_eq (d : Dialect) (s : List Char) :
    d.literalChars s =
      d.literalMark ++ '\'' :: (doubling ['\''] (doubling (leftDouble d) s) ++ ['\'']) := by
  have last : d.literalSpecials = leftDouble d ++ ['\''] := by cases d <;> rfl
  have apart : ∀ c ∈ leftDouble d, c ∉ ['\''] := by cases d <;> decide
  rw [Dialect.literalChars, last, doubling_append_special apart]

/-- A string literal is read back in every dialect, but for what is left double. -/
theorem stringLiteral_run (d : Dialect) (s : List Char) {rest : List Char}
    (stop : rest.head? ≠ some '\'') :
    stringLiteral (d.literalChars s ++ rest) =
      some (String.ofList (doubling (leftDouble d) s), rest) := by
  rw [literalChars_eq d]
  generalize doubling (leftDouble d) s = content
  have tail := stringTail?_doubling content stop
  rw [List.append_assoc, List.cons_append, List.append_assoc, List.singleton_append]
  have mark : (Scan.optional (Scan.char 'N' <|> Scan.char 'n'))
      (d.literalMark ++ '\'' :: (doubling ['\''] content ++ '\'' :: rest)) =
        some (d.literalMark.head?.map fun _ => (),
          '\'' :: (doubling ['\''] content ++ '\'' :: rest)) := by
    cases d <;> rfl
  rw [stringLiteral, Scan.bind_run mark]
  change (stringTail? (doubling ['\''] content ++ '\'' :: rest)).map _ = _
  rw [tail]
  rfl

theorem closed_literalChars (d : Dialect) (s : List Char) : Closed (d.literalChars s) := by
  have inner : Closed ('\'' :: (doubling ['\''] (doubling (leftDouble d) s) ++ ['\''])) :=
    .doubled (by decide) _ .nil
  rw [literalChars_eq d]
  cases d with
  | sqlserver => exact .inert (by decide) inner
  | _ => exact inner

/-- The texts that a literal of the dialect gives back: MySQL doubles backslashes, too. -/
def KeepsText (d : Dialect) (s : List Char) : Prop := d = .mysql → '\\' ∉ s

instance (d : Dialect) (s : List Char) : Decidable (KeepsText d s) := by
  unfold KeepsText
  infer_instance

theorem doubling_leftDouble_iff {d : Dialect} {s : List Char} :
    doubling (leftDouble d) s = s ↔ KeepsText d s := by
  rw [doubling_eq_self_iff, KeepsText]
  cases d <;> simp [leftDouble, List.forall_mem_ne']

theorem stringLiteral_refused {c : Char} (upper : c ≠ 'N') (lower : c ≠ 'n') (mark : c ≠ '\'')
    (s : List Char) : stringLiteral (c :: s) = none := by
  have letter : (Scan.char 'N' <|> Scan.char 'n') (c :: s) = none :=
    (Scan.orElse_refused (Scan.char_cons_ne upper s)).trans (Scan.char_cons_ne lower s)
  rw [stringLiteral, Scan.bind_run (Scan.optional_refused letter)]
  exact Scan.bind_refused (Scan.char_cons_ne mark s)

def IsDigits (s : List Char) : Prop := s ≠ [] ∧ ∀ c ∈ s, c.isDigit = true

def IsNumeral (s : List Char) : Prop :=
  ∃ sign whole fraction, s = sign ++ (whole ++ fraction) ∧
    (sign = [] ∨ sign = ['-'] ∨ sign = ['+']) ∧ IsDigits whole ∧
      (fraction = [] ∨ ∃ more, fraction = '.' :: more ∧ IsDigits more)

theorem ne_of_isDigit {c d : Char} (h : c.isDigit = true) (hd : d.isDigit = false) : c ≠ d := by
  rintro rfl
  exact absurd h (by simp [hd])

def EndsNumeral (rest : List Char) : Prop := ∀ c ∈ rest.head?, c.isDigit = false ∧ c ≠ '.'

theorem digitRun_run {s rest : List Char} (h : IsDigits s)
    (stop : ∀ c ∈ rest.head?, c.isDigit = false) : digitRun (s ++ rest) = some (s, rest) :=
  Scan.some1_run h.1 h.2 stop

theorem sign_run {sign s : List Char} (rest : List Char) (signed : sign = [] ∨ sign = ['-'] ∨ sign = ['+'])
    (h : IsDigits s) : ∃ found,
      Scan.optional (Scan.char '-' <|> Scan.char '+') (sign ++ (s ++ rest)) =
        some (found, s ++ rest) := by
  rcases signed with rfl | rfl | rfl
  · obtain ⟨c, t, rfl⟩ := List.exists_cons_of_ne_nil h.1
    have digit := h.2 c List.mem_cons_self
    refine ⟨none, Scan.optional_refused ?_⟩
    exact (Scan.orElse_refused (Scan.char_cons_ne (ne_of_isDigit digit rfl) _)).trans
      (Scan.char_cons_ne (ne_of_isDigit digit rfl) _)
  · exact ⟨_, rfl⟩
  · exact ⟨_, rfl⟩

theorem numeral_run {s rest : List Char} (h : IsNumeral s) (stop : EndsNumeral rest) :
    numeral (s ++ rest) = some (String.ofList s, rest) := by
  obtain ⟨sign, whole, fraction, rfl, signed, digits, point⟩ := h
  obtain ⟨found, readSign⟩ := sign_run (fraction ++ rest) signed digits
  have wholeStop : ∀ c ∈ (fraction ++ rest).head?, c.isDigit = false := by
    rcases point with rfl | ⟨more, rfl, -⟩
    · exact fun c hc => (stop c hc).1
    · simp only [List.cons_append, List.head?_cons, Option.mem_some]
      rintro c rfl
      rfl
  obtain ⟨more, readFraction⟩ : ∃ more,
      Scan.optional (do Scan.char '.'; digitRun) (fraction ++ rest) = some (more, rest) := by
    rcases point with rfl | ⟨more, rfl, digits⟩
    · refine ⟨none, Scan.optional_refused (Scan.bind_refused ?_)⟩
      cases rest with
      | nil => rfl
      | cons c rest => exact Scan.char_cons_ne (stop c rfl).2 rest
    · refine ⟨some more, Scan.optional_run ?_⟩
      rw [List.cons_append, Scan.bind_run (Scan.char_cons_self _ _)]
      exact digitRun_run digits fun c hc => (stop c hc).1
  rw [numeral, Scan.bind_run (Scan.consumed_run (a := more) ?_)]
  · rfl
  · rw [List.append_assoc, List.append_assoc, Scan.bind_run readSign,
      Scan.bind_run (digitRun_run digits wholeStop), readFraction]

theorem IsNumeral.mem {s : List Char} (h : IsNumeral s) {c : Char} (hc : c ∈ s) :
    c.isDigit = true ∨ c = '-' ∨ c = '+' ∨ c = '.' := by
  obtain ⟨sign, whole, fraction, rfl, signed, digits, point⟩ := h
  rcases List.mem_append.1 hc with hc | hc
  · rcases signed with rfl | rfl | rfl <;> simp_all
  rcases List.mem_append.1 hc with hc | hc
  · exact .inl (digits.2 c hc)
  · rcases point with rfl | ⟨more, rfl, digits⟩
    · simp at hc
    · rcases List.mem_cons.1 hc with rfl | hc
      · simp
      · exact .inl (digits.2 c hc)

theorem isInert_of_isDigit {c : Char} (h : c.isDigit = true) : isInert c = true :=
  isInert_of_isWordChar (isWordChar_of_isDigit h)

theorem IsNumeral.closed {s : List Char} (h : IsNumeral s) : Closed s := by
  obtain ⟨sign, whole, fraction, rfl, signed, digits, point⟩ := h
  have closedFraction : Closed fraction := by
    rcases point with rfl | ⟨more, rfl, digits⟩
    · exact .nil
    · exact .inert (by decide) (.of_inert fun c hc => isInert_of_isDigit (digits.2 c hc))
  have closed : Closed (whole ++ fraction) :=
    (Closed.of_inert fun c hc => isInert_of_isDigit (digits.2 c hc)).append closedFraction
  obtain ⟨c, t, rfl⟩ := List.exists_cons_of_ne_nil digits.1
  rcases signed with rfl | rfl | rfl
  · exact closed
  · exact .minus (ne_of_isDigit (digits.2 c List.mem_cons_self) rfl) closed
  · exact .inert (by decide) closed

theorem IsNumeral.atToken {s : List Char} (h : IsNumeral s) (rest : List Char) :
    AtToken (s ++ rest) := by
  obtain ⟨sign, whole, fraction, rfl, signed, digits, -⟩ := h
  obtain ⟨c, t, rfl⟩ := List.exists_cons_of_ne_nil digits.1
  have digit := digits.2 c List.mem_cons_self
  rcases signed with rfl | rfl | rfl
  · refine atToken_cons _ ?_ (ne_of_isDigit digit rfl) (ne_of_isDigit digit rfl)
    simp [isGapChar, ne_of_isDigit digit]
  · exact atToken_minus _ (ne_of_isDigit digit rfl)
  · rfl

theorem IsNumeral.exists_cons {s : List Char} (h : IsNumeral s) : ∃ c t, s = c :: t ∧
    (c.isDigit = true ∨ c = '-' ∨ c = '+' ∨ c = '.') := by
  have filled : s ≠ [] := by
    obtain ⟨sign, whole, fraction, rfl, -, digits, -⟩ := h
    simp [digits.1]
  obtain ⟨c, t, rfl⟩ := List.exists_cons_of_ne_nil filled
  exact ⟨c, t, rfl, h.mem List.mem_cons_self⟩

theorem stringLiteral_numeral {s : List Char} (h : IsNumeral s) (rest : List Char) :
    stringLiteral (s ++ rest) = none := by
  obtain ⟨c, t, rfl, first⟩ := h.exists_cons
  refine stringLiteral_refused ?_ ?_ ?_ _
  all_goals
    rintro rfl
    revert first
    decide

end TableLoad.Ddl
