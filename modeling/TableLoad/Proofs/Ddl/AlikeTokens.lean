import TableLoad.Proofs.Ddl.Alike
import TableLoad.Proofs.Text.Case
import TableLoad.Proofs.Text.Keeps

/-! # Tokens of texts that are alike

Gaps, keywords, words, names, strings, numerals, groups and defaults are read the same from texts
that differ in their comments only.
-/
namespace TableLoad.Ddl
open Text Scan

/-! ### Keywords -/

/-- Words that can be keywords: letters in upper case and underscores. -/
def IsKeyword (word : String) : Prop :=
  word ≠ "" ∧ ∀ c ∈ word.toList, c.isUpper = true ∨ c = '_'

instance (word : String) : Decidable (IsKeyword word) :=
  inferInstanceAs (Decidable (_ ∧ _))

theorem isLower_iff (c : Char) : c.isLower = true ↔ 'a'.val ≤ c.val ∧ c.val ≤ 'z'.val :=
  (Bool.and_eq_true_iff : _ ↔ _).trans (and_congr decide_eq_true_iff decide_eq_true_iff)

theorem isWordChar_of_isAlpha {c : Char} (h : c.isAlpha = true) : isWordChar c = true := by
  have ascii : c.toNat < 0x80 := by
    have code := toNat_of_isAlpha h
    omega
  simp [isWordChar, isAlphanumeric, ascii, Char.isAlphanum, h]

theorem isWordChar_of_toUpper {c : Char} (h : c.toUpper.isUpper = true ∨ c.toUpper = '_') :
    isWordChar c = true := by
  by_cases lower : 'a'.val ≤ c.val ∧ c.val ≤ 'z'.val
  · exact isWordChar_of_isAlpha (Bool.or_eq_true_iff.2 (.inr ((isLower_iff c).2 lower)))
  · have same : c.toUpper = c := dif_neg lower
    rw [same] at h
    rcases h with upper | rfl
    · exact isWordChar_of_isAlpha (Bool.or_eq_true_iff.2 (.inl upper))
    · rfl

/-- A keyword is read where the whole word is the keyword. -/
theorem keyword_eq {word : String} (h : IsKeyword word) (s : List Char) :
    keyword word s =
      if (s.takeWhile isWordChar).map Char.toUpper = word.toList then
        some ((), s.dropWhile isWordChar)
      else none := by
  have size : word.length = word.toList.length := String.length_toList.symm
  rw [keyword]
  split
  · rename_i read
    obtain ⟨spelled, stop⟩ := read
    have all : ∀ c ∈ s.take word.length, isWordChar c = true := fun c hc =>
      isWordChar_of_toUpper (h.2 _ (spelled ▸ List.mem_map_of_mem hc))
    have ends : ∀ c ∈ (s.drop word.length).head?, isWordChar c = false := by
      intro c hc
      rw [hc] at stop
      simpa using stop
    obtain ⟨take, drop⟩ := takeWhile_append_of_stop all ends
    rw [List.take_append_drop] at take drop
    rw [take, drop, if_pos spelled]
  · rename_i refused
    rw [if_neg]
    intro spelled
    have same := congrArg List.length spelled
    rw [List.length_map, ← size] at same
    have whole := List.takeWhile_append_dropWhile (p := isWordChar) (l := s)
    have take : s.take word.length = s.takeWhile isWordChar := by
      conv_lhs => rw [← whole, ← same, List.take_left]
    have drop : s.drop word.length = s.dropWhile isWordChar := by
      conv_lhs => rw [← whole, ← same, List.drop_left]
    rw [take, drop] at refused
    refine refused ⟨spelled, ?_⟩
    cases next : s.dropWhile isWordChar with
    | nil => simp
    | cons c rest =>
      have := List.head?_dropWhile_not isWordChar s
      simpa [next] using this

theorem oneOf_eq {words : List String} (h : ∀ word ∈ words, IsKeyword word) (s : List Char) :
    oneOf words s =
      if ∃ word ∈ words, (s.takeWhile isWordChar).map Char.toUpper = word.toList then
        some ((), s.dropWhile isWordChar)
      else none := by
  induction words with
  | nil => simp [oneOf]
  | cons word words ih =>
    rw [List.forall_mem_cons] at h
    have first := keyword_eq h.1 s
    by_cases same : (s.takeWhile isWordChar).map Char.toUpper = word.toList
    · rw [if_pos same] at first
      rw [if_pos ⟨word, List.mem_cons_self, same⟩]
      exact orElse_run first
    · rw [if_neg same] at first
      refine (orElse_refused first).trans ((ih h.2).trans ?_)
      simp [same]

section Tokens
variable {special r r' : List Char}

theorem keeps_gap (ends : EndAlike r r') : Keeps (Alike special r r') gap :=
  fun _ _ h => .inr ⟨(), _, _, rfl, rfl, (h.afterGap ends).1⟩

theorem keeps_keyword {word : String} (ends : EndAlike r r') (hw : IsKeyword word) :
    Keeps (Alike special r r') (keyword word) := by
  intro x y h
  obtain ⟨same, next⟩ := h.takeWhile ends fun _ hc => hc
  rw [keyword_eq hw, keyword_eq hw, same]
  split
  · exact .inr ⟨(), _, _, rfl, rfl, next⟩
  · exact .inl ⟨rfl, rfl⟩

theorem keeps_oneOf {words : List String} (ends : EndAlike r r')
    (hw : ∀ word ∈ words, IsKeyword word) :
    Keeps (Alike special r r') (oneOf words) := by
  induction words with
  | nil => exact fun _ _ _ => .inl ⟨rfl, rfl⟩
  | cons word words ih =>
    rw [List.forall_mem_cons] at hw
    exact (keeps_keyword ends hw.1).orElse (ih hw.2)

theorem keeps_phrase {words : List String} (ends : EndAlike r r')
    (hw : ∀ word ∈ words, IsKeyword word) :
    Keeps (Alike special r r') (phrase words) := by
  fun_induction phrase words with
  | case1 => exact keeps_pure ()
  | case2 word => exact keeps_keyword ends (hw word List.mem_cons_self)
  | case3 word words _ ih =>
    rw [List.forall_mem_cons] at hw
    exact (keeps_keyword ends hw.1).bind fun _ => (keeps_gap ends).bind fun _ => ih hw.2

/-! ### Words and marks -/

theorem copies_some1 (ends : EndAlike r r') {p : Char → Bool}
    (words : ∀ c, p c = true → isWordChar c = true) : Copies (Alike special r r') (some1 p) := by
  apply copies_of_forall
  intro x y h
  obtain ⟨same, next⟩ := h.takeWhile ends words
  by_cases empty : x.takeWhile p = []
  · refine .inl ⟨?_, ?_⟩
    · simp [some1, empty]
    · simp [some1, ← same, empty]
  · refine .inr ⟨x.takeWhile p, x.takeWhile p, _, _, List.takeWhile_append_dropWhile.symm, ?_, ?_,
      ?_, next⟩
    · rw [same, List.takeWhile_append_dropWhile]
    · simp [some1, empty]
    · rw [same] at empty ⊢
      simp [some1, empty]

theorem copies_word (ends : EndAlike r r') : Copies (Alike special r r') word :=
  (copies_some1 ends fun _ hc => hc).bind fun _ => copies_pure _

theorem copies_digitRun (ends : EndAlike r r') : Copies (Alike special r r') digitRun :=
  copies_some1 ends fun _ hc => isWordChar_of_isDigit hc

def Apart (c : Char) (r r' : List Char) : Prop := r.head? ≠ some c ∧ r'.head? ≠ some c

theorem EndAlike.apart {c : Char} (ends : EndAlike r r') (other : isStop c = false) :
    Apart c r r' := by
  have ne {stop : Char} (marked : isStop stop = true) : stop ≠ c := by
    rintro rfl
    exact absurd marked (by simp [other])
  obtain ⟨stop, stop', t, t', marked, marked', rfl, rfl⟩ := ends
  exact ⟨by simpa using ne marked, by simpa using ne marked'⟩

theorem Alike.head?_eq_some_iff {x y : List Char} (h : Alike special r r' x y) {c : Char}
    (sign : c ≠ '-' ∧ c ≠ '/') (blank : isGapChar c = false) (other : Apart c r r') :
    x.head? = some c ↔ y.head? = some c := by
  have comment {p x : List Char} (hp : IsComment p) : (p ++ x).head? ≠ some c := by
    obtain ⟨d, p, rfl, rfl | rfl⟩ := hp.exists_cons
    · simpa using sign.1.symm
    · simpa using sign.2.symm
  cases h with
  | rest => exact iff_of_false other.1 other.2
  | plain | sign | quoted | bracketed | group => rfl
  | comment hp _ => exact iff_of_false (comment hp) (comment hp)
  | blank hp filled blanks _ _ =>
    refine iff_of_false (comment hp) ?_
    obtain ⟨d, q, rfl⟩ := List.exists_cons_of_ne_nil filled
    have gap := blanks d List.mem_cons_self
    simp only [List.cons_append, List.head?_cons, Option.some.injEq]
    rintro rfl
    exact absurd gap (by simp [blank])

/-- What a character in front of the texts belongs to. -/
theorem Alike.at_head {x y : List Char} (h : Alike special r r' x y) {c : Char}
    (sign : c ≠ '-' ∧ c ≠ '/') (blank : isGapChar c = false) (other : Apart c r r') :
    (x.head? ≠ some c ∧ y.head? ≠ some c) ∨ ∃ x' y', Alike special r r' x' y' ∧
      ((isInert c = true ∧ c ∉ special ∧ x = c :: x' ∧ y = c :: y') ∨
      (isQuote c = true ∧ ∃ content, c ∉ content ∧
        x = c :: (content ++ c :: x') ∧ y = c :: (content ++ c :: y')) ∨
      (c = '[' ∧ ∃ content, ']' ∉ content ∧
        x = c :: (content ++ ']' :: x') ∧ y = c :: (content ++ ']' :: y')) ∨
      (c = '(' ∧ ∃ inner, Inside ')' inner ∧
        x = c :: (inner ++ ')' :: x') ∧ y = c :: (inner ++ ')' :: y'))) := by
  have same := h.head?_eq_some_iff sign blank other
  by_cases here : x.head? = some c
  · refine .inr ?_
    cases h with
    | rest => exact absurd here other.1
    | @plain d x y hc held next =>
      obtain rfl : d = c := Option.some.inj here
      exact ⟨x, y, next, .inl ⟨hc, held, rfl, rfl⟩⟩
    | sign either _ _ _ =>
      obtain rfl := Option.some.inj here
      exact absurd either (by simp [sign])
    | @quoted q content x y hq free next =>
      obtain rfl : q = c := Option.some.inj here
      exact ⟨x, y, next, .inr (.inl ⟨hq, content, free, rfl, rfl⟩)⟩
    | @bracketed content x y free _ next =>
      obtain rfl : '[' = c := Option.some.inj here
      exact ⟨x, y, next, .inr (.inr (.inl ⟨rfl, content, free, rfl, rfl⟩))⟩
    | @group inner x y inside next =>
      obtain rfl : '(' = c := Option.some.inj here
      exact ⟨x, y, next, .inr (.inr (.inr ⟨rfl, inner, inside, rfl, rfl⟩))⟩
    | comment hp _ | blank hp _ _ _ _ =>
      obtain ⟨d, p, rfl, rfl | rfl⟩ := hp.exists_cons
      · exact absurd (Option.some.inj here).symm sign.1
      · exact absurd (Option.some.inj here).symm sign.2
  · exact .inl ⟨here, mt same.2 here⟩

theorem copies_char {c : Char} (inert : isInert c = true) (blank : isGapChar c = false)
    (bracket : c ≠ '[') (other : Apart c r r') :
    Copies (Alike special r r') (Scan.char c) := by
  apply copies_of_forall
  intro x y h
  obtain ⟨quote, opening, -, minus, slash⟩ := isInert_cases inert
  rcases h.at_head ⟨minus, slash⟩ blank other with ⟨left, right⟩ | ⟨x', y', next,
    ⟨-, -, rfl, rfl⟩ | ⟨hq, -⟩ | ⟨he, -⟩ | ⟨he, -⟩⟩
  · exact .inl ⟨char_refused left, char_refused right⟩
  · exact .inr ⟨(), [c], x', y', rfl, rfl, char_cons_self c x', char_cons_self c y', next⟩
  · exact absurd hq (by simp [quote])
  · exact absurd he bracket
  · exact absurd he opening

/-! ### Names -/

/-- A name goes to the next end mark, and is not empty. -/
theorem quotedName_refused {first last : Char} {s : List Char} (h : s.head? ≠ some first) :
    quotedName first last s = none :=
  bind_refused (char_refused h)

theorem keeps_quotedName {q : Char} (ends : EndAlike r r') (hq : isQuote q = true) :
    Keeps (Alike special r r') (quotedName q q) := by
  intro x y h
  have marks : (q ≠ '-' ∧ q ≠ '/') ∧ isGapChar q = false ∧ isStop q = false ∧
      isInert q = false ∧ q ≠ '[' := by
    simp only [isQuote, Bool.or_eq_true, beq_iff_eq, or_assoc] at hq
    rcases hq with rfl | rfl | rfl <;> decide
  obtain ⟨sign, blank, stop, inert, bracket⟩ := marks
  rcases h.at_head sign blank (ends.apart stop) with ⟨left, right⟩ | ⟨x', y', next,
    ⟨hc, -⟩ | ⟨-, content, free, rfl, rfl⟩ | ⟨he, -⟩ | ⟨rfl, -⟩⟩
  · exact .inl ⟨quotedName_refused left, quotedName_refused right⟩
  · exact absurd hc (by simp [inert])
  · rw [quotedName_eq free, quotedName_eq free]
    split
    · exact .inl ⟨rfl, rfl⟩
    · exact .inr ⟨_, x', y', rfl, rfl, next⟩
  · exact absurd he bracket
  · exact absurd hq (by decide)

/-- Names in brackets stand in the texts as a whole where a bracket has no other use. -/
theorem keeps_bracketedName (ends : EndAlike r r') (held : '[' ∈ special) :
    Keeps (Alike special r r') (quotedName '[' ']') := by
  intro x y h
  rcases h.at_head (c := '[') (by decide) (by decide) (ends.apart (by decide)) with
    ⟨left, right⟩ | ⟨x', y', next,
      ⟨-, free, -⟩ | ⟨hq, -⟩ | ⟨-, content, free, rfl, rfl⟩ | ⟨he, -⟩⟩
  · exact .inl ⟨quotedName_refused left, quotedName_refused right⟩
  · exact absurd held free
  · exact absurd hq (by decide)
  · rw [quotedName_eq free, quotedName_eq free]
    split
    · exact .inl ⟨rfl, rfl⟩
    · exact .inr ⟨_, x', y', rfl, rfl, next⟩
  · exact absurd he (by decide)

theorem keeps_name (ends : EndAlike r r') (held : '[' ∈ special) :
    Keeps (Alike special r r') name :=
  (keeps_quotedName ends (by decide)).orElse <| (keeps_quotedName ends (by decide)).orElse <|
    (keeps_bracketedName ends held).orElse (copies_word ends).keeps

/-! ### Strings -/

theorem stringTail?_append {content : List Char} (free : '\'' ∉ content) (s : List Char) :
    stringTail? (content ++ s) = before content (stringTail? s) := by
  induction content with
  | nil => cases he : stringTail? s <;> simp [before, he]
  | cons c content ih =>
    rw [List.mem_cons, not_or] at free
    rw [List.cons_append, stringTail?, ih free.2, before, before, Option.map_map]
    · rfl
    · exact fun _ he => absurd he.symm free.1
    · exact Ne.symm free.1

theorem stringTail?_last {s : List Char} (stop : s.head? ≠ some '\'') :
    stringTail? ('\'' :: s) = some ([], s) := by
  cases s with
  | nil => rfl
  | cons c s =>
    have other : c ≠ '\'' := by simpa using stop
    rw [stringTail?]
    simpa using other

/-- A string ends at the same apostrophe in both texts: by induction along the texts, of which
every quote stands in both. -/
theorem Alike.stringTail? {x y : List Char} (h : Alike special r r' x y) (ends : EndAlike r r')
    {content : List Char} (free : '\'' ∉ content) :
    ∃ read shown x' y', content ++ '\'' :: x = shown ++ x' ∧ content ++ '\'' :: y = shown ++ y' ∧
      Ddl.stringTail? (content ++ '\'' :: x) = some (read, x') ∧
      Ddl.stringTail? (content ++ '\'' :: y) = some (read, y') ∧ Alike special r r' x' y' := by
  have last {x y : List Char} (h : Alike special r r' x y) (left : x.head? ≠ some '\'') :
      ∀ {content : List Char}, '\'' ∉ content → ∃ read shown x' y',
        content ++ '\'' :: x = shown ++ x' ∧ content ++ '\'' :: y = shown ++ y' ∧
        Ddl.stringTail? (content ++ '\'' :: x) = some (read, x') ∧
        Ddl.stringTail? (content ++ '\'' :: y) = some (read, y') ∧ Alike special r r' x' y' := by
    intro content free
    have right := mt (h.head?_eq_some_iff (by decide) (by decide) (ends.apart (by decide))).2 left
    refine ⟨content, content ++ ['\''], x, y, by simp, by simp, ?_, ?_, h⟩
    · rw [stringTail?_append free, stringTail?_last left]
      simp [before]
    · rw [stringTail?_append free, stringTail?_last right]
      simp [before]
  induction h generalizing content with
  | rest => exact last rest (ends.apart (by decide)).1 free
  | plain hc held h _ =>
    refine last (.plain hc held h) ?_ free
    rintro he
    obtain rfl := Option.some.inj he
    exact absurd hc (by decide)
  | sign sign left right h _ =>
    refine last (.sign sign left right h) ?_ free
    rcases sign with rfl | rfl <;> simp
  | @quoted q inner x y hq own h ih =>
    by_cases apostrophe : q = '\''
    · subst apostrophe
      obtain ⟨read, shown, x', y', left, right, readLeft, readRight, next⟩ := ih own
      refine ⟨content ++ '\'' :: read, content ++ '\'' :: '\'' :: shown, x', y', ?_, ?_, ?_, ?_,
        next⟩
      · rw [left]
        simp
      · rw [right]
        simp
      · rw [stringTail?_append free, Ddl.stringTail?, readLeft]
        rfl
      · rw [stringTail?_append free, Ddl.stringTail?, readRight]
        rfl
    · exact last (.quoted hq own h) (by simpa using apostrophe) free
  | bracketed own inside h _ => exact last (.bracketed own inside h) (by simp) free
  | group inside h _ => exact last (.group inside h) (by simp) free
  | comment hp h _ =>
    refine last (.comment hp h) ?_ free
    obtain ⟨d, p, rfl, rfl | rfl⟩ := hp.exists_cons <;> simp
  | blank hp filled blanks other h _ =>
    refine last (.blank hp filled blanks other h) ?_ free
    obtain ⟨d, p, rfl, rfl | rfl⟩ := hp.exists_cons <;> simp

def apostropheString : Scan String := do
  Scan.char '\''
  fun s => (stringTail? s).map fun (content, rest) => (String.ofList content, rest)

theorem apostropheString_cons (s : List Char) : apostropheString ('\'' :: s) =
    (stringTail? s).map fun (content, rest) => (String.ofList content, rest) := rfl

theorem copies_apostropheString (ends : EndAlike r r') :
    Copies (Alike special r r') apostropheString := by
  apply copies_of_forall
  intro x y h
  rcases h.at_head (c := '\'') (by decide) (by decide) (ends.apart (by decide)) with
    ⟨left, right⟩ | ⟨x', y', next, ⟨hc, -⟩ | ⟨-, content, free, rfl, rfl⟩ | ⟨he, -⟩ | ⟨he, -⟩⟩
  · exact .inl ⟨bind_refused (char_refused left), bind_refused (char_refused right)⟩
  · exact absurd hc (by decide)
  · obtain ⟨read, shown, x'', y'', left, right, readLeft, readRight, last⟩ :=
      next.stringTail? ends free
    refine .inr ⟨String.ofList read, '\'' :: shown, x'', y'', ?_, ?_, ?_, ?_, last⟩
    · rw [left, List.cons_append]
    · rw [right, List.cons_append]
    · rw [apostropheString_cons, readLeft]
      rfl
    · rw [apostropheString_cons, readRight]
      rfl
  · exact absurd he (by decide)
  · exact absurd he (by decide)

theorem copies_stringLiteral (ends : EndAlike r r') :
    Copies (Alike special r r') stringLiteral := by
  have letter {c : Char} (inert : isInert c = true) (blank : isGapChar c = false)
      (bracket : c ≠ '[') (other : isStop c = false) : Copies (Alike special r r') (Scan.char c) :=
    copies_char inert blank bracket (ends.apart other)
  refine .bind (.optional (.orElse ?_ ?_)) fun _ => copies_apostropheString ends
  · exact letter (by decide) (by decide) (by decide) (by decide)
  · exact letter (by decide) (by decide) (by decide) (by decide)

/-! ### Numerals -/

def unsignedDigits : Scan (Option (List Char)) := do
  let _ ← digitRun
  Scan.optional (do Scan.char '.'; digitRun)

theorem copies_unsignedDigits (ends : EndAlike r r') :
    Copies (Alike special r r') unsignedDigits := by
  have point : Copies (Alike special r r') (Scan.char '.') :=
    copies_char (by decide) (by decide) (by decide) (ends.apart (by decide))
  exact (copies_digitRun ends).bind fun _ => (point.bind fun _ => copies_digitRun ends).optional

def signedDigits : Scan (Option (List Char)) := do
  let _ ← Scan.optional (Scan.char '-' <|> Scan.char '+')
  unsignedDigits

theorem unsignedDigits_refused {s : List Char} (h : ∀ c ∈ s.head?, c.isDigit = false) :
    unsignedDigits s = none :=
  bind_refused (some1_refused h)

theorem signedDigits_minus (s : List Char) : signedDigits ('-' :: s) = unsignedDigits s := rfl

theorem signedDigits_plus (s : List Char) : signedDigits ('+' :: s) = unsignedDigits s := rfl

theorem signedDigits_eq {s : List Char} (minus : s.head? ≠ some '-') (plus : s.head? ≠ some '+') :
    signedDigits s = unsignedDigits s :=
  bind_run (optional_refused ((orElse_refused (char_refused minus)).trans (char_refused plus)))

theorem signedDigits_comment {p : List Char} (hp : IsComment p) (x : List Char) :
    signedDigits (p ++ x) = none := by
  cases hp with
  | line =>
    refine (signedDigits_minus _).trans (unsignedDigits_refused ?_)
    simp
  | block =>
    refine (signedDigits_eq ?_ ?_).trans (unsignedDigits_refused ?_) <;> simp

theorem signedDigits_blank {c : Char} (h : isGapChar c = true) (s : List Char) :
    signedDigits (c :: s) = none := by
  simp only [isGapChar, Bool.or_eq_true, beq_iff_eq, or_assoc] at h
  rcases h with rfl | rfl | rfl | rfl <;>
    refine (signedDigits_eq ?_ ?_).trans (unsignedDigits_refused ?_) <;> simp

theorem Alike.head?_ne_minus {x y : List Char} (h : Alike special r r' x y)
    (ends : EndAlike r r') (other : x.head? ≠ some '-') : y.head? ≠ some '-' := by
  cases h with
  | rest => exact (ends.apart (by decide)).2
  | plain | sign | quoted | bracketed | group => exact other
  | comment hp _ =>
    obtain ⟨d, p, rfl, -⟩ := hp.exists_cons
    exact other
  | blank hp filled blanks _ _ =>
    obtain ⟨d, q, rfl⟩ := List.exists_cons_of_ne_nil filled
    have gap := blanks d List.mem_cons_self
    rintro he
    obtain rfl := Option.some.inj he
    exact absurd gap (by decide)

/-- A minus sign belongs to a numeral only if it starts no comment. -/
theorem copies_signedDigits (ends : EndAlike r r') :
    Copies (Alike special r r') signedDigits := by
  rintro x₀ y₀ x y ⟨h, first, rfl, rfl⟩
  have digits : Copies (Alike special r r') unsignedDigits := copies_unsignedDigits ends
  have signed (c : Char) {x y : List Char} (next : Alike special r r' x y) :=
    digits (first ++ c :: x) (first ++ c :: y) ⟨next, first ++ [c], by simp, by simp⟩
  by_cases minus : x.head? = some '-'
  · cases h with
    | rest => exact absurd minus (ends.apart (by decide)).1
    | plain hc _ _ =>
      obtain rfl := Option.some.inj minus
      exact absurd hc (by decide)
    | sign _ _ _ next =>
      obtain rfl := Option.some.inj minus
      rw [signedDigits_minus, signedDigits_minus]
      exact signed '-' next
    | quoted hq _ _ =>
      obtain rfl := Option.some.inj minus
      exact absurd hq (by decide)
    | bracketed _ _ _ => exact absurd (Option.some.inj minus) (by decide)
    | group _ _ => exact absurd (Option.some.inj minus) (by decide)
    | comment hp _ => exact .inl ⟨signedDigits_comment hp _, signedDigits_comment hp _⟩
    | blank hp filled blanks _ _ =>
      obtain ⟨d, q, rfl⟩ := List.exists_cons_of_ne_nil filled
      exact .inl ⟨signedDigits_comment hp _, signedDigits_blank (blanks d List.mem_cons_self) _⟩
  · have minus' := h.head?_ne_minus ends minus
    rcases h.at_head (c := '+') (by decide) (by decide) (ends.apart (by decide)) with
      ⟨plus, plus'⟩ | ⟨x', y', next, ⟨-, -, rfl, rfl⟩ | ⟨hq, -⟩ | ⟨he, -⟩ | ⟨he, -⟩⟩
    · rw [signedDigits_eq minus plus, signedDigits_eq minus' plus']
      exact digits _ _ ⟨h, first, rfl, rfl⟩
    · rw [signedDigits_plus, signedDigits_plus]
      exact signed '+' next
    · exact absurd hq (by decide)
    · exact absurd he (by decide)
    · exact absurd he (by decide)

theorem copies_numeral (ends : EndAlike r r') : Copies (Alike special r r') numeral :=
  (copies_signedDigits ends).consumed.bind fun _ => copies_pure _

/-! ### Groups and defaults -/

theorem copies_group (other : Apart '(' r r') :
    Copies (Alike special r r') group := by
  apply copies_of_forall
  intro x y h
  rcases h.at_head (c := '(') (by decide) (by decide) other with
    ⟨left, right⟩ | ⟨x', y', next, ⟨hc, -⟩ | ⟨hq, -⟩ | ⟨he, -⟩ | ⟨-, inner, inside, rfl, rfl⟩⟩
  · exact .inl ⟨bind_refused (char_refused left), bind_refused (char_refused right)⟩
  · exact absurd hc (by decide)
  · exact absurd hq (by decide)
  · exact absurd he (by decide)
  · exact .inr ⟨inner, '(' :: (inner ++ [')']), x', y', by simp, by simp, inside.group_run x',
      inside.group_run y', next⟩

/-- A call is read from the same text: a gap before its arguments is the same in both. -/
theorem copies_call (ends : EndAlike r r') (other : Apart '(' r r') :
    Copies (Alike special r r') call := by
  have arguments : Copies (Alike special r r') (do gap; group) := by
    apply copies_of_forall
    intro x y h
    have next := (h.afterGap ends).1
    rcases (copies_group other).cases next with
      refused | ⟨inner, shown, x', y', hx, hy, left, right, last⟩
    · exact .inl refused
    · have opens : (afterGap x).head? = some '(' := by
        by_contra closed
        have refused : group (afterGap x) = none := bind_refused (char_refused closed)
        rw [refused] at left
        cases left
      obtain ⟨g, before, before'⟩ := h.exists_gap_of_group ends other.1 opens
      refine .inr ⟨inner, g ++ shown, x', y', ?_, ?_, left, right, last⟩
      · rw [List.append_assoc, ← hx, ← before]
      · rw [List.append_assoc, ← hy, ← before']
  exact ((copies_word ends).bind fun _ => arguments.optional).consumed.bind fun _ => copies_pure _

theorem plainDefault_eq : plainDefault =
    ((do return .text (← stringLiteral)) <|> (do return .number (← numeral)) : Scan Default) := by
  funext s
  rw [plainDefault]
  cases text : stringLiteral s with
  | some result =>
    symm
    exact orElse_run (bind_run text)
  | none =>
    symm
    refine (orElse_refused (bind_refused text)).trans ?_
    cases number : numeral s with
    | some result => exact bind_run number
    | none => exact bind_refused number

theorem copies_plainDefault (ends : EndAlike r r') :
    Copies (Alike special r r') plainDefault := by
  rw [plainDefault_eq]
  exact ((copies_stringLiteral ends).bind fun _ => copies_pure _).orElse <|
    (copies_numeral ends).bind fun _ => copies_pure _

def groupDefault (inner : List Char) : Default :=
  let written : Default := .expression (String.ofList ('(' :: (trimmed inner ++ [')'])))
  match defaultValue (trimmed inner) with
  | some (value, last) => if (afterGap last).isEmpty then value else written
  | none => written

theorem defaultValue_eq : (defaultValue : Scan Default) =
    (plainDefault <|> (do return groupDefault (← group)) <|> (do return wordDefault (← call))) := by
  funext s
  symm
  rw [defaultValue]
  cases plain : plainDefault s with
  | some result => exact orElse_run plain
  | none =>
    refine (orElse_refused plain).trans ?_
    dsimp only
    split
    · rename_i inner rest read
      refine (orElse_run (bind_run read)).trans ?_
      rw [groupDefault]
      cases defaultValue (trimmed inner) with
      | some result =>
        dsimp only
        split <;> rfl
      | none => rfl
    · rename_i refused
      refine (orElse_refused (bind_refused refused)).trans ?_
      cases read : call s with
      | some result => exact bind_run read
      | none => exact bind_refused read

theorem copies_defaultValue (ends : EndAlike r r') (other : Apart '(' r r') :
    Copies (Alike special r r') defaultValue := by
  rw [defaultValue_eq]
  exact (copies_plainDefault ends).orElse <|
    ((copies_group other).bind fun _ => copies_pure _).orElse <|
      (copies_call ends other).bind fun _ => copies_pure _

end Tokens

end TableLoad.Ddl
