import TableLoad.Proofs.Ddl.Comments
import TableLoad.Proofs.Ddl.Defaults
import TableLoad.Proofs.Ddl.Groups

/-! # Expressions as defaults

A default that is no literal is kept as an expression: a call, or what stood in parentheses.  Where
the expression is written again as it stands, it is read to its end, whatever it is read as.
-/
namespace TableLoad.Ddl
open Text Scan

theorem exists_defaultValue_of_group {s inner rest : List Char} (plain : plainDefault s = none)
    (read : group s = some (inner, rest)) : ∃ value, defaultValue s = some (value, rest) := by
  rw [defaultValue, plain]
  simp only
  split
  · rename_i he
    rw [read] at he
    cases he
    split
    · split <;> exact ⟨_, rfl⟩
    · exact ⟨_, rfl⟩
  · rename_i he
    rw [read] at he
    cases he

/-- What stood in parentheses stays a group when blanks go at its ends. -/
theorem readsToEnd_group {s inner rest : List Char} (h : group s = some (inner, rest)) :
    ReadsToEnd ('(' :: (trimmed inner ++ [')'])) := by
  obtain ⟨-, state⟩ := group_eq_some_iff.1 h
  intro rest _
  have text : '(' :: (trimmed inner ++ [')']) ++ rest = '(' :: (trimmed inner ++ ')' :: rest) := by
    rw [List.cons_append, List.append_assoc, List.singleton_append]
  have token : AtToken ('(' :: (trimmed inner ++ ')' :: rest)) := rfl
  have read : group ('(' :: (trimmed inner ++ ')' :: rest)) = some (trimmed inner, rest) :=
    group_eq_some_iff.2 ⟨rfl, groupState_trimmed state⟩
  obtain ⟨value, whole⟩ := exists_defaultValue_of_group rfl read
  refine ⟨value, ?_⟩
  rw [text]
  exact (Scan.bind_run token.gap_run).trans whole

def IsSpacedGroup (s : List Char) : Prop := ∃ g inner, IsGap g ∧
  groupState (0, none) inner = some (0, none) ∧ s = g ++ '(' :: (inner ++ [')'])

/-- A word that is no numeral's start, perhaps with a group behind it. -/
structure IsCall (word behind : List Char) : Prop where
  filled : word ≠ []
  word : ∀ c ∈ word, isWordChar c = true
  behind : behind = [] ∨ IsSpacedGroup behind

theorem word_reads : word.Reads fun s => s ≠ [] ∧ ∀ c ∈ s, isWordChar c = true := by
  intro s name rest h
  obtain ⟨shown, middle, read, same⟩ := exists_of_bind h
  cases same
  exact some1_reads _ read

theorem spacedGroup_reads : (do gap; group : Scan (List Char)).Reads IsSpacedGroup := by
  intro s inner rest h
  obtain ⟨_, middle, blanks, read⟩ := exists_of_bind h
  obtain rfl : afterGap s = middle := congrArg Prod.snd (Option.some.inj blanks)
  obtain ⟨opening, state⟩ := group_eq_some_iff.1 read
  obtain ⟨g, gap, whole⟩ := exists_isGap (s := s) (by simp [opening])
  refine ⟨g ++ '(' :: (inner ++ [')']), ?_, g, inner, gap, state, rfl⟩
  rw [whole, opening]
  simp

theorem exists_of_call {s shown rest : List Char} (h : call s = some (shown, rest)) :
    ∃ word behind, IsCall word behind ∧ shown = word ++ behind ∧ s = shown ++ rest := by
  have body := word_reads.bind fun _ => spacedGroup_reads.optional
  obtain ⟨⟨text, found⟩, middle, read, same⟩ := exists_of_bind h
  cases same
  obtain ⟨whole, word, behind, rfl, ⟨filled, chars⟩, tail⟩ := body.of_consumed read
  exact ⟨word, behind, ⟨filled, chars, tail⟩, rfl, whole⟩

section Words
variable {word rest : List Char}

theorem plainDefault_word (filled : word ≠ []) (chars : ∀ c ∈ word, isWordChar c = true)
    (start : ∀ c ∈ word.head?, c.isDigit = false) (quote : rest.head? ≠ some '\'') :
    plainDefault (word ++ rest) = none := by
  obtain ⟨c, word, rfl⟩ := List.exists_cons_of_ne_nil filled
  rw [List.forall_mem_cons] at chars
  have other {d : Char} (hd : isWordChar d = false) : c ≠ d := ne_of_isWordChar chars.1 hd
  have next : (word ++ rest).head? ≠ some '\'' := by
    cases word with
    | nil => exact quote
    | cons d word =>
      have apostrophe := ne_of_isWordChar (chars.2 d List.mem_cons_self) (d := '\'') rfl
      simpa using apostrophe
  have string : stringLiteral (c :: (word ++ rest)) = none := by
    by_cases letter : c = 'N' ∨ c = 'n'
    · have mark : Scan.optional (Scan.char 'N' <|> Scan.char 'n') (c :: (word ++ rest)) =
          some (some (), word ++ rest) := by rcases letter with rfl | rfl <;> rfl
      rw [stringLiteral, Scan.bind_run mark]
      exact Scan.bind_refused (char_refused next)
    · rw [not_or] at letter
      exact stringLiteral_refused letter.1 letter.2 (other rfl) _
  have sign : (Scan.char '-' <|> Scan.char '+') (c :: (word ++ rest)) = none :=
    (Scan.orElse_refused (char_cons_ne (other rfl) _)).trans (char_cons_ne (other rfl) _)
  have number : numeral (c :: (word ++ rest)) = none := by
    have digits : digitRun (c :: (word ++ rest)) = none :=
      some1_refused (by simpa using start)
    rw [numeral]
    refine Scan.bind_refused ?_
    rw [Scan.consumed, Scan.bind_run (Scan.optional_refused sign), Scan.bind_refused digits]
  rw [List.cons_append, plainDefault, string, number]
  rfl

theorem plainDefault_ne_none_of_isDigit {c : Char} (digit : c.isDigit = true) (s : List Char) :
    plainDefault (c :: s) ≠ none := by
  have other {d : Char} (hd : d.isDigit = false) : c ≠ d := ne_of_isDigit digit hd
  have string : stringLiteral (c :: s) = none :=
    stringLiteral_refused (other rfl) (other rfl) (other rfl) s
  have sign : (Scan.char '-' <|> Scan.char '+') (c :: s) = none :=
    (Scan.orElse_refused (char_cons_ne (other rfl) _)).trans (char_cons_ne (other rfl) _)
  have digits : digitRun (c :: s) =
      some ((c :: s).takeWhile Char.isDigit, (c :: s).dropWhile Char.isDigit) := by
    simp [digitRun, some1, digit]
  obtain ⟨found, rest, point⟩ := exists_optional (do Scan.char '.'; digitRun)
    ((c :: s).dropWhile Char.isDigit)
  have number : numeral (c :: s) ≠ none := by
    have body : (do
        let _ ← Scan.optional (Scan.char '-' <|> Scan.char '+')
        let _ ← digitRun
        Scan.optional do Scan.char '.'; digitRun) (c :: s) = some (found, rest) := by
      rw [Scan.bind_run (Scan.optional_refused sign), Scan.bind_run digits, point]
    rw [numeral, Scan.bind_run (Scan.consumed_eq body)]
    exact Option.some_ne_none _
  rw [plainDefault, string]
  simpa using number

end Words

section Calls
variable {word behind : List Char}

theorem IsSpacedGroup.head_append (h : IsSpacedGroup behind) (t : List Char) :
    ∀ c ∈ (behind ++ t).head?, isWordChar c = false ∧ c ≠ '\'' := by
  obtain ⟨g, inner, isGap, -, rfl⟩ := h
  rw [List.append_assoc, List.cons_append]
  intro c hc
  rcases isGap.head?_append _ c hc with opening | blank | rfl | rfl
  · obtain rfl := Option.some.inj opening
    exact ⟨rfl, by decide⟩
  · refine ⟨isWordChar_of_isGapChar blank, ?_⟩
    rintro rfl
    exact absurd blank (by decide)
  · exact ⟨rfl, by decide⟩
  · exact ⟨rfl, by decide⟩

theorem IsSpacedGroup.run (h : IsSpacedGroup behind) (t : List Char) :
    ∃ inner, (do gap; group : Scan (List Char)) (behind ++ t) = some (inner, t) := by
  obtain ⟨g, inner, isGap, state, rfl⟩ := h
  have whole : g ++ '(' :: (inner ++ [')']) ++ t = g ++ '(' :: (inner ++ ')' :: t) := by simp
  have opening : AtToken ('(' :: (inner ++ ')' :: t)) := rfl
  have blanks : gap (g ++ '(' :: (inner ++ ')' :: t)) =
      some ((), '(' :: (inner ++ ')' :: t)) := by
    rw [gap, isGap.afterGap_append, opening.afterGap_eq]
  rw [whole]
  exact ⟨inner, (Scan.bind_run blanks).trans (group_eq_some_iff.2 ⟨rfl, state⟩)⟩

theorem IsCall.atToken (h : IsCall word behind) (t : List Char) : AtToken (word ++ t) := by
  obtain ⟨c, more, rfl⟩ := List.exists_cons_of_ne_nil h.filled
  exact atToken_of_isWordChar (h.word c List.mem_cons_self) _

theorem IsCall.not_isDigit (h : IsCall word behind) {t : List Char}
    (plain : plainDefault (word ++ t) = none) : ∀ c ∈ word.head?, c.isDigit = false := by
  intro c hc
  obtain ⟨more, rfl⟩ := List.head?_eq_some_iff.1 hc
  rw [← Bool.not_eq_true]
  exact fun digit => plainDefault_ne_none_of_isDigit digit _ plain

theorem readsToEnd_call {s shown rest : List Char} (plain : plainDefault s = none)
    (h : call s = some (shown, rest)) : ReadsToEnd shown := by
  obtain ⟨word, behind, isCall, rfl, rfl⟩ := exists_of_call h
  rw [List.append_assoc] at plain
  have alone {t : List Char} (quote : t.head? ≠ some '\'') : plainDefault (word ++ t) = none :=
    plainDefault_word isCall.filled isCall.word (isCall.not_isDigit plain) quote
  rcases isCall.behind with rfl | spaced
  · rw [List.append_nil]
    exact (ReadsDefault.word isCall.filled isCall.word (fun t ht => alone ht.head?_ne_apostrophe)
      isCall.atToken).readsToEnd
  · intro t _
    obtain ⟨inner, read⟩ := spaced.run t
    have first := spaced.head_append t
    have call := call_run_of_group isCall.filled isCall.word (fun c hc => (first c hc).1) read
    have refused : group (word ++ (behind ++ t)) = none := by
      obtain ⟨c, more, rfl⟩ := List.exists_cons_of_ne_nil isCall.filled
      exact group_refused (ne_of_isWordChar (isCall.word c List.mem_cons_self) rfl) _
    rw [List.append_assoc] at call ⊢
    exact ⟨_, (Scan.bind_run (isCall.atToken _).gap_run).trans
      (defaultValue_call _ (alone fun here => (first _ here).2 rfl) refused call)⟩

end Calls

theorem isTrimmed_call {word behind : List Char} (h : IsCall word behind) :
    IsTrimmed (word ++ behind) := by
  obtain ⟨filled, chars, tail⟩ := h
  obtain ⟨c, more, rfl⟩ := List.exists_cons_of_ne_nil filled
  constructor
  · rintro d ⟨⟩
    exact not_isBlank_of_isWordChar (chars c List.mem_cons_self)
  · rcases tail with rfl | ⟨g, inner, -, -, rfl⟩
    · rw [List.append_nil]
      exact fun d hd => not_isBlank_of_isWordChar (chars d (List.mem_of_getLast? hd))
    · have last : c :: more ++ (g ++ '(' :: (inner ++ [')'])) =
          (c :: more ++ (g ++ '(' :: inner)) ++ [')'] := by simp
      rw [last, List.getLast?_concat]
      rintro d ⟨⟩
      decide

end TableLoad.Ddl
