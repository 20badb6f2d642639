import TableLoad.Proofs.Ddl.Standing

/-! # Constraints that are passed over

A constraint of a table, with a name or without, is read up to the end of its entry whatever its
body says, if the word behind its first keyword is no type.
-/
namespace TableLoad.Ddl
open Text Scan

/-! ### Names as they are written -/

inductive IsNameText : List Char → Prop
  | bare {w : List Char} : w ≠ [] → (∀ c ∈ w, isWordChar c = true) → IsNameText w
  | quoted {q : Char} {content : List Char} : q = '"' ∨ q = backtick → content ≠ [] →
      q ∉ content → IsNameText (q :: (content ++ [q]))
  | bracketed {content : List Char} : content ≠ [] → ']' ∉ content → Inside ']' content →
      IsNameText ('[' :: (content ++ [']']))

/-- No word goes on from the first text into the second. -/
def Separate (s t : List Char) : Prop := (∀ c ∈ s.getLast?, isWordChar c = true) → EndsWord t

def firstWord (s : List Char) : String := String.ofList (s.takeWhile isWordChar)

theorem isQuote_of_nameMark {q : Char} (h : q = '"' ∨ q = backtick) : isQuote q = true := by
  rcases h with rfl | rfl <;> rfl

theorem takeWhile_word {w x : List Char} (all : ∀ c ∈ w, isWordChar c = true) (stop : EndsWord x) :
    (w ++ x).takeWhile isWordChar = w ∧ (w ++ x).dropWhile isWordChar = x :=
  takeWhile_append_of_stop all stop

theorem name_word {w x : List Char} (filled : w ≠ []) (all : ∀ c ∈ w, isWordChar c = true)
    (stop : EndsWord x) : name (w ++ x) = some (String.ofList w, x) := by
  obtain ⟨c, w, rfl⟩ := List.exists_cons_of_ne_nil filled
  have first := all c List.mem_cons_self
  have other {d : Char} (hd : isWordChar d = false) : (c :: w ++ x).head? ≠ some d := by
    simpa using ne_of_isWordChar first hd
  refine (orElse_refused (quotedName_refused (other rfl))).trans ?_
  refine (orElse_refused (quotedName_refused (other rfl))).trans ?_
  refine (orElse_refused (quotedName_refused (other rfl))).trans ?_
  exact word_run filled all stop

namespace IsNameText
variable {nm x : List Char}

theorem run (h : IsNameText nm) (apart : Separate nm x) : ∃ n, name (nm ++ x) = some (n, x) := by
  cases h with
  | bare filled all =>
    refine ⟨_, name_word filled all (apart fun c hc => all c (List.mem_of_getLast? hc))⟩
  | @quoted q content mark filled free =>
    have read : quotedName q q (q :: (content ++ q :: x)) = some (String.ofList content, x) := by
      rw [quotedName_eq free, if_neg filled]
    rw [List.cons_append, List.append_assoc, List.singleton_append]
    rcases mark with rfl | rfl
    · refine ⟨String.ofList content, (orElse_refused ?_).trans (orElse_run read)⟩
      exact quotedName_refused (by simp [backtick])
    · exact ⟨_, orElse_run read⟩
  | @bracketed content filled free _ =>
    have read :
        quotedName '[' ']' ('[' :: (content ++ ']' :: x)) = some (String.ofList content, x) := by
      rw [quotedName_eq free, if_neg filled]
    rw [List.cons_append, List.append_assoc, List.singleton_append]
    refine ⟨String.ofList content, (orElse_refused ?_).trans ((orElse_refused ?_).trans
      (orElse_run read))⟩
    · exact quotedName_refused (by simp [backtick])
    · exact quotedName_refused (by simp)

theorem atToken (h : IsNameText nm) (x : List Char) : AtToken (nm ++ x) := by
  cases h with
  | bare filled all =>
    obtain ⟨c, w, rfl⟩ := List.exists_cons_of_ne_nil filled
    exact atToken_of_isWordChar (all c List.mem_cons_self) _
  | quoted mark _ _ => exact atToken_of_isQuote (isQuote_of_nameMark mark) _
  | bracketed _ _ _ => exact atToken_of_inert (by decide) (by decide) _

theorem scansAlone (h : IsNameText nm) : ScansAlone nm := by
  cases h with
  | bare _ all => exact .word all
  | @quoted q content mark _ free =>
    have hq := isQuote_of_nameMark mark
    constructor
    · intro depth x
      rw [List.cons_append, List.append_assoc, List.singleton_append, imbalance?_quote hq,
        imbalance?_quoted depth free]
    · intro x
      rw [List.cons_append, List.append_assoc, List.singleton_append, uncommented_quote hq free,
        uncommented_quote hq free []]
      simp [uncommented]
  | @bracketed content _ _ inside =>
    constructor
    · intro depth x
      rw [List.cons_append, List.append_assoc, List.singleton_append,
        imbalance?_inert (by decide), inside.imbalance?_append (by decide),
        imbalance?_inert (by decide)]
    · intro x
      have closing (t : List Char) : uncommented .plain (']' :: t) = _ :=
        uncommented_stop (by decide) t
      rw [List.cons_append, List.append_assoc, List.singleton_append,
        uncommented_inert (by decide), uncommented_inert (by decide),
        inside.uncommented_append (by decide), inside.uncommented_append (by decide), closing,
        closing]
      simp [uncommented]

/-- The name without comments in its brackets is a name, and a word if it was one. -/
theorem uncommented (h : IsNameText nm) : IsNameText (Ddl.uncommented .plain nm) ∧
    firstWord (Ddl.uncommented .plain nm) = firstWord nm ∧
    (Ddl.uncommented .plain nm).getLast? = nm.getLast? := by
  have same (alone : Ddl.uncommented .plain nm = nm) :
      IsNameText (Ddl.uncommented .plain nm) ∧
      firstWord (Ddl.uncommented .plain nm) = firstWord nm ∧
      (Ddl.uncommented .plain nm).getLast? = nm.getLast? := by
    rw [alone]
    exact ⟨h, rfl, rfl⟩
  cases h with
  | bare _ all => exact same (uncommented_of_word all)
  | quoted mark _ free => exact same (uncommented_quote (isQuote_of_nameMark mark) free [])
  | @bracketed content filled free inside =>
    have whole : Ddl.uncommented .plain ('[' :: (content ++ [']'])) =
        '[' :: (Ddl.uncommented .plain content ++ [']']) := by
      rw [uncommented_inert (by decide), inside.uncommented_append (by decide)]
      rfl
    rw [whole]
    refine ⟨.bracketed ?_ ?_ (inside.uncommented (by decide)), ?_, ?_⟩
    · obtain ⟨c, content, rfl⟩ := List.exists_cons_of_ne_nil filled
      have first := head?_uncommented (c :: content)
      intro empty
      rw [empty] at first
      split at first <;> cases first
    · intro member
      rcases mem_uncommented member with old | blank
      · exact free old
      · exact absurd blank (by decide)
    · rfl
    · rw [← List.cons_append, ← List.cons_append, List.getLast?_append, List.getLast?_append]
      rfl

end IsNameText

/-! ### Constraints of tables as they are written -/

/-- The name of a constraint: its keyword, a gap, the name and a gap. -/
structure Label where
  word : List Char
  gap : List Char
  name : List Char
  last : List Char

def Label.chars (l : Label) : List Char := l.word ++ (l.gap ++ (l.name ++ l.last))

structure Label.IsWritten (l : Label) (next : List Char) : Prop where
  word : l.word.map Char.toUpper = "CONSTRAINT".toList
  gap : IsGap l.gap
  name : IsNameText l.name
  last : IsGap l.last
  wordEnds : EndsWord (l.gap ++ l.name)
  nameEnds : Separate l.name (l.last ++ next)

/-- A constraint of a table: a gap, perhaps a label, a keyword and a body. -/
structure ConstraintText where
  lead : List Char
  label? : Option Label
  word : List Char
  body : List Char

namespace ConstraintText

def chars (k : ConstraintText) : List Char :=
  k.lead ++ ((k.label?.elim [] Label.chars) ++ (k.word ++ k.body))

def secondWord (k : ConstraintText) : String :=
  match k.label? with
  | some l => firstWord l.name
  | none => firstWord (afterGap k.body)

/-- The constraint is one that is passed over, and does not read as a column. -/
structure IsPassedOver (k : ConstraintText) : Prop where
  lead : IsGap k.lead
  label : ∀ l ∈ k.label?, l.IsWritten k.word
  word : ∃ w ∈ constraintWords, k.word.map Char.toUpper = w.toList
  wordEnds : EndsWord k.body
  body : Inside ',' k.body
  noType : TypeFamily.ofName? k.secondWord = none

end ConstraintText

theorem eq_firstWord_of_word {s rest : List Char} {w : String} (h : word s = some (w, rest)) :
    w = firstWord s := by
  obtain ⟨shown, middle, read, last⟩ := exists_of_bind h
  cases last
  rw [some1] at read
  split at read
  · cases read
  · cases read
    rfl

theorem typeName_of_columnEntry {s rest last : List Char} {n : String} {e : ColumnEntry}
    (named : name s = some (n, rest)) (h : columnEntry s = some (e, last)) :
    e.typeName = firstWord (afterGap rest) := by
  rw [columnEntry_eq] at h
  obtain ⟨e', z, read, placed⟩ := exists_of_bind h
  cases placed
  obtain ⟨n', rest', first, tail⟩ := exists_of_bind read
  rw [named] at first
  cases first
  obtain ⟨_, middle, gapRead, next⟩ := exists_of_bind tail
  cases gapRead
  obtain ⟨typeName, more, typed, others⟩ := exists_of_bind next
  rw [← eq_firstWord_of_word typed]
  obtain ⟨_, _, -, others⟩ := exists_of_bind others
  obtain ⟨_, _, -, others⟩ := exists_of_bind others
  obtain ⟨_, _, -, others⟩ := exists_of_bind others
  obtain ⟨_, _, -, made⟩ := exists_of_bind others
  cases made
  rfl

theorem wholeColumn_refused {s rest : List Char} {n : String} (named : name s = some (n, rest))
    (noType : TypeFamily.ofName? (firstWord (afterGap rest)) = none) : wholeColumn s = none := by
  rw [wholeColumn]
  cases read : columnEntry s with
  | none => rfl
  | some result =>
    obtain ⟨e, last⟩ := result
    have type := typeName_of_columnEntry named read
    simp only [type, noType]
    rfl

/-! ### Reading a constraint -/

section Run
variable {w x : List Char}

theorem isKeyword_constraintWords : ∀ word ∈ constraintWords, IsKeyword word := by decide

theorem isWordChar_of_spelled {keyword : String} (hk : IsKeyword keyword)
    (spelled : w.map Char.toUpper = keyword.toList) : ∀ c ∈ w, isWordChar c = true :=
  fun _ hc => isWordChar_of_toUpper (hk.2 _ (spelled ▸ List.mem_map_of_mem hc))

theorem ne_nil_of_spelled {keyword : String} (hk : IsKeyword keyword)
    (spelled : w.map Char.toUpper = keyword.toList) : w ≠ [] := by
  rintro rfl
  exact hk.1 (by simpa using spelled.symm)

theorem keyword_spelled {keyword other : String} (hk : IsKeyword keyword) (ho : IsKeyword other)
    (spelled : w.map Char.toUpper = keyword.toList) (stop : EndsWord x) :
    Ddl.keyword other (w ++ x) = if keyword = other then some ((), x) else none := by
  obtain ⟨take, drop⟩ := takeWhile_word (isWordChar_of_spelled hk spelled) stop
  rw [keyword_eq ho, take, drop, spelled]
  simp only [String.toList_inj]

/-- A text that starts with a word for a constraint is no label, and no primary key. -/
theorem constraintName_refused {keyword : String} (hk : keyword ∈ constraintWords)
    (spelled : w.map Char.toUpper = keyword.toList) (stop : EndsWord x) :
    constraintName (w ++ x) = none := by
  have other : keyword ≠ "CONSTRAINT" := by
    rintro rfl
    exact absurd hk (by decide)
  apply bind_refused
  rw [keyword_spelled (isKeyword_constraintWords _ hk) (by decide) spelled stop, if_neg other]

theorem primaryKey_refused {keyword : String} (hk : keyword ∈ constraintWords)
    (spelled : w.map Char.toUpper = keyword.toList) (stop : EndsWord x) :
    phrase ["PRIMARY", "KEY"] (w ++ x) = none := by
  have other : keyword ≠ "PRIMARY" := by
    rintro rfl
    exact absurd hk (by decide)
  apply bind_refused
  rw [keyword_spelled (isKeyword_constraintWords _ hk) (by decide) spelled stop, if_neg other]

theorem constraintWord_run {keyword : String} (hk : keyword ∈ constraintWords)
    (spelled : w.map Char.toUpper = keyword.toList) (stop : EndsWord x) :
    oneOf constraintWords (w ++ x) = some ((), x) := by
  obtain ⟨take, drop⟩ := takeWhile_word
    (isWordChar_of_spelled (isKeyword_constraintWords _ hk) spelled) stop
  rw [oneOf_eq isKeyword_constraintWords, take, drop, if_pos ⟨keyword, hk, spelled⟩]

theorem EndsWord.append {s t : List Char} (h : EndsWord s) (filled : s ≠ []) :
    EndsWord (s ++ t) := by
  obtain ⟨c, s, rfl⟩ := List.exists_cons_of_ne_nil filled
  exact h

theorem IsNameText.ne_nil {nm : List Char} (h : IsNameText nm) : nm ≠ [] := by
  cases h with
  | bare filled _ => exact filled
  | quoted | bracketed => simp

theorem Label.IsWritten.run {l : Label} (h : l.IsWritten w) (filled : w ≠ [])
    (here : AtToken (w ++ x)) : constraintName (l.chars ++ (w ++ x)) = some ((), w ++ x) := by
  have wordEnds : EndsWord (l.gap ++ (l.name ++ (l.last ++ (w ++ x)))) := by
    rw [← List.append_assoc]
    exact h.wordEnds.append (by simp [h.name.ne_nil])
  have nameEnds : Separate l.name (l.last ++ (w ++ x)) := by
    intro last
    rw [← List.append_assoc]
    exact (h.nameEnds last).append (by simp [filled])
  have first : Ddl.keyword "CONSTRAINT" (l.word ++ (l.gap ++ (l.name ++ (l.last ++ (w ++ x))))) =
      some ((), l.gap ++ (l.name ++ (l.last ++ (w ++ x)))) := by
    rw [keyword_spelled (by decide) (by decide) h.word wordEnds, if_pos rfl]
  have gapRun : Ddl.gap (l.gap ++ (l.name ++ (l.last ++ (w ++ x)))) =
      some ((), l.name ++ (l.last ++ (w ++ x))) := by
    rw [Ddl.gap, h.gap.afterGap_append, (h.name.atToken _).afterGap_eq]
  have lastRun : Ddl.gap (l.last ++ (w ++ x)) = some ((), w ++ x) := by
    rw [Ddl.gap, h.last.afterGap_append, here.afterGap_eq]
  obtain ⟨n, named⟩ := h.name.run nameEnds
  rw [Label.chars, List.append_assoc, List.append_assoc, List.append_assoc, constraintName,
    bind_run first, bind_run gapRun, bind_run named, lastRun]

theorem Label.IsWritten.scansAlone {l : Label} (h : l.IsWritten w) : ScansAlone l.chars :=
  (ScansAlone.word (isWordChar_of_spelled (by decide) h.word)).append
    ((ScansAlone.gap h.gap).append (h.name.scansAlone.append (.gap h.last)))

/-- Behind its label, if there is one, a constraint is passed over if no column reads it. -/
theorem entry_passedOver {s y : List Char} {label : Option Unit} (column : wholeColumn s = none)
    (labelled : Scan.optional constraintName s = some (label, w ++ x)) {keyword : String}
    (hk : keyword ∈ constraintWords) (spelled : w.map Char.toUpper = keyword.toList)
    (stop : EndsWord x) (rest : restOfEntry x = some ((), y)) : entry s = some (.skipped, y) := by
  have key : tableKey s = none :=
    (bind_run labelled).trans (bind_refused (primaryKey_refused hk spelled stop))
  have skipped : skippedConstraint s = some (.skipped, y) := by
    rw [skippedConstraint, bind_run labelled, bind_run (constraintWord_run hk spelled stop),
      bind_run rest]
    rfl
  exact (orElse_refused column).trans ((orElse_refused key).trans (orElse_run skipped))

theorem firstWord_append_stop {stop : Char} (marked : isStop stop = true) (s t : List Char) :
    firstWord (s ++ stop :: t) = firstWord s := by
  have other := isWordChar_of_isStop marked
  rw [firstWord, firstWord]
  congr 1
  induction s with
  | nil => simp [other]
  | cons c s ih => simp only [List.cons_append, List.takeWhile_cons, ih]

/-- The word in front of a name is the name if it is bare. -/
theorem IsNameText.firstWord_append {nm : List Char} (h : IsNameText nm) (apart : Separate nm x) :
    firstWord (nm ++ x) = firstWord nm := by
  cases h with
  | @bare nm _ all =>
    have stop : EndsWord x := apart fun c hc => all c (List.mem_of_getLast? hc)
    have alone : nm.takeWhile isWordChar = nm := by simpa using all
    rw [firstWord, (takeWhile_word all stop).1, firstWord, alone]
  | quoted mark _ _ =>
    have other := isWordChar_of_isQuote (isQuote_of_nameMark mark)
    simp [firstWord, other]
  | bracketed _ _ _ => rfl

namespace ConstraintText
variable {k : ConstraintText}

theorem IsPassedOver.wordChars (h : k.IsPassedOver) : ∀ c ∈ k.word, isWordChar c = true := by
  obtain ⟨keyword, hk, spelled⟩ := h.word
  exact isWordChar_of_spelled (isKeyword_constraintWords _ hk) spelled

theorem IsPassedOver.readsWhole (h : k.IsPassedOver) : ReadsWhole entry k.chars .skipped := by
  intro stop t marked
  obtain ⟨keyword, hk, spelled⟩ := h.word
  have letters := h.wordChars
  have filled := ne_nil_of_spelled (isKeyword_constraintWords _ hk) spelled
  have stops := isStop_of_end marked
  have ends : EndAlike (stop :: t) (stop :: t) := ⟨_, _, _, _, stops, stops, rfl, rfl⟩
  have wordEnds : EndsWord (k.body ++ stop :: t) := by
    cases body : k.body with
    | nil => exact endsWord_cons (isWordChar_of_isStop stops) t
    | cons c body => exact body ▸ h.wordEnds.append (by simp [body])
  have token {w x : List Char} (filled : w ≠ []) (all : ∀ c ∈ w, isWordChar c = true) :
      AtToken (w ++ x) := by
    obtain ⟨c, w, rfl⟩ := List.exists_cons_of_ne_nil filled
    exact atToken_of_isWordChar (all c List.mem_cons_self) _
  have rest : restOfEntry (k.body ++ stop :: t) = some ((), stop :: t) := by
    rw [restOfEntry, h.body.entryEnd?_append (.inl rfl), entryEnd?_stop marked]
    rfl
  refine ⟨.skipped, stop :: t, ?_, (atToken_of_isStop stops t).afterGap_eq, rfl⟩
  rw [chars, List.append_assoc, List.append_assoc, List.append_assoc, h.lead.afterGap_append]
  have noType := h.noType
  cases labelled : k.label? with
  | none =>
    rw [secondWord, labelled] at noType
    have behind : afterGap (k.body ++ stop :: t) = afterGap k.body ++ stop :: t :=
      h.body.alike.afterGap_append ends
    have column : wholeColumn (k.word ++ (k.body ++ stop :: t)) = none := by
      apply wholeColumn_refused (name_word filled letters wordEnds)
      rw [behind, firstWord_append_stop stops]
      exact noType
    rw [Option.elim_none, List.nil_append, (token filled letters).afterGap_eq]
    exact entry_passedOver column (optional_refused (constraintName_refused hk spelled wordEnds))
      hk spelled wordEnds rest
  | some l =>
    rw [secondWord, labelled] at noType
    have written := h.label l labelled
    have letters' := isWordChar_of_spelled (by decide) written.word
    have filled' := ne_nil_of_spelled (by decide) written.word
    have read := written.run filled (token filled letters (x := k.body ++ stop :: t))
    have nameEnds : Separate l.name (l.last ++ (k.word ++ (k.body ++ stop :: t))) := by
      intro last
      rw [← List.append_assoc]
      exact (written.nameEnds last).append (by simp [filled])
    have firstEnds :
        EndsWord (l.gap ++ (l.name ++ (l.last ++ (k.word ++ (k.body ++ stop :: t))))) := by
      rw [← List.append_assoc]
      exact written.wordEnds.append (by simp [written.name.ne_nil])
    have column : wholeColumn (l.chars ++ (k.word ++ (k.body ++ stop :: t))) = none := by
      rw [Label.chars, List.append_assoc, List.append_assoc, List.append_assoc]
      apply wholeColumn_refused (name_word filled' letters' firstEnds)
      rw [written.gap.afterGap_append, (written.name.atToken _).afterGap_eq,
        written.name.firstWord_append nameEnds]
      exact noType
    have here : AtToken (l.chars ++ (k.word ++ (k.body ++ stop :: t))) := by
      rw [Label.chars, List.append_assoc]
      exact token filled' letters'
    rw [Option.elim_some, here.afterGap_eq]
    exact entry_passedOver column (optional_run read) hk spelled wordEnds rest

theorem IsPassedOver.stands (h : k.IsPassedOver) : Stands k.chars := by
  have label : ScansAlone (k.label?.elim [] Label.chars) := by
    cases labelled : k.label? with
    | none => exact .nil
    | some l => exact (h.label l labelled).scansAlone
  exact (ScansAlone.gap h.lead).append_stands
    (label.append_stands ((ScansAlone.word h.wordChars).append_stands h.body.stands))

end ConstraintText

end Run

end TableLoad.Ddl
