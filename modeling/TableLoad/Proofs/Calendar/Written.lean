import TableLoad.Proofs.Calendar.Spelling

/-! # Ways to write a moment

A moment may be written with the year first or the day first, with a blank or the letter T before
the time of day, and without what is zero at its end.  The first spelling that fits each of these
texts gives back the moment, so no spelling that is tried before reads it as something else; and the
text of any moment is read back but for the part of a second.
-/
namespace TableLoad.Calendar
open Text Number

section Parts
variable {pieces later : Spelling} {fields next last : Fields} {s rest tail : List Char}

/-- The pieces do not fit the text, whatever follows them. -/
def Refuses (pieces : Spelling) (fields : Fields) (s : List Char) : Prop :=
  ∀ more : Spelling, (pieces ++ more).fields? fields s = none

theorem Reads.refuses (first : Reads pieces fields s next rest) (second : Refuses later next rest) :
    Refuses (pieces ++ later) fields s := by
  intro more
  rw [List.append_assoc, first, second]

theorem Refuses.append (first : Refuses pieces fields s) (later : Spelling) :
    Refuses (pieces ++ later) fields s := by
  intro more
  rw [List.append_assoc, first]

theorem refuses_piece {piece : Piece} (h : piece.read fields s = none) :
    Refuses [piece] fields s := by
  intro more
  rw [List.singleton_append, Spelling.fields?, h]

theorem Reads.moment? (h : Reads pieces {} s fields []) : pieces.moment? s = fields.moment? := by
  rw [Spelling.moment?, h.fields?, Option.bind_some]

theorem Refuses.moment? (h : Refuses pieces {} s) : pieces.moment? s = none := by
  have all := h []
  rw [List.append_nil] at all
  rw [Spelling.moment?, all, Option.bind_none]

end Parts

section Pieces
variable {fields : Fields} {rest : List Char}

theorem refuses_mark {c d : Char} (h : d ≠ c) : Refuses [.mark [c]] fields (d :: rest) :=
  refuses_piece (by simp [Piece.read, h])

theorem refuses_mark_nil (c : Char) : Refuses [.mark [c]] fields [] :=
  refuses_piece rfl

theorem lenientNumber?_of_ne_year {field : Field} (h : field ≠ .year) (s : List Char) :
    lenientNumber? field s = (number? field.width s).map fun read => ((read.1 : Int), read.2) := by
  cases field with
  | year => exact absurd rfl h
  | _ => rfl

theorem refuses_number {field : Field} {c : Char} (signless : field ≠ .year)
    (digit : c.isDigit = false) (blank : isBlank c = false) :
    Refuses [.number field] fields (c :: rest) := by
  have none (most : Nat) : number? most (c :: rest) = none := by
    cases most <;> simp [number?, nat?, digit]
  refine refuses_piece ?_
  rw [Piece.read, trimStart_of_not_blank blank, lenientNumber?_of_ne_year signless, none]
  rfl

theorem refuses_number_nil (field : Field) : Refuses [.number field] fields [] := by
  refine refuses_piece ?_
  cases field <;> rfl

end Pieces

def Date.dayFirstChars (d : Date) : List Char :=
  padded 2 d.day ++ '/' :: (padded 2 d.month ++ '/' :: yearChars d.year)

section Days
variable (d : Date)

theorem reads_dayFirst {tail : List Char} (stop : ∀ c ∈ tail.head?, c.isDigit = false) :
    Reads dayFirst {} (d.dayFirstChars ++ tail) d.fields tail := by
  have parts : dayFirst = [.number .day] ++ ([.mark ['/']] ++ ([.number .month] ++
      ([.mark ['/']] ++ [.number .year]))) := rfl
  simp only [Date.dayFirstChars, List.append_assoc, List.cons_append, parts]
  have year (fields : Fields) : Reads [.number .year] fields (yearChars d.year ++ tail) _ tail :=
    reads_piece (read_number_year d.year stop)
  exact (reads_number d.day_lt (by simp)).append ((reads_mark '/').append
    ((reads_number d.month_lt (by simp)).append ((reads_mark '/').append (year _))))

/-- A text with the day first has a slash where the year should end. -/
theorem yearFirst_refuses_dayFirst (tail : List Char) :
    Refuses yearFirst {} (d.dayFirstChars ++ tail) := by
  have parts : yearFirst = ([.number .year] ++ [.mark ['-']]) ++ [.number .month, .mark ['-'],
      .number .day] := rfl
  simp only [Date.dayFirstChars, List.append_assoc, List.cons_append, parts]
  exact ((reads_number d.day_lt (by simp)).refuses (refuses_mark (by decide))).append _

/-- A number of more than two digits goes on where the day should end. -/
theorem dayFirst_refuses_digits {a b c : Char} (ha : a.isDigit = true) (hb : b.isDigit = true)
    (hc : c.isDigit = true) (rest : List Char) : Refuses dayFirst {} (a :: b :: c :: rest) := by
  have parts : dayFirst = ([.number .day] ++ [.mark ['/']]) ++ [.number .month, .mark ['/'],
      .number .year] := rfl
  have two : number? 2 (a :: b :: c :: rest) = some (Nat.ofDigitChars 10 [a, b] 0, c :: rest) := by
    have all : ∀ x ∈ [a, b], x.isDigit = true := by simp [ha, hb]
    have shown : [a, b].takeWhile Char.isDigit = [a, b] := List.takeWhile_eq_self_iff.2 all
    simp only [number?, List.take_succ_cons, List.take_zero, shown,
      nat?_of_digits (List.cons_ne_nil a [b]) all]
    rfl
  have width : Field.day.width = 2 := rfl
  have day : Piece.read {} (a :: b :: c :: rest) (.number .day) =
      some (({} : Fields).set .day (Nat.ofDigitChars 10 [a, b] 0 : Nat), c :: rest) := by
    rw [Piece.read, trimStart_of_not_blank (not_isBlank_of_isDigit ha),
      lenientNumber?_of_ne_year (by decide), width, two, Option.map_some, Option.map_some]
  have slash : c ≠ '/' := by
    rintro rfl
    exact absurd hc (by decide)
  rw [parts]
  exact ((reads_piece day).refuses (refuses_mark slash)).append _

/-- A text with the year first has a sign or a longer number at its front. -/
theorem dayFirst_refuses_yearFirst (tail : List Char) :
    Refuses dayFirst {} (d.chars ++ tail) := by
  have signed (c : Char) (rest : List Char) (digit : c.isDigit = false)
      (blank : isBlank c = false) : Refuses dayFirst {} (c :: rest) := by
    have day : Refuses [.number .day] {} (c :: rest) := refuses_number (by decide) digit blank
    exact day.append _
  unfold Date.chars yearChars
  dsimp only
  split
  · exact signed '-' _ (by decide) (by decide)
  · split
    · exact signed '+' _ (by decide) (by decide)
    · have four : (padded 4 d.year.natAbs).length = 4 := length_padded (by decide) (by omega)
      obtain ⟨a, b, c, e, shown⟩ := List.length_eq_four.1 four
      have digit {x : Char} (hx : x ∈ [a, b, c, e]) : x.isDigit = true :=
        isDigit_of_mem_padded (shown ▸ hx)
      rw [shown]
      exact dayFirst_refuses_digits (digit (by simp)) (digit (by simp)) (digit (by simp)) _

end Days

/-- After the minutes, a spelling with seconds finds no more. -/
theorem toSecond_refuses_minutes (t : Time) {fields : Fields} :
    Refuses toSecond fields t.minuteChars := by
  have parts : toSecond = (toMinute ++ [.mark [':']]) ++ [.number .second] := rfl
  rw [parts]
  exact ((reads_toMinute_last t).refuses (refuses_mark_nil ':')).append _

/-- The moment without the part of a second. -/
def Moment.wholeSeconds (m : Moment) : Moment where
  date := m.date
  time := { m.time with
    nanosecond := 0
    isTime := ⟨m.time.isTime.1, m.time.isTime.2.1, m.time.isTime.2.2.1, by decide⟩ }

theorem Moment.moment?_toSecond (m : Moment) : m.toSecond.moment? = some m.wholeSeconds := by
  have date : Date.ofFields? m.date.year m.date.month m.date.day = some m.date :=
    dif_pos m.date.isDate
  have time : Time.ofFields? m.time.hour m.time.minute m.time.second 0 =
      some m.wholeSeconds.time := dif_pos m.wholeSeconds.time.isTime
  simp only [Fields.moment?, Moment.toSecond, date, time]
  rfl

/-- The usual ways to write a moment down to the second: with the year first or the day first, with
a blank or the letter T before the time of day, and without what is zero at its end. -/
def Moment.spelt (m : Moment) : List (List Char) :=
  [m.date.chars ++ ' ' :: m.time.chars, m.date.chars ++ 'T' :: m.time.chars,
    m.date.dayFirstChars ++ ' ' :: m.time.chars] ++
  (if m.time.second = 0 then
    [m.date.chars ++ ' ' :: m.time.minuteChars, m.date.chars ++ 'T' :: m.time.minuteChars,
      m.date.dayFirstChars ++ ' ' :: m.time.minuteChars]
  else []) ++
  (if m.time.hour = 0 ∧ m.time.minute = 0 ∧ m.time.second = 0 then
    [m.date.chars, m.date.dayFirstChars]
  else [])

section Blanks
variable {a b : List Char}

def Unbroken (s : List Char) : Prop := s ≠ [] ∧ ∀ c ∈ s, isBlank c = false

theorem Unbroken.append (ha : Unbroken a) (hb : Unbroken b) : Unbroken (a ++ b) :=
  ⟨by simp [ha.1], List.forall_mem_append.2 ⟨ha.2, hb.2⟩⟩

theorem Unbroken.cons {c : Char} (hc : isBlank c = false) (hb : Unbroken b) : Unbroken (c :: b) :=
  ⟨by simp, List.forall_mem_cons.2 ⟨hc, hb.2⟩⟩

theorem unbroken_padded (width n : Nat) : Unbroken (padded width n) :=
  ⟨padded_ne_nil width n, fun _ hc => not_isBlank_of_isDigit (isDigit_of_mem_padded hc)⟩

theorem unbroken_yearChars (year : Int) : Unbroken (yearChars year) := by
  unfold yearChars
  dsimp only
  split
  · exact (unbroken_padded ..).cons (by decide)
  · split
    · exact (unbroken_padded ..).cons (by decide)
    · exact unbroken_padded ..

theorem unbroken_chars (d : Date) : Unbroken d.chars :=
  (unbroken_yearChars _).append (((unbroken_padded ..).append
    ((unbroken_padded ..).cons (by decide))).cons (by decide))

theorem unbroken_dayFirstChars (d : Date) : Unbroken d.dayFirstChars :=
  (unbroken_padded ..).append (((unbroken_padded ..).append
    ((unbroken_yearChars _).cons (by decide))).cons (by decide))

theorem unbroken_minuteChars (t : Time) : Unbroken t.minuteChars :=
  (unbroken_padded ..).append ((unbroken_padded ..).cons (by decide))

theorem unbroken_timeChars (t : Time) : Unbroken t.chars := by
  rw [t.chars_eq]
  exact (unbroken_minuteChars t).append ((unbroken_padded ..).cons (by decide))

theorem Unbroken.trimStart_eq (ha : Unbroken a) : trimStart a = a := by
  obtain ⟨c, s, rfl⟩ := List.exists_cons_of_ne_nil ha.1
  exact trimStart_of_not_blank (ha.2 c List.mem_cons_self)

theorem Unbroken.trimmed_eq (ha : Unbroken a) : trimmed a = a := trimmed_of_no_blank ha.2

/-- One character in the middle of a text is not at its ends. -/
theorem Unbroken.trimmed_join (ha : Unbroken a) (hb : Unbroken b) (c : Char) :
    trimmed (a ++ c :: b) = a ++ c :: b := by
  apply trimmed_eq_self
  · intro x hx
    obtain ⟨first, rest, rfl⟩ := List.exists_cons_of_ne_nil ha.1
    exact ha.2 x (List.mem_of_mem_head? hx)
  · intro x hx
    obtain ⟨first, rest, rfl⟩ := List.exists_cons_of_ne_nil hb.1
    rw [List.getLast?_append_of_ne_nil _ (List.cons_ne_nil c _), List.getLast?_cons_cons] at hx
    exact hb.2 x (List.mem_of_getLast? hx)

end Blanks

theorem blanks_refuse_letter {fields : Fields} {rest : List Char} (later : Spelling) :
    Refuses (.blanks :: (toMinute ++ later)) fields ('T' :: rest) := by
  have parts : .blanks :: (toMinute ++ later) = ([.blanks] ++ [.number .hour]) ++
      (.mark [':'] :: .number .minute :: later) := rfl
  have pass : Reads [.blanks] fields ('T' :: rest) fields ('T' :: rest) :=
    reads_piece (by rw [Piece.read, trimStart_of_not_blank (by decide)])
  have hour : Refuses [.number .hour] fields ('T' :: rest) :=
    refuses_number (by decide) (by decide) (by decide)
  rw [parts]
  exact (pass.refuses hour).append _

section First
variable {m : Moment} {s tail : List Char}

/-- The times of day that are tried behind a day with the year first. -/
def timesAfterYear : List Spelling := [
  .blanks :: toSecond,
  .mark ['T'] :: toSecond,
  .blanks :: toSecond ++ [.fraction],
  .mark ['T'] :: toSecond ++ [.fraction],
  .blanks :: toMinute,
  .mark ['T'] :: toMinute]

def timesAfterDay : List Spelling := [.blanks :: toSecond, .blanks :: toMinute]

theorem spellings_eq : spellings = timesAfterYear.map (yearFirst ++ ·) ++
    (timesAfterDay.map (dayFirst ++ ·) ++ [yearFirst, dayFirst, internetForm]) := rfl

theorem take_append_cons {α : Type} {l : List α} {n : Nat} {a : α} (h : l[n]? = some a) :
    l = l.take n ++ a :: l.drop (n + 1) := by
  obtain ⟨inside, rfl⟩ := List.getElem?_eq_some_iff.1 h
  rw [← List.drop_eq_getElem_cons, List.take_append_drop]

/-- A text is read by the first spelling that fits it. -/
theorem ofText?_of_first {before after : List Spelling} {spelling : Spelling}
    (split : spellings = before ++ spelling :: after) (trim : trimmed s = s)
    (refused : ∀ other ∈ before, Refuses other {} s) (read : Reads spelling {} s m.toSecond []) :
    Moment.ofText? (String.ofList s) = some m.wholeSeconds := by
  have moment : spelling.moment? s = some m.wholeSeconds := by
    rw [read.moment?, m.moment?_toSecond]
  rw [Moment.ofText?, String.toList_ofList, trim]
  exact List.findSome?_eq_some_iff.2
    ⟨before, spelling, after, split, moment, fun other h => (refused other h).moment?⟩

theorem ofText?_of_yearFirst (n : Nat) {later : Spelling}
    (here : timesAfterYear[n]? = some later)
    (stop : ∀ c ∈ tail.head?, c.isDigit = false)
    (trim : trimmed (m.date.chars ++ tail) = m.date.chars ++ tail)
    (refused : ∀ other ∈ timesAfterYear.take n, Refuses other m.date.fields tail)
    (read : Reads later m.date.fields tail m.toSecond []) :
    Moment.ofText? (String.ofList (m.date.chars ++ tail)) = some m.wholeSeconds := by
  have day := reads_yearFirst m.date stop
  have parts := spellings_eq
  rw [take_append_cons here, List.map_append, List.map_cons, List.append_assoc,
    List.cons_append] at parts
  refine ofText?_of_first parts trim (List.forall_mem_map.2 fun other h => ?_) (day.append read)
  exact day.refuses (refused other h)

theorem ofText?_of_dayFirst (n : Nat) {later : Spelling}
    (here : timesAfterDay[n]? = some later)
    (stop : ∀ c ∈ tail.head?, c.isDigit = false)
    (trim : trimmed (m.date.dayFirstChars ++ tail) = m.date.dayFirstChars ++ tail)
    (refused : ∀ other ∈ timesAfterDay.take n, Refuses other m.date.fields tail)
    (read : Reads later m.date.fields tail m.toSecond []) :
    Moment.ofText? (String.ofList (m.date.dayFirstChars ++ tail)) = some m.wholeSeconds := by
  have day := reads_dayFirst m.date stop
  have parts := spellings_eq
  rw [take_append_cons here, List.map_append, List.map_cons, List.append_assoc,
    List.cons_append, ← List.append_assoc] at parts
  refine ofText?_of_first parts trim (List.forall_mem_append.2 ⟨List.forall_mem_map.2 ?_,
    List.forall_mem_map.2 ?_⟩) (day.append read)
  · exact fun other _ => (yearFirst_refuses_dayFirst m.date tail).append other
  · exact fun other h => day.refuses (refused other h)

end First

section Spelt
variable {m : Moment}

theorem fields_toSecond : (((m.date.fields.set .hour m.time.hour).set .minute
    m.time.minute).set .second m.time.second) = m.toSecond := rfl

theorem fields_of_second (h : m.time.second = 0) :
    (m.date.fields.set .hour m.time.hour).set .minute m.time.minute = m.toSecond := by
  rw [← fields_toSecond, h]
  rfl

theorem fields_of_time (h : m.time.hour = 0 ∧ m.time.minute = 0 ∧ m.time.second = 0) :
    m.date.fields = m.toSecond := by
  rw [← fields_toSecond, h.1, h.2.1, h.2.2]
  rfl

theorem ofText?_blank_second :
    Moment.ofText? (String.ofList (m.date.chars ++ ' ' :: m.time.chars)) = some m.wholeSeconds :=
  ofText?_of_yearFirst 0 rfl (by simp)
    ((unbroken_chars _).trimmed_join (unbroken_timeChars _) ' ') (by simp)
    ((reads_blanks (unbroken_timeChars _).trimStart_eq).append (reads_toSecond m.time))

theorem ofText?_letter_second :
    Moment.ofText? (String.ofList (m.date.chars ++ 'T' :: m.time.chars)) = some m.wholeSeconds := by
  refine ofText?_of_yearFirst 1 rfl (by simp)
    ((unbroken_chars _).trimmed_join (unbroken_timeChars _) 'T') ?_
    ((reads_mark 'T').append (reads_toSecond m.time))
  exact List.forall_mem_singleton.2 (blanks_refuse_letter [.mark [':'], .number .second])

theorem ofText?_blank_minute (h : m.time.second = 0) :
    Moment.ofText? (String.ofList (m.date.chars ++ ' ' :: m.time.minuteChars)) =
      some m.wholeSeconds := by
  have unbroken := unbroken_minuteChars m.time
  have blank : Refuses (.blanks :: toSecond) m.date.fields (' ' :: m.time.minuteChars) :=
    (reads_blanks unbroken.trimStart_eq).refuses (toSecond_refuses_minutes m.time)
  have letter : Refuses (.mark ['T'] :: toSecond) m.date.fields (' ' :: m.time.minuteChars) :=
    (refuses_mark (by decide)).append toSecond
  refine ofText?_of_yearFirst 4 rfl (by simp)
    ((unbroken_chars _).trimmed_join unbroken ' ') ?_ ?_
  · simp only [timesAfterYear, List.take_succ_cons, List.take_zero, List.forall_mem_cons]
    exact ⟨blank, letter, blank.append _, letter.append _, by simp⟩
  · rw [← fields_of_second h]
    exact (reads_blanks unbroken.trimStart_eq).append (reads_toMinute_last m.time)

theorem ofText?_letter_minute (h : m.time.second = 0) :
    Moment.ofText? (String.ofList (m.date.chars ++ 'T' :: m.time.minuteChars)) =
      some m.wholeSeconds := by
  have blank (later : Spelling) : Refuses (.blanks :: (toMinute ++ later)) m.date.fields
      ('T' :: m.time.minuteChars) := blanks_refuse_letter later
  have letter : Refuses (.mark ['T'] :: toSecond) m.date.fields ('T' :: m.time.minuteChars) :=
    (reads_mark 'T').refuses (toSecond_refuses_minutes m.time)
  refine ofText?_of_yearFirst 5 rfl (by simp)
    ((unbroken_chars _).trimmed_join (unbroken_minuteChars _) 'T') ?_ ?_
  · simp only [timesAfterYear, List.take_succ_cons, List.take_zero, List.forall_mem_cons]
    exact ⟨blank _, letter, (blank _).append _, letter.append _, blank [], by simp⟩
  · rw [← fields_of_second h]
    exact (reads_mark 'T').append (reads_toMinute_last m.time)

theorem ofText?_dayFirst_second :
    Moment.ofText? (String.ofList (m.date.dayFirstChars ++ ' ' :: m.time.chars)) =
      some m.wholeSeconds :=
  ofText?_of_dayFirst 0 rfl (by simp)
    ((unbroken_dayFirstChars _).trimmed_join (unbroken_timeChars _) ' ') (by simp)
    ((reads_blanks (unbroken_timeChars _).trimStart_eq).append (reads_toSecond m.time))

theorem ofText?_dayFirst_minute (h : m.time.second = 0) :
    Moment.ofText? (String.ofList (m.date.dayFirstChars ++ ' ' :: m.time.minuteChars)) =
      some m.wholeSeconds := by
  have blank : Reads [.blanks] m.date.fields (' ' :: m.time.minuteChars) m.date.fields
      m.time.minuteChars := reads_blanks (unbroken_minuteChars m.time).trimStart_eq
  refine ofText?_of_dayFirst 1 rfl (by simp)
    ((unbroken_dayFirstChars _).trimmed_join (unbroken_minuteChars _) ' ') ?_ ?_
  · exact List.forall_mem_singleton.2 (blank.refuses (toSecond_refuses_minutes m.time))
  · rw [← fields_of_second h]
    exact blank.append (reads_toMinute_last m.time)

/-- Behind a day, every time of day needs some more text. -/
theorem refuses_nil {fields : Fields} :
    ∀ later ∈ timesAfterYear ++ timesAfterDay, Refuses later fields [] := by
  have hour (later : Spelling) : Refuses (.blanks :: (toMinute ++ later)) fields [] := by
    have pass : Reads [.blanks] fields [] fields [] := reads_piece rfl
    exact (pass.refuses (refuses_number_nil .hour)).append
      (.mark [':'] :: .number .minute :: later)
  have letter (later : Spelling) : Refuses (.mark ['T'] :: later) fields [] :=
    (refuses_mark_nil 'T').append later
  simp only [timesAfterYear, timesAfterDay, List.cons_append, List.nil_append,
    List.forall_mem_cons]
  exact ⟨hour _, letter _, (hour _).append _, letter _, hour [], letter _, hour _, hour [],
    by simp⟩

theorem ofText?_yearFirst (h : m.time.hour = 0 ∧ m.time.minute = 0 ∧ m.time.second = 0) :
    Moment.ofText? (String.ofList m.date.chars) = some m.wholeSeconds := by
  have day : Reads yearFirst {} (m.date.chars ++ []) m.date.fields [] :=
    reads_yearFirst m.date (by simp)
  have other := dayFirst_refuses_yearFirst m.date []
  rw [List.append_nil] at day other
  rw [fields_of_time h] at day
  have parts := spellings_eq
  rw [← List.append_assoc] at parts
  refine ofText?_of_first parts (unbroken_chars _).trimmed_eq (List.forall_mem_append.2
    ⟨List.forall_mem_map.2 ?_, List.forall_mem_map.2 ?_⟩) day
  · exact fun later hl => day.refuses (refuses_nil later (List.mem_append_left _ hl))
  · exact fun later _ => other.append later

theorem ofText?_dayFirst (h : m.time.hour = 0 ∧ m.time.minute = 0 ∧ m.time.second = 0) :
    Moment.ofText? (String.ofList m.date.dayFirstChars) = some m.wholeSeconds := by
  have day : Reads dayFirst {} (m.date.dayFirstChars ++ []) m.date.fields [] :=
    reads_dayFirst m.date (by simp)
  have other := yearFirst_refuses_dayFirst m.date []
  rw [List.append_nil] at day other
  rw [fields_of_time h] at day
  have parts : spellings = (timesAfterYear.map (yearFirst ++ ·) ++
      (timesAfterDay.map (dayFirst ++ ·) ++ [yearFirst])) ++ dayFirst :: [internetForm] := rfl
  refine ofText?_of_first parts (unbroken_dayFirstChars _).trimmed_eq (List.forall_mem_append.2
    ⟨List.forall_mem_map.2 ?_, List.forall_mem_append.2 ⟨List.forall_mem_map.2 ?_, ?_⟩⟩) day
  · exact fun later _ => other.append later
  · exact fun later hl => day.refuses (refuses_nil later (List.mem_append_right _ hl))
  · exact List.forall_mem_singleton.2 other

end Spelt

/-- However a moment is written, the text gives it back but for the part of a second. -/
theorem Moment.ofText?_of_mem_spelt {m : Moment} {s : List Char} (h : s ∈ m.spelt) :
    Moment.ofText? (String.ofList s) = some m.wholeSeconds := by
  simp only [Moment.spelt, List.mem_append, List.mem_ite_nil_right, List.mem_cons,
    List.not_mem_nil, or_false] at h
  rcases h with ((rfl | rfl | rfl) | ⟨second, rfl | rfl | rfl⟩) | ⟨zero, rfl | rfl⟩
  · exact ofText?_blank_second
  · exact ofText?_letter_second
  · exact ofText?_dayFirst_second
  · exact ofText?_blank_minute second
  · exact ofText?_letter_minute second
  · exact ofText?_dayFirst_minute second
  · exact ofText?_yearFirst zero
  · exact ofText?_dayFirst zero

end TableLoad.Calendar
