import TableLoad.Calendar.Spelling
import TableLoad.Proofs.Number.Digits
import TableLoad.Proofs.Text.Blank
import TableLoad.Proofs.Text.Scan

/-! # Reading the text of a moment back

The text of a moment is a spelling with the year first, and gives back its fields down to the
second.
-/
namespace TableLoad.Calendar
open Text Number

theorem trimStart_padded (width n : Nat) (rest : List Char) :
    trimStart (padded width n ++ rest) = padded width n ++ rest := by
  obtain ⟨c, s, hc⟩ := List.exists_cons_of_ne_nil (padded_ne_nil width n)
  rw [hc]
  exact trimStart_of_not_blank
    (not_isBlank_of_isDigit (isDigit_of_mem_padded (hc ▸ List.mem_cons_self)))

/-- A padded number ends where its digits do. -/
theorem number?_padded {most width n : Nat} {rest : List Char}
    (fits : (padded width n).length ≤ most) (stop : ∀ c ∈ rest.head?, c.isDigit = false) :
    number? most (padded width n ++ rest) = some (n, rest) := by
  have stop' : ∀ c ∈ (rest.take (most - (padded width n).length)).head?, c.isDigit = false := by
    intro c hc
    rw [List.head?_take] at hc
    split at hc
    · simp at hc
    · exact stop c hc
  have shown : ((padded width n ++ rest).take most).takeWhile Char.isDigit = padded width n := by
    rw [List.take_append, List.take_of_length_le fits]
    exact (Scan.takeWhile_append_of_stop (fun _ => isDigit_of_mem_padded) stop').1
  simp [number?, shown, nat?_padded]

/-- A number without a sign is read by its width, that of a year as well. -/
theorem lenientNumber?_padded {field : Field} {width n : Nat} {rest : List Char}
    (fits : (padded width n).length ≤ field.width)
    (stop : ∀ c ∈ rest.head?, c.isDigit = false) :
    lenientNumber? field (padded width n ++ rest) = some ((n : Int), rest) := by
  obtain ⟨c, s, hc⟩ := List.exists_cons_of_ne_nil (padded_ne_nil width n)
  have digit : c.isDigit = true := isDigit_of_mem_padded (hc ▸ List.mem_cons_self)
  have minus : c ≠ '-' := by
    rintro rfl
    exact absurd digit (by decide)
  have plus : c ≠ '+' := by
    rintro rfl
    exact absurd digit (by decide)
  have lenient : lenientNumber? field (padded width n ++ rest) =
      (number? field.width (padded width n ++ rest)).map fun read => ((read.1 : Int), read.2) := by
    rw [hc]
    unfold lenientNumber?
    split
    · rename_i he
      exact absurd (List.cons.inj he).1 minus
    · rename_i he
      exact absurd (List.cons.inj he).1 plus
    · rfl
  rw [lenient, number?_padded fits stop, Option.map_some]

theorem read_number_padded {fields : Fields} {field : Field} {n : Nat} {rest : List Char}
    (small : n < 100) (stop : ∀ c ∈ rest.head?, c.isDigit = false) :
    Piece.read fields (padded 2 n ++ rest) (.number field) = some (fields.set field n, rest) := by
  have two : (padded 2 n).length ≤ field.width := by
    rw [length_padded (by decide) small]
    cases field <;> simp [Field.width]
  rw [Piece.read, trimStart_padded, lenientNumber?_padded two stop, Option.map_some]

theorem read_number_year {fields : Fields} (year : Int) {rest : List Char}
    (stop : ∀ c ∈ rest.head?, c.isDigit = false) :
    Piece.read fields (yearChars year ++ rest) (.number .year) =
      some (fields.set .year year, rest) := by
  have all : (padded 4 year.natAbs).length ≤ (padded 4 year.natAbs ++ rest).length := by simp
  unfold yearChars
  dsimp only
  split
  · have value : -(year.natAbs : Int) = year := by omega
    rw [Piece.read, List.cons_append, trimStart_of_not_blank (by decide), lenientNumber?,
      number?_padded all stop]
    simp only [Option.map_some, value]
  · split
    · have value : (year.natAbs : Int) = year := by omega
      rw [Piece.read, List.cons_append, trimStart_of_not_blank (by decide), lenientNumber?,
        number?_padded all stop]
      simp only [Option.map_some, value]
    · have value : (year.natAbs : Int) = year := by omega
      have four : (padded 4 year.natAbs).length ≤ Field.year.width := by
        rw [length_padded (by decide) (by omega)]
        decide
      rw [Piece.read, trimStart_padded, lenientNumber?_padded four stop, Option.map_some, value]

theorem fields?_cons {fields next : Fields} {piece : Piece} {pieces : Spelling}
    {s rest : List Char} (h : piece.read fields s = some (next, rest)) :
    Spelling.fields? fields s (piece :: pieces) = Spelling.fields? next rest pieces := by
  rw [Spelling.fields?, h]

theorem read_mark (fields : Fields) (c : Char) (rest : List Char) :
    Piece.read fields (c :: rest) (.mark [c]) = some (fields, rest) := by
  simp [Piece.read]

section Parts
variable {pieces later : Spelling} {fields next last : Fields} {s rest tail : List Char}

/-- The pieces read the front of a text, and what follows them goes on with the rest. -/
def Reads (pieces : Spelling) (fields : Fields) (s : List Char) (next : Fields)
    (rest : List Char) : Prop :=
  ∀ more : Spelling, (pieces ++ more).fields? fields s = more.fields? next rest

theorem Reads.append (first : Reads pieces fields s next rest)
    (second : Reads later next rest last tail) : Reads (pieces ++ later) fields s last tail := by
  intro more
  rw [List.append_assoc, first, second]

theorem reads_piece {piece : Piece} (h : piece.read fields s = some (next, rest)) :
    Reads [piece] fields s next rest :=
  fun _ => fields?_cons h

theorem Reads.fields? (h : Reads pieces fields s next []) :
    pieces.fields? fields s = some next := by
  have all := h []
  rwa [List.append_nil] at all

theorem reads_number {field : Field} {n : Nat} (small : n < 100)
    (stop : ∀ c ∈ rest.head?, c.isDigit = false) :
    Reads [.number field] fields (padded 2 n ++ rest) (fields.set field n) rest :=
  reads_piece (read_number_padded small stop)

theorem reads_number_last {field : Field} {n : Nat} (small : n < 100) :
    Reads [.number field] fields (padded 2 n) (fields.set field n) [] := by
  have last : Reads [.number field] fields (padded 2 n ++ []) (fields.set field n) [] :=
    reads_number small (by simp)
  rwa [List.append_nil] at last

theorem reads_mark (c : Char) : Reads [.mark [c]] fields (c :: rest) fields rest :=
  reads_piece (read_mark fields c rest)

theorem reads_blanks (trim : trimStart s = s) : Reads [.blanks] fields (' ' :: s) fields s := by
  have skip : trimStart (' ' :: s) = trimStart s := rfl
  exact reads_piece (by rw [Piece.read, skip, trim])

end Parts

theorem daysInMonth_le (year : Int) (month : Nat) : daysInMonth year month ≤ 31 := by
  unfold daysInMonth
  split
  · split <;> decide
  all_goals decide

theorem Date.month_lt (d : Date) : d.month < 100 := by
  obtain ⟨-, ⟨-, top⟩, -⟩ := d.isDate
  omega

theorem Date.day_lt (d : Date) : d.day < 100 := by
  obtain ⟨-, -, -, top⟩ := d.isDate
  have := daysInMonth_le d.year d.month
  omega

def Date.fields (d : Date) : Fields where
  year := d.year
  month := d.month
  day := d.day

/-- A day is read from its text, in front of anything but another digit. -/
theorem reads_yearFirst (d : Date) {tail : List Char}
    (stop : ∀ c ∈ tail.head?, c.isDigit = false) :
    Reads yearFirst {} (d.chars ++ tail) d.fields tail := by
  have parts : yearFirst = [.number .year] ++ ([.mark ['-']] ++ ([.number .month] ++
      ([.mark ['-']] ++ [.number .day]))) := rfl
  simp only [Date.chars, List.append_assoc, List.cons_append, parts]
  have year : Reads [.number .year] {} _ _ ('-' :: (padded 2 d.month ++ '-' ::
      (padded 2 d.day ++ tail))) := reads_piece (read_number_year d.year (by simp))
  exact year.append ((reads_mark '-').append ((reads_number d.month_lt (by simp)).append
    ((reads_mark '-').append (reads_number d.day_lt stop))))

def Time.minuteChars (t : Time) : List Char := padded 2 t.hour ++ ':' :: padded 2 t.minute

section Clocks
variable (t : Time) {fields : Fields} {tail : List Char}

theorem reads_toMinute (stop : ∀ c ∈ tail.head?, c.isDigit = false) :
    Reads toMinute fields (t.minuteChars ++ tail)
      ((fields.set .hour t.hour).set .minute t.minute) tail := by
  obtain ⟨hour24, minute60, -⟩ := t.isTime
  have parts : toMinute = [.number .hour] ++ ([.mark [':']] ++ [.number .minute]) := rfl
  simp only [Time.minuteChars, List.append_assoc, List.cons_append, parts]
  exact (reads_number (by omega) (by simp)).append
    ((reads_mark ':').append (reads_number (by omega) stop))

theorem Time.chars_eq : t.chars = t.minuteChars ++ ':' :: padded 2 t.second := by
  simp only [Time.chars, Time.minuteChars, List.append_assoc, List.cons_append]

theorem reads_toMinute_last : Reads toMinute fields t.minuteChars
    ((fields.set .hour t.hour).set .minute t.minute) [] := by
  have last : Reads toMinute fields (t.minuteChars ++ []) _ [] := reads_toMinute t (by simp)
  rwa [List.append_nil] at last

theorem reads_toSecond : Reads toSecond fields t.chars
    (((fields.set .hour t.hour).set .minute t.minute).set .second t.second) [] := by
  obtain ⟨-, -, second60, -⟩ := t.isTime
  rw [t.chars_eq]
  exact (reads_toMinute t (by simp)).append
    ((reads_mark ':').append (reads_number_last (by omega)))

end Clocks

def Moment.toSecond (m : Moment) : Fields where
  year := m.date.year
  month := m.date.month
  day := m.date.day
  hour := m.time.hour
  minute := m.time.minute
  second := m.time.second

/-- The text of a moment gives back its fields down to the second. -/
theorem fields?_chars (m : Moment) :
    (yearFirst ++ Piece.blanks :: toSecond).fields? {} m.chars = some m.toSecond := by
  have trim : trimStart m.time.chars = m.time.chars := trimStart_padded ..
  have all : Reads (yearFirst ++ ([.blanks] ++ toSecond)) {} m.chars m.toSecond [] :=
    (reads_yearFirst m.date (by simp)).append ((reads_blanks trim).append (reads_toSecond m.time))
  exact all.fields?

end TableLoad.Calendar
