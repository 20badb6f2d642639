import TableLoad.Proofs.Calendar.Written
import TableLoad.Proofs.Sql.Literals

/-! # Texts of moments in cells

The literal of a moment is the text of a cell that is the moment down to the second, so what has
been loaded can be loaded again and is written as before.  The usual ways to write one moment are
all the same cell value.
-/
namespace TableLoad
open Calendar Sql

theorem Cell.value_text_timestamp_iff {s : String} {m : Moment} :
    (Cell.text s).value .timestamp = .ok (.timestamp m) ↔ Moment.ofText? s = some m := by
  simp only [Cell.value, Cell.timestampValue]
  cases Moment.ofText? s <;> simp

theorem Calendar.Moment.text_wholeSeconds (m : Moment) : m.wholeSeconds.text = m.text := rfl

/-- Every dialect reads the literal of a moment as a string that holds its text. -/
theorem Sql.Reading.literal_timestamp (d : Dialect) (m : Moment) :
    literal d (d.literal .timestamp (.timestamp m)).toList = some (.string m.text, []) := by
  have plain : Text.doubling d.literalSpecials m.chars = m.chars :=
    Text.doubling_eq_self fun _ => not_special_of_mem_chars d
  have ends : EndsItem [] := by simp [EndsItem]
  have read := literal_string_run d [] (.inl rfl) m.chars ends
  rw [plain] at read
  simpa [Dialect.literal, Moment.text] using read

/-- The string in the literal of a moment is a cell of the moment down to the second, and this has
the same literal.  Each of the usual ways to write the moment is a cell of it as well. -/
theorem Cell.timestamp_texts_canonical (m : Moment) :
    (∀ d : Dialect, ∃ content : String,
      Reading.literal d (d.literal .timestamp (.timestamp m)).toList =
          some (.string content, []) ∧
        (Cell.text content).value .timestamp = .ok (.timestamp m.wholeSeconds) ∧
        d.literal .timestamp (.timestamp m.wholeSeconds) =
          d.literal .timestamp (.timestamp m)) ∧
      ∀ shown ∈ m.spelt,
        (Cell.text (String.ofList shown)).value .timestamp = .ok (.timestamp m.wholeSeconds) := by
  have each : ∀ shown ∈ m.spelt, (Cell.text (String.ofList shown)).value .timestamp =
      .ok (.timestamp m.wholeSeconds) := fun _ h =>
    Cell.value_text_timestamp_iff.2 (Moment.ofText?_of_mem_spelt h)
  have own : m.chars ∈ m.spelt := by simp [Moment.spelt, Moment.chars]
  refine ⟨fun d => ⟨m.text, Reading.literal_timestamp d m, each _ own, ?_⟩, each⟩
  simp only [Dialect.literal, Moment.text_wholeSeconds]

def leapDay : Moment where
  date := ⟨2024, 2, 29, by decide⟩
  time := ⟨0, 0, 0, 5 * 10 ^ 8, by decide⟩

/-- Half a second into a leap day, which the literal does not show, is midnight when read again.  The
leap day alone is midnight as well, with the day first or last. -/
theorem Cell.timestamp_texts_canonical_leapDay :
    leapDay.wholeSeconds ≠ leapDay ∧
      Dialect.sqlserver.literal .timestamp (.timestamp leapDay) = "'2024-02-29 00:00:00'" ∧
      Reading.literal .sqlserver "'2024-02-29 00:00:00'".toList =
        some (.string "2024-02-29 00:00:00", []) ∧
      (Cell.text "2024-02-29 00:00:00").value .timestamp =
        .ok (.timestamp leapDay.wholeSeconds) ∧
      (Cell.text (String.ofList "2024-02-29".toList)).value .timestamp =
        .ok (.timestamp leapDay.wholeSeconds) ∧
      (Cell.text (String.ofList "29/02/2024".toList)).value .timestamp =
        .ok (.timestamp leapDay.wholeSeconds) ∧
      (Cell.text (String.ofList "2024-02-29T00:00".toList)).value .timestamp =
        .ok (.timestamp leapDay.wholeSeconds) := by
  obtain ⟨written, each⟩ := Cell.timestamp_texts_canonical leapDay
  obtain ⟨content, read, loaded, -⟩ := written .sqlserver
  have literal : Dialect.sqlserver.literal .timestamp (.timestamp leapDay) =
      "'2024-02-29 00:00:00'" := by decide +kernel
  have string : Reading.literal .sqlserver "'2024-02-29 00:00:00'".toList =
      some (.string "2024-02-29 00:00:00", []) := by decide +kernel
  rw [literal, string] at read
  obtain rfl : "2024-02-29 00:00:00" = content := by simpa using read
  exact ⟨by decide, literal, string, loaded, each _ (by decide), each _ (by decide),
    each _ (by decide)⟩

end TableLoad
