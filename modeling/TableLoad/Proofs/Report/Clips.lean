import Mathlib.Data.List.Forall2
import TableLoad.Proofs.Record.Clips
import TableLoad.Proofs.Report.Issues

/-! # Clips in reports

The check of cleaned rows finds no text that is too long, and warns of every clip once, with the
length that the text had.
-/
namespace TableLoad
open Text

namespace Column

theorem kind_of_issue?_clean {row : Nat} {column : Column} {cell : Cell} {i : Issue}
    (h : column.issue? row (cell.clean column.type).1 = some i) : i.kind ≠ .lengthExceeded := by
  intro kind
  obtain ⟨s, n, text, bounded, long, filled⟩ := exceeded_of_issue? h kind
  generalize column.type = type at *
  cases type with
  | text limit =>
    cases limit with
    | none => cases bounded
    | some limit =>
      obtain rfl : limit.toNat = n := Option.some.inj bounded
      rcases (isFitted_clean cell limit 0).start with empty | ⟨-, t, -, kept, -, -, short⟩
      · rw [empty] at filled
        cases filled
      · rw [kept] at text
        obtain rfl : String.ofList t = s := Value.text.inj (Except.ok.inj text)
        rw [String.length_ofList] at long
        omega
  | _ => cases bounded

end Column

def clipWarnings (row : Nat) (notes : List Truncation) (places : List (Column × Nat)) :
    List Issue :=
  places.flatMap fun e =>
    ((notes.find? fun t => t.position == e.2).map (Truncation.issue row e.1)).toList

/-- A note before all places is not found there. -/
theorem clipWarnings_cons (row : Nat) {t : Truncation} {notes : List Truncation}
    {places : List (Column × Nat)} (before : ∀ e ∈ places, t.position < e.2) :
    clipWarnings row (t :: notes) places = clipWarnings row notes places := by
  refine List.flatMap_congr fun e he => ?_
  rw [List.find?_cons_of_neg]
  rw [beq_iff_eq]
  exact Nat.ne_of_lt (before e he)

/-- Notes in the order of places, each looked up at its place, are all found, in order. -/
theorem forall₂_clipWarnings (row : Nat) {columns : List Column} {position : Nat}
    {notes : List Truncation} (sorted : notes.Pairwise (·.position < ·.position))
    (placed : ∀ t ∈ notes, position ≤ t.position ∧ t.position < position + columns.length) :
    List.Forall₂ (fun t i => ∃ column, (column, t.position) ∈ columns.zipIdx position ∧
      i = Truncation.issue row column t) notes
        (clipWarnings row notes (columns.zipIdx position)) := by
  induction columns generalizing position notes with
  | nil =>
    cases notes with
    | nil => exact .nil
    | cons t notes =>
      obtain ⟨low, high⟩ := placed t List.mem_cons_self
      exact absurd high (Nat.not_lt_of_le low)
  | cons column columns ih =>
    rw [List.length_cons] at placed
    have later {notes : List Truncation} (sorted : notes.Pairwise (·.position < ·.position))
        (placed : ∀ t ∈ notes, position + 1 ≤ t.position ∧
          t.position < position + 1 + columns.length) :
        List.Forall₂ (fun t i => ∃ c, (c, t.position) ∈ (column :: columns).zipIdx position ∧
          i = Truncation.issue row c t) notes
            (clipWarnings row notes (columns.zipIdx (position + 1))) :=
      (ih sorted placed).imp fun t i ⟨c, hc, hi⟩ => ⟨c, List.mem_cons_of_mem _ hc, hi⟩
    rw [List.zipIdx_cons, clipWarnings, List.flatMap_cons]
    cases notes with
    | nil => exact later .nil (by simp)
    | cons t notes =>
      obtain ⟨above, rest⟩ := List.pairwise_cons.1 sorted
      by_cases here : t.position = position
      · -- the note of this column; those of the columns behind it come after
        rw [List.find?_cons_of_pos (by simp [here])]
        refine .cons ⟨column, by simp [here], rfl⟩ ?_
        change List.Forall₂ _ _ (clipWarnings row (t :: notes) (columns.zipIdx (position + 1)))
        rw [clipWarnings_cons]
        · refine later rest fun u hu => ?_
          have := above u hu
          have := placed u (List.mem_cons_of_mem t hu)
          omega
        · intro e he
          have := List.le_snd_of_mem_zipIdx he
          omega
      · have behind : ∀ u ∈ t :: notes, position < u.position := by
          have := placed t List.mem_cons_self
          intro u hu
          rcases List.mem_cons.1 hu with rfl | hu
          · omega
          · have := above u hu
            omega
        have none : (t :: notes).find? (fun t => t.position == position) = none := by
          rw [List.find?_eq_none]
          intro u hu
          rw [beq_iff_eq]
          exact Nat.ne_of_gt (behind u hu)
        rw [none]
        refine later sorted fun u hu => ?_
        have := placed u hu
        have := behind u hu
        omega

/-- The warning of a clip: the place of the row and the note of the clip determine it. -/
structure IsClipWarning (s : Schema) (note : Nat × Truncation) (i : Issue) : Prop where
  row : i.row = note.1
  column : ∃ column, s.columns[note.2.position]? = some column ∧ i.column = column.name
  kind : i.kind = .lengthExceeded
  severity : i.severity = .warning
  length : i.fullLength? = some note.2.fullLength

namespace Schema

/-- Of the issues of a cell in a cleaned row, only the warning of its clip is about its length. -/
theorem filter_issues_clean {s : Schema} {row : Row} {index position : Nat} {column : Column}
    (hc : s.columns[position]? = some column) :
    (column.issues index position (s.clean row)).filter (fun i => i.kind == .lengthExceeded) =
      (((s.clean row).truncationAt? position).map (Truncation.issue index column)).toList := by
  rw [Column.issues]
  cases hr : (s.clean row).cells[position]? with
  | none =>
    have short : row.length ≤ position := by
      simpa [clean, length_cleanCells] using List.getElem?_eq_none_iff.1 hr
    have unnoted : (s.clean row).truncationAt? position = none := by
      rw [Record.truncationAt?, List.find?_eq_none]
      intro t ht
      have := (position_of_mem_truncationsFrom ht).2
      rw [length_cleanCells] at this
      rw [beq_iff_eq]
      omega
    rw [unnoted]
    rfl
  | some cleaned =>
    have noError : (column.issue? index cleaned).toList.filter
        (fun i => i.kind == .lengthExceeded) = [] := by
      rw [clean, List.getElem?_map, getElem?_cleanCells, hc] at hr
      obtain ⟨cell, -, rfl⟩ := Option.map_eq_some_iff.1 (Option.map_map .. ▸ hr)
      rw [List.filter_eq_nil_iff]
      intro i hi
      rw [beq_iff_eq]
      exact Column.kind_of_issue?_clean (Option.mem_toList.1 hi)
    dsimp only
    rw [List.filter_append, noError, List.append_nil, List.filter_eq_self]
    intro i hi
    obtain ⟨t, -, rfl⟩ := Option.map_eq_some_iff.1 (Option.mem_toList.1 hi)
    rfl

theorem filter_checkRecord_clean (s : Schema) (row : Row) (index : Nat) :
    List.Forall₂ (fun t i => IsClipWarning s (index, t) i) (s.clean row).truncations
      ((s.checkRecord index (s.clean row)).filter fun i => i.kind == .lengthExceeded) := by
  have unknown : ((List.range' s.columns.length
      ((s.clean row).cells.length - s.columns.length)).map (s.unknownIssue index)).filter
        (fun i => i.kind == .lengthExceeded) = [] := by
    rw [List.filter_eq_nil_iff]
    intro i hi
    obtain ⟨position, -, rfl⟩ := List.mem_map.1 hi
    simp [unknownIssue]
  have known : (s.columns.zipIdx.flatMap fun e => e.1.issues index e.2 (s.clean row)).filter
        (fun i => i.kind == .lengthExceeded) =
      clipWarnings index (s.clean row).truncations s.columns.zipIdx := by
    rw [List.filter_flatMap]
    exact List.flatMap_congr fun e he =>
      filter_issues_clean (List.mem_zipIdx_iff_getElem?.1 he)
  rw [checkRecord, List.filter_append, unknown, List.append_nil]
  refine known ▸ (forall₂_clipWarnings index (pairwise_truncationsFrom 0 _) fun t ht => ?_).imp ?_
  · obtain ⟨column, -, -, hc, -⟩ := exists_of_mem_truncations ht
    have := (List.getElem?_eq_some_iff.1 hc).1
    omega
  · rintro t _ ⟨column, hc, rfl⟩
    exact ⟨rfl, ⟨column, List.mem_zipIdx_iff_getElem?.1 hc, rfl⟩, rfl, rfl, rfl⟩

/-- The notes of the clips in cleaned rows, the first of which is row `offset`. -/
def clipNotes (s : Schema) (offset : Nat) (rows : List Row) : List (Nat × Truncation) :=
  (rows.zipIdx offset).flatMap fun e => (s.clean e.1).truncations.map (e.2, ·)

theorem filter_checkRows_clean (s : Schema) (offset : Nat) (rows : List Row) :
    List.Forall₂ (IsClipWarning s) (s.clipNotes offset rows)
      ((s.checkRows offset (rows.map s.clean)).issues.filter fun i =>
        i.kind == .lengthExceeded) := by
  induction rows generalizing offset with
  | nil => exact .nil
  | cons row rows ih =>
    have first : List.Forall₂ (IsClipWarning s) ((s.clean row).truncations.map (offset, ·)) _ :=
      List.forall₂_map_left_iff.2 (s.filter_checkRecord_clean row offset)
    rw [checkRows, List.map_cons, List.zipIdx_cons, List.flatMap_cons, List.filter_append]
    exact List.rel_append first (ih (offset + 1))

/-- Clips are bounded, and each is accounted for.  A text column with a limit keeps a start of the
text that fits, and the row has one note of it exactly when the text does not fit; no other cell
has a note.  A check of the cleaned rows has no error about a length, and warns of each note. -/
theorem clean_accounts_for_clips (s : Schema) :
    (∀ (row : Row) (position : Nat) (column : Column) (limit : UInt32) (cell : Cell),
        s.columns[position]? = some column → column.type = .text (some limit) →
          row[position]? = some cell →
            ∃ cleaned, (s.clean row).cells[position]? = some cleaned ∧
              IsFitted limit.toNat position cell.shown? cleaned
                ((s.clean row).truncations.filter fun t => t.position == position)) ∧
      (∀ (row : Row), ∀ t ∈ (s.clean row).truncations, ∃ column limit cell,
        s.columns[t.position]? = some column ∧ column.type = .text (some limit) ∧
          row[t.position]? = some cell) ∧
      ∀ rows : List Row, s.columns ≠ [] → rows ≠ [] →
        ∃ report, s.validate (rows.map s.clean) = .ok report ∧
          (∀ i ∈ report.issues, i.kind = .lengthExceeded → i.severity = .warning) ∧
            List.Forall₂ (IsClipWarning s) (s.clipNotes 0 rows)
              (report.issues.filter fun i => i.kind == .lengthExceeded) := by
  refine ⟨fun _ _ _ _ _ => isFitted_of_getElem?, fun _ _ => exists_of_mem_truncations, ?_⟩
  intro rows columns filled
  have warnings := s.filter_checkRows_clean 0 rows
  refine ⟨s.checkRows 0 (rows.map s.clean), by simp [validate, columns, filled], ?_, warnings⟩
  intro i hi kind
  have hi : i ∈ (s.checkRows 0 (rows.map s.clean)).issues.filter fun i =>
      i.kind == .lengthExceeded := List.mem_filter.2 ⟨hi, beq_iff_eq.2 kind⟩
  obtain ⟨position, here⟩ := List.getElem?_of_mem hi
  obtain ⟨inside, rfl⟩ := List.getElem?_eq_some_iff.1 here
  have bound := warnings.length_eq ▸ inside
  exact (warnings.get bound inside).severity

end Schema

def narrowTexts : Schema where
  table := "t"
  columns := [{ name := "n", type := .integer }, { name := "a", type := .text (some 4) },
    { name := "b", type := .text (some 0) }]

/-- The clip of the first text leaves a zero fraction, and the second has no room for its truth
value. -/
theorem Schema.clean_accounts_for_clips_narrow :
    let row : Row := [.null, .text " 11.05 ", .boolean true]
    (narrowTexts.clean row).cells = [.null, .text "11", .null] ∧
      IsFitted 4 1 (some ['1', '1', '.', '0', '5']) (.text "11") [⟨1, 5, 4⟩] ∧
        ∃ report, narrowTexts.validate [narrowTexts.clean row] = .ok report ∧
          (∀ i ∈ report.issues, i.kind = .lengthExceeded → i.severity = .warning) ∧
            List.Forall₂ (IsClipWarning narrowTexts) [(0, ⟨1, 5, 4⟩), (0, ⟨2, 4, 0⟩)]
              (report.issues.filter fun i => i.kind == .lengthExceeded) := by
  intro row
  have cleaned : narrowTexts.clean row =
      ⟨[.null, .text "11", .null], [⟨1, 5, 4⟩, ⟨2, 4, 0⟩]⟩ := by decide
  obtain ⟨fitted, -, checked⟩ := clean_accounts_for_clips narrowTexts
  obtain ⟨cell, here, fits⟩ := fitted row 1 { name := "a", type := .text (some 4) } 4
    (.text " 11.05 ") rfl rfl rfl
  rw [cleaned] at here fits
  cases here
  refine ⟨congrArg Record.cells cleaned, fits, ?_⟩
  have notes : narrowTexts.clipNotes 0 [row] = [(0, ⟨1, 5, 4⟩), (0, ⟨2, 4, 0⟩)] := by
    simp [clipNotes, cleaned]
  exact notes ▸ checked [row] (by decide) (by decide)

end TableLoad
