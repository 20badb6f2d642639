import TableLoad.Proofs.Record.Prepared
import TableLoad.Record.Defaults

/-! # What filling changes

Filling puts a value into the empty cells whose column has one to give, and keeps everything else.
Whether a column has a value to give does not depend on the time, and that value is never the empty
one; so a filled record is not changed by filling it again, at whatever time.
-/
namespace TableLoad
open Number Calendar

/-- Whether a default is a value that a cell of a column of the type holds, at whatever time. -/
def Default.isCell (type : ColumnType) : Default → Bool
  | .null => false
  | .expression _ => false
  | .currentTimestamp => true
  | .boolean _ => true
  | .number numeral =>
    match type with
    | .boolean => (truth? numeral).isSome
    | .integer | .decimal _ => (decimal? numeral.toList).isSome
    | _ => true
  | .text content =>
    match type with
    | .boolean => (truth? content).isSome
    | _ => true

theorem Default.isSome_cell? (now : Moment) (type : ColumnType) (d : Default) :
    (d.cell? now type).isSome = d.isCell type := by
  cases d with
  | null => rfl
  | expression code => rfl
  | currentTimestamp => rfl
  | boolean b => rfl
  | number numeral => cases type <;> simp [cell?, isCell]
  | text content => cases type <;> simp [cell?, isCell]

theorem Default.isNull_of_cell? {now : Moment} {type : ColumnType} {d : Default} {cell : Cell}
    (h : d.cell? now type = some cell) : cell.isNull = false := by
  have mapped {α : Type} {found : Option α} {f : α → Cell} (filled : ∀ a, (f a).isNull = false)
      (h : found.map f = some cell) : cell.isNull = false := by
    obtain ⟨a, -, rfl⟩ := Option.map_eq_some_iff.1 h
    exact filled a
  cases d with
  | null => cases h
  | expression code => cases h
  | currentTimestamp => cases h; rfl
  | boolean b => cases h; rfl
  | number numeral =>
    cases type with
    | boolean => exact mapped (fun _ => rfl) h
    | integer => exact mapped (fun _ => rfl) h
    | decimal precision => exact mapped (fun _ => rfl) h
    | text limit => cases h; rfl
    | timestamp => cases h; rfl
  | text content =>
    cases type with
    | boolean => exact mapped (fun _ => rfl) h
    | integer => cases h; rfl
    | decimal precision => cases h; rfl
    | text limit => cases h; rfl
    | timestamp => cases h; rfl

def Column.isFilled (column : Column) : Bool :=
  !column.isAutoIncrement && column.default?.any (Default.isCell column.type)

theorem Column.isFilled_iff (column : Column) : column.isFilled = true ↔
    column.isAutoIncrement = false ∧
      ∃ d, column.default? = some d ∧ d.isCell column.type = true := by
  rw [isFilled, Bool.and_eq_true, Bool.not_eq_true', Option.any_eq_true]

namespace Column
variable (now : Moment) {column : Column}

theorem fill_of_isNull_eq_false {cell : Cell} (h : cell.isNull = false) :
    column.fill now cell = cell := by
  rw [fill, h]
  rfl

theorem fill_of_not_filled (h : column.isFilled = false) (cell : Cell) :
    column.fill now cell = cell := by
  rw [fill]
  split
  · rename_i empty
    rw [Bool.and_eq_true, Bool.not_eq_true'] at empty
    rw [isFilled, empty.2, Bool.not_false, Bool.true_and] at h
    have none : column.default?.bind (Default.cell? now column.type) = none := by
      rw [Option.bind_eq_none_iff]
      intro d hd
      rw [hd, Option.any_some, ← Default.isSome_cell? now] at h
      exact Option.isNone_iff_eq_none.1 (Option.isSome_eq_false_iff.1 h)
    rw [none, Cell.eq_null_of_isNull empty.1]
    rfl
  · rfl

theorem exists_fill_null (h : column.isFilled = true) : ∃ d, column.default? = some d ∧
    d.cell? now column.type = some (column.fill now .null) ∧
      (column.fill now .null).isNull = false := by
  obtain ⟨apart, d, hd, isCell⟩ := column.isFilled_iff.1 h
  rw [← Default.isSome_cell? now] at isCell
  obtain ⟨cell, value⟩ := Option.isSome_iff_exists.1 isCell
  have filled : column.fill now .null = cell := by
    simp [fill, Cell.isNull, apart, hd, value]
  exact ⟨d, hd, filled ▸ value, filled ▸ Default.isNull_of_cell? value⟩

/-- A cell that was filled is not filled again. -/
theorem fill_fill (later : Moment) (cell : Cell) :
    column.fill later (column.fill now cell) = column.fill now cell := by
  cases filled : column.isFilled with
  | false => rw [fill_of_not_filled later filled]
  | true =>
    cases empty : cell.isNull with
    | false => rw [fill_of_isNull_eq_false now empty, fill_of_isNull_eq_false later empty]
    | true =>
      obtain ⟨-, -, -, value⟩ := exists_fill_null now filled
      rw [Cell.eq_null_of_isNull empty, fill_of_isNull_eq_false later value]

end Column

theorem getElem?_fillCells (now : Moment) (columns : List Column) (cells : List Cell)
    (position : Nat) : (fillCells now columns cells)[position]? =
      cells[position]?.map fun cell =>
        match columns[position]? with
        | some column => column.fill now cell
        | none => cell := by
  induction columns generalizing cells position with
  | nil => simp [fillCells]
  | cons column columns ih =>
    cases cells with
    | nil => simp [fillCells]
    | cons cell cells =>
      cases position with
      | zero => simp [fillCells]
      | succ position => simpa [fillCells] using ih cells position

theorem length_fillCells (now : Moment) (columns : List Column) (cells : List Cell) :
    (fillCells now columns cells).length = cells.length := by
  induction columns generalizing cells with
  | nil => simp [fillCells]
  | cons column columns ih =>
    cases cells with
    | nil => simp [fillCells]
    | cons cell cells => simp [fillCells, ih]

theorem fillCells_fillCells (now later : Moment) (columns : List Column) (cells : List Cell) :
    fillCells later columns (fillCells now columns cells) = fillCells now columns cells := by
  induction columns generalizing cells with
  | nil => simp [fillCells]
  | cons column columns ih =>
    cases cells with
    | nil => simp [fillCells]
    | cons cell cells => rw [fillCells, fillCells, Column.fill_fill, ih]

/-- What filling makes of a cell in a column, or past the last one. -/
structure IsFilling (now : Moment) (column? : Option Column) (cell filled : Cell) : Prop where
  kept : cell.isNull = false → filled = cell
  beyond : column? = none → filled = cell
  autoIncrement : ∀ column, column? = some column → column.isAutoIncrement = true → filled = cell
  changed_iff : filled ≠ cell ↔ cell = .null ∧ ∃ column d, column? = some column ∧
    column.isAutoIncrement = false ∧ column.default? = some d ∧ d.isCell column.type = true
  value : filled ≠ cell → filled.isNull = false ∧ ∃ column d, column? = some column ∧
    column.default? = some d ∧ d.cell? now column.type = some filled

theorem isFilling_self (now : Moment) {column? : Option Column} {cell : Cell}
    (h : ∀ column, column? = some column → cell.isNull = false ∨ column.isFilled = false) :
    IsFilling now column? cell cell := by
  refine ⟨fun _ => rfl, fun _ => rfl, fun _ _ _ => rfl, ?_, fun change => absurd rfl change⟩
  refine ⟨fun change => absurd rfl change, ?_⟩
  rintro ⟨rfl, column, d, here, apart, hd, isCell⟩
  rcases h column here with filled | unfilled
  · cases filled
  · rw [column.isFilled_iff.2 ⟨apart, d, hd, isCell⟩] at unfilled
    cases unfilled

theorem Column.isFilling_fill (now : Moment) (column : Column) (cell : Cell) :
    IsFilling now (some column) cell (column.fill now cell) := by
  by_cases stays : cell.isNull = false ∨ column.isFilled = false
  · have same : column.fill now cell = cell :=
      stays.elim (fill_of_isNull_eq_false now) (fun h => fill_of_not_filled now h cell)
    rw [same]
    exact isFilling_self now fun c hc => Option.some.inj hc ▸ stays
  · simp only [not_or, Bool.not_eq_false] at stays
    obtain ⟨empty, filled⟩ := stays
    obtain rfl := Cell.eq_null_of_isNull empty
    obtain ⟨apart, -⟩ := column.isFilled_iff.1 filled
    obtain ⟨d, hd, value, notNull⟩ := exists_fill_null now filled
    have change : column.fill now .null ≠ .null := by
      intro same
      rw [same] at notNull
      cases notNull
    have isCell : d.isCell column.type = true := by
      rw [← Default.isSome_cell? now, value]
      rfl
    refine ⟨fun h => (by cases h), fun h => (by cases h), fun c hc auto => ?_, ?_, fun _ => ?_⟩
    · rw [← Option.some.inj hc, apart] at auto
      cases auto
    · exact ⟨fun _ => ⟨rfl, column, d, rfl, apart, hd, isCell⟩, fun _ => change⟩
    · exact ⟨notNull, column, d, rfl, hd, value⟩

/-- Filling keeps the length of a record and its notes.  A cell changes exactly when it is empty and
its column, which is not filled by the database, has a default that is a value; it then has this
value.  Filling again, even at another time, changes nothing. -/
theorem Schema.fillDefaults_fills_once (s : Schema) (r : Record) (now later : Moment) :
    (s.fillDefaults now r).cells.length = r.cells.length ∧
      (s.fillDefaults now r).truncations = r.truncations ∧
      (∀ (position : Nat) (cell : Cell), r.cells[position]? = some cell →
        ∃ filled, (s.fillDefaults now r).cells[position]? = some filled ∧
          IsFilling now s.columns[position]? cell filled) ∧
      s.fillDefaults later (s.fillDefaults now r) = s.fillDefaults now r := by
  refine ⟨length_fillCells now s.columns r.cells, rfl, fun position cell here => ?_, ?_⟩
  · have filling := getElem?_fillCells now s.columns r.cells position
    rw [here, Option.map_some] at filling
    refine ⟨_, filling, ?_⟩
    cases hc : s.columns[position]? with
    | none => exact isFilling_self now fun column hc => by cases hc
    | some column => exact column.isFilling_fill now cell
  · rw [fillDefaults, fillDefaults, fillCells_fillCells]

def visits : Schema where
  table := "visits"
  columns := [
    Column.autoIncrement (Column.primaryKey { name := "id", type := .integer }),
    Column.notNull { name := "open", type := .boolean, default? := some (.number "1") },
    Column.notNull { name := "seen", type := .timestamp, default? := some .currentTimestamp },
    { name := "note", type := .text (some 5), default? := some (.text "new") },
    Column.notNull { name := "code", type := .integer, default? := some (.expression "next()") }]

/-- Only the cells of the truth value, the time and the note are filled, and only once. -/
theorem Schema.fillDefaults_fills_once_visits :
    let now : Moment := ⟨⟨2024, 5, 1, by decide⟩, ⟨8, 0, 0, 0, by decide⟩⟩
    let later : Moment := ⟨⟨2025, 1, 1, by decide⟩, ⟨0, 0, 0, 0, by decide⟩⟩
    let r : Record := ⟨[.null, .null, .null, .null, .null, .null], [⟨3, 9, 0⟩]⟩
    (visits.fillDefaults now r).cells =
        [.null, .boolean true, .text "2024-05-01 08:00:00", .text "new", .null, .null] ∧
      IsFilling now (visits.columns[2]?) .null (.text "2024-05-01 08:00:00") ∧
        visits.fillDefaults later (visits.fillDefaults now r) = visits.fillDefaults now r := by
  intro now later r
  obtain ⟨-, -, each, once⟩ := fillDefaults_fills_once visits r now later
  have cells : (visits.fillDefaults now r).cells =
      [.null, .boolean true, .text "2024-05-01 08:00:00", .text "new", .null, .null] := by decide
  obtain ⟨filled, here, filling⟩ := each 2 .null rfl
  rw [cells] at here
  cases here
  exact ⟨cells, filling, once⟩

end TableLoad
