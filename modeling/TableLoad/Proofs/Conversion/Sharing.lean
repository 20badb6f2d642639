import TableLoad.Proofs.Conversion.Chunks
import TableLoad.Proofs.Conversion.Workers

/-! # Shared conversions

Workers that convert rows chunk by chunk, and then workers that write one dialect each.  Whatever
the number of workers and the order in which they finish, what comes out is what converting all
rows in one go gives.
-/
namespace TableLoad
open Sql Calendar

namespace Schema

/-- The time matters only where defaults are filled in. -/
theorem toRecord_congr (s : Schema) {policy : NullPolicy} {now time : Moment}
    (same : policy = .applyDefaults → time = now) :
    s.toRecord policy time = s.toRecord policy now := by
  cases policy with
  | strict => rfl
  | applyDefaults => rw [same rfl]

/-- The chunks in order give the records of all rows and their report. -/
theorem convertChunks_eq (s : Schema) (policy : NullPolicy) (now : Moment) (offset : Nat)
    (chunks : List (List Row)) :
    s.convertChunks policy now offset chunks =
      (chunks.flatten.map (s.toRecord policy now),
        s.checkRows offset (chunks.flatten.map (s.toRecord policy now))) := by
  induction chunks generalizing offset with
  | nil => rfl
  | cons chunk chunks ih =>
    rw [convertChunks, ih, convertChunk, List.flatten_cons, List.map_append, checkRows_append,
      List.length_map]

theorem convertShared_eq (s : Schema) (options : Options) (now : Moment) (rows : List Row)
    (jobs : Nat) : s.convertShared options now rows jobs = s.convert options now rows := by
  by_cases filled : rows = []
  · simp [convertShared, convert, filled]
  by_cases columns : s.columns = []
  · simp [convertShared, convert, validate, filled, columns]
  simp [convertShared, convert, validate, filled, columns, convertChunks_eq, flatten_batches]

def chunksOf (rows : List Row) (jobs : Nat) : List (Nat × List Row) :=
  placed 0 (batches (chunkSize rows.length jobs) rows)

def dialectsOf (options : Options) : List Dialect := Dialect.all.filter options.dialects.contains

theorem parts_placed (s : Schema) (slices : List (List Record)) :
    ((placed 0 slices).map fun e => (e.2, s.checkRows e.1 e.2)).flatMap Prod.fst =
        slices.flatten ∧
      (((placed 0 slices).map fun e => (e.2, s.checkRows e.1 e.2)).map Prod.snd).foldl
        Report.merge {} = s.checkRows 0 slices.flatten := by
  constructor
  · rw [List.flatMap_map, List.flatMap_def]
    exact congrArg List.flatten (map_snd_placed 0 slices)
  · rw [List.map_map]
    exact s.mergedReport_eq slices

theorem parts_chunksOf (s : Schema) (f : Row → Record) (rows : List Row) (jobs : Nat) :
    ((chunksOf rows jobs).map fun chunk =>
        (chunk.2.map f, s.checkRows chunk.1 (chunk.2.map f))).flatMap Prod.fst = rows.map f ∧
      (((chunksOf rows jobs).map fun chunk =>
        (chunk.2.map f, s.checkRows chunk.1 (chunk.2.map f))).map Prod.snd).foldl
          Report.merge {} = s.checkRows 0 (rows.map f) := by
  have whole : ((batches (chunkSize rows.length jobs) rows).map (List.map f)).flatten =
      rows.map f := by
    rw [← List.map_flatten, flatten_batches]
  have parts := s.parts_placed ((batches (chunkSize rows.length jobs) rows).map (List.map f))
  rw [placed_map, List.map_map, whole] at parts
  exact parts

/-- The conversion of rows by workers, as far as the events given are all that happens: first to
the workers on `jobs` chunks, then to those on dialects.  The worker on the chunk that starts at a
row reads its own clock. -/
def convertBy? (s : Schema) (options : Options) (clock : Nat → Moment) (rows : List Row)
    (jobs : Nat) (checking writing : List Event) : Option (Except CheckError Conversion) :=
  if rows.isEmpty then some (.error .noRecords)
  else if s.columns.isEmpty then some (.error .emptySchema)
  else do
    let cutting ← (Cutting.start rows).finished? (chunkSize rows.length jobs) rows.length
    let parts ← Pool.results?
      (fun chunk => s.convertChunk options.nullPolicy (clock chunk.1) chunk.1 chunk.2)
      cutting.chunks checking
    let records := parts.flatMap Prod.fst
    let report := (parts.map Prod.snd).foldl Report.merge {}
    let outputs ← Pool.results? (fun d => (d, generate s records report d options.batchSize))
      (dialectsOf options) writing
    some (.ok ⟨records, report, outputs⟩)

/-- The work on a chunk, if the clock of its worker shows the time of the conversion. -/
theorem convertChunk_congr (s : Schema) {policy : NullPolicy} {now : Moment} {clock : Nat → Moment}
    (same : policy = .applyDefaults → ∀ row, clock row = now) :
    (fun chunk : Nat × List Row => s.convertChunk policy (clock chunk.1) chunk.1 chunk.2) =
      fun chunk => (chunk.2.map (s.toRecord policy now),
        s.checkRows chunk.1 (chunk.2.map (s.toRecord policy now))) := by
  funext chunk
  have time : s.toRecord policy (clock chunk.1) = s.toRecord policy now :=
    s.toRecord_congr fun fills => same fills chunk.1
  rw [convertChunk, time]

theorem finished?_start {rows : List Row} (filled : rows ≠ []) (jobs : Nat) :
    (Cutting.start rows).finished? (chunkSize rows.length jobs) rows.length =
      some ⟨rows.length, [], chunksOf rows jobs⟩ := by
  have size := one_le_chunkSize (List.length_pos_iff.2 filled) jobs
  have ended := Cutting.finished?_eq (c := Cutting.start rows) size (Nat.le_refl _)
  simpa [Cutting.start, chunksOf] using ended

theorem convert_eq_ok (s : Schema) (options : Options) (now : Moment) {rows : List Row}
    (filled : rows ≠ []) (columns : s.columns ≠ []) :
    let records := rows.map (s.toRecord options.nullPolicy now)
    let report := s.checkRows 0 records
    s.convert options now rows = .ok ⟨records, report, s.outputs options records report⟩ := by
  simp [convert, validate, filled, columns]

section Convert
variable (s : Schema) (options : Options) {now : Moment} {clock : Nat → Moment} {rows : List Row}

/-- The workers on dialects write what all rows in one go give. -/
theorem convertBy?_eq_bind (same : options.nullPolicy = .applyDefaults → ∀ row, clock row = now)
    (filled : rows ≠ []) (columns : s.columns ≠ []) (jobs : Nat) (checking writing : List Event) :
    let records := rows.map (s.toRecord options.nullPolicy now)
    let report := s.checkRows 0 records
    s.convertBy? options clock rows jobs checking writing =
      (Pool.results? (fun chunk : Nat × List Row =>
          (chunk.2.map (s.toRecord options.nullPolicy now),
            s.checkRows chunk.1 (chunk.2.map (s.toRecord options.nullPolicy now))))
        (chunksOf rows jobs) checking).bind fun _ =>
      (Pool.results? (fun d => (d, generate s records report d options.batchSize))
        (dialectsOf options) writing).map fun outputs =>
          .ok ⟨records, report, outputs⟩ := by
  intro records report
  have empty : rows.isEmpty = false := by simpa using filled
  have bare : s.columns.isEmpty = false := by simpa using columns
  simp only [convertBy?, empty, bare, finished?_start filled, convertChunk_congr s same,
    Option.bind_eq_bind, Option.bind_some, Bool.false_eq_true, if_false]
  refine Option.bind_congr fun parts checked => ?_
  obtain ⟨gathered, merged⟩ :=
    s.parts_chunksOf (s.toRecord options.nullPolicy now) rows jobs
  rw [← Pool.results?_eq checked] at gathered merged
  rw [gathered, merged, Option.map_eq_bind]
  rfl

/-- Whatever the events, what comes out is the conversion of all rows in one go. -/
theorem convertBy?_eq_convert
    (same : options.nullPolicy = .applyDefaults → ∀ row, clock row = now) {jobs : Nat}
    {checking writing : List Event} {result : Except CheckError Conversion}
    (h : s.convertBy? options clock rows jobs checking writing = some result) :
    result = s.convert options now rows := by
  by_cases filled : rows = []
  · simpa [convertBy?, convert, filled] using h.symm
  by_cases columns : s.columns = []
  · simpa [convertBy?, convert, validate, filled, columns] using h.symm
  rw [convertBy?_eq_bind s options same filled columns] at h
  obtain ⟨-, -, h⟩ := Option.bind_eq_some_iff.1 h
  obtain ⟨outputs, written, rfl⟩ := Option.map_eq_some_iff.1 h
  rw [convert_eq_ok s options now filled columns, Pool.results?_eq written]
  rfl

/-- In whatever order the workers finish, something comes out. -/
theorem exists_convertBy?
    (same : options.nullPolicy = .applyDefaults → ∀ row, clock row = now) (jobs : Nat)
    {checkers writers : List Nat}
    (check : checkers.Perm (List.range (chunksOf rows jobs).length))
    (write : writers.Perm (List.range (dialectsOf options).length)) :
    ∃ checking writing result, s.convertBy? options clock rows jobs
      (Event.finishing (chunksOf rows jobs).length checkers checking)
      (Event.finishing (dialectsOf options).length writers writing) =
        some result := by
  by_cases filled : rows = []
  · exact ⟨[], [], .error .noRecords, by simp [convertBy?, filled]⟩
  by_cases columns : s.columns = []
  · exact ⟨[], [], .error .emptySchema, by simp [convertBy?, filled, columns]⟩
  simp only [convertBy?_eq_bind s options same filled columns]
  obtain ⟨checking, checked⟩ := Pool.exists_results_of_order _ _ check
  obtain ⟨writing, written⟩ := Pool.exists_results_of_order _ _ write
  exact ⟨checking, writing, _, Option.bind_eq_some_iff.2
    ⟨_, checked, Option.map_eq_some_iff.2 ⟨_, written, rfl⟩⟩⟩

end Convert

/-- Sharing the rows out changes nothing.  For any number of workers, which may finish in any order,
what comes out is the conversion of all rows in one go, as long as defaults are filled in at the
same time.  The loop that cuts the rows ends, and its chunks hold every row once, in order and at
its place; and so the reports of any consecutive slices merge into the report of all records. -/
theorem sharing_keeps_conversion (s : Schema) (options : Options) (now : Moment) {rows : List Row}
    (filled : rows ≠ []) (jobs : Nat) :
    s.convertShared options now rows jobs = s.convert options now rows ∧
      (∀ clock : Nat → Moment, (options.nullPolicy = .applyDefaults → ∀ row, clock row = now) →
        (∀ checking writing result,
          s.convertBy? options clock rows jobs checking writing = some result →
            result = s.convert options now rows) ∧
        ∀ checkers writers : List Nat,
          checkers.Perm (List.range (chunksOf rows jobs).length) →
          writers.Perm (List.range (dialectsOf options).length) →
            ∃ checking writing, s.convertBy? options clock rows jobs
              (Event.finishing (chunksOf rows jobs).length checkers checking)
              (Event.finishing (dialectsOf options).length writers writing) =
                some (s.convert options now rows)) ∧
      ((Cutting.start rows).finished? (chunkSize rows.length jobs) rows.length =
          some ⟨rows.length, [], chunksOf rows jobs⟩ ∧
        ((chunksOf rows jobs).flatMap fun chunk => chunk.2.zipIdx chunk.1) = rows.zipIdx ∧
        (chunksOf rows jobs).length ≤ max jobs 1) ∧
      ∀ slices : List (List Record), s.mergedReport slices = s.checkRows 0 slices.flatten := by
  refine ⟨s.convertShared_eq options now rows jobs, fun clock same => ⟨?_, ?_⟩, ⟨?_, ?_, ?_⟩,
    s.mergedReport_eq⟩
  · intro checking writing result h
    exact s.convertBy?_eq_convert options same h
  · intro checkers writers check write
    obtain ⟨checking, writing, result, h⟩ := s.exists_convertBy? options same jobs check write
    exact ⟨checking, writing, s.convertBy?_eq_convert options same h ▸ h⟩
  · exact finished?_start filled jobs
  · rw [chunksOf, flatMap_zipIdx_placed, flatten_batches]
  · rw [← List.length_map Prod.snd, chunksOf, map_snd_placed]
    exact length_batches_chunkSize filled jobs

end Schema

def labels : Schema where
  table := "t"
  columns := [{ name := "a", type := .text (some 3), default? := some (.text "new") }]

/-- Two workers on three rows, the second of which is done first; its result comes second. -/
theorem Schema.sharing_keeps_conversion_labels :
    let options : Options := { dialects := [.sqlite], nullPolicy := .applyDefaults }
    let now : Moment := ⟨⟨2024, 5, 1, by decide⟩, ⟨12, 0, 0, 0, by decide⟩⟩
    let rows : List Row := [[.text "long"], [.null], [.text "x", .text "y"]]
    (∃ result, labels.convertBy? options (fun _ => now) rows 2
      [.start, .start, .finish 1, .finish 0, .take, .take] [.start, .finish 0, .take] =
        some result ∧ result = labels.convert options now rows) ∧
      ∃ checking writing, labels.convertBy? options (fun _ => now) rows 2
        (Event.finishing 2 [1, 0] checking) (Event.finishing 1 [0] writing) =
          some (labels.convert options now rows) := by
  intro options now rows
  obtain ⟨-, each, -⟩ := sharing_keeps_conversion labels options now (by decide : rows ≠ []) 2
  obtain ⟨same, any⟩ := each (fun _ => now) fun _ _ => rfl
  have two : (chunksOf rows 2).length = 2 := by
    rw [chunksOf, ← List.length_map Prod.snd, map_snd_placed, length_batches (by decide)]
    decide
  rw [two] at any
  constructor
  · have ends : (labels.convertBy? options (fun _ => now) rows 2
        [.start, .start, .finish 1, .finish 0, .take, .take] [.start, .finish 0, .take]).isSome =
          true := by decide
    obtain ⟨result, h⟩ := Option.isSome_iff_exists.1 ends
    exact ⟨result, h, same _ _ _ h⟩
  · exact any [1, 0] [0] (by decide) (by decide)

end TableLoad
