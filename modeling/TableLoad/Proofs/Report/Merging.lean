import TableLoad.Report.Check

/-! # Merged reports

Consecutive slices of some records may be checked apart.  A slice counts its rows from the place of
its first one, so merging the reports in order gives the report of all records.
-/
namespace TableLoad

/-- Consecutive slices, each with the place of its first item; the first one starts at `offset`. -/
def placed {α : Type} (offset : Nat) : List (List α) → List (Nat × List α)
  | [] => []
  | slice :: rest => (offset, slice) :: placed (offset + slice.length) rest

section Placed
variable {α β : Type}

theorem map_snd_placed (offset : Nat) (slices : List (List α)) :
    (placed offset slices).map Prod.snd = slices := by
  induction slices generalizing offset with
  | nil => rfl
  | cons slice slices ih => rw [placed, List.map_cons, ih]

theorem placed_map (offset : Nat) (f : α → β) (slices : List (List α)) :
    placed offset (slices.map (List.map f)) =
      (placed offset slices).map fun e => (e.1, e.2.map f) := by
  induction slices generalizing offset with
  | nil => rfl
  | cons slice slices ih => rw [List.map_cons, placed, placed, ih, List.length_map, List.map_cons]

/-- The slices hold every item once, in order and at its place. -/
theorem flatMap_zipIdx_placed (offset : Nat) (slices : List (List α)) :
    ((placed offset slices).flatMap fun e => e.2.zipIdx e.1) = slices.flatten.zipIdx offset := by
  induction slices generalizing offset with
  | nil => rfl
  | cons slice slices ih =>
    rw [placed, List.flatMap_cons, ih, List.flatten_cons, List.zipIdx_append]

end Placed

namespace Schema

theorem checkRows_append (s : Schema) (offset : Nat) (first rest : List Record) :
    s.checkRows offset (first ++ rest) =
      (s.checkRows offset first).merge (s.checkRows (offset + first.length) rest) := by
  simp only [checkRows, Report.merge, List.zipIdx_append, List.flatMap_append, List.length_append]

/-- The reports of slices merged in order, each slice checked from the place of its first record. -/
def mergedReport (s : Schema) (slices : List (List Record)) : Report :=
  ((placed 0 slices).map fun e => s.checkRows e.1 e.2).foldl Report.merge {}

/-- What has been merged is the report of the slices so far. -/
theorem foldl_merge_placed (s : Schema) (first : List Record) (slices : List (List Record)) :
    ((placed first.length slices).map fun e => s.checkRows e.1 e.2).foldl Report.merge
      (s.checkRows 0 first) = s.checkRows 0 (first ++ slices.flatten) := by
  induction slices generalizing first with
  | nil => simp [placed]
  | cons slice slices ih =>
    have step : (s.checkRows 0 first).merge (s.checkRows first.length slice) =
        s.checkRows 0 (first ++ slice) := by
      rw [checkRows_append, Nat.zero_add]
    rw [placed, List.map_cons, List.foldl_cons, step, ← List.length_append, ih,
      List.append_assoc, List.flatten_cons]

theorem mergedReport_eq (s : Schema) (slices : List (List Record)) :
    s.mergedReport slices = s.checkRows 0 slices.flatten :=
  s.foldl_merge_placed [] slices

end Schema

end TableLoad
