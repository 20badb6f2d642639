import TableLoad.Conversion
import TableLoad.Proofs.Report.Merging
import TableLoad.Proofs.Sql.Batches

/-! # Chunks

The loop that cuts rows into the chunks of workers.  Each chunk has at least one row, so the loop
ends; its chunks are consecutive batches of the rows, each with the place of its first row.
-/
namespace TableLoad
open Sql

/-- The loop that cuts rows into chunks: the chunks so far, each with the place of its first row,
and the rows that are left, the first of which is row `offset`. -/
structure Cutting where
  offset : Nat
  rest : List Row
  chunks : List (Nat × List Row)

namespace Cutting

def start (rows : List Row) : Cutting := ⟨0, rows, []⟩

def next? (size : Nat) (c : Cutting) : Option Cutting :=
  if c.rest.isEmpty then none
  else
    let cut := min size c.rest.length
    let chunk := c.rest.take cut
    some ⟨c.offset + chunk.length, c.rest.drop cut, c.chunks ++ [(c.offset, chunk)]⟩

/-- The end of the loop, if it takes no more than `steps` chunks. -/
def finished? (size : Nat) : Nat → Cutting → Option Cutting
  | 0, c => if c.rest.isEmpty then some c else none
  | steps + 1, c =>
    match c.next? size with
    | some next => finished? size steps next
    | none => some c

theorem next?_eq {size : Nat} (hs : 1 ≤ size) {c : Cutting} (left : c.rest ≠ []) :
    ∃ chunk, c.next? size =
        some ⟨c.offset + chunk.length, c.rest.drop size, c.chunks ++ [(c.offset, chunk)]⟩ ∧
      batches size c.rest = chunk :: batches size (c.rest.drop size) ∧
        c.rest.length = chunk.length + (c.rest.drop size).length ∧ 1 ≤ chunk.length := by
  refine ⟨c.rest.take size, ?_, batches_of_ne_nil hs left, ?_, ?_⟩
  · rw [next?, if_neg (by simpa using left), List.take_eq_take_min, List.drop_eq_drop_min]
  · rw [← List.length_append, List.take_append_drop]
  · have := List.length_pos_iff.2 left
    rw [List.length_take]
    omega

/-- The loop ends, after at most one chunk for each row, with the batches of the rows. -/
theorem finished?_eq {size steps : Nat} (hs : 1 ≤ size) {c : Cutting}
    (enough : c.rest.length ≤ steps) : c.finished? size steps = some ⟨c.offset + c.rest.length, [],
      c.chunks ++ placed c.offset (batches size c.rest)⟩ := by
  have ended {c : Cutting} (empty : c.rest = []) : c = ⟨c.offset + c.rest.length, [],
      c.chunks ++ placed c.offset (batches size c.rest)⟩ := by
    obtain ⟨offset, rest, chunks⟩ := c
    subst empty
    simp [batches, piecesOf, placed]
  induction steps generalizing c with
  | zero =>
    have empty : c.rest = [] := List.length_eq_zero_iff.1 (Nat.le_zero.1 enough)
    rw [finished?, if_pos (List.isEmpty_iff.2 empty)]
    exact congrArg some (ended empty)
  | succ steps ih =>
    rw [finished?]
    by_cases empty : c.rest = []
    · rw [next?, if_pos (List.isEmpty_iff.2 empty)]
      exact congrArg some (ended empty)
    · obtain ⟨chunk, next, cut, lengths, filled⟩ := next?_eq hs empty
      rw [next, cut]
      dsimp only
      rw [ih (by dsimp only; omega)]
      dsimp only
      rw [lengths, placed, List.append_assoc, Nat.add_assoc]
      rfl

end Cutting

namespace Schema

theorem one_le_chunkSize {rows : Nat} (filled : 1 ≤ rows) (jobs : Nat) : 1 ≤ chunkSize rows jobs := by
  rw [chunkSize, Nat.one_le_div_iff (by omega)]
  omega

/-- There are no more chunks than workers. -/
theorem length_batches_chunkSize {rows : List Row} (filled : rows ≠ []) (jobs : Nat) :
    (batches (chunkSize rows.length jobs) rows).length ≤ max jobs 1 := by
  have size := one_le_chunkSize (List.length_pos_iff.2 filled) jobs
  have room : rows.length ≤ max jobs 1 * chunkSize rows.length jobs := by
    have := Nat.div_add_mod (rows.length + max jobs 1 - 1) (max jobs 1)
    have := Nat.mod_lt (rows.length + max jobs 1 - 1) (y := max jobs 1) (by omega)
    rw [chunkSize]
    omega
  rw [length_batches size, ← Nat.lt_succ_iff, Nat.div_lt_iff_lt_mul size, Nat.succ_mul]
  omega

end Schema

end TableLoad
