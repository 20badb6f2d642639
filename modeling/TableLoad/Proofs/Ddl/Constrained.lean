import TableLoad.Ddl.Resolve

/-! # What the constraints of a column come to

Constraints are taken in one after the other.  A flag is set by any of them; of the defaults, and of
the words on whether the column may be empty, the last one counts; and of the checks each is kept.
-/
namespace TableLoad.Ddl
open Text

def Constraint.nullable? : Constraint → Option Bool
  | .null => some true
  | .notNull => some false
  | _ => none

def Constraint.default? : Constraint → Option (Default × List Char)
  | .default value written => some (value, written)
  | _ => none

def Constraint.check? : Constraint → Option (List Char)
  | .check code => some code
  | _ => none

theorem Constraint.nullable?_eq_some_iff {x : Constraint} {b : Bool} :
    x.nullable? = some b ↔ x = if b then .null else .notNull := by
  cases x <;> cases b <;> simp [nullable?]

theorem Constraint.default?_eq_some_iff {x : Constraint} {value : Default} {written : List Char} :
    x.default? = some (value, written) ↔ x = .default value written := by
  cases x <;> simp [default?]

theorem Constraint.check?_eq_some_iff {x : Constraint} {code : List Char} :
    x.check? = some code ↔ x = .check code := by
  cases x <;> simp [check?]

theorem name_constrain (c : Column) (x : Constraint) : (constrain c x).name = c.name := by
  cases x <;> rfl

/-- Of what is said last, the first is heard only if nothing follows. -/
theorem map_getLast?_cons_or {α β : Type} (f : α → β) (a : α) (l : List α) (before : Option β) :
    ((a :: l).getLast?.map f).or before = (l.getLast?.map f).or (some (f a)) := by
  rw [List.getLast?_cons]
  cases l.getLast? <;> rfl

theorem foldl_constrain_eq (constraints : List Constraint) (c : Column) :
    constraints.foldl constrain c = { c with
      nullable := (constraints.filterMap Constraint.nullable?).getLast?.getD c.nullable
      default? := ((constraints.filterMap Constraint.default?).getLast?.map Prod.fst).or c.default?
      isPrimaryKey := c.isPrimaryKey || decide (.primaryKey ∈ constraints)
      isAutoIncrement := c.isAutoIncrement || decide (.autoIncrement ∈ constraints)
      isUnique := c.isUnique || decide (.unique ∈ constraints) } := by
  induction constraints generalizing c with
  | nil => simp
  | cons x constraints ih =>
    rw [List.foldl_cons, ih]
    cases x with
    | default value written =>
      simp only [Constraint.default?, List.filterMap_cons, map_getLast?_cons_or]
      simp [constrain, Constraint.nullable?]
    | _ => simp [constrain, Constraint.nullable?, Constraint.default?, List.getLast?_cons]

/-- The text of the default that counts, one having been found before. -/
theorem foldl_written (constraints : List Constraint) (found : Option (List Char)) :
    constraints.foldl (fun found x => (x.default?.map Prod.snd).or found) found =
      ((constraints.filterMap Constraint.default?).getLast?.map Prod.snd).or found := by
  induction constraints generalizing found with
  | nil => rfl
  | cons x constraints ih =>
    rw [List.foldl_cons, ih]
    cases x with
    | default value written =>
      simp only [Constraint.default?, List.filterMap_cons, map_getLast?_cons_or]
      rfl
    | _ => rfl

theorem writtenDefault?_eq_map (constraints : List Constraint) :
    writtenDefault? constraints =
      (constraints.filterMap Constraint.default?).getLast?.map Prod.snd := by
  have written := foldl_written constraints none
  rw [Option.or_none] at written
  rw [← written, writtenDefault?]
  congr 1
  funext found x
  cases x <;> rfl

/-- The type of a column in terms of its checks and its defaults alone. -/
theorem promotedType_eq (resolved : ResolvedType) (columnName : String)
    (constraints : List Constraint) :
    promotedType resolved columnName constraints =
      if resolved.holdsDates && (writtenDefault? constraints).any isTextClock then .timestamp
      else if resolved.type = .integer &&
          (constraints.filterMap Constraint.check?).any (isTruthCheck columnName) then .boolean
      else resolved.type := by
  have checks : (constraints.filterMap Constraint.check?).any (isTruthCheck columnName) =
      constraints.any fun x =>
        match x with
        | .check code => isTruthCheck columnName code
        | _ => false := by
    rw [List.any_filterMap]
    congr 1
    funext x
    cases x <;> rfl
  rw [checks]
  rfl

theorem any_check_iff {constraints : List Constraint} {p : List Char → Bool} :
    (constraints.filterMap Constraint.check?).any p = true ↔
      ∃ code, .check code ∈ constraints ∧ p code = true := by
  simp only [List.any_eq_true, List.mem_filterMap, Constraint.check?_eq_some_iff,
    exists_eq_right]

end TableLoad.Ddl
