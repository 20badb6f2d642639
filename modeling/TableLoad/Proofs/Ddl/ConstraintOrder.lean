import Mathlib.Data.List.Forall2
import TableLoad.Proofs.Ddl.Constrained

/-! # The order of constraints

A column is made from its constraints one after the other, the column that declared the primary key
being passed on from column to column.  Constraints that do not contradict each other give the same
column, or the same fault, in every order; and so do the tables of such columns.
-/
namespace TableLoad.Ddl
open Text

/-! ### One constraint after the other -/

/-- A column while its constraints are taken in. -/
structure Draft where
  column : Column
  checks : List (List Char) := []
  /-- The text of the last default so far. -/
  written? : Option (List Char) := none

namespace Draft

def add (d : Draft) (x : Constraint) : Draft where
  column := constrain d.column x
  checks := d.checks ++ x.check?.toList
  written? := (x.default?.map Prod.snd).or d.written?

/-- The draft with all constraints, and the column that declared the key when nothing more is taken
in.  A second key ends it with a fault; what was told of the key until then stays told. -/
def addAll (key? : Option String) (d : Draft) :
    List Constraint → Except DdlError Draft × Option String
  | [] => (.ok d, key?)
  | x :: rest =>
    if x = .primaryKey then
      if key?.isSome then (.error (.duplicatePrimaryKey d.column.name), key?)
      else (d.add x).addAll (some d.column.name) rest
    else (d.add x).addAll key? rest

/-- The column of a draft to which nothing more is added: a check makes truth values of integers, a
default makes moments of texts, a key is never empty, and truth values take their default. -/
def finish (d : Draft) (holdsDates : Bool) : Column :=
  let type :=
    if holdsDates && d.written?.any isTextClock then .timestamp
    else if d.column.type = .integer && d.checks.any (isTruthCheck d.column.name) then .boolean
    else d.column.type
  { d.column with
    type
    nullable := d.column.nullable && !d.column.isPrimaryKey
    default? := if type = .boolean then d.column.default?.map truthDefault else d.column.default? }

theorem foldl_add (d : Draft) (constraints : List Constraint) :
    constraints.foldl add d = {
      column := constraints.foldl constrain d.column
      checks := d.checks ++ constraints.filterMap Constraint.check?
      written? := ((constraints.filterMap Constraint.default?).getLast?.map Prod.snd).or
        d.written? } := by
  rw [← foldl_written]
  induction constraints generalizing d with
  | nil => simp
  | cons x constraints ih =>
    rw [List.foldl_cons, ih]
    cases said : x.check? <;> simp [add, said]

/-- All is taken in unless the key is declared a second time, and the key is known in any case. -/
theorem addAll_eq (key? : Option String) (d : Draft) (constraints : List Constraint) :
    d.addAll key? constraints =
      (if hasSecondKey key? constraints then .error (.duplicatePrimaryKey d.column.name)
        else .ok (constraints.foldl add d),
      if .primaryKey ∈ constraints then key?.or (some d.column.name) else key?) := by
  fun_induction addAll key? d constraints with
  | case1 key? d => simp [hasSecondKey]
  | case2 key? d rest told =>
    obtain ⟨k, rfl⟩ := Option.isSome_iff_exists.1 told
    simp [hasSecondKey]
  | case3 key? d rest untold ih =>
    obtain rfl : key? = none := by simpa using untold
    have name : (d.add .primaryKey).column.name = d.column.name := rfl
    simp [ih, name, hasSecondKey]
  | case4 key? d x rest other ih =>
    have name : (d.add x).column.name = d.column.name := name_constrain d.column x
    have second : hasSecondKey key? (x :: rest) = hasSecondKey key? rest := by
      simp [hasSecondKey, other, Ne.symm other]
    simp [ih, name, second, Ne.symm other]

end Draft

/-- A column from its entry, constraint by constraint, in a statement of `total` bytes; and the
column that declared the primary key so far, which is known after a fault as well. -/
def resolveInOrder (total : Nat) (inlineKey? : Option String) (e : ColumnEntry) :
    Except DdlError Column × Option String :=
  match ResolvedType.ofName e.typeName e.arguments with
  | .error fault => (.error (.ofTypeFault (total - e.bytesLeft) fault), inlineKey?)
  | .ok resolved =>
    let start : Draft := { column :=
      { name := e.name, type := resolved.type, isAutoIncrement := resolved.autoIncrement } }
    let (outcome, key?) := start.addAll inlineKey? e.constraints
    (outcome.map (·.finish resolved.holdsDates), key?)

/-- A column that declares the key without fault is the first one to do so. -/
theorem eq_none_of_hasSecondKey {inlineKey? : Option String} {constraints : List Constraint}
    (first : hasSecondKey inlineKey? constraints = false) (key : .primaryKey ∈ constraints) :
    inlineKey? = none := by
  cases inlineKey? with
  | none => rfl
  | some name => simp [hasSecondKey, key, List.count_pos_iff.2 key] at first

/-- Taken in one after the other, the constraints make the column of the entry. -/
theorem resolveColumn_eq_map (total : Nat) (inlineKey? : Option String) (e : ColumnEntry) :
    resolveColumn total inlineKey? e =
      (resolveInOrder total inlineKey? e).1.map fun column =>
        (column, (resolveInOrder total inlineKey? e).2) := by
  rw [resolveColumn, resolveInOrder]
  cases ResolvedType.ofName e.typeName e.arguments with
  | error fault => rfl
  | ok resolved =>
    simp only [Draft.addAll_eq, Draft.foldl_add, promotedType_eq, writtenDefault?_eq_map]
    cases second : hasSecondKey inlineKey? e.constraints with
    | true => rfl
    | false =>
      by_cases key : .primaryKey ∈ e.constraints
      · have first : inlineKey? = none := eq_none_of_hasSecondKey second key
        simp [foldl_constrain_eq, Draft.finish, Except.map, key, first]
      · simp [foldl_constrain_eq, Draft.finish, Except.map, key]

/-! ### In any order -/

/-- Lists of constraints that say the same of a column.  Whether a key may be empty is not asked. -/
structure SayTheSame (left right : List Constraint) : Prop where
  mem : ∀ x, x ∈ left ↔ x ∈ right
  keys : left.count .primaryKey = right.count .primaryKey
  defaults : left.filterMap Constraint.default? = right.filterMap Constraint.default?
  nullable : .primaryKey ∉ left →
    left.filterMap Constraint.nullable? = right.filterMap Constraint.nullable?

section Same
variable {left right : List Constraint}

theorem SayTheSame.hasSecondKey_eq (same : SayTheSame left right) (inlineKey? : Option String) :
    hasSecondKey inlineKey? left = hasSecondKey inlineKey? right := by
  have contains : left.contains .primaryKey = right.contains .primaryKey := by
    rw [Bool.eq_iff_iff, List.contains_iff_mem, List.contains_iff_mem]
    exact same.mem _
  rw [hasSecondKey, hasSecondKey, same.keys, contains]

theorem SayTheSame.any_check_eq (same : SayTheSame left right) (p : List Char → Bool) :
    (left.filterMap Constraint.check?).any p = (right.filterMap Constraint.check?).any p := by
  rw [Bool.eq_iff_iff, any_check_iff, any_check_iff]
  simp only [same.mem]

/-- Only a key may have been told in two ways whether it may be empty. -/
theorem SayTheSame.nullable_foldl (same : SayTheSame left right) (c : Column) :
    ((left.foldl constrain c).nullable && !(left.foldl constrain c).isPrimaryKey) =
      ((right.foldl constrain c).nullable && !(right.foldl constrain c).isPrimaryKey) := by
  by_cases key : .primaryKey ∈ left
  · have key' : .primaryKey ∈ right := (same.mem _).1 key
    simp [foldl_constrain_eq, key, key']
  · simp [foldl_constrain_eq, same.mem, same.nullable key]

theorem SayTheSame.finish_foldl (same : SayTheSame left right) (d : Draft) (holdsDates : Bool) :
    (left.foldl Draft.add d).finish holdsDates = (right.foldl Draft.add d).finish holdsDates := by
  rw [Draft.foldl_add, Draft.foldl_add]
  simp only [Draft.finish, same.nullable_foldl]
  simp only [foldl_constrain_eq, List.any_append, same.any_check_eq, same.defaults, same.mem]

theorem SayTheSame.resolveInOrder_eq (same : SayTheSame left right) (total : Nat)
    (inlineKey? : Option String) (e : ColumnEntry) :
    resolveInOrder total inlineKey? { e with constraints := left } =
      resolveInOrder total inlineKey? { e with constraints := right } := by
  rw [resolveInOrder, resolveInOrder]
  cases ResolvedType.ofName e.typeName e.arguments with
  | error fault => rfl
  | ok resolved =>
    simp only [Draft.addAll_eq, same.hasSecondKey_eq, same.mem]
    split
    · rfl
    · simp only [Except.map, same.finish_foldl]

theorem SayTheSame.resolveColumn_eq (same : SayTheSame left right) (total : Nat)
    (inlineKey? : Option String) (e : ColumnEntry) :
    resolveColumn total inlineKey? { e with constraints := left } =
      resolveColumn total inlineKey? { e with constraints := right } := by
  rw [resolveColumn_eq_map, resolveColumn_eq_map, same.resolveInOrder_eq]

/-- What is said once, or always alike, is said alike in every order. -/
theorem filterMap_eq_of_perm {α : Type} {says? : Constraint → Option α} (order : left.Perm right)
    (alike : ∀ a ∈ left.filterMap says?, ∀ b ∈ left.filterMap says?, a = b) :
    left.filterMap says? = right.filterMap says? := by
  have order' := order.filterMap says?
  have anyhow (l : List α) : l.Pairwise fun _ _ => True :=
    List.pairwise_of_forall fun _ _ => trivial
  exact List.Perm.eq_of_pairwise (fun a b ha hb _ _ => alike a ha b (order'.mem_iff.2 hb))
    (anyhow _) (anyhow _) order'

/-- Constraints that do not contradict each other: they give one default at most, and only of a key
do they say both that it may be empty and that it may not. -/
structure IsCoherent (constraints : List Constraint) : Prop where
  default : (constraints.filterMap Constraint.default?).length ≤ 1
  nullable : .null ∈ constraints → .notNull ∈ constraints → .primaryKey ∈ constraints

theorem IsCoherent.nullable_alike (coherent : IsCoherent left) (other : .primaryKey ∉ left) :
    ∀ a ∈ left.filterMap Constraint.nullable?, ∀ b ∈ left.filterMap Constraint.nullable?,
      a = b := by
  simp only [List.mem_filterMap, Constraint.nullable?_eq_some_iff]
  have either (may : .null ∈ left) (must : .notNull ∈ left) : False :=
    other (coherent.nullable may must)
  rintro a ⟨_, ha, rfl⟩ b ⟨_, hb, rfl⟩
  cases a <;> cases b
  · rfl
  · exact (either hb ha).elim
  · exact (either ha hb).elim
  · rfl

theorem IsCoherent.default_alike (coherent : IsCoherent left) :
    ∀ a ∈ left.filterMap Constraint.default?, ∀ b ∈ left.filterMap Constraint.default?, a = b := by
  have one := coherent.default
  cases said : left.filterMap Constraint.default? with
  | nil => simp
  | cons a rest =>
    obtain rfl : rest = [] := by simpa [said] using one
    simp

theorem IsCoherent.sayTheSame (coherent : IsCoherent left) (order : left.Perm right) :
    SayTheSame left right where
  mem _ := order.mem_iff
  keys := order.count_eq _
  defaults := filterMap_eq_of_perm order coherent.default_alike
  nullable other := filterMap_eq_of_perm order (coherent.nullable_alike other)

theorem IsCoherent.of_perm (coherent : IsCoherent left) (order : left.Perm right) :
    IsCoherent right where
  default := (order.filterMap _).length_eq ▸ coherent.default
  nullable := by simpa only [order.mem_iff] using coherent.nullable

end Same

/-- Constraints that do not contradict each other are taken in alike in every order, whatever column
declared the key before: they make the same column, or end in the same fault, and leave the same
column as the one that declared the key. -/
theorem constraints_in_any_order (total : Nat) (inlineKey? : Option String) {e : ColumnEntry}
    (coherent : IsCoherent e.constraints) {first second : List Constraint}
    (hf : first.Perm e.constraints) (hs : second.Perm e.constraints) :
    resolveColumn total inlineKey? { e with constraints := first } =
        resolveColumn total inlineKey? { e with constraints := second } ∧
      resolveInOrder total inlineKey? { e with constraints := first } =
        resolveInOrder total inlineKey? { e with constraints := second } := by
  have order : first.Perm second := hf.trans hs.symm
  have same : SayTheSame first second := (coherent.of_perm hf.symm).sayTheSame order
  exact ⟨same.resolveColumn_eq total inlineKey? e, same.resolveInOrder_eq total inlineKey? e⟩

/-- A key that may be empty and may not, with a default and a check, read backwards: it becomes a
column of truth values, unless another column is the key. -/
theorem constraints_in_any_order_active :
    let e : ColumnEntry := ⟨"active", "INT", [], [.null, .default (.number "1") ['1'],
      .check "active IN (0, 1)".toList, .primaryKey, .notNull, .unique], 60⟩
    let backwards : ColumnEntry := { e with constraints := e.constraints.reverse }
    let active : Column :=
      { name := "active", type := .boolean, nullable := false, default? := some (.boolean true)
        isPrimaryKey := true, isUnique := true }
    IsCoherent e.constraints ∧ e.constraints.reverse.Perm e.constraints ∧
      resolveColumn 80 none backwards = .ok (active, some "active") ∧
      resolveInOrder 80 none backwards = (.ok active, some "active") ∧
      resolveInOrder 80 (some "id") backwards =
        (.error (.duplicatePrimaryKey "active"), some "id") := by
  intro e backwards active
  have coherent : IsCoherent e.constraints := ⟨by decide, by decide⟩
  have order : e.constraints.reverse.Perm e.constraints := e.constraints.reverse_perm
  obtain ⟨column, run⟩ := constraints_in_any_order 80 none coherent order (.refl _)
  obtain ⟨-, second⟩ := constraints_in_any_order 80 (some "id") coherent order (.refl _)
  exact ⟨coherent, order, column.trans (by decide +kernel), run.trans (by decide +kernel),
    second.trans (by decide +kernel)⟩

/-- Where constraints contradict each other, the last one counts. -/
example :
    let read (constraints : List Constraint) := resolveColumn 0 none ⟨"a", "INT", [], constraints, 0⟩
    read [.null, .notNull] ≠ read [.notNull, .null] ∧
      read [.default .null [], .default (.boolean true) []] ≠
        read [.default (.boolean true) [], .default .null []] := by
  decide +kernel

/-! ### Tables -/

/-- An entry that is the same but for the order of its constraints. -/
inductive Entry.IsReordered : Entry → Entry → Prop
  | refl (x : Entry) : IsReordered x x
  | column {e : ColumnEntry} {order : List Constraint} (coherent : IsCoherent e.constraints)
      (perm : e.constraints.Perm order) :
      IsReordered (.column e) (.column { e with constraints := order })

theorem gather_reordered {total : Nat} {entries others : List Entry}
    (each : List.Forall₂ Entry.IsReordered entries others) (g : Gathered) :
    gather total g entries = gather total g others := by
  induction each generalizing g with
  | nil => rfl
  | @cons x _ _ _ one _ ih =>
    cases one with
    | refl => cases x <;> simp only [gather, ih]
    | @column e order coherent perm =>
      have same : resolveColumn total g.inlineKey? e = _ :=
        (coherent.sayTheSame perm).resolveColumn_eq total g.inlineKey? e
      simp only [gather, same, ih]

/-- A table does not depend on the order of the constraints in its columns. -/
theorem resolve_reordered (total : Nat) (table : String) {entries others : List Entry}
    (each : List.Forall₂ Entry.IsReordered entries others) :
    resolve total table entries = resolve total table others := by
  rw [resolve, resolve, gather_reordered each]

end TableLoad.Ddl
