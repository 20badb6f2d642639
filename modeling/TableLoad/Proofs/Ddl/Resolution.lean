import TableLoad.Proofs.Ddl.Constrained
import TableLoad.Proofs.Ddl.TruthChecks

/-! # Columns from their entries

The constraints of a column are flags that are set, in whatever order, and a default.  An entry that
was read from the line of a column gives the column back.
-/
namespace TableLoad.Ddl
open Text Sql

/-- The flags that constraints set do not depend on their order. -/
theorem foldl_constrain (constraints : List Constraint) (c : Column) :
    (constraints.foldl constrain c).name = c.name ∧
    (constraints.foldl constrain c).isPrimaryKey =
      (c.isPrimaryKey || decide (.primaryKey ∈ constraints)) ∧
    (constraints.foldl constrain c).isAutoIncrement =
      (c.isAutoIncrement || decide (.autoIncrement ∈ constraints)) ∧
    (constraints.foldl constrain c).isUnique =
      (c.isUnique || decide (.unique ∈ constraints)) := by
  rw [foldl_constrain_eq]
  exact ⟨rfl, rfl, rfl, rfl⟩

/-- A column stays empty where nothing forbids it. -/
theorem nullable_foldl_constrain {constraints : List Constraint} (h : .null ∉ constraints)
    (c : Column) : (constraints.foldl constrain c).nullable =
      (c.nullable && !decide (.notNull ∈ constraints)) := by
  induction constraints generalizing c with
  | nil => simp
  | cons x constraints ih =>
    rw [List.mem_cons, not_or] at h
    rw [List.foldl_cons, ih h.2]
    cases x <;> simp_all [constrain]

def columnConstraints (d : Dialect) (composite : Bool) (c : Column) : List Constraint :=
  (columnParts d composite c).map Prod.snd

section Column
variable {d : Dialect} {composite : Bool} {c : Column}

theorem mem_columnConstraints {x : Constraint} : x ∈ columnConstraints d composite c ↔
    (c.isAutoIncrement = true ∧ d ≠ .postgresql) ∧ x = .autoIncrement ∨
    (c.nullable = false ∧ isMarked composite c = false) ∧ x = .notNull ∨
    x ∈ (defaultPart d c).map Prod.snd ∨
    (c.isUnique = true ∧ isMarked composite c = false) ∧ x = .unique ∨
    isMarked composite c = true ∧ x = .primaryKey ∨
    (c.type = .boolean ∧ d = .sqlite) ∧ x = .check (truthCode d c) := by
  have counting : (c.isAutoIncrement = true ∧ d = .sqlserver) ∧ x = .autoIncrement ∨
      x ∈ (countingPart d c).map Prod.snd ↔
        (c.isAutoIncrement = true ∧ d ≠ .postgresql) ∧ x = .autoIncrement := by
    rw [countingPart]
    cases c.isAutoIncrement <;> cases d <;> simp [Dialect.autoIncrementKeyword?]
  rw [← counting, columnConstraints, columnParts]
  simp only [List.map_append, List.mem_append, apply_ite (List.map Prod.snd), List.map_cons,
    List.map_nil, List.mem_ite_nil_right, List.mem_singleton]
  simp only [or_assoc, or_left_comm, or_comm]

theorem isDefault_of_mem_defaultPart {x : Constraint} (h : x ∈ (defaultPart d c).map Prod.snd) :
    IsDefault x := by
  obtain ⟨part, hp, rfl⟩ := List.mem_map.1 h
  rw [defaultPart] at hp
  split at hp
  · split at hp
    · simp at hp
    · rw [List.mem_singleton.1 hp]
      trivial
  · simp at hp

theorem filterMap_default?_columnConstraints :
    (columnConstraints d composite c).filterMap Constraint.default? =
      if c.isAutoIncrement then []
      else (c.default?.map fun value =>
        (readDefault d value, (defaultCode d c.type value).toList)).toList := by
  have single (p : Prop) [Decidable p] (part : List Char × Constraint)
      (other : part.2.default? = none) :
      (if p then [part] else []).filterMap (fun part => part.2.default?) = [] := by
    split <;> simp [other]
  have counting : (countingPart d c).filterMap (fun part => part.2.default?) = [] := by
    rw [countingPart]
    cases c.isAutoIncrement <;> cases d <;> rfl
  have default : (defaultPart d c).filterMap (fun part => part.2.default?) =
      if c.isAutoIncrement then []
      else (c.default?.map fun value =>
        (readDefault d value, (defaultCode d c.type value).toList)).toList := by
    rw [defaultPart]
    cases c.default? <;> cases c.isAutoIncrement <;> rfl
  rw [columnConstraints, List.filterMap_map, columnParts]
  change List.filterMap (fun part : List Char × Constraint => part.2.default?) _ = _
  simp only [List.filterMap_append, default, counting]
  rw [single _ _ rfl, single _ _ rfl, single _ _ rfl, single _ _ rfl, single _ _ rfl]
  exact List.append_nil _

end Column

/-- A column as its line gives it: the key of several columns is declared elsewhere, a key is never
empty and says nothing of uniqueness, and the database fills an auto-increment column. -/
def readColumn (composite : Bool) (c : Column) : Column :=
  { c with
    nullable := c.nullable && !isMarked composite c
    isPrimaryKey := isMarked composite c
    isUnique := c.isUnique && !isMarked composite c
    default? := if c.isAutoIncrement then none else c.default? }

section Column
variable {d : Dialect} {composite : Bool} {c : Column}

theorem primaryKey_mem_iff :
    .primaryKey ∈ columnConstraints d composite c ↔ isMarked composite c = true := by
  have other : .primaryKey ∉ (defaultPart d c).map Prod.snd := isDefault_of_mem_defaultPart
  simp [mem_columnConstraints, other]

theorem notNull_mem_iff : .notNull ∈ columnConstraints d composite c ↔
    c.nullable = false ∧ isMarked composite c = false := by
  have other : .notNull ∉ (defaultPart d c).map Prod.snd := isDefault_of_mem_defaultPart
  simp [mem_columnConstraints, other]

theorem unique_mem_iff : .unique ∈ columnConstraints d composite c ↔
    c.isUnique = true ∧ isMarked composite c = false := by
  have other : .unique ∉ (defaultPart d c).map Prod.snd := isDefault_of_mem_defaultPart
  simp [mem_columnConstraints, other]

theorem autoIncrement_mem_iff : .autoIncrement ∈ columnConstraints d composite c ↔
    c.isAutoIncrement = true ∧ d ≠ .postgresql := by
  have other : .autoIncrement ∉ (defaultPart d c).map Prod.snd := isDefault_of_mem_defaultPart
  simp [mem_columnConstraints, other]

theorem null_not_mem : .null ∉ columnConstraints d composite c := by
  have other : .null ∉ (defaultPart d c).map Prod.snd := isDefault_of_mem_defaultPart
  simp [mem_columnConstraints, other]

variable (d composite c) in
theorem count_primaryKey_le : (columnConstraints d composite c).count .primaryKey ≤ 1 := by
  have other : ((defaultPart d c).map Prod.snd).count .primaryKey = 0 :=
    List.count_eq_zero.2 isDefault_of_mem_defaultPart
  have counting : ((countingPart d c).map Prod.snd).count .primaryKey = 0 := by
    rw [countingPart]
    cases c.isAutoIncrement <;> cases d <;> rfl
  rw [columnConstraints, columnParts]
  simp only [List.map_append, List.count_append, other, counting, apply_ite (List.map Prod.snd),
    List.map_cons, List.map_nil]
  have single (p : Prop) [Decidable p] (x : Constraint) (hx : x ≠ .primaryKey) :
      (if p then [x] else []).count Constraint.primaryKey = 0 := by
    split <;> simp [hx]
  rw [single _ .autoIncrement (by simp), single _ .notNull (by simp), single _ .unique (by simp),
    single _ (.check (truthCode d c)) (by simp)]
  split <;> simp

theorem check_mem_iff {code : List Char} : .check code ∈ columnConstraints d composite c ↔
    (c.type = .boolean ∧ d = .sqlite) ∧ code = truthCode d c := by
  have other : .check code ∉ (defaultPart d c).map Prod.snd := isDefault_of_mem_defaultPart
  simp [mem_columnConstraints, other]

theorem any_isTruthCheck (h : IsSpelled d c) :
    ((columnConstraints d composite c).filterMap Constraint.check?).any (isTruthCheck c.name) =
      decide (c.type = .boolean ∧ d = .sqlite) := by
  rw [Bool.eq_iff_iff, decide_eq_true_eq, any_check_iff]
  simp only [check_mem_iff, and_assoc, exists_and_left, exists_eq_left]
  rw [← and_assoc, and_iff_left_iff_imp]
  rintro ⟨boolean, rfl⟩
  obtain ⟨named, lettered⟩ := h.checked boolean
  exact (isTruthCheck_truthCode_iff (isUnquoted_of_isWord named)).2
    (keepsCheck_of_isWord named lettered)

/-- Only integers with a check for truth values become truth values: what may hold dates is no
number. -/
theorem promotedType_eq_boolean_iff {resolved : ResolvedType} {name : String}
    {constraints : List Constraint} (stored : resolved.type ≠ .boolean)
    (dates : resolved.holdsDates = true → resolved.type ≠ .integer) :
    promotedType resolved name constraints = .boolean ↔ resolved.type = .integer ∧
      ∃ code, .check code ∈ constraints ∧ isTruthCheck name code = true := by
  rw [promotedType_eq, ← any_check_iff]
  split
  · rename_i clock
    have other : resolved.type ≠ .integer := dates (Bool.and_eq_true_iff.1 clock).1
    simp [other]
  · split
    · rename_i truth
      obtain ⟨integer, check⟩ := Bool.and_eq_true_iff.1 truth
      exact iff_of_true rfl ⟨of_decide_eq_true integer, check⟩
    · rename_i truth
      refine iff_of_false stored ?_
      rintro ⟨integer, check⟩
      exact truth (Bool.and_eq_true_iff.2 ⟨decide_eq_true integer, check⟩)

theorem default?_columnConstraints {start : Column} (empty : start.default? = none) :
    ((columnConstraints d composite c).foldl constrain start).default? =
      if c.isAutoIncrement then none else c.default?.map (readDefault d) := by
  rw [foldl_constrain_eq, filterMap_default?_columnConstraints, empty]
  cases c.isAutoIncrement <;> cases c.default? <;> rfl

theorem writtenDefault?_columnConstraints :
    writtenDefault? (columnConstraints d composite c) =
      if c.isAutoIncrement then none
      else c.default?.map fun value => (defaultCode d c.type value).toList := by
  rw [writtenDefault?_eq_map, filterMap_default?_columnConstraints]
  cases c.isAutoIncrement <;> cases c.default? <;> rfl

theorem no_textClock (h : IsSpelled d c) : ((columnReadType d c).holdsDates &&
    (writtenDefault? (columnConstraints d composite c)).any isTextClock) = false := by
  rw [Bool.and_eq_false_iff, writtenDefault?_columnConstraints]
  by_cases ht : c.type = .text none
  · right
    have filled : c.isAutoIncrement = false := by
      rw [← Bool.not_eq_true]
      intro counted
      exact absurd ((h.counted counted).symm.trans ht) (by simp)
    rw [filled]
    cases hd : c.default? with
    | none => rfl
    | some value => exact (h.default value hd).clock ht
  · left
    rw [columnReadType]
    split
    · rfl
    · simp [readType, ht]

theorem promotedType_columnConstraints (h : IsSpelled d c) :
    promotedType (columnReadType d c) c.name (columnConstraints d composite c) = c.type := by
  have shape : promotedType (columnReadType d c) c.name (columnConstraints d composite c) =
      if (columnReadType d c).type = .integer ∧ c.type = .boolean ∧ d = .sqlite then .boolean
      else (columnReadType d c).type := by
    rw [promotedType_eq, no_textClock h, any_isTruthCheck h]
    simp
  rw [shape, columnReadType]
  split
  · rename_i counted
    simp [counted.2, h.counted counted.1]
  · by_cases truth : c.type = .boolean ∧ d = .sqlite
    · simp [readType, truth]
    · have kept : (readType d c.type).type = c.type := if_neg fun he => truth ⟨he.2, he.1⟩
      simp [truth, kept]

theorem hasSecondKey_columnConstraints {inlineKey? : Option String}
    (first : isMarked composite c = true → inlineKey? = none) :
    hasSecondKey inlineKey? (columnConstraints d composite c) = false := by
  have atMost := count_primaryKey_le d composite c
  rw [hasSecondKey, Bool.and_eq_false_iff]
  by_cases marked : isMarked composite c = true
  · left
    rw [first marked]
    simpa using atMost
  · right
    have other : .primaryKey ∉ columnConstraints d composite c :=
      fun hm => marked (primaryKey_mem_iff.1 hm)
    simpa using other

/-- An entry that was read from the line of a column gives the column. -/
theorem resolveColumn_run (total : Nat) {inlineKey? : Option String} (h : IsSpelled d c)
    (first : isMarked composite c = true → inlineKey? = none) {e : ColumnEntry}
    (entry : IsEntryOf d composite c e) :
    resolveColumn total inlineKey? e =
      .ok (readColumn composite c,
        if isMarked composite c then some c.name else inlineKey?) := by
  have constraints : e.constraints = columnConstraints d composite c := entry.constraints
  obtain ⟨name, key, counting, unique⟩ := foldl_constrain (columnConstraints d composite c)
    { name := c.name, type := (columnReadType d c).type,
      isAutoIncrement := (columnReadType d c).autoIncrement }
  rw [resolveColumn, entry.type, entry.name, constraints]
  simp only [hasSecondKey_columnConstraints first, Bool.false_eq_true, if_false, name, key,
    counting, unique, nullable_foldl_constrain null_not_mem, promotedType_columnConstraints h,
    default?_columnConstraints, primaryKey_mem_iff, unique_mem_iff, notNull_mem_iff,
    autoIncrement_mem_iff]
  have nullable : (true && !decide (c.nullable = false ∧ isMarked composite c = false) &&
      !(false || decide (isMarked composite c = true))) =
        (c.nullable && !isMarked composite c) := by
    cases isMarked composite c <;> cases c.nullable <;> rfl
  have counted : ((columnReadType d c).autoIncrement ||
      decide (c.isAutoIncrement = true ∧ d ≠ .postgresql)) = c.isAutoIncrement := by
    rw [columnReadType]
    cases c.isAutoIncrement <;> cases d <;> rfl
  have default : (if c.type = .boolean then Option.map truthDefault
      (if c.isAutoIncrement = true then none else Option.map (readDefault d) c.default?)
      else if c.isAutoIncrement = true then none else Option.map (readDefault d) c.default?) =
      if c.isAutoIncrement then none else c.default? := by
    cases hd : c.default? with
    | none => simp
    | some value =>
      have same := (h.default value hd).same
      cases c.isAutoIncrement with
      | true => simp
      | false =>
        simp only [Bool.false_eq_true, if_false, Option.map_some]
        rw [← apply_ite some, same]
  rw [nullable, counted, default]
  simp [readColumn]

end Column

end TableLoad.Ddl
