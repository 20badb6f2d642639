import TableLoad.Proofs.Ddl.Constraints

/-! # Reading columns back

The line of a column is read back to its end: the name, the type and the constraints; and these
give the column back, but for a key that is declared elsewhere and for what a line leaves out.
-/
namespace TableLoad.Ddl
open Text Sql

def isMarked (composite : Bool) (c : Column) : Bool := c.isPrimaryKey && !composite

/-- The type of a column without the constraints that some dialects count to it. -/
def columnType (d : Dialect) (c : Column) : String :=
  if c.isAutoIncrement ∧ d = .postgresql then "SERIAL" else d.typeText c.type

def truthCode (d : Dialect) (c : Column) : List Char :=
  (d.quoteName c.name).toList ++ " IN (0, 1)".toList

def defaultPart (d : Dialect) (c : Column) : List (List Char × Constraint) :=
  match c.default? with
  | some value =>
    if c.isAutoIncrement then []
    else
      let code := (defaultCode d c.type value).toList
      [("DEFAULT ".toList ++ code, .default (readDefault d value) code)]
  | none => []

def countingPart (d : Dialect) (c : Column) : List (List Char × Constraint) :=
  if c.isAutoIncrement then
    d.autoIncrementKeyword?.toList.map fun word => (word.toList, .autoIncrement)
  else []

def columnParts (d : Dialect) (composite : Bool) (c : Column) : List (List Char × Constraint) :=
  (if c.isAutoIncrement ∧ d = .sqlserver then [("IDENTITY(1,1)".toList, .autoIncrement)] else []) ++
  ((if c.nullable = false ∧ isMarked composite c = false then [("NOT NULL".toList, .notNull)]
    else []) ++
  (defaultPart d c ++
  ((if c.isUnique ∧ isMarked composite c = false then [("UNIQUE".toList, .unique)] else []) ++
  ((if isMarked composite c then [("PRIMARY KEY".toList, .primaryKey)] else []) ++
  (countingPart d c ++
  (if c.type = .boolean ∧ d = .sqlite then
    [("CHECK (".toList ++ (truthCode d c ++ [')']), .check (truthCode d c))]
  else []))))))

def spaced (part : List Char × Constraint) : List Char := ' ' :: part.1

theorem toList_columnText (d : Dialect) (composite : Bool) (c : Column) :
    (d.columnText composite c).toList = (d.quoteName c.name).toList ++
      ' ' :: ((columnType d c).toList ++ (columnParts d composite c).flatMap spaced) := by
  have type : (if c.isAutoIncrement then d.autoIncrementType c.type else d.typeText c.type).toList =
      (columnType d c).toList ++ (if c.isAutoIncrement ∧ d = .sqlserver then
        [("IDENTITY(1,1)".toList, Constraint.autoIncrement)] else []).flatMap spaced := by
    cases ha : c.isAutoIncrement with
    | false => simp [columnType, ha]
    | true =>
      cases d with
      | sqlserver =>
        rw [columnType]
        simp [ha, Dialect.autoIncrementType, spaced]
      | _ => simp [columnType, ha, Dialect.autoIncrementType]
  have notNull : (if !c.nullable && !isMarked composite c then " NOT NULL" else "").toList =
      (if c.nullable = false ∧ isMarked composite c = false then
        [("NOT NULL".toList, Constraint.notNull)] else []).flatMap spaced := by
    cases c.nullable <;> cases isMarked composite c <;> rfl
  have default : (d.defaultClause c).toList = (defaultPart d c).flatMap spaced := by
    rw [Dialect.defaultClause, defaultPart]
    cases hd : c.default? with
    | none => rfl
    | some value =>
      cases ha : c.isAutoIncrement with
      | true => rfl
      | false =>
        change (" DEFAULT " ++ defaultCode d c.type value).toList = _
        rw [String.toList_append]
        simp [spaced]
  have unique : (if c.isUnique && !isMarked composite c then " UNIQUE" else "").toList =
      (if c.isUnique ∧ isMarked composite c = false then
        [("UNIQUE".toList, Constraint.unique)] else []).flatMap spaced := by
    cases c.isUnique <;> cases isMarked composite c <;> rfl
  have key : (if isMarked composite c then " PRIMARY KEY" else "").toList =
      (if isMarked composite c then
        [("PRIMARY KEY".toList, Constraint.primaryKey)] else []).flatMap spaced := by
    cases isMarked composite c <;> rfl
  have counting : (if c.isAutoIncrement then
      (d.autoIncrementKeyword?.map (" " ++ ·)).getD "" else "").toList =
      (countingPart d c).flatMap spaced := by
    rw [countingPart]
    cases c.isAutoIncrement <;> cases d <;> rfl
  have check : (if c.type = .boolean then
      ((d.truthCheck? (d.quoteName c.name)).map (" " ++ ·)).getD "" else "").toList =
      (if c.type = .boolean ∧ d = .sqlite then
        [("CHECK (".toList ++ (truthCode d c ++ [')']), Constraint.check (truthCode d c))]
      else []).flatMap spaced := by
    by_cases hb : c.type = .boolean
    · cases d with
      | sqlite =>
        simp [hb, Dialect.truthCheck?, spaced, truthCode]
      | _ => simp [hb, Dialect.truthCheck?]
    · simp [hb]
  rw [Dialect.columnText, columnParts]
  simp only [String.toList_append, List.flatMap_append, List.append_assoc]
  rw [← isMarked, type, notNull, default, unique, key, counting, check]
  simp only [List.append_assoc]
  rfl

/-- A column that a dialect can spell: a name without its closing mark, which is a word where a
check repeats it, a default that reads back, and a type that counts up if the column does. -/
structure IsSpelled (d : Dialect) (c : Column) : Prop where
  named : c.name ≠ "" ∧ d.nameMarks.2 ∉ c.name.toList
  checked : c.type = .boolean → IsWord c.name ∧ capitalSigma ∉ c.name.toList
  default : ∀ value, c.default? = some value → DefaultRun d c.type value
  counted : c.isAutoIncrement = true → c.type = .integer

/-- A name in quotes is closed if it has no closing mark; brackets are not counted as quotes. -/
theorem closed_quoteName_of_free {d : Dialect} (quotes : d ≠ .sqlserver) {shown : String}
    (free : d.nameMarks.2 ∉ shown.toList) : Closed (d.quoteName shown).toList := by
  rw [toList_quoteName_of_free d free]
  cases d with
  | sqlserver => exact absurd rfl quotes
  | _ => exact .quoted (by decide) free .nil

theorem closed_quoteName (d : Dialect) {shown : String} (h : IsWord shown) :
    Closed (d.quoteName shown).toList := by
  by_cases brackets : d = .sqlserver
  · subst brackets
    have inert : Closed shown.toList := .of_inert fun c hc => isInert_of_isWordChar (h.2 c hc)
    rw [toList_quoteName .sqlserver h]
    exact .inert (by decide) (inert.append (.inert (by decide) .nil))
  · exact closed_quoteName_of_free brackets (h.mark_not_mem d)

theorem closed_truthCode {d : Dialect} {c : Column} (h : Closed (d.quoteName c.name).toList) :
    Closed (truthCode d c) := by
  have numbers : Closed "0, 1".toList := .of_inert (by decide)
  have list : Closed " IN (0, 1)".toList :=
    (Closed.of_inert (s := " IN ".toList) (by decide)).append (.group numbers .nil)
  exact h.append list

section Parts
variable {d : Dialect} {composite : Bool} {c : Column} {part : List Char × Constraint}

theorem mem_defaultPart : part ∈ defaultPart d c ↔
    c.isAutoIncrement = false ∧ ∃ value, c.default? = some value ∧
      part = ("DEFAULT ".toList ++ (defaultCode d c.type value).toList,
        .default (readDefault d value) (defaultCode d c.type value).toList) := by
  rw [defaultPart]
  cases c.default? <;> cases c.isAutoIncrement <;> simp

/-- Each part but the default is read as its constraint. -/
theorem mem_defaultPart_or_readsConstraint (checked : c.type = .boolean → Closed (truthCode d c))
    (hp : part ∈ columnParts d composite c) :
    part ∈ defaultPart d c ∨ ReadsConstraint part.1 part.2 := by
  simp only [columnParts, List.mem_append, List.mem_ite_nil_right, List.mem_singleton] at hp
  rcases hp with ⟨-, rfl⟩ | ⟨-, rfl⟩ | hp | ⟨-, rfl⟩ | ⟨-, rfl⟩ | hp | ⟨truth, rfl⟩
  · exact .inr readsConstraint_identity
  · exact .inr readsConstraint_notNull
  · exact .inl hp
  · exact .inr readsConstraint_unique
  · exact .inr readsConstraint_primaryKey
  · right
    rw [countingPart] at hp
    split at hp
    · cases d with
      | mysql =>
        rw [List.mem_singleton.1 hp]
        exact readsConstraint_autoIncrement (.inl rfl)
      | sqlite =>
        rw [List.mem_singleton.1 hp]
        exact readsConstraint_autoIncrement (.inr rfl)
      | _ => cases hp
    · simp at hp
  · exact .inr (readsConstraint_check (checked truth.1))

theorem readsConstraint_part (h : IsSpelled d c) (hp : part ∈ columnParts d composite c) :
    ReadsConstraint part.1 part.2 := by
  have checked (boolean : c.type = .boolean) : Closed (truthCode d c) :=
    closed_truthCode (closed_quoteName d (h.checked boolean).1)
  rcases mem_defaultPart_or_readsConstraint checked hp with default | reads
  · obtain ⟨-, value, hv, rfl⟩ := mem_defaultPart.1 default
    exact readsConstraint_default (h.default value hv).run
  · exact reads

end Parts

/-- The type of a column of a table is read back, or as one that counts up. -/
def columnReadType (d : Dialect) (c : Column) : ResolvedType :=
  if c.isAutoIncrement ∧ d = .postgresql then { type := .integer, autoIncrement := true }
  else readType d c.type

theorem exists_columnTypeRun (d : Dialect) (c : Column) : ∃ word tail args,
    TypeRun (columnType d c).toList (columnReadType d c) word tail args := by
  rw [columnType, columnReadType]
  split
  · exact ⟨_, _, _, typeRun_word (by decide) (by decide) (by decide)⟩
  · exact exists_typeRun d c.type

section Lines
variable {d : Dialect} {composite : Bool} {c : Column} {rest : List Char}
  {same : List Char × Constraint → Constraint → Prop}

/-- What stands behind the type is read constraint by constraint if each of them is. -/
theorem constraints_run_of
    (reads : ∀ part ∈ columnParts d composite c, ReadsKind part.1 (same part))
    (last : EndsPart rest) (stop : (do gap; columnConstraint : Scan Constraint) rest = none) :
    EndsPart ((columnParts d composite c).flatMap spaced ++ rest) ∧
    ∃ values, List.Forall₂ same (columnParts d composite c) values ∧
      Scan.many (do gap; columnConstraint)
        ((columnParts d composite c).flatMap spaced ++ rest) = some (values, rest) := by
  have follow : ∀ part ∈ columnParts d composite c, ∀ t, EndsPart (spaced part ++ t) := by
    intro part hp t
    obtain ⟨opening, ho, u, hu⟩ := (reads part hp).opening
    rw [spaced, hu, List.cons_append, List.append_assoc]
    exact .part ho _
  constructor
  · cases hp : columnParts d composite c with
    | nil => exact last
    | cons part parts =>
      rw [List.flatMap_cons, List.append_assoc]
      exact follow part (hp ▸ List.mem_cons_self) _
  · obtain ⟨values, each, read⟩ := Scan.repeated_flatMap spaced EndsPart same
      (columnParts d composite c) (p := do gap; columnConstraint)
      (fun part hp t ht => by
        obtain ⟨x, own, run⟩ := (reads part hp).run t ht
        obtain ⟨opening, ho, u, hu⟩ := (reads part hp).opening
        have token : AtToken (part.1 ++ t) := by
          rw [hu, List.append_assoc]
          fin_cases ho <;> rfl
        exact ⟨x, own, by rw [spaced, List.cons_append, Scan.bind_run token.gap_space, run]⟩)
      (fun part _ => by simp [spaced]) follow last stop
    exact ⟨values, each, by rw [Scan.many, read]⟩

theorem columnEntry_run_of (named : c.name ≠ "" ∧ d.nameMarks.2 ∉ c.name.toList)
    (reads : ∀ part ∈ columnParts d composite c, ReadsKind part.1 (same part))
    (last : EndsPart rest) (stop : (do gap; columnConstraint : Scan Constraint) rest = none) :
    ∃ e : ColumnEntry, e.name = c.name ∧
      ResolvedType.ofName e.typeName e.arguments = .ok (columnReadType d c) ∧
      List.Forall₂ same (columnParts d composite c) e.constraints ∧
        columnEntry ((d.columnText composite c).toList ++ rest) = some (e, rest) := by
  obtain ⟨shown, tail, args, type⟩ := exists_columnTypeRun d c
  obtain ⟨follow, values, each, constraints⟩ := constraints_run_of reads last stop
  obtain ⟨second, mid, found, readSecond, readArgs, equal⟩ := type.run _ follow
  have zone : Scan.optional (do
      gap
      oneOf ["WITHOUT", "WITH"]
      gap
      phrase ["TIME", "ZONE"]) ((columnParts d composite c).flatMap spaced ++ rest) =
      some (none, (columnParts d composite c).flatMap spaced ++ rest) := by
    refine Scan.optional_refused (follow.refused rfl (fun _ => rfl) (fun _ => rfl) ?_)
    intro opening ho t
    fin_cases ho <;> rfl
  have token (t : List Char) : AtToken (shown ++ t) := by
    obtain ⟨first, more, rfl⟩ := List.exists_cons_of_ne_nil type.filled
    exact atToken_of_isWordChar (type.all first List.mem_cons_self) _
  refine ⟨⟨c.name, String.ofList shown, args, values,
    byteLength ((d.columnText composite c).toList ++ rest)⟩, rfl, type.resolves, each, ?_⟩
  rw [columnEntry]
  rw [toList_columnText, type.text, List.append_assoc,
    Scan.bind_run (name_run_of_free d named.2 named.1 _), List.cons_append,
    List.append_assoc, List.append_assoc, Scan.bind_run (token _).gap_space,
    Scan.bind_run (word_run type.filled type.all (type.ends _ follow)), Scan.bind_run readSecond,
    Scan.bind_run readArgs, Scan.bind_run zone, Scan.bind_run constraints, equal]
  rfl

end Lines

structure IsEntryOf (d : Dialect) (composite : Bool) (c : Column) (e : ColumnEntry) : Prop where
  name : e.name = c.name
  type : ResolvedType.ofName e.typeName e.arguments = .ok (columnReadType d c)
  constraints : e.constraints = (columnParts d composite c).map Prod.snd

theorem columnEntry_run (d : Dialect) (composite : Bool) {c : Column} (h : IsSpelled d c)
    {rest : List Char} (last : EndsPart rest)
    (stop : (do gap; columnConstraint : Scan Constraint) rest = none) :
    ∃ e, IsEntryOf d composite c e ∧
      columnEntry ((d.columnText composite c).toList ++ rest) = some (e, rest) := by
  have reads : ∀ part ∈ columnParts d composite c, ReadsKind part.1 fun x => part.2 = x :=
    fun part hp => (readsConstraint_part h hp).readsKind rfl
  obtain ⟨e, name, type, each, read⟩ := columnEntry_run_of h.named reads last stop
  have constraints : (columnParts d composite c).map Prod.snd = e.constraints := by
    rw [← List.forall₂_eq_eq_eq, List.forall₂_map_left_iff]
    exact each
  exact ⟨e, ⟨name, type, constraints.symm⟩, read⟩

end TableLoad.Ddl
