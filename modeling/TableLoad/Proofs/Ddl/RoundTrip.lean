import TableLoad.Proofs.Ddl.Gathering
import TableLoad.Proofs.Ddl.Parsed

/-! # Writing a table and reading it back

The statement that any dialect writes for a table describes the same table, but for the default of
an auto-increment column and the uniqueness of the only key column, which no statement shows.
-/
namespace TableLoad.Ddl
open Text Sql

def restored (composite : Bool) (c : Column) : Column :=
  { readColumn composite c with nullable := c.nullable, isPrimaryKey := c.isPrimaryKey }

theorem autoIncrementFault?_map {f : Column → Column}
    (same : ∀ c, (f c).isAutoIncrement = c.isAutoIncrement ∧ (f c).isPrimaryKey = c.isPrimaryKey ∧
      (f c).type = c.type ∧ (f c).name = c.name) (columns : List Column) :
    autoIncrementFault? (columns.map f) = autoIncrementFault? columns := by
  have counting : (columns.map f).filter Column.isAutoIncrement =
      (columns.filter Column.isAutoIncrement).map f := by
    rw [List.filter_map]
    refine congrArg (List.map f) (List.filter_congr fun c _ => (same c).1)
  have keys : ((columns.map f).filter Column.isPrimaryKey).length =
      (columns.filter Column.isPrimaryKey).length := by
    rw [List.filter_map, List.length_map]
    exact congrArg List.length (List.filter_congr fun c _ => (same c).2.1)
  rw [autoIncrementFault?, autoIncrementFault?, counting, keys]
  cases columns.filter Column.isAutoIncrement with
  | nil => rfl
  | cons c more =>
    obtain ⟨-, key, type, name⟩ := same c
    cases more with
    | nil => simp only [List.map_cons, List.map_nil, key, type, name]
    | cons b more => simp only [List.map_cons, name, (same b).2.2.2]

/-- The restored columns make a table again. -/
theorem make_restored {s : Schema} (made : Schema.make s.table s.columns = .ok s)
    (composite : Bool) :
    Schema.make s.table (s.columns.map (restored composite)) =
      .ok ⟨s.table, s.columns.map (restored composite)⟩ := by
  obtain ⟨named, filled, distinct, counting, -⟩ := Schema.make_eq_ok_iff.1 made
  refine Schema.make_eq_ok_iff.2 ⟨named, by simpa using filled, ?_, ?_, rfl⟩
  · rw [List.map_map]
    exact distinct
  · exact (autoIncrementFault?_map (f := restored composite)
      (fun c => ⟨rfl, rfl, rfl, rfl⟩) s.columns).trans counting

theorem keyed_single {d : Dialect} {s : Schema} (h : IsSpelledTable d s)
    (single : isComposite s = false) {total : Nat} {entries : List Entry}
    (each : List.Forall₂ (IsReadFrom d (isComposite s)) (tableLines s) entries) :
    ∃ g, gather total {} entries = .ok g ∧
      g.columns = s.columns.map (readColumn (isComposite s)) ∧
        g.keyed = .ok (s.columns.map (restored (isComposite s))) := by
  rw [tableLines, single] at each
  simp only [Bool.false_eq_true, if_false, List.append_nil, List.forall₂_map_left_iff] at each
  rw [single]
  have marked : isMarked false = Column.isPrimaryKey := by
    funext c
    exact Bool.and_true _
  have few : (s.columns.filter (isMarked false)).length ≤ 1 := by
    have short : ¬ 1 < s.primaryKey.length := of_decide_eq_false single
    rw [marked]
    exact Nat.le_of_not_lt short
  have same : s.columns.map (readColumn false) = s.columns.map (restored false) := by
    refine List.map_congr_left fun c hc => ?_
    rw [restored, readColumn, marked]
    by_cases key : c.isPrimaryKey = true
    · simp [key, h.keyed c hc key]
    · simp [key]
  obtain ⟨inlineKey?, -, gathered⟩ := gather_columns total h.columns each {} (by simpa using few) []
  rw [List.append_nil] at gathered
  exact ⟨_, gathered, rfl, congrArg Except.ok same⟩

theorem name_mem_primaryKey_iff {s : Schema} (different : (s.columns.map Column.name).Nodup)
    {c : Column} (hc : c ∈ s.columns) :
    c.name ∈ s.primaryKey.map Column.name ↔ c.isPrimaryKey = true := by
  constructor
  · intro hn
    obtain ⟨k, hk, same⟩ := List.mem_map.1 hn
    obtain ⟨hk, marked⟩ := List.mem_filter.1 hk
    rwa [← List.inj_on_of_nodup_map different hk hc same]
  · intro marked
    exact List.mem_map_of_mem (List.mem_filter.2 ⟨hc, marked⟩)

/-- The key columns found by their names are the key columns of the table. -/
theorem markKeys_restored {d : Dialect} {s : Schema} (h : IsSpelledTable d s)
    (distinct : (s.columns.map Column.key).Nodup) :
    markKeys (s.columns.map (readColumn true)) (s.primaryKey.map Column.name) =
      .ok (s.columns.map (restored true)) := by
  have keys : (s.columns.map (readColumn true)).map Column.key = s.columns.map Column.key := by
    rw [List.map_map]
    rfl
  have different : (s.columns.map Column.name).Nodup := nodup_names_of_nodup_keys distinct
  rw [markKeys_eq]
  · rw [List.map_map]
    refine congrArg Except.ok (List.map_congr_left fun c hc => ?_)
    have key := name_mem_primaryKey_iff different hc
    change (if c.name ∈ s.primaryKey.map Column.name then (readColumn true c).primaryKey
      else readColumn true c) = restored true c
    by_cases marked : c.isPrimaryKey = true
    · have filled : c.nullable = false := h.keyed c hc marked
      rw [if_pos (key.2 marked)]
      simp only [restored, readColumn, Column.primaryKey, marked, filled]
    · rw [if_neg (mt key.1 marked)]
      rw [Bool.not_eq_true] at marked
      simp only [restored, readColumn, isMarked, marked, Bool.false_and, Bool.not_false,
        Bool.and_true]
  · intro name hn
    obtain ⟨k, hk, rfl⟩ := List.mem_map.1 hn
    rw [List.map_map]
    exact List.mem_map_of_mem (List.mem_filter.1 hk).1
  · rw [keys]
    exact distinct

/-- A key of several columns has an entry of its own behind those of the columns. -/
theorem exists_entries_of_composite {s : Schema} (composite : isComposite s = true) {d : Dialect}
    {entries : List Entry}
    (each : List.Forall₂ (IsReadFrom d (isComposite s)) (tableLines s) entries) :
    ∃ first, entries = first ++ [.primaryKey (s.primaryKey.map Column.name)] ∧
      List.Forall₂ (fun c e => IsReadFrom d true (.column c) e) s.columns first := by
  rw [tableLines, composite, if_pos rfl] at each
  have columns := (List.forall₂_take_append _ _ _ each.flip).flip
  have keys := List.forall₂_drop_append _ _ _ each.flip
  have whole := List.take_append_drop (s.columns.map Line.column).length entries
  generalize entries.drop (s.columns.map Line.column).length = last at keys whole
  rw [List.forall₂_map_left_iff] at columns
  obtain ⟨e, t, entry, rest, rfl⟩ := List.forall₂_cons_right_iff.1 keys
  obtain rfl := List.forall₂_nil_right_iff.1 rest
  refine ⟨_, whole.symm.trans ?_, columns⟩
  cases e with
  | primaryKey names => rw [show names = _ from entry]
  | column e => exact absurd entry id
  | skipped => exact absurd entry id

theorem keyed_composite {d : Dialect} {s : Schema} (h : IsSpelledTable d s)
    (distinct : (s.columns.map Column.key).Nodup) (composite : isComposite s = true)
    {total : Nat} {entries : List Entry}
    (each : List.Forall₂ (IsReadFrom d (isComposite s)) (tableLines s) entries) :
    ∃ g, gather total {} entries = .ok g ∧
      g.columns = s.columns.map (readColumn (isComposite s)) ∧
        g.keyed = .ok (s.columns.map (restored (isComposite s))) := by
  obtain ⟨first, rfl, read⟩ := exists_entries_of_composite composite each
  rw [composite]
  have unmarked : ∀ c ∈ s.columns, isMarked true c = false := fun c _ => Bool.and_false _
  have few : (s.columns.filter (isMarked true)).length = 0 := by
    rw [List.length_eq_zero_iff, List.filter_eq_nil_iff]
    exact fun c hc => by simp [unmarked c hc]
  obtain ⟨inlineKey?, none, gathered⟩ := gather_columns total h.columns read {}
    (by rw [few]; decide) [.primaryKey (s.primaryKey.map Column.name)]
  rw [none unmarked] at gathered
  refine ⟨_, gathered, rfl, ?_⟩
  have some : s.primaryKey ≠ [] := by
    intro empty
    have more : 1 < s.primaryKey.length := of_decide_eq_true composite
    rw [empty] at more
    exact absurd more (by decide)
  have present : (s.primaryKey.map Column.name).isEmpty = false := by simpa using some
  simp only [Gathered.keyed, List.nil_append, present, Bool.false_eq_true, if_false]
  exact markKeys_restored h distinct

/-- The entries of a table resolve to its columns. -/
theorem resolve_run {d : Dialect} {s : Schema} (made : Schema.make s.table s.columns = .ok s)
    (h : IsSpelledTable d s) (total : Nat) {entries : List Entry}
    (each : List.Forall₂ (IsReadFrom d (isComposite s)) (tableLines s) entries) :
    resolve total s.table entries =
      .ok ⟨s.table, s.columns.map (restored (isComposite s))⟩ := by
  obtain ⟨-, filled, distinct, -, -⟩ := Schema.make_eq_ok_iff.1 made
  obtain ⟨g, gathered, columns, keyed⟩ : ∃ g, gather total {} entries = .ok g ∧
      g.columns = s.columns.map (readColumn (isComposite s)) ∧
        g.keyed = .ok (s.columns.map (restored (isComposite s))) := by
    by_cases hc : isComposite s = true
    · exact keyed_composite h distinct hc each
    · exact keyed_single h (Bool.eq_false_of_not_eq_true hc) each
  have present : g.columns.isEmpty = false := by simpa [columns] using filled
  rw [resolve, gathered]
  simp only [bind, Except.bind, present, Bool.false_eq_true, if_false, keyed,
    make_restored made, Except.mapError]

theorem columnText_restored (d : Dialect) (composite : Bool) (c : Column) :
    d.columnText composite (restored composite c) = d.columnText composite c := by
  have default : d.defaultClause (restored composite c) = d.defaultClause c := by
    rw [Dialect.defaultClause, Dialect.defaultClause, restored, readColumn]
    cases ha : c.isAutoIncrement with
    | false => rfl
    | true => cases c.default? <;> rfl
  have unique : ((restored composite c).isUnique && !isMarked composite c) =
      (c.isUnique && !isMarked composite c) := by
    rw [restored, readColumn, Bool.and_assoc, Bool.and_self]
  rw [Dialect.columnText, Dialect.columnText, default]
  change _ ++ (if ((restored composite c).isUnique && !isMarked composite c) = true then _ else _) ++
    _ ++ _ ++ _ = _
  rw [unique]
  rfl

theorem primaryKey_restored (s : Schema) (composite : Bool) :
    (Schema.primaryKey ⟨s.table, s.columns.map (restored composite)⟩) =
      s.primaryKey.map (restored composite) := by
  rw [Schema.primaryKey, Schema.primaryKey, List.filter_map]
  rfl

/-- No dialect tells the restored columns from the columns of the table. -/
theorem createTableText_restored (d : Dialect) (s : Schema) :
    d.createTableText ⟨s.table, s.columns.map (restored (isComposite s))⟩ =
      d.createTableText s := by
  have lines : d.tableLines ⟨s.table, s.columns.map (restored (isComposite s))⟩ =
      d.tableLines s := by
    rw [Dialect.tableLines, Dialect.tableLines, primaryKey_restored, List.length_map,
      ← isComposite]
    simp only [List.map_map]
    have columns : s.columns.map (d.columnText (isComposite s) ∘ restored (isComposite s)) =
        s.columns.map (d.columnText (isComposite s)) :=
      List.map_congr_left fun c _ => columnText_restored d (isComposite s) c
    rw [columns]
    rfl
  rw [Dialect.createTableText, Dialect.createTableText, lines]

/-- Tables that are read from a statement or made from columns. -/
inductive IsObtained : Schema → Prop
  | read {text : String} {s : Schema} : parse text = .ok s → IsObtained s
  | made {table : String} {columns : List Column} {s : Schema} :
      (∀ c ∈ columns, c.IsBuilt) → Schema.make table columns = .ok s → IsObtained s

/-- A table whose names are words and whose defaults every dialect can write. -/
structure IsPlainTable (s : Schema) : Prop where
  named : IsWord s.table
  columnNamed : ∀ c ∈ s.columns, IsWord c.name ∧ capitalSigma ∉ c.name.toList
  default : ∀ c ∈ s.columns, ∀ value, c.default? = some value → IsPlainDefault c.type value

/-- What a statement keeps of a column of a table. -/
structure IsKept (s : Schema) (c kept : Column) : Prop where
  name : kept.name = c.name
  type : kept.type = c.type
  nullable : kept.nullable = c.nullable
  isPrimaryKey : kept.isPrimaryKey = c.isPrimaryKey
  isAutoIncrement : kept.isAutoIncrement = c.isAutoIncrement
  default : c.isAutoIncrement = false → kept.default? = c.default?
  isUnique : s.primaryKey ≠ [c] → kept.isUnique = c.isUnique

theorem isKept_restored {s : Schema} {c : Column} (hc : c ∈ s.columns) :
    IsKept s c (restored (isComposite s) c) where
  name := rfl
  type := rfl
  nullable := rfl
  isPrimaryKey := rfl
  isAutoIncrement := rfl
  default filled := by simp [restored, readColumn, filled]
  isUnique other := by
    have unmarked : isMarked (isComposite s) c = false := by
      rw [isMarked, Bool.and_eq_false_iff, Bool.not_eq_false']
      by_cases key : c.isPrimaryKey = true
      · have found : c ∈ s.primaryKey := List.mem_filter.2 ⟨hc, key⟩
        refine .inr (decide_eq_true (Nat.lt_of_not_le fun few => ?_))
        -- a key that holds the column and no other is the column alone
        obtain ⟨only, single⟩ := List.length_eq_one_iff.1
          (Nat.le_antisymm few (List.length_pos_of_mem found))
        rw [single, List.mem_singleton] at found
        exact other (found ▸ single)
      · exact .inl (Bool.eq_false_of_not_eq_true key)
    simp [restored, readColumn, unmarked]

/-- A table whose names are words and whose defaults the dialect writes so that they read back. -/
structure IsWritableTable (d : Dialect) (s : Schema) : Prop where
  named : IsWord s.table
  columnNamed : ∀ c ∈ s.columns, IsWord c.name ∧ capitalSigma ∉ c.name.toList
  default : ∀ c ∈ s.columns, ∀ value, c.default? = some value → IsWritableDefault d c.type value

theorem IsPlainTable.isWritable {s : Schema} (plain : IsPlainTable s) (d : Dialect) :
    IsWritableTable d s :=
  ⟨plain.named, plain.columnNamed, fun c hc value hv => (plain.default c hc value hv).isWritable d⟩

/-- Obtained tables can be created again, and their columns can be spelled if they are writable. -/
theorem isSpelledTable_of_writable {d : Dialect} {s : Schema} (origin : IsObtained s)
    (writable : IsWritableTable d s) :
    Schema.make s.table s.columns = .ok s ∧ IsSpelledTable d s := by
  obtain ⟨made, keyed⟩ : Schema.make s.table s.columns = .ok s ∧ ∀ c ∈ s.columns, c.IsKeyed := by
    cases origin with
    | read text => exact make_of_parse text
    | made built made =>
      obtain ⟨-, -, -, -, rfl⟩ := Schema.make_eq_ok_iff.1 made
      exact ⟨made, fun c hc => (built c hc).isKeyed⟩
  obtain ⟨-, filled, -, counting, -⟩ := Schema.make_eq_ok_iff.1 made
  refine ⟨made, writable.named, filled, fun c hc => (writable.columnNamed c hc).1, fun c hc => ?_,
    keyed⟩
  have named := writable.columnNamed c hc
  have default (value : Default) (hv : c.default? = some value) :=
    defaultRun_of_writable (writable.default c hc value hv)
  exact ⟨⟨named.1.1, named.1.mark_not_mem d⟩, fun _ => named, default,
    type_of_isAutoIncrement counting hc⟩

theorem isSpelledTable_of_plain {s : Schema} (origin : IsObtained s) (plain : IsPlainTable s) :
    Schema.make s.table s.columns = .ok s ∧ ∀ {d : Dialect}, IsSpelledTable d s :=
  ⟨(isSpelledTable_of_writable origin (plain.isWritable .mysql)).1,
    fun {d} => (isSpelledTable_of_writable origin (plain.isWritable d)).2⟩

/-- The statement of a writable table is read back as the table with its columns restored. -/
theorem parse_of_writable {d : Dialect} {s : Schema} (origin : IsObtained s)
    (writable : IsWritableTable d s) :
    parse (d.createTableText s) = .ok ⟨s.table, s.columns.map (restored (isComposite s))⟩ := by
  obtain ⟨made, spelled⟩ := isSpelledTable_of_writable origin writable
  obtain ⟨entries, each, read⟩ := parse_createTableText d spelled
  rw [read]
  exact resolve_run made spelled _ each

/-- The statement that a dialect writes for a table is read back as a table of the same name and
columns, which every dialect writes as it wrote the first. -/
theorem createTableText_roundTrip {s : Schema} (origin : IsObtained s) (plain : IsPlainTable s)
    (d : Dialect) :
    ∃ s', parse (d.createTableText s) = .ok s' ∧ s'.table = s.table ∧
      List.Forall₂ (IsKept s) s.columns s'.columns ∧
        ∀ d' : Dialect, d'.createTableText s' = d'.createTableText s := by
  obtain ⟨made, spelled⟩ := isSpelledTable_of_plain origin plain
  obtain ⟨entries, each, read⟩ := parse_createTableText d spelled
  refine ⟨⟨s.table, s.columns.map (restored (isComposite s))⟩, ?_, rfl, ?_, fun d' =>
    createTableText_restored d' s⟩
  · rw [read]
    exact resolve_run made spelled _ each
  · rw [List.forall₂_map_right_iff, List.forall₂_same]
    exact fun c hc => isKept_restored hc

def orderLines : Schema :=
  ⟨"order_lines",
    [Column.primaryKey { name := "order", type := .integer },
      Column.primaryKey { name := "line", type := .text (some 8) },
      (Column.notNull { name := "paid", type := .boolean }).withDefault (.boolean false),
      Column.withDefault { name := "price", type := .decimal (some ⟨10, 2⟩) } (.number "-1.50"),
      (Column.unique { name := "note", type := .text none }).withDefault (.text "it's (new)"),
      Column.withDefault { name := "stored", type := .timestamp } .currentTimestamp]⟩

theorem createTableText_roundTrip_orderLines :
    IsObtained orderLines ∧ IsPlainTable orderLines ∧
    ∃ s', parse (Dialect.sqlite.createTableText orderLines) = .ok s' ∧
      s'.table = orderLines.table ∧ List.Forall₂ (IsKept orderLines) orderLines.columns s'.columns ∧
        ∀ d' : Dialect, d'.createTableText s' = d'.createTableText orderLines := by
  have built : ∀ c ∈ orderLines.columns, Column.IsBuilt c := by
    simp only [orderLines, List.forall_mem_cons]
    exact ⟨(Column.IsBuilt.new ..).primaryKey, (Column.IsBuilt.new ..).primaryKey,
      (Column.IsBuilt.new ..).notNull.withDefault _, (Column.IsBuilt.new ..).withDefault _,
      (Column.IsBuilt.new ..).unique.withDefault _, (Column.IsBuilt.new ..).withDefault _,
      by simp⟩
  have made : Schema.make orderLines.table orderLines.columns = .ok orderLines := by decide +kernel
  have plain : IsPlainTable orderLines := by
    have numeral : IsNumeral "-1.50".toList :=
      ⟨['-'], ['1'], ['.', '5', '0'], rfl, by decide, ⟨by decide, by decide⟩,
        .inr ⟨['5', '0'], rfl, by decide, by decide⟩⟩
    have named : ∀ c ∈ orderLines.columns, IsWord c.name ∧ capitalSigma ∉ c.name.toList := by
      simp only [orderLines, List.forall_mem_cons, IsWord]
      decide +kernel
    refine ⟨⟨by decide, by decide +kernel⟩, named, ?_⟩
    simp only [orderLines, List.forall_mem_cons]
    refine ⟨?_, ?_, ?_, ?_, ?_, ?_, by simp⟩
    · rintro value ⟨⟩
    · rintro value ⟨⟩
    · rintro value ⟨⟩
      rfl
    · rintro value ⟨⟩
      exact ⟨by decide, numeral⟩
    · rintro value ⟨⟩
      exact ⟨by decide, by decide⟩
    · rintro value ⟨⟩
      trivial
  exact ⟨.made built made, plain, createTableText_roundTrip (.made built made) plain .sqlite⟩

end TableLoad.Ddl
