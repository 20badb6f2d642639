import TableLoad.Proofs.Sql.Decoding

/-! # Switching values for the auto-increment column

A session in which such values are off at first sees the statements for prepared rows one after the
other.  They keep a protocol of brackets: on is said only when off and off only when on, rows come
in between, and rows with values for the column are inserted when on, those without when off.
-/
namespace TableLoad.Sql.Reading

/-- What a statement means to a session. -/
inductive Event where
  | switch (on : Bool)
  /-- Rows are inserted, with or without values for that column. -/
  | insert (named : Bool)
  deriving DecidableEq, Repr

/-- Whether values for the auto-increment column are on, and if so whether rows were inserted
since. -/
inductive Session where
  | off
  | on (used : Bool)
  deriving DecidableEq, Repr

/-- The session after an event, if the protocol allows the event. -/
def Session.after? : Session → Event → Option Session
  | .off, .switch true => some (.on false)
  | .off, .insert false => some .off
  | .on _, .insert true => some (.on true)
  | .on true, .switch false => some .off
  | _, _ => none

def Session.run? (session : Session) (events : List Event) : Option Session :=
  events.foldlM Session.after? session

theorem Session.run?_cons {session next : Session} {event : Event}
    (h : session.after? event = some next) (events : List Event) :
    session.run? (event :: events) = next.run? events := by
  rw [run?, List.foldlM_cons, h]
  rfl

theorem Session.run?_append {session next : Session} {events : List Event}
    (h : session.run? events = some next) (more : List Event) :
    session.run? (events ++ more) = next.run? more := by
  rw [run?, List.foldlM_append]
  rw [run?] at h
  rw [h]
  rfl

/-- Rows with values for the column leave the session on. -/
theorem Session.run?_named (used : Bool) (count : Nat) :
    (Session.on used).run? (List.replicate (count + 1) (.insert true)) = some (.on true) := by
  induction count generalizing used with
  | zero => rfl
  | succ count ih => exact (run?_cons rfl _).trans (ih true)

theorem Session.run?_unnamed (count : Nat) :
    Session.off.run? (List.replicate count (.insert false)) = some .off := by
  induction count with
  | zero => rfl
  | succ count ih => exact (run?_cons rfl _).trans ih

def eventOf (s : Schema) : Sql.Statement → Event
  | .toggle on => .switch on
  | .insert positions _ => .insert (s.autoIncrement?.any positions.contains)

theorem lt_of_autoIncrement? {s : Schema} {i : Nat} (h : s.autoIncrement? = some i) :
    i < s.columns.length :=
  (List.findIdx?_eq_some_iff_getElem.1 h).1

/-- A run names the auto-increment column if its rows give values for it. -/
theorem any_contains_insertPositions {s : Schema} {i : Nat} (h : s.autoIncrement? = some i)
    (explicit : Bool) : s.autoIncrement?.any (insertPositions s explicit).contains = explicit := by
  have bound := lt_of_autoIncrement? h
  rw [h, Option.any_some, insertPositions, h]
  cases explicit <;> simp [bound]

/-- The events of a run of rows: of one kind throughout, and between switches if values for the
auto-increment column have to be on. -/
theorem map_eventOf_runStatements {d : Dialect} {s : Schema} {limit : Nat} (hl : 1 ≤ limit)
    {run : List (List Value)} (filled : run ≠ []) {i : Nat} (h : s.autoIncrement? = some i) :
    ∃ explicit count, (d.runStatements s limit run).map (eventOf s) =
      if d.togglesIdentity && explicit then
        .switch true :: (List.replicate (count + 1) (.insert true) ++ [.switch false])
      else List.replicate (count + 1) (.insert explicit) := by
  have inserts (explicit : Bool) :
      ((batches limit run).map (.insert (insertPositions s explicit))).map (eventOf s) =
        List.replicate (batches limit run).length (.insert explicit) := by
    rw [List.map_map, ← List.map_const']
    refine List.map_congr_left fun batch _ => ?_
    exact congrArg Event.insert (any_contains_insertPositions h explicit)
  obtain ⟨count, length⟩ : ∃ count, (batches limit run).length = count + 1 :=
    ⟨_, congrArg List.length (batches_of_ne_nil hl filled)⟩
  refine ⟨run.head?.any (isExplicit s.autoIncrement?), count, ?_⟩
  have present : s.autoIncrement?.isSome = true := by rw [h, Option.isSome_some]
  rw [Dialect.runStatements, present, Bool.and_true, ← length]
  cases explicit : run.head?.any (isExplicit s.autoIncrement?) with
  | true =>
    cases d.togglesIdentity
    · exact inserts true
    · simp only [Bool.and_true, if_true, List.map_cons, List.map_append, inserts true]
      rfl
  | false =>
    rw [Bool.and_false, if_neg Bool.false_ne_true, if_neg Bool.false_ne_true, inserts]

/-- Each run of rows finds the session off and leaves it off. -/
theorem run?_runStatements {d : Dialect} (toggles : d.togglesIdentity = true) {s : Schema}
    {limit : Nat} (hl : 1 ≤ limit) {run : List (List Value)} (filled : run ≠ []) {i : Nat}
    (h : s.autoIncrement? = some i) :
    Session.off.run? ((d.runStatements s limit run).map (eventOf s)) = some .off := by
  obtain ⟨explicit, count, events⟩ := map_eventOf_runStatements (d := d) hl filled h
  rw [events, toggles]
  cases explicit with
  | true =>
    simp only [Bool.and_true, if_true]
    rw [Session.run?_cons rfl, Session.run?_append (Session.run?_named false count)]
    rfl
  | false => exact Session.run?_unnamed (count + 1)

theorem run?_insertStatements {d : Dialect} (toggles : d.togglesIdentity = true) {s : Schema}
    {i : Nat} (h : s.autoIncrement? = some i) (rows : List (List Value)) (batchSize : Nat) :
    Session.off.run? ((d.insertStatements s rows batchSize).map (eventOf s)) = some .off := by
  have limit := one_le_batchLimit d batchSize
  have filled := (maximalRuns_splitBy (isExplicit s.autoIncrement?) rows).filled
  rw [Dialect.insertStatements]
  generalize rows.splitBy
    (fun a b => isExplicit s.autoIncrement? a == isExplicit s.autoIncrement? b) = runs at filled ⊢
  -- over the runs, each of which starts where the one before it ended
  induction runs with
  | nil => rfl
  | cons run runs ih =>
    rw [List.forall_mem_cons] at filled
    rw [List.flatMap_cons, List.map_append,
      Session.run?_append (run?_runStatements toggles limit filled.1 h)]
    exact ih filled.2

theorem switch_not_mem {d : Dialect} {s : Schema}
    (h : d.togglesIdentity = false ∨ s.autoIncrement? = none) (rows : List (List Value))
    (batchSize : Nat) (on : Bool) :
    .switch on ∉ (d.insertStatements s rows batchSize).map (eventOf s) := by
  intro switched
  obtain ⟨statement, hs, event⟩ := List.mem_map.1 switched
  obtain ⟨run, -, hs⟩ := List.mem_flatMap.1 hs
  have off : (d.togglesIdentity && run.head?.any (isExplicit s.autoIncrement?) &&
      s.autoIncrement?.isSome) = false := by
    rcases h with h | h <;> simp [h]
  rw [Dialect.runStatements, if_neg (by simp [off])] at hs
  obtain ⟨batch, -, rfl⟩ := List.mem_map.1 hs
  cases event

def countingName? (s : Schema) : Option String :=
  (s.columns.find? Column.isAutoIncrement).map Column.name

/-- What the text of a statement means to a session. -/
def Shows (d : Dialect) (s : Schema) (text : String) : Event → Prop
  | .switch on => statement? d text = some (.toggle s.table on)
  | .insert named => ∃ names tuples, statement? d text = some (.insert s.table names tuples) ∧
      (countingName? s).any names.contains = named

/-- Among distinct names, that of the auto-increment column stands for its place. -/
theorem any_contains_columnsAt {s : Schema} (distinct : (s.columns.map Column.name).Nodup)
    (positions : List Nat) :
    (countingName? s).any ((columnsAt s positions).map Column.name).contains =
      s.autoIncrement?.any positions.contains := by
  rw [countingName?, List.find?_eq_bind_findIdx?_getElem?, ← Schema.autoIncrement?]
  cases h : s.autoIncrement? with
  | none => rfl
  | some i =>
    have bound := lt_of_autoIncrement? h
    have found : (s.columns.map Column.name)[i]? = some s.columns[i].name := by simp [bound]
    simp only [Option.bind_some, List.getElem?_eq_getElem bound, Option.map_some, Option.any_some]
    rw [Bool.eq_iff_iff, List.contains_iff_mem, List.contains_iff_mem]
    constructor
    · intro named
      obtain ⟨c, hc, same⟩ := List.mem_map.1 named
      obtain ⟨j, hj, hc⟩ := List.mem_filterMap.1 hc
      have other : (s.columns.map Column.name)[j]? = some s.columns[i].name := by
        simp [hc, same]
      have : j = i := (List.getElem?_inj (List.getElem?_eq_some_iff.1 other).1 distinct).1
        (other.trans found.symm)
      exact this ▸ hj
    · intro hi
      exact List.mem_map_of_mem (List.mem_filterMap.2 ⟨i, hi, List.getElem?_eq_getElem bound⟩)

/-- The statements for prepared rows keep the protocol of the session that reads them.  Where the
database wants values for the auto-increment column switched on, and there is one, the session goes
from off to off; everywhere else nothing is switched. -/
theorem insertTexts_keep_protocol {table : String} {columns : List Column} {s : Schema}
    (made : Schema.make table columns = .ok s) {rows : List (List Value)}
    (prepared : ∀ row ∈ rows, ∃ r, s.prepare r = .ok row) (d : Dialect) (batchSize : Nat) :
    ∃ events, List.Forall₂ (Shows d s) (d.insertTexts s rows batchSize) events ∧
      (d = .sqlserver ∧ s.autoIncrement? ≠ none → Session.off.run? events = some .off) ∧
      (¬ (d = .sqlserver ∧ s.autoIncrement? ≠ none) → ∀ on, .switch on ∉ events) := by
  have distinct := Schema.nodup_names made
  have fits : ∀ row ∈ rows, IsRowOf s row := fun row hr =>
    (prepared row hr).elim fun r hp => isRowOf_of_prepare hp
  refine ⟨(d.insertStatements s rows batchSize).map (eventOf s), ?_, ?_, ?_⟩
  · rw [Dialect.insertTexts, List.forall₂_map_left_iff, List.forall₂_map_right_iff,
      List.forall₂_same]
    intro statement hs
    cases statement with
    | toggle on => exact statement?_toggle d s on
    | insert positions batch =>
      obtain ⟨rfl, sub, agree⟩ := insert_of_mem_insertStatements hs
      obtain ⟨tuples, read, -, -⟩ := statement?_batch (d := d) distinct agree
        fun row hr => fits row (sub row hr)
      exact ⟨_, tuples, read, any_contains_columnsAt distinct _⟩
  · rintro ⟨rfl, auto⟩
    obtain ⟨i, h⟩ := Option.ne_none_iff_exists'.1 auto
    exact run?_insertStatements rfl h rows batchSize
  · intro other on
    refine switch_not_mem ?_ rows batchSize on
    by_cases auto : s.autoIncrement? = none
    · exact .inr auto
    · refine .inl ?_
      cases d with
      | sqlserver => exact absurd ⟨rfl, auto⟩ other
      | _ => rfl

/-- Rows with a key, without and with one again, each in a statement of its own. -/
theorem insertTexts_keep_protocol_alternating :
    let rows : List (List Value) :=
      [[.integer 7, .text "Ana"], [.integer 8, .text "Eva"], [.null, .text "Ivo"],
        [.integer 9, .text "Lia"]]
    Schema.make "t" shortNames.columns = .ok shortNames ∧
      (∀ row ∈ rows, ∃ r, shortNames.prepare r = .ok row) ∧
      ∃ events, List.Forall₂ (Shows .sqlserver shortNames)
          (Dialect.sqlserver.insertTexts shortNames rows 1) events ∧
        Session.off.run? events = some .off := by
  intro rows
  have made : Schema.make "t" shortNames.columns = .ok shortNames := by decide
  have prepared : ∀ row ∈ rows, ∃ r, shortNames.prepare r = .ok row := by
    simp only [rows, List.forall_mem_cons, List.not_mem_nil, false_imp_iff, implies_true, and_true]
    exact ⟨⟨⟨[.text "7", .text "Ana"], []⟩, by decide⟩, ⟨⟨[.text "8", .text "Eva"], []⟩, by decide⟩,
      ⟨⟨[.null, .text "Ivo"], []⟩, by decide⟩, ⟨⟨[.text "9", .text "Lia"], []⟩, by decide⟩⟩
  obtain ⟨events, shown, run, -⟩ := insertTexts_keep_protocol made prepared .sqlserver 1
  exact ⟨made, prepared, events, shown, run ⟨rfl, by decide⟩⟩

end TableLoad.Sql.Reading
