import TableLoad.Proofs.Json.Members
import TableLoad.Proofs.Schema.Headers
import TableLoad.Record.Document

/-! # Rows under headers

An object gives each of its values one place in the row: the column of its key, or a place behind
the columns.  No two values get one place, and a column without a value is empty.  With the names
of columns as keys, an object is the list of its values in the order of the columns.
-/
namespace TableLoad
open Text Number

namespace Json

def isScalar : Json → Bool
  | .array _ => false
  | .object _ => false
  | _ => true

def IsScalarRow : Json → Prop
  | .array items => ∀ item ∈ items, item.isScalar = true
  | .object members => ∀ m ∈ members, m.2.isScalar = true
  | _ => False

theorem ofJson?_of_isScalar {value : Json} (h : value.isScalar = true) :
    Cell.ofJson? value = some ((Cell.ofJson? value).getD .null) := by
  cases value with
  | array items => cases h
  | object members => cases h
  | _ => rfl

end Json

section Cells
variable {row : Nat}

theorem map_eq_ok_iff {ε α β : Type} {f : α → β} {r : Except ε α} {b : β} :
    r.map f = .ok b ↔ ∃ a, r = .ok a ∧ f a = b := by
  cases r <;> simp [Except.map]

theorem cellsOfItems_eq_ok_iff {items : List Json} {cells : Row} :
    cellsOfItems row items = .ok cells ↔ items.map Cell.ofJson? = cells.map some := by
  induction items generalizing cells with
  | nil => cases cells <;> simp [cellsOfItems]
  | cons item items ih =>
    rw [cellsOfItems]
    cases cells with
    | nil => cases Cell.ofJson? item <;> simp [map_eq_ok_iff]
    | cons first cells =>
      cases h : Cell.ofJson? item with
      | none => simp [h]
      | some cell => simp [map_eq_ok_iff, h, ih, and_comm]

theorem cellsOfMembers_eq_ok_iff {members : List (String × Json)} {cells : List (String × Cell)} :
    cellsOfMembers row members = .ok cells ↔
      members.map (fun m => (m.1, Cell.ofJson? m.2)) = cells.map fun c => (c.1, some c.2) := by
  induction members generalizing cells with
  | nil => cases cells <;> simp [cellsOfMembers]
  | cons member members ih =>
    obtain ⟨key, value⟩ := member
    rw [cellsOfMembers]
    cases cells with
    | nil => cases Cell.ofJson? value <;> simp [map_eq_ok_iff]
    | cons first cells =>
      cases h : Cell.ofJson? value with
      | none => simp [h]
      | some cell => simp [map_eq_ok_iff, h, ih, Prod.ext_iff, and_assoc, and_comm]

end Cells

/-- The places of cells: a cell with a column goes there, the others follow from `next` on. -/
def placesFrom (next : Nat) : List (Option Nat) → List Nat
  | [] => []
  | some p :: slots => p :: placesFrom next slots
  | none :: slots => next :: placesFrom (next + 1) slots

section Places
variable {slots : List (Option Nat)} {next : Nat}

theorem mem_placesFrom {p : Nat} (h : p ∈ placesFrom next slots) : some p ∈ slots ∨ next ≤ p := by
  induction slots generalizing next with
  | nil => cases h
  | cons slot slots ih =>
    cases slot with
    | none =>
      rcases List.mem_cons.1 h with rfl | later
      · exact .inr (Nat.le_refl _)
      · exact (ih later).imp (List.mem_cons_of_mem _) Nat.le_of_succ_le
    | some q =>
      rcases List.mem_cons.1 h with rfl | later
      · exact .inl List.mem_cons_self
      · exact (ih later).imp_left (List.mem_cons_of_mem _)

theorem nodup_placesFrom (known : ∀ p, some p ∈ slots → p < next)
    (apart : slots.reduceOption.Nodup) : (placesFrom next slots).Nodup := by
  induction slots generalizing next with
  | nil => exact .nil
  | cons slot slots ih =>
    have later (p : Nat) (hp : some p ∈ slots) := known p (List.mem_cons_of_mem _ hp)
    cases slot with
    | none =>
      have rest := ih (fun p hp => Nat.lt_succ_of_lt (later p hp)) apart
      refine List.nodup_cons.2 ⟨fun again => ?_, rest⟩
      rcases mem_placesFrom again with before | behind
      · exact Nat.lt_irrefl _ (later _ before)
      · exact Nat.not_succ_le_self _ behind
    | some q =>
      rw [List.reduceOption_cons_of_some, List.nodup_cons, List.reduceOption_mem_iff] at apart
      refine List.nodup_cons.2 ⟨fun again => ?_, ih later apart.2⟩
      rcases mem_placesFrom again with before | behind
      · exact apart.1 before
      · exact Nat.not_lt_of_le behind (known q List.mem_cons_self)

theorem getElem?_placesFrom {k p : Nat} (h : slots[k]? = some (some p)) :
    (placesFrom next slots)[k]? = some p := by
  induction slots generalizing next k with
  | nil => cases h
  | cons slot slots ih =>
    cases k with
    | zero =>
      obtain rfl := Option.some.inj h
      rfl
    | succ k => cases slot <;> exact ih h

/-- All places from `next` on are used, one for each cell without a column. -/
theorem add_mem_placesFrom {i : Nat} (h : i < slots.count none) :
    next + i ∈ placesFrom next slots := by
  induction slots generalizing next i with
  | nil => cases h
  | cons slot slots ih =>
    cases slot with
    | some p =>
      rw [List.count_cons_of_ne (by simp)] at h
      exact List.mem_cons_of_mem _ (ih h)
    | none =>
      rw [List.count_cons_self] at h
      cases i with
      | zero => exact List.mem_cons_self
      | succ i =>
        have later : next + 1 + i ∈ placesFrom (next + 1) slots := ih (by omega)
        rw [Nat.add_right_comm, Nat.add_assoc] at later
        exact List.mem_cons_of_mem _ later

end Places

def sentRow (width : Nat) (sent : List (Option Nat × Cell)) : Row :=
  (List.range width).map (cellAt sent) ++
    (sent.filter fun (slot, _) => slot.isNone).map Prod.snd

section Sent
variable {sent : List (Option Nat × Cell)} {cell : Cell} {width : Nat}

theorem length_sentRow (width : Nat) (sent : List (Option Nat × Cell)) :
    (sentRow width sent).length = width + (sent.map Prod.fst).count none := by
  rw [sentRow, List.length_append, List.length_map, List.length_range, List.length_map,
    ← List.countP_eq_length_filter, List.count, List.countP_map]
  congr 2
  funext ⟨slot, cell⟩
  cases slot <;> rfl

theorem getElem?_sentRow {p : Nat} (h : p < width) :
    (sentRow width sent)[p]? = some (cellAt sent p) := by
  rw [sentRow, List.getElem?_append_left (by simpa using h)]
  simp [h]

theorem lookup_of_apart (apart : (sent.map Prod.fst).reduceOption.Nodup) {p : Nat}
    (h : (some p, cell) ∈ sent) : sent.lookup (some p) = some cell := by
  induction sent with
  | nil => cases h
  | cons first sent ih =>
    obtain ⟨slot, other⟩ := first
    have later : (sent.map Prod.fst).reduceOption.Nodup := by
      cases slot with
      | none => exact apart
      | some q => exact (List.nodup_cons.1 apart).2
    rcases List.mem_cons.1 h with same | inside
    · cases same
      exact List.lookup_cons_self
    · have different : slot ≠ some p := by
        rintro rfl
        apply (List.nodup_cons.1 apart).1
        rw [← List.reduceOption, List.reduceOption_mem_iff]
        exact List.mem_map_of_mem inside
      rw [List.lookup_cons, beq_false_of_ne different.symm]
      exact ih later inside

/-- The cells without a column stand behind the columns, in their order. -/
theorem exists_place_of_none (next : Nat) {k : Nat} (h : sent[k]? = some (none, cell)) :
    ∃ i, (placesFrom next (sent.map Prod.fst))[k]? = some (next + i) ∧
      ((sent.filter fun (slot, _) => slot.isNone).map Prod.snd)[i]? = some cell := by
  induction sent generalizing next k with
  | nil => cases h
  | cons first sent ih =>
    obtain ⟨slot, other⟩ := first
    cases k with
    | zero =>
      cases h
      exact ⟨0, rfl, rfl⟩
    | succ k =>
      cases slot with
      | some q => exact ih next h
      | none =>
        obtain ⟨i, place, stands⟩ := ih (next + 1) h
        refine ⟨i + 1, ?_, stands⟩
        rw [← Nat.add_assoc, Nat.add_right_comm]
        exact place

theorem exists_place (known : ∀ p, some p ∈ sent.map Prod.fst → p < width)
    (apart : (sent.map Prod.fst).reduceOption.Nodup) {k : Nat} {slot : Option Nat}
    (h : sent[k]? = some (slot, cell)) :
    ∃ p, (placesFrom width (sent.map Prod.fst))[k]? = some p ∧
      (sentRow width sent)[p]? = some cell := by
  cases slot with
  | some p =>
    have column : (sent.map Prod.fst)[k]? = some (some p) := by rw [List.getElem?_map, h]; rfl
    refine ⟨p, getElem?_placesFrom column, ?_⟩
    rw [getElem?_sentRow (known p (List.mem_of_getElem? column)), cellAt,
      lookup_of_apart apart (List.mem_of_getElem? h)]
    rfl
  | none =>
    obtain ⟨i, place, stands⟩ := exists_place_of_none width h
    refine ⟨width + i, place, ?_⟩
    rw [sentRow, List.getElem?_append_right (by simp)]
    simpa using stands

theorem getElem?_sentRow_of_not_mem {p : Nat} (inside : p < (sentRow width sent).length)
    (h : p ∉ placesFrom width (sent.map Prod.fst)) :
    p < width ∧ (sentRow width sent)[p]? = some .null := by
  have column : p < width := by
    rw [length_sentRow] at inside
    by_contra behind
    apply h
    have used : p - width < (sent.map Prod.fst).count none := by omega
    have place : width + (p - width) ∈ placesFrom width (sent.map Prod.fst) :=
      add_mem_placesFrom used
    rwa [Nat.add_sub_cancel' (Nat.le_of_not_lt behind)] at place
  refine ⟨column, ?_⟩
  rw [getElem?_sentRow column, cellAt, List.lookup_eq_none_iff.2]
  · rfl
  · rintro ⟨slot, cell⟩ hs
    rw [bne_iff_ne]
    rintro rfl
    obtain ⟨k, hk⟩ := List.mem_iff_getElem?.1 (List.mem_map_of_mem (f := Prod.fst) hs)
    exact h (List.mem_of_getElem? (getElem?_placesFrom hk))

end Sent

namespace Schema
variable {s : Schema} {members : List (String × Json)} {row : Row}

def places (s : Schema) (members : List (String × Json)) : List Nat :=
  placesFrom s.columns.length (s.matchHeaders (members.map Prod.fst))

/-- A row that holds the values of an object: each at one place of its own, that of its column or
one behind the columns; all else is empty. -/
structure HoldsMembers (s : Schema) (members : List (String × Json)) (row : Row) : Prop where
  width : row.length = s.columns.length + (s.matchHeaders (members.map Prod.fst)).count none
  matched : ∀ p, some p ∈ s.matchHeaders (members.map Prod.fst) → p < s.columns.length
  apart : (s.places members).Nodup
  placed : ∀ (k : Nat) (m : String × Json), members[k]? = some m →
    ∃ p cell, (s.places members)[k]? = some p ∧ Cell.ofJson? m.2 = some cell ∧ row[p]? = some cell
  others : ∀ p < row.length, p ∉ s.places members →
    p < s.columns.length ∧ row[p]? = some .null

theorem holdsMembers_rowUnder (s : Schema) {members : List (String × Json)}
    {cells : List (String × Cell)}
    (read : members.map (fun m => (m.1, Cell.ofJson? m.2)) = cells.map fun c => (c.1, some c.2)) :
    s.HoldsMembers members (s.rowUnder cells) := by
  have keys : members.map Prod.fst = cells.map Prod.fst := by
    have firsts := congrArg (List.map Prod.fst) read
    rw [List.map_map, List.map_map] at firsts
    exact firsts
  have matching := matchHeaders_isMatching s (members.map Prod.fst)
  have sameLength :
      (s.matchHeaders (members.map Prod.fst)).length = (cells.map Prod.snd).length := by
    rw [length_matchHeaders, keys, List.length_map, List.length_map]
  have row : s.rowUnder cells = sentRow s.columns.length
      ((s.matchHeaders (members.map Prod.fst)).zip (cells.map Prod.snd)) := by
    rw [rowUnder, keys]
    rfl
  have slots := List.map_fst_zip sameLength.le
  have values := List.map_snd_zip sameLength.ge
  have places : s.places members = placesFrom s.columns.length
      (((s.matchHeaders (members.map Prod.fst)).zip (cells.map Prod.snd)).map Prod.fst) := by
    rw [slots, Schema.places]
  rw [row]
  -- From here on only the slots count, not how the headers got them.
  generalize (s.matchHeaders (members.map Prod.fst)).zip (cells.map Prod.snd) = sent at *
  rw [← slots] at matching
  constructor
  · rw [length_sentRow, slots]
  · rw [← slots]
    exact matching.known
  · rw [places]
    exact nodup_placesFrom matching.known matching.apart
  · intro k m hm
    have value := congrArg (·[k]?) read
    simp only [List.getElem?_map, hm, Option.map_some] at value
    obtain ⟨c, hc, same⟩ := Option.map_eq_some_iff.1 value.symm
    have stands := congrArg (·[k]?) values
    simp only [List.getElem?_map, hc, Option.map_some] at stands
    obtain ⟨⟨slot, cell⟩, hs, rfl⟩ := Option.map_eq_some_iff.1 stands
    obtain ⟨p, place, found⟩ := exists_place matching.known matching.apart hs
    exact ⟨p, c.2, by rw [places, place], (congrArg Prod.snd same).symm, found⟩
  · intro p inside hp
    rw [places] at hp
    exact getElem?_sentRow_of_not_mem inside hp

section Named
variable {table : String} {columns : List Column} (made : Schema.make table columns = .ok s)
  (plain : ∀ c ∈ s.columns, IsTrimmed c.name.toList) (sorted : Json.InKeyOrder members)
  (named : ∀ key ∈ members.map Prod.fst, key ∈ s.columns.map Column.name)
include made plain sorted named

/-- Every key has a column, so nothing stands behind the columns. -/
theorem HoldsMembers.length_of_named (h : s.HoldsMembers members row) :
    row.length = s.columns.length := by
  have all : none ∉ s.matchHeaders (members.map Prod.fst) := by
    rw [matchHeaders_eq made plain sorted.nodup_keys named]
    intro unmatched
    obtain ⟨key, hkey, none⟩ := List.mem_map.1 unmatched
    obtain ⟨p, c, some, -⟩ := exists_position?_of_name made plain (named key hkey)
    cases none.symm.trans some
  rw [h.width, List.count_eq_zero.2 all, Nat.add_zero]

theorem getElem?_places_of_named {p k : Nat} {c : Column} {value : Json}
    (hc : s.columns[p]? = some c) (hk : members[k]? = some (c.name, value)) :
    (s.places members)[k]? = some p := by
  apply getElem?_placesFrom
  rw [matchHeaders_eq made plain sorted.nodup_keys named, List.getElem?_map, List.getElem?_map, hk,
    ← (position?_eq_some_iff made plain (List.mem_of_getElem? hc)).2 hc]
  rfl

theorem name_mem_of_mem_places {p : Nat} {c : Column} (hc : s.columns[p]? = some c)
    (used : p ∈ s.places members) : c.name ∈ members.map Prod.fst := by
  rcases mem_placesFrom used with given | behind
  · rw [matchHeaders_eq made plain sorted.nodup_keys named] at given
    obtain ⟨key, hkey, at?⟩ := List.mem_map.1 given
    obtain ⟨q, d, there, hd, rfl⟩ := exists_position?_of_name made plain (named key hkey)
    rw [at?] at there
    rw [Option.some.inj there, hd] at hc
    rwa [← Option.some.inj hc]
  · exact absurd (List.getElem?_eq_some_iff.1 hc).1 (Nat.not_lt_of_le behind)

/-- A column holds the value of its name, and is empty if there is none. -/
theorem HoldsMembers.getElem?_of_named (h : s.HoldsMembers members row) {p : Nat} {c : Column}
    (hc : s.columns[p]? = some c) :
    row[p]? = Cell.ofJson? ((members.lookup c.name).getD .null) := by
  cases value : members.lookup c.name with
  | some v =>
    obtain ⟨k, hk⟩ := List.mem_iff_getElem?.1 (mem_of_lookup value)
    obtain ⟨q, cell, place, read, stands⟩ := h.placed k _ hk
    rw [getElem?_places_of_named made plain sorted named hc hk] at place
    rw [Option.some.inj place, stands]
    exact read.symm
  | none =>
    have missing : p ∉ s.places members := by
      intro used
      obtain ⟨⟨key, v⟩, hm, same⟩ :=
        List.mem_map.1 (name_mem_of_mem_places made plain sorted named hc used)
      have unnamed := List.lookup_eq_none_iff.1 value _ hm
      rw [← same] at unnamed
      simp at unnamed
    have inside := (List.getElem?_eq_some_iff.1 hc).1
    rw [← h.length_of_named made plain sorted named] at inside
    exact (h.others p inside missing).2

/-- With the names of columns as keys, an object is the list of its values in the order of the
columns. -/
theorem HoldsMembers.ofJson?_columns (h : s.HoldsMembers members row) :
    (s.columns.map fun c => Cell.ofJson? ((members.lookup c.name).getD .null)) = row.map some := by
  have width := h.length_of_named made plain sorted named
  apply List.ext_getElem?
  intro p
  rw [List.getElem?_map, List.getElem?_map]
  cases hc : s.columns[p]? with
  | none =>
    rw [List.getElem?_eq_none (width ▸ List.getElem?_eq_none_iff.1 hc)]
    rfl
  | some c =>
    have inside := (List.getElem?_eq_some_iff.1 hc).1
    have cell := h.getElem?_of_named made plain sorted named hc
    rw [Option.map_some, ← cell, List.getElem?_eq_getElem (width ▸ inside), Option.map_some]

end Named

theorem rowOfJson_object_eq_ok_iff {i : Nat} :
    s.rowOfJson i (.object members) = .ok row ↔ ∃ cells, s.rowUnder cells = row ∧
      members.map (fun m => (m.1, Cell.ofJson? m.2)) = cells.map fun c => (c.1, some c.2) := by
  simp only [rowOfJson, map_eq_ok_iff, cellsOfMembers_eq_ok_iff, and_comm]

/-- Rows of values without parts are all read. -/
theorem exists_rowOfJson (s : Schema) (i : Nat) {item : Json} (scalar : item.IsScalarRow) :
    ∃ row, s.rowOfJson i item = .ok row := by
  cases item with
  | array items =>
    refine ⟨items.map fun value => (Cell.ofJson? value).getD .null, cellsOfItems_eq_ok_iff.2 ?_⟩
    rw [List.map_map]
    exact List.map_congr_left fun value hv => Json.ofJson?_of_isScalar (scalar value hv)
  | object members =>
    refine ⟨_, rowOfJson_object_eq_ok_iff.2
      ⟨members.map fun m => (m.1, (Cell.ofJson? m.2).getD .null), rfl, ?_⟩⟩
    rw [List.map_map]
    exact List.map_congr_left fun m hm => congrArg (m.1, ·) (Json.ofJson?_of_isScalar (scalar m hm))
  | _ => cases scalar

theorem rowsOfItems_eq_ok {first : Nat} {items : List Json}
    (each : ∀ item ∈ items, ∀ i, ∃ row, s.rowOfJson i item = .ok row) :
    ∃ rows, s.rowsOfItems first items = .ok rows ∧ rows.length = items.length ∧
      ∀ (i : Nat) (item : Json), items[i]? = some item →
        ∃ row, rows[i]? = some row ∧ s.rowOfJson (first + i) item = .ok row := by
  induction items generalizing first with
  | nil => exact ⟨[], rfl, rfl, by simp⟩
  | cons item items ih =>
    obtain ⟨row, read⟩ := each item List.mem_cons_self first
    obtain ⟨rows, later, length, rest⟩ :=
      @ih (first + 1) fun item hi => each item (List.mem_cons_of_mem _ hi)
    refine ⟨row :: rows, by rw [rowsOfItems, read, later]; rfl, by simp [length], ?_⟩
    intro i other hi
    cases i with
    | zero =>
      cases hi
      exact ⟨row, rfl, read⟩
    | succ i =>
      rw [← Nat.add_assoc, Nat.add_right_comm]
      exact rest i other hi

/-- A document of rows without nested values is read.  The row of an object holds each of its
values at one place of its own, those without a column in the order of their keys, and does not
depend on the order in which the keys were written.  Where all keys are names of columns, it is the
row of the list of its values in the order of the columns. -/
theorem rowsOfJson_holds_members {table : String} {columns : List Column}
    (made : Schema.make table columns = .ok s) (plain : ∀ c ∈ s.columns, IsTrimmed c.name.toList)
    {text : String} {items : List Json} (parsed : Json.parse text = .ok (.array items))
    (scalar : ∀ item ∈ items, item.IsScalarRow) :
    ∃ rows, s.rowsOfJson (.array items) = .ok rows ∧ rows.length = items.length ∧
      ∀ (i : Nat) (members : List (String × Json)), items[i]? = some (.object members) →
        Json.InKeyOrder members ∧ ∃ row, rows[i]? = some row ∧ s.HoldsMembers members row ∧
          ((∀ key ∈ members.map Prod.fst, key ∈ s.columns.map Column.name) →
            s.rowOfJson i (.array (s.columns.map fun c => (members.lookup c.name).getD .null)) =
              .ok row) ∧
          ∀ (text' : String) (items' : List Json) (j : Nat) (other : List (String × Json)),
            Json.parse text' = .ok (.array items') → items'[j]? = some (.object other) →
              (∀ key, other.lookup key = members.lookup key) →
                s.rowOfJson j (.object other) = .ok row := by
  obtain ⟨rows, read, length, each⟩ :=
    @rowsOfItems_eq_ok s 0 items fun item hi i => exists_rowOfJson s i (scalar item hi)
  refine ⟨rows, read, length, fun i members hi => ?_⟩
  have sorted := Json.inKeyOrder_of_parse parsed hi
  obtain ⟨row, here, own⟩ := each i _ hi
  obtain ⟨cells, rfl, values⟩ := rowOfJson_object_eq_ok_iff.1 own
  have holds := holdsMembers_rowUnder s values
  refine ⟨sorted, _, here, holds, fun named => ?_, fun text' items' j other parsed' hj same => ?_⟩
  · apply cellsOfItems_eq_ok_iff.2
    rw [List.map_map]
    exact holds.ofJson?_columns made plain sorted named
  · rw [sorted.eq_of_lookup_eq (Json.inKeyOrder_of_parse parsed' hj) same]
    exact rowOfJson_object_eq_ok_iff.2 ⟨cells, rfl, values⟩

/-- Keys written out of order, and one without a column. -/
theorem rowsOfJson_holds_members_out_of_order :
    let s : Schema :=
      ⟨"t", [{ name := "a", type := .text none }, { name := "b", type := .boolean }]⟩
    let members := [("a", Json.string "v"), ("b", Json.bool true), ("x", Json.integer 1)]
    Json.parse "[\x7b\"x\":1,\"b\":true,\"a\":\"v\"\x7d]" = .ok (.array [.object members]) ∧
      ∃ row, s.rowsOfJson (.array [.object members]) = .ok [row] ∧ s.HoldsMembers members row := by
  intro s members
  have made : Schema.make "t" s.columns = .ok s := rfl
  have plain : ∀ c ∈ s.columns, IsTrimmed c.name.toList := by
    intro c hc
    simp only [s, List.mem_cons, List.not_mem_nil, or_false] at hc
    rcases hc with rfl | rfl <;> exact ⟨by simp [isBlank], by simp [isBlank]⟩
  have inserted : Json.insertMember "a" (.string "v")
      (Json.insertMember "b" (.bool true) (Json.insertMember "x" (.integer 1) [])) = members := rfl
  have parsed : Json.parse "[\x7b\"x\":1,\"b\":true,\"a\":\"v\"\x7d]" =
      .ok (.array [.object members]) := by
    simp [Json.parse, Json.readValue, Json.readItems, Json.readMembers, Json.afterSpace,
      Json.isSpace, Json.readString, Json.readMemberValue, Json.readNumber, Json.readInteger,
      Json.readWord, nat?, inserted]
  have scalar : ∀ item ∈ [Json.object members], item.IsScalarRow := by
    rw [List.forall_mem_singleton]
    exact (by decide : ∀ m ∈ members, m.2.isScalar = true)
  obtain ⟨rows, read, single, each⟩ := rowsOfJson_holds_members made plain parsed scalar
  obtain ⟨-, row, here, holds, -⟩ := each 0 members rfl
  obtain ⟨only, rfl⟩ := List.length_eq_one_iff.1 single
  cases here
  exact ⟨parsed, row, read, holds⟩

end Schema

end TableLoad
