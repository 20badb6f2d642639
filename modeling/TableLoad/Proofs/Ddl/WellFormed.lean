import TableLoad.Proofs.Ddl.Grammar
import TableLoad.Proofs.Ddl.Parsed

/-! # Statements and well-formed tables

A statement that is accepted gives a well-formed table.  The grammar, the constraints of each
column, the key of the table and the conditions on tables each keep up a part of it, and none of
them undoes what another one has made sure of.
-/
namespace TableLoad
open Text Ddl

structure Schema.IsWellFormed (s : Schema) : Prop where
  table : s.table ≠ ""
  columns : s.columns ≠ []
  named : ∀ c ∈ s.columns, c.name ≠ ""
  /-- Names differ in more than case. -/
  distinct : (s.columns.map fun c => lowercase c.name.toList).Nodup
  counting : (s.columns.filter Column.isAutoIncrement).length ≤ 1
  /-- A column that counts up is an integer and the whole key. -/
  counted : ∀ c ∈ s.columns, c.isAutoIncrement = true → c.type = .integer ∧ s.primaryKey = [c]
  keyed : ∀ c ∈ s.columns, c.isPrimaryKey = true → c.nullable = false
  /-- Words for truth values do not stay words. -/
  truths : ∀ c ∈ s.columns, c.type = .boolean → ∀ word,
    c.default? = some (.number word) ∨ c.default? = some (.text word) → truth? word = none
  numerals : ∀ c ∈ s.columns, ∀ n, c.default? = some (.number n) → IsNumeral n.toList

namespace Ddl

/-- A default of a column of truth values is the truth value of a word, or was not such a word. -/
theorem truthDefault_cases (value : Default) : (∃ b, truthDefault value = .boolean b) ∨
    truthDefault value = value ∧
      ∀ word, value = .number word ∨ value = .text word → truth? word = none := by
  cases value with
  | number word | text word =>
    rw [truthDefault]
    cases truth : truth? word with
    | some b => exact .inl ⟨b, rfl⟩
    | none =>
      refine .inr ⟨rfl, fun other same => ?_⟩
      obtain rfl : word = other := by simpa using same
      exact truth
  | _ => exact .inr ⟨rfl, by simp⟩

/-- What the default of a column comes from, when its entry is as the grammar gives it. -/
theorem exists_default {e : ColumnEntry} {c : Column} (own : IsColumnOf e c) (read : e.IsRead)
    {d : Default} (hd : c.default? = some d) :
    ∃ value, HasNumeral value ∧ d = if c.type = .boolean then truthDefault value else value := by
  obtain ⟨value, written, member, made⟩ := own.default d hd
  exact ⟨value, (read.constraints _ member value written rfl).numeral, made⟩

/-- Words for truth values do not stay words in a column of truth values. -/
theorem IsColumnOf.truth?_eq_none {e : ColumnEntry} {c : Column} (own : IsColumnOf e c)
    (boolean : c.type = .boolean) {word : String}
    (hd : c.default? = some (.number word) ∨ c.default? = some (.text word)) :
    truth? word = none := by
  obtain ⟨d, hd, shown⟩ : ∃ d, c.default? = some d ∧ (d = .number word ∨ d = .text word) :=
    hd.elim (fun hd => ⟨_, hd, .inl rfl⟩) fun hd => ⟨_, hd, .inr rfl⟩
  obtain ⟨value, written, -, made⟩ := own.default d hd
  rw [if_pos boolean] at made
  rcases truthDefault_cases value with ⟨b, truth⟩ | ⟨same, none⟩
  · rw [made, truth] at shown
    simp at shown
  · exact none word (same ▸ made ▸ shown)

/-- Every statement that is accepted gives a well-formed table, whose columns are those of the
entries, one for each in order, with the keys declared at a column or for the table. -/
theorem parse_wellFormed {text : String} {s : Schema} (h : parse text = .ok s) :
    s.IsWellFormed ∧ ∃ rest entries, header text.toList = some (s.table, rest) ∧
      body rest = .ok (entries, []) ∧ IsTableOf s.table entries s := by
  obtain ⟨rest, entries, head, read, resolved⟩ := exists_of_parse h
  refine ⟨?_, rest, entries, head, read, resolved⟩
  have grammar := isRead_of_body read
  obtain ⟨table, columns, distinct, faultless, -⟩ := Schema.make_eq_ok_iff.1 resolved.made
  have origin (c : Column) (hc : c ∈ s.columns) : ∃ e, IsColumnOf e c ∧ e.IsRead := by
    obtain ⟨e, member, own⟩ := resolved.exists_entry hc
    exact ⟨e, own, grammar _ member e rfl⟩
  refine ⟨table, columns, fun c hc => ?_, distinct, ?_, fun c hc => of_isAutoIncrement faultless hc,
    fun c hc => ?_, fun c hc boolean word hd => ?_, fun c hc n hd => ?_⟩
  · obtain ⟨e, own, read⟩ := origin c hc
    exact own.name ▸ read.named
  · rcases autoIncrementFault?_eq_none_iff.1 faultless with none | ⟨c, single, -⟩
    · simp [none]
    · simp [single]
  · obtain ⟨e, own, -⟩ := origin c hc
    exact own.keyed
  · obtain ⟨e, own, -⟩ := origin c hc
    exact own.truth?_eq_none boolean hd
  · obtain ⟨e, own, read⟩ := origin c hc
    obtain ⟨value, numeral, made⟩ := exists_default own read hd
    split at made
    · rcases truthDefault_cases value with ⟨b, truth⟩ | ⟨same, -⟩
      · rw [truth] at made
        cases made
      · exact numeral n (same ▸ made.symm)
    · exact numeral n made.symm

/-- A key that its column lets be empty, a truth value with a word for a default, and a number in
parentheses. -/
theorem parse_wellFormed_prices :
    let s : Schema := {
      table := "prices"
      columns := [
        Column.primaryKey { name := "id", type := .integer },
        { name := "ok", type := .boolean, default? := some (.boolean true) },
        { name := "net", type := .decimal (some ⟨5, 2⟩), default? := some (.number "-1.50") }] }
    parse "CREATE TABLE prices (id INT NULL, ok BIT NULL DEFAULT 'Yes',
      net DECIMAL(5,2) DEFAULT ((-1.50)), PRIMARY KEY (ID));" = .ok s ∧ s.IsWellFormed := by
  intro s
  have read : (parse "CREATE TABLE prices (id INT NULL, ok BIT NULL DEFAULT 'Yes',
      net DECIMAL(5,2) DEFAULT ((-1.50)), PRIMARY KEY (ID));") = .ok s := by decide +kernel
  exact ⟨read, (parse_wellFormed read).1⟩

end Ddl

end TableLoad
