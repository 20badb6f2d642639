import TableLoad.Proofs.Schema.Headers

/-! # Which header gets which column

The first header that is the name of a column gets the column.  Each other header gets the first
listed column that it holds a word for, among those that neither a name nor an earlier header has
taken; so a header stays without a column only if all columns it holds words for are taken.
-/
namespace TableLoad
open Text

/-- The header is the name of the column, up to blanks at its ends and the case of ASCII letters. -/
def Column.IsNamedBy (c : Column) (header : String) : Prop :=
  eqAsciiCaseless c.name.toList (trimmed header.toList) = true

namespace Schema

variable {s : Schema} {table : String} {columns : List Column}

theorem position?_trim_eq_some_iff (made : Schema.make table columns = .ok s) {header : String}
    {p : Nat} : s.position? (trim header) = some p ↔
      ∃ c, s.columns[p]? = some c ∧ c.IsNamedBy header := by
  rw [position?_eq_some_iff_caseless made, trim_toList]
  rfl

/-- A header that is a name gets the column if the column is free and no earlier header has the
name. -/
theorem getElem?_matchNames (s : Schema) (taken : List Nat) (headers : List String) (i p : Nat) :
    (s.matchNames taken headers).1[i]? = some (some p) ↔
      ∃ header, headers[i]? = some header ∧ s.position? (trim header) = some p ∧ p ∉ taken ∧
        ∀ earlier ∈ headers.take i, s.position? (trim earlier) ≠ some p := by
  fun_induction matchNames s taken headers generalizing i with
  | case1 taken => simp
  | case2 taken header rest q named old slots after eq ih =>
    rw [eq] at ih
    have old : q ∈ taken := by simpa using old
    cases i with
    | zero =>
      have other : q = p → p ∈ taken := fun same => same ▸ old
      simpa [named] using other
    | succ i =>
      have other : p ∉ taken → s.position? (trim header) ≠ some p := by
        rw [named]
        rintro new ⟨⟩
        exact new old
      simp only [List.getElem?_cons_succ, List.take_succ_cons, List.forall_mem_cons, ih]
      grind
  | case3 taken header rest q named new slots after eq ih =>
    rw [eq] at ih
    have new : q ∉ taken := by simpa using new
    cases i with
    | zero =>
      have own : q = p → p ∉ taken := fun same => same ▸ new
      simpa [named] using own
    | succ i =>
      simp only [List.getElem?_cons_succ, List.take_succ_cons, List.mem_cons, ih, not_or]
      grind
  | case4 taken header rest unnamed slots after eq ih =>
    rw [eq] at ih
    cases i with
    | zero => simp [unnamed]
    | succ i => simp [ih, unnamed]

theorem getElem?_matchWords_of_some {taken : List Nat} {items : List (String × Option Nat)}
    {i p : Nat} {header : String} (h : items[i]? = some (header, some p)) :
    (s.matchWords taken items)[i]? = some (some p) := by
  fun_induction matchWords s taken items generalizing i with
  | case1 taken => simp at h
  | case2 | case3 | case4 =>
    cases i with
    | zero => simp_all
    | succ i => simp_all

/-- A header without a name gets the first column it holds a word for that is free, the columns of
the headers before it being taken. -/
theorem getElem?_matchWords_of_none {taken : List Nat} {items : List (String × Option Nat)}
    (kept : ∀ p, some p ∈ items.map Prod.snd → p ∈ taken) {i : Nat} {header : String}
    (h : items[i]? = some (header, none)) : ∃ before,
      (∀ p, p ∈ before ↔ p ∈ taken ∨ some p ∈ (s.matchWords taken items).take i) ∧
        (s.matchWords taken items)[i]? = some (s.columnByWord? before header) := by
  fun_induction matchWords s taken items generalizing i with
  | case1 taken => simp at h
  | case2 taken first q rest ih =>
    have old : q ∈ taken := kept q (by simp)
    cases i with
    | zero => simp at h
    | succ i =>
      obtain ⟨before, all, got⟩ := ih (fun p hp => kept p (by simp [hp])) (by simpa using h)
      refine ⟨before, fun p => ?_, by simpa using got⟩
      rw [all, List.take_succ_cons, List.mem_cons, Option.some.injEq]
      grind
  | case3 taken first rest q word ih =>
    cases i with
    | zero =>
      obtain rfl : first = header := by simpa using h
      exact ⟨taken, by simp, by simp [word]⟩
    | succ i =>
      obtain ⟨before, all, got⟩ := ih (fun p hp => List.mem_cons_of_mem q (kept p (by simpa using hp)))
        (by simpa using h)
      refine ⟨before, fun p => ?_, by simpa using got⟩
      rw [all, List.take_succ_cons, List.mem_cons, List.mem_cons, Option.some.injEq]
      tauto
  | case4 taken first rest wordless ih =>
    cases i with
    | zero =>
      obtain rfl : first = header := by simpa using h
      exact ⟨taken, by simp, by simp [wordless]⟩
    | succ i =>
      obtain ⟨before, all, got⟩ := ih (fun p hp => kept p (by simpa using hp)) (by simpa using h)
      exact ⟨before, by simpa using all, by simpa using got⟩

/-- The header at a place is the name of a column, and no header before it is. -/
def IsFirstName (s : Schema) (headers : List String) (i p : Nat) : Prop :=
  ∃ header c, headers[i]? = some header ∧ s.columns[p]? = some c ∧ c.IsNamedBy header ∧
    ∀ earlier ∈ headers.take i, ¬ c.IsNamedBy earlier

theorem getElem?_matchNames_iff (made : Schema.make table columns = .ok s) {headers : List String}
    {i p : Nat} : (s.matchNames [] headers).1[i]? = some (some p) ↔ s.IsFirstName headers i p := by
  rw [getElem?_matchNames, IsFirstName]
  simp only [ne_eq, position?_trim_eq_some_iff made, not_exists, not_and, List.not_mem_nil,
    not_false_eq_true, true_and]
  constructor
  · rintro ⟨header, at?, ⟨c, hc, own⟩, first⟩
    exact ⟨header, c, at?, hc, own, fun earlier he => first earlier he c hc⟩
  · rintro ⟨header, c, at?, hc, own, first⟩
    refine ⟨header, at?, ⟨c, hc, own⟩, fun earlier he d hd => ?_⟩
    obtain rfl := Option.some.inj (hc.symm.trans hd)
    exact first earlier he

theorem mem_taken_iff (made : Schema.make table columns = .ok s) {headers : List String} {p : Nat} :
    p ∈ (s.matchNames [] headers).2 ↔ ∃ i, s.IsFirstName headers i p := by
  rw [(matchNames_isMatching s [] headers).2, List.mem_iff_getElem?]
  simp only [getElem?_matchNames_iff made, List.not_mem_nil, or_false]

theorem getElem?_matchHeaders (made : Schema.make table columns = .ok s) {headers : List String}
    {i : Nat} {header : String} (at? : headers[i]? = some header) :
    (∃ p, s.IsFirstName headers i p ∧ (s.matchHeaders headers)[i]? = some (some p)) ∨
      (∀ p, ¬ s.IsFirstName headers i p) ∧ ∃ before, (∀ p, p ∈ before ↔
        (∃ j, s.IsFirstName headers j p) ∨ some p ∈ (s.matchHeaders headers).take i) ∧
          (s.matchHeaders headers)[i]? = some (s.columnByWord? before header) := by
  have length := length_matchNames s [] headers
  have slots : (headers.zip (s.matchNames [] headers).1).map Prod.snd =
      (s.matchNames [] headers).1 := List.map_snd_zip length.le
  have inside : i < (s.matchNames [] headers).1.length := by
    rw [length]
    exact (List.getElem?_eq_some_iff.1 at?).1
  obtain ⟨slot, here⟩ : ∃ slot, (s.matchNames [] headers).1[i]? = some slot :=
    ⟨_, List.getElem?_eq_getElem inside⟩
  have item : (headers.zip (s.matchNames [] headers).1)[i]? = some (header, slot) :=
    List.getElem?_zip_eq_some.2 ⟨at?, here⟩
  cases slot with
  | some p =>
    left
    exact ⟨p, (getElem?_matchNames_iff made).1 here, getElem?_matchWords_of_some item⟩
  | none =>
    right
    constructor
    · intro p first
      rw [← getElem?_matchNames_iff made, here] at first
      cases first
    · simp only [← mem_taken_iff made]
      apply getElem?_matchWords_of_none _ item
      intro p hp
      rw [slots] at hp
      exact ((matchNames_isMatching s [] headers).2 p).2 (.inl hp)

/-- One slot for each header, in which names go first and words take what is left in order. -/
structure IsHeaderMatching (s : Schema) (headers : List String) (slots : List (Option Nat)) :
    Prop where
  length : slots.length = headers.length
  known : ∀ p, some p ∈ slots → p < s.columns.length
  apart : slots.reduceOption.Nodup
  /-- The first header that is the name of a column gets the column. -/
  named : ∀ i p, s.IsFirstName headers i p → slots[i]? = some (some p)
  /-- Any other header with a column holds a word for it, and what it holds words for in earlier
  entries of the list has gone to a name or to an earlier header. -/
  worded : ∀ i header p, headers[i]? = some header → slots[i]? = some (some p) →
    s.IsFirstName headers i p ∨ ∃ before entry after, headerWords = before ++ entry :: after ∧
      s.IsWordedBy header entry p ∧ ∀ other ∈ before, ∀ q, s.IsWordedBy header other q →
        (∃ j, s.IsFirstName headers j q) ∨ some q ∈ slots.take i
  /-- A header stays without a column only if others have all that it holds words for. -/
  maximal : ∀ (i : Nat) (header : String), headers[i]? = some header → slots[i]? = some none →
    ∀ entry ∈ headerWords, ∀ p, s.IsWordedBy header entry p → some p ∈ slots

/-- Headers are matched in two passes, names before words, and nothing is given twice. -/
theorem matchHeaders_isHeaderMatching (made : Schema.make table columns = .ok s)
    (headers : List String) : s.IsHeaderMatching headers (s.matchHeaders headers) := by
  have matching := matchHeaders_isMatching s headers
  have named (i p : Nat) (first : s.IsFirstName headers i p) :
      (s.matchHeaders headers)[i]? = some (some p) := by
    obtain ⟨header, c, at?, hc, own, -⟩ := id first
    rcases getElem?_matchHeaders made at? with ⟨q, first', got⟩ | ⟨none, -⟩
    · have same := (getElem?_matchNames_iff made).2 first
      rw [(getElem?_matchNames_iff made).2 first'] at same
      rw [got, Option.some.inj same]
    · exact absurd first (none p)
  refine ⟨length_matchHeaders s headers, matching.known, matching.apart, named,
    fun i header p at? got => ?_, fun i header at? none entry he p word => ?_⟩
  · rcases getElem?_matchHeaders made at? with ⟨q, first, got'⟩ | ⟨-, before, all, got'⟩
    · rw [got'] at got
      obtain rfl : q = p := by simpa using got
      exact .inl first
    · right
      rw [got', Option.some.injEq, columnByWord?_eq_some_iff] at got
      obtain ⟨front, entry, back, list, ⟨word, -⟩, others⟩ := got
      exact ⟨front, entry, back, list, word, fun other ho q hq => (all q).1 (others other ho q hq)⟩
  · rcases getElem?_matchHeaders made at? with ⟨q, first, got⟩ | ⟨-, before, all, got⟩
    · rw [got] at none
      cases none
    · rw [got, Option.some.injEq, columnByWord?_eq_none_iff] at none
      rcases (all p).1 (none entry he p word) with ⟨j, first⟩ | earlier
      · exact List.mem_of_getElem? (named j p first)
      · exact List.mem_of_mem_take earlier

/-- Two headers with words for columns that later headers name, and one with a word of its own. -/
theorem matchHeaders_isHeaderMatching_products :
    let s : Schema := {
      table := "produtos"
      columns := [
        { name := "nome", type := .text none },
        { name := "preco", type := .decimal (some ⟨10, 2⟩) },
        { name := "email", type := .text none }] }
    Schema.make "produtos" s.columns = .ok s ∧
      s.IsHeaderMatching ["Product Name", "E-Mail", "Unit Price", "obs", "PRECO", " Nome "]
        [none, some 2, none, none, some 1, some 0] := by
  intro s
  have made : Schema.make "produtos" s.columns = .ok s := by decide +kernel
  have slots : s.matchHeaders ["Product Name", "E-Mail", "Unit Price", "obs", "PRECO", " Nome "] =
      [none, some 2, none, none, some 1, some 0] := by decide +kernel
  exact ⟨made, slots ▸ matchHeaders_isHeaderMatching made _⟩

end Schema

end TableLoad
