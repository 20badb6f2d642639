import Mathlib.Data.List.ReduceOption
import TableLoad.Proofs.Schema.Lookup
import TableLoad.Proofs.Text.Blank
import TableLoad.Schema.Headers

/-! # Headers and columns

No two headers get one column, so no cell is lost under headers.  Headers that are the very names
of columns get those columns, and one that holds a listed word gets the first free column by the
list.
-/
namespace TableLoad.Schema
open Text

variable {s : Schema}

/-- Slots in which no column of the table stands twice, and none that was taken before. -/
structure IsMatching (s : Schema) (taken : List Nat) (slots : List (Option Nat)) : Prop where
  known : ∀ p, some p ∈ slots → p < s.columns.length
  free : ∀ p, some p ∈ slots → p ∉ taken
  apart : slots.reduceOption.Nodup

theorem IsMatching.nil (s : Schema) (taken : List Nat) : IsMatching s taken [] :=
  ⟨by simp, by simp, .nil⟩

theorem IsMatching.none_cons {taken : List Nat} {slots : List (Option Nat)}
    (h : IsMatching s taken slots) : IsMatching s taken (none :: slots) :=
  ⟨by simpa using h.known, by simpa using h.free, h.apart⟩

theorem IsMatching.some_cons {taken : List Nat} {slots : List (Option Nat)} {p : Nat}
    (h : IsMatching s taken slots) (known : p < s.columns.length) (free : p ∉ taken)
    (new : some p ∉ slots) : IsMatching s taken (some p :: slots) where
  known q hq := by
    rcases List.mem_cons.1 hq with same | later
    · rwa [Option.some.inj same]
    · exact h.known q later
  free q hq := by
    rcases List.mem_cons.1 hq with same | later
    · rwa [Option.some.inj same]
    · exact h.free q later
  apart := by
    rw [List.reduceOption_cons_of_some, List.nodup_cons, List.reduceOption_mem_iff]
    exact ⟨new, h.apart⟩

theorem IsMatching.of_cons {taken : List Nat} {slots : List (Option Nat)} {p : Nat}
    (h : IsMatching s (p :: taken) slots) : IsMatching s taken slots ∧ some p ∉ slots :=
  ⟨⟨h.known, fun q hq old => h.free q hq (List.mem_cons_of_mem p old), h.apart⟩,
    fun again => h.free p again List.mem_cons_self⟩

theorem lt_of_position? {name : String} {p : Nat} (h : s.position? name = some p) :
    p < s.columns.length := by
  obtain ⟨known, -⟩ := List.findIdx?_eq_some_iff_getElem.1 h
  exact known

theorem length_matchNames (s : Schema) (taken : List Nat) (headers : List String) :
    (s.matchNames taken headers).1.length = headers.length := by
  fun_induction matchNames s taken headers with
  | case1 => rfl
  | case2 taken header rest p named old slots after eq ih =>
    rw [eq] at ih
    simpa using ih
  | case3 taken header rest p named new slots after eq ih =>
    rw [eq] at ih
    simpa using ih
  | case4 taken header rest unnamed slots after eq ih =>
    rw [eq] at ih
    simpa using ih

/-- Names are matched to free columns, and what they get is taken. -/
theorem matchNames_isMatching (s : Schema) (taken : List Nat) (headers : List String) :
    IsMatching s taken (s.matchNames taken headers).1 ∧
      ∀ p, p ∈ (s.matchNames taken headers).2 ↔
        some p ∈ (s.matchNames taken headers).1 ∨ p ∈ taken := by
  fun_induction matchNames s taken headers with
  | case1 taken => exact ⟨.nil s taken, by simp⟩
  | case2 taken header rest p named old slots after eq ih =>
    rw [eq] at ih
    exact ⟨ih.1.none_cons, by simpa using ih.2⟩
  | case3 taken header rest p named new slots after eq ih =>
    rw [eq] at ih
    obtain ⟨later, once⟩ := ih.1.of_cons
    refine ⟨later.some_cons (lt_of_position? named) (by simpa using new) once, fun q => ?_⟩
    rw [ih.2, List.mem_cons, List.mem_cons, Option.some.injEq]
    tauto
  | case4 taken header rest unnamed slots after eq ih =>
    rw [eq] at ih
    exact ⟨ih.1.none_cons, by simpa using ih.2⟩

/-- The entry of the list of words is for the column at the place, and the header, in lower case,
holds one of its words. -/
def IsWordedBy (s : Schema) (header : String) (entry : String × List String) (p : Nat) : Prop :=
  s.position? entry.1 = some p ∧
    ∃ word ∈ entry.2, word.toList <:+: lowercase (trimmed header.toList)

theorem occursIn_iff {word s : List Char} : occursIn word s = true ↔ word <:+: s := by
  induction s with
  | nil => simp [occursIn]
  | cons c s ih => simp [occursIn, ih, List.infix_cons_iff]

def freeByWords? (s : Schema) (taken : List Nat) (header : String)
    (entry : String × List String) : Option Nat :=
  (s.position? entry.1).filter fun p =>
    !taken.contains p && entry.2.any fun w => occursIn w.toList (lowercase (trimmed header.toList))

theorem columnByWord?_eq_findSome? (s : Schema) (taken : List Nat) (header : String) :
    s.columnByWord? taken header = headerWords.findSome? (s.freeByWords? taken header) := by
  rw [columnByWord?]
  congr 1
  funext ⟨name, words⟩
  dsimp only
  rw [freeByWords?]
  cases s.position? name <;> rfl

theorem freeByWords?_eq_some_iff {taken : List Nat} {header : String}
    {entry : String × List String} {p : Nat} : s.freeByWords? taken header entry = some p ↔
      s.IsWordedBy header entry p ∧ p ∉ taken := by
  rw [freeByWords?, Option.filter_eq_some_iff, IsWordedBy]
  simp only [Bool.and_eq_true, Bool.not_eq_true', List.contains_eq_mem, decide_eq_false_iff_not,
    List.any_eq_true, occursIn_iff]
  tauto

theorem freeByWords?_eq_none_iff {taken : List Nat} {header : String}
    {entry : String × List String} : s.freeByWords? taken header entry = none ↔
      ∀ p, s.IsWordedBy header entry p → p ∈ taken := by
  simp only [Option.eq_none_iff_forall_ne_some, ne_eq, freeByWords?_eq_some_iff, not_and, not_not]

theorem columnByWord?_eq_some_iff {taken : List Nat} {header : String} {p : Nat} :
    s.columnByWord? taken header = some p ↔ ∃ before entry after,
      headerWords = before ++ entry :: after ∧ (s.IsWordedBy header entry p ∧ p ∉ taken) ∧
        ∀ other ∈ before, ∀ q, s.IsWordedBy header other q → q ∈ taken := by
  simp only [columnByWord?_eq_findSome?, List.findSome?_eq_some_iff, freeByWords?_eq_some_iff,
    freeByWords?_eq_none_iff]

theorem columnByWord?_eq_none_iff {taken : List Nat} {header : String} :
    s.columnByWord? taken header = none ↔
      ∀ entry ∈ headerWords, ∀ p, s.IsWordedBy header entry p → p ∈ taken := by
  simp only [columnByWord?_eq_findSome?, List.findSome?_eq_none_iff, freeByWords?_eq_none_iff]

theorem columnByWord?_eq_some {taken : List Nat} {header : String} {p : Nat}
    (h : s.columnByWord? taken header = some p) : p < s.columns.length ∧ p ∉ taken := by
  obtain ⟨before, entry, after, -, ⟨word, new⟩, -⟩ := columnByWord?_eq_some_iff.1 h
  exact ⟨lt_of_position? word.1, new⟩

theorem length_matchWords (s : Schema) (taken : List Nat) (items : List (String × Option Nat)) :
    (s.matchWords taken items).length = items.length := by
  fun_induction matchWords s taken items with
  | case1 => rfl
  | case2 taken header p rest ih => simpa using ih
  | case3 taken header rest p word ih => simpa using ih
  | case4 taken header rest wordless ih => simpa using ih

/-- Words get columns that are still free; what names have got stays. -/
theorem matchWords_isMatching (taken : List Nat) {items : List (String × Option Nat)}
    (kept : ∀ p, some p ∈ items.map Prod.snd → p < s.columns.length ∧ p ∈ taken)
    (apart : (items.map Prod.snd).reduceOption.Nodup) :
    IsMatching s [] (s.matchWords taken items) ∧
      ∀ p, some p ∈ s.matchWords taken items → some p ∈ items.map Prod.snd ∨ p ∉ taken := by
  fun_induction matchWords s taken items with
  | case1 taken => exact ⟨.nil s [], by simp⟩
  | case2 taken header p rest ih =>
    rw [List.map_cons, List.reduceOption_cons_of_some, List.nodup_cons,
      List.reduceOption_mem_iff] at apart
    obtain ⟨known, old⟩ := kept p List.mem_cons_self
    obtain ⟨later, origin⟩ := ih (fun q hq => kept q (List.mem_cons_of_mem _ hq)) apart.2
    have once : some p ∉ s.matchWords taken rest := by
      intro again
      rcases origin p again with before | new
      · exact apart.1 before
      · exact new old
    refine ⟨later.some_cons known List.not_mem_nil once, fun q hq => ?_⟩
    rcases List.mem_cons.1 hq with same | hq
    · exact .inl (List.mem_cons.2 (.inl same))
    · exact (origin q hq).imp_left (List.mem_cons_of_mem _)
  | case3 taken header rest p word ih =>
    obtain ⟨known, new⟩ := columnByWord?_eq_some word
    have before (q : Nat) (hq : some q ∈ rest.map Prod.snd) := kept q (List.mem_cons_of_mem _ hq)
    obtain ⟨later, origin⟩ :=
      ih (fun q hq => (before q hq).imp_right (List.mem_cons_of_mem p)) apart
    -- What comes later is either named, hence taken before, or free even of `p`.
    have once : some p ∉ s.matchWords (p :: taken) rest := by
      intro again
      rcases origin p again with named | other
      · exact new (before p named).2
      · exact other List.mem_cons_self
    refine ⟨later.some_cons known List.not_mem_nil once, fun q hq => ?_⟩
    rcases List.mem_cons.1 hq with same | hq
    · rw [Option.some.inj same]
      exact .inr new
    · exact (origin q hq).imp (List.mem_cons_of_mem _) (mt (List.mem_cons_of_mem p))
  | case4 taken header rest wordless ih =>
    obtain ⟨later, origin⟩ := ih (fun q hq => kept q (List.mem_cons_of_mem _ hq)) apart
    refine ⟨later.none_cons, fun q hq => ?_⟩
    have hq : some q ∈ s.matchWords taken rest := by simpa using hq
    exact (origin q hq).imp_left (List.mem_cons_of_mem _)

theorem length_matchHeaders (s : Schema) (headers : List String) :
    (s.matchHeaders headers).length = headers.length := by
  rw [matchHeaders]
  dsimp only
  rw [length_matchWords, List.length_zip, length_matchNames, Nat.min_self]

/-- No two headers get one column. -/
theorem matchHeaders_isMatching (s : Schema) (headers : List String) :
    IsMatching s [] (s.matchHeaders headers) := by
  have slots : (headers.zip (s.matchNames [] headers).1).map Prod.snd =
      (s.matchNames [] headers).1 :=
    List.map_snd_zip (length_matchNames s [] headers).le
  obtain ⟨named, taken⟩ := matchNames_isMatching s [] headers
  refine (matchWords_isMatching _ (fun p hp => ?_) ?_).1
  · rw [slots] at hp
    exact ⟨named.known p hp, (taken p).2 (.inl hp)⟩
  · rw [slots]
    exact named.apart

section Names
variable {table : String} {columns : List Column}

theorem position?_eq_some_iff (made : Schema.make table columns = .ok s)
    (plain : ∀ c ∈ s.columns, IsTrimmed c.name.toList) {c : Column} (hc : c ∈ s.columns) {p : Nat} :
    s.position? (trim c.name) = some p ↔ s.columns[p]? = some c := by
  have own : trim c.name = c.name := by
    rw [trim, (plain c hc).trimmed_eq, String.ofList_toList]
  rw [own, position?_eq_some_iff_caseless made]
  constructor
  · rintro ⟨d, hd, alike⟩
    obtain ⟨q, hq⟩ := List.mem_iff_getElem?.1 hc
    rw [eq_of_key_eq (nodup_keys made) hd hq (lowercase_eq_of_eqAsciiCaseless alike), hq]
  · intro place
    exact ⟨c, place, eqAsciiCaseless_self _⟩

theorem exists_position?_of_name (made : Schema.make table columns = .ok s)
    (plain : ∀ c ∈ s.columns, IsTrimmed c.name.toList) {name : String}
    (known : name ∈ s.columns.map Column.name) :
    ∃ p c, s.position? (trim name) = some p ∧ s.columns[p]? = some c ∧ c.name = name := by
  obtain ⟨c, hc, rfl⟩ := List.mem_map.1 known
  obtain ⟨p, hp⟩ := List.mem_iff_getElem?.1 hc
  exact ⟨p, c, (position?_eq_some_iff made plain hc).2 hp, hp, rfl⟩

theorem matchNames_eq {taken : List Nat} {headers : List String}
    (named : ∀ h ∈ headers, ∃ p, s.position? (trim h) = some p)
    (apart : (headers.map fun h => s.position? (trim h)).Nodup)
    (free : ∀ h ∈ headers, ∀ p ∈ taken, s.position? (trim h) ≠ some p) :
    (s.matchNames taken headers).1 = headers.map fun h => s.position? (trim h) := by
  induction headers generalizing taken with
  | nil => rfl
  | cons header headers ih =>
    obtain ⟨p, found⟩ := named header List.mem_cons_self
    obtain ⟨once, later⟩ := List.nodup_cons.1 apart
    have new : p ∉ taken := fun old => free header List.mem_cons_self p old found
    have rest : (s.matchNames (p :: taken) headers).1 =
        headers.map fun h => s.position? (trim h) := by
      refine ih (fun h hh => named h (List.mem_cons_of_mem _ hh)) later fun h hh q hq same => ?_
      rcases List.mem_cons.1 hq with rfl | hq
      · exact once (List.mem_map.2 ⟨h, hh, same.trans found.symm⟩)
      · exact free h (List.mem_cons_of_mem _ hh) q hq same
    rw [matchNames, found]
    simp [new, rest, found]

theorem matchWords_of_isSome {taken : List Nat} {items : List (String × Option Nat)}
    (full : ∀ slot ∈ items.map Prod.snd, slot.isSome = true) :
    s.matchWords taken items = items.map Prod.snd := by
  induction items with
  | nil => rfl
  | cons item items ih =>
    obtain ⟨header, slot⟩ := item
    obtain ⟨p, rfl⟩ := Option.isSome_iff_exists.1 (full slot List.mem_cons_self)
    rw [matchWords, ih fun slot hs => full slot (List.mem_cons_of_mem _ hs)]
    rfl

/-- Headers that are different names of columns get those columns. -/
theorem matchHeaders_eq (made : Schema.make table columns = .ok s)
    (plain : ∀ c ∈ s.columns, IsTrimmed c.name.toList) {headers : List String}
    (distinct : headers.Nodup) (named : ∀ h ∈ headers, h ∈ s.columns.map Column.name) :
    s.matchHeaders headers = headers.map fun h => s.position? (trim h) := by
  have place (h : String) (hh : h ∈ headers) := exists_position?_of_name made plain (named h hh)
  have found (h : String) (hh : h ∈ headers) : ∃ p, s.position? (trim h) = some p := by
    obtain ⟨p, c, hp, -⟩ := place h hh
    exact ⟨p, hp⟩
  have apart : (headers.map fun h => s.position? (trim h)).Nodup := by
    refine List.Nodup.map_on (fun a ha b hb same => ?_) distinct
    obtain ⟨p, c, hp, hc, rfl⟩ := place a ha
    obtain ⟨q, d, hq, hd, rfl⟩ := place b hb
    rw [hp, hq] at same
    rw [Option.some.inj same, hd] at hc
    rw [Option.some.inj hc]
  have names : (s.matchNames [] headers).1 = headers.map fun h => s.position? (trim h) :=
    matchNames_eq found apart (by simp)
  have slots : (headers.zip (s.matchNames [] headers).1).map Prod.snd =
      headers.map fun h => s.position? (trim h) := by
    rw [List.map_snd_zip (length_matchNames s [] headers).le, names]
  rw [matchHeaders]
  dsimp only
  rw [matchWords_of_isSome, slots]
  intro slot hs
  rw [slots] at hs
  obtain ⟨h, hh, rfl⟩ := List.mem_map.1 hs
  obtain ⟨p, hp⟩ := found h hh
  rw [hp]
  rfl

end Names

end TableLoad.Schema
