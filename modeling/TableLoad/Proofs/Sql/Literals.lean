import TableLoad.Proofs.Sql.Reading
import TableLoad.Proofs.Record.Prepared
import TableLoad.Proofs.Text.Quoted

/-! # Reading names and literals back

A quoted name reads back as the name, and the literal of a value as the value, in every dialect,
whatever characters they hold and whatever stands behind them.
-/
namespace TableLoad

def Value.IsOfType (type : ColumnType) : Value → Prop
  | .null => True
  | .integer _ => type = .integer
  | .decimal _ => ∃ p, type = .decimal p
  | .text _ => ∃ limit, type = .text limit
  | .boolean _ => type = .boolean
  | .timestamp _ => type = .timestamp

theorem isOfType_of_elim {α : Type} {type : ColumnType} {f : α → Value} {v : Value}
    {found : Option α} {reason : Misfit} (each : ∀ a, (f a).IsOfType type)
    (h : (found.map f).elim (.error reason) .ok = Except.ok v) : v.IsOfType type := by
  cases found with
  | none => cases h
  | some a =>
    cases h
    exact each a

theorem Cell.isOfType_of_value {cell : Cell} {type : ColumnType} {v : Value}
    (h : cell.value type = .ok v) : v.IsOfType type := by
  cases type with
  | integer =>
    cases cell with
    | null => cases h; trivial
    | boolean b => cases h; rfl
    | number n => exact isOfType_of_elim (f := .integer) (fun _ => rfl) h
    | text s => exact isOfType_of_elim (f := .integer) (fun _ => rfl) h
  | decimal p =>
    cases cell with
    | null => cases h; trivial
    | boolean b => cases h
    | number n =>
      simp only [Cell.value, decimalValue] at h
      split at h
      · cases h
        exact ⟨p, rfl⟩
      · cases h
    | text s => exact isOfType_of_elim (f := .decimal) (fun _ => ⟨p, rfl⟩) h
  | text limit =>
    cases cell <;> cases h
    · trivial
    · exact ⟨limit, rfl⟩
    · exact ⟨limit, rfl⟩
    · exact ⟨limit, rfl⟩
  | boolean =>
    cases cell with
    | null => cases h; trivial
    | boolean b => cases h; rfl
    | number n =>
      simp only [Cell.value, booleanValue] at h
      split at h
      · cases h
        rfl
      · split at h
        · cases h
          rfl
        · cases h
    | text s => exact isOfType_of_elim (f := .boolean) (fun _ => rfl) h
  | timestamp =>
    cases cell with
    | null => cases h; trivial
    | boolean b => cases h
    | number n => exact isOfType_of_elim (f := .timestamp) (fun _ => rfl) h
    | text s => exact isOfType_of_elim (f := .timestamp) (fun _ => rfl) h

namespace Sql.Reading
open Text Number Calendar

/-- Doubling is undone up to the first mark that stands alone. -/
theorem undoubled?_doubling {special : List Char} {last : Char} (isSpecial : last ∈ special)
    (s : List Char) {rest : List Char} (stop : rest.head? ≠ some last) :
    undoubled? special last (doubling special s ++ last :: rest) = some (s, rest) := by
  induction s with
  | nil =>
    cases rest with
    | nil => simp [undoubled?]
    | cons d rest =>
      have differ : last ≠ d := by
        rintro rfl
        exact stop rfl
      simp [undoubled?, isSpecial, differ]
  | cons c s ih =>
    by_cases hc : c ∈ special
    · simp [undoubled?, hc, ih]
    · obtain ⟨d, t, ht⟩ : ∃ d t, doubling special s ++ last :: rest = d :: t :=
        List.exists_cons_of_ne_nil (by simp)
      simp only [doubling_cons, List.contains_eq_mem, hc, decide_false, Bool.false_eq_true,
        ↓reduceIte, List.cons_append, List.nil_append]
      rw [ht, undoubled?, if_neg hc, ← ht, ih]
      rfl

theorem enclosedTail_run {special : List Char} {last : Char} (isSpecial : last ∈ special)
    (s : List Char) {rest : List Char} (stop : rest.head? ≠ some last) :
    enclosedTail special last (doubling special s ++ last :: rest) =
      some (String.ofList s, rest) := by
  rw [enclosedTail, undoubled?_doubling isSpecial s stop]
  rfl

/-- A quoted name is read back, whatever follows but another closing mark. -/
theorem name_run (d : Dialect) (shown : String) {rest : List Char}
    (stop : rest.head? ≠ some (nameMarks d).2) :
    name d ((d.quoteName shown).toList ++ rest) = some (shown, rest) := by
  have marks : d.nameMarks = nameMarks d := by cases d <;> rfl
  rw [Dialect.quoteName, String.toList_ofList, marks, enclosed, List.cons_append,
    List.append_assoc, name, Scan.bind_run (Scan.char_cons_self _ _), List.singleton_append,
    enclosedTail_run List.mem_cons_self _ stop, String.ofList_toList]

def EndsItem (rest : List Char) : Prop := ∀ c ∈ rest.head?, c = ',' ∨ c = ')'

theorem EndsItem.head?_ne {rest : List Char} (h : EndsItem rest) {c : Char} (hc : c ≠ ',')
    (hp : c ≠ ')') : rest.head? ≠ some c := by
  intro he
  exact (h c he).elim hc hp

theorem string_run (d : Dialect) (mark : List Char) (isMark : mark = [] ∨ mark = d.literalMark)
    (s : List Char) {rest : List Char} (follow : EndsItem rest) :
    string d (mark ++ '\'' :: (doubling d.literalSpecials s ++ '\'' :: rest)) =
      some (String.ofList s, rest) := by
  have stop : rest.head? ≠ some '\'' := follow.head?_ne (by decide) (by decide)
  have same : doubling d.literalSpecials s = doubling (stringSpecials d) s := by
    refine doubling_congr fun c _ => ?_
    cases d <;> simp [Dialect.literalSpecials, stringSpecials, or_comm]
  have skip : stringMark d (mark ++ '\'' :: (doubling d.literalSpecials s ++ '\'' :: rest)) =
      some ((), '\'' :: (doubling d.literalSpecials s ++ '\'' :: rest)) := by
    rcases isMark with rfl | rfl
    · cases d <;> rfl
    · cases d <;> rfl
  rw [string, Scan.bind_run skip, Scan.bind_run (Scan.char_cons_self _ _), same]
  exact enclosedTail_run (by cases d <;> simp [stringSpecials]) s stop

theorem string_refused (d : Dialect) {c : Char} {s : List Char} (first : c ≠ '\'')
    (second : s.head? ≠ some '\'') : string d (c :: s) = none := by
  have plain : Scan.char '\'' (c :: s) = none := Scan.char_cons_ne first s
  have next : Scan.char '\'' s = none := by
    cases s with
    | nil => rfl
    | cons d s =>
      refine Scan.char_cons_ne (fun he => second ?_) s
      rw [he]
      rfl
  cases d with
  | mysql => rw [string, Scan.bind_run (show stringMark .mysql _ = _ from rfl),
      Scan.bind_refused plain]
  | postgresql => rw [string, Scan.bind_run (show stringMark .postgresql _ = _ from rfl),
      Scan.bind_refused plain]
  | sqlite => rw [string, Scan.bind_run (show stringMark .sqlite _ = _ from rfl),
      Scan.bind_refused plain]
  | sqlserver =>
    by_cases hc : c = 'N'
    · subst hc
      rw [string, Scan.bind_run (show stringMark .sqlserver ('N' :: s) = some ((), s) from rfl),
        Scan.bind_refused next]
    · have mark : stringMark .sqlserver (c :: s) = some ((), c :: s) := by
        rw [stringMark, Scan.bind_run (Scan.optional_refused (Scan.char_cons_ne hc s))]
        rfl
      rw [string, Scan.bind_run mark, Scan.bind_refused plain]

theorem literal_bare_run (d : Dialect) (shown : List Char) {rest : List Char} (filled : shown ≠ [])
    (bare : ∀ c ∈ shown, isBareChar c = true) (follow : EndsItem rest) :
    literal d (shown ++ rest) = some (.bare (String.ofList shown), rest) := by
  have stop : ∀ c ∈ rest.head?, isBareChar c = false := by
    intro c hc
    rcases follow c hc with rfl | rfl <;> decide
  have apostrophe : isBareChar '\'' = false := by decide
  have refused : string d (shown ++ rest) = none := by
    obtain ⟨c, s, rfl⟩ := List.exists_cons_of_ne_nil filled
    simp only [List.forall_mem_cons] at bare
    refine string_refused d (fun he => ?_) fun he => ?_
    · rw [he, apostrophe] at bare
      exact absurd bare.1 (by decide)
    · cases s with
      | nil => exact follow.head?_ne (by decide) (by decide) he
      | cons c' s =>
        have same : c' = '\'' := Option.some.inj he
        rw [same, List.forall_mem_cons, apostrophe] at bare
        exact absurd bare.2.1 (by decide)
  rw [literal, Scan.orElse_refused (Scan.bind_refused refused),
    Scan.bind_run (Scan.some1_run filled bare stop)]
  rfl

theorem literal_string_run (d : Dialect) (mark : List Char)
    (isMark : mark = [] ∨ mark = d.literalMark) (s : List Char) {rest : List Char}
    (follow : EndsItem rest) :
    literal d (mark ++ '\'' :: (doubling d.literalSpecials s ++ '\'' :: rest)) =
      some (.string (String.ofList s), rest) := by
  rw [literal]
  apply Scan.orElse_run
  rw [Scan.bind_run (string_run d mark isMark s follow)]
  rfl

theorem isBareChar_of_isNumeralChar {c : Char} (h : isNumeralChar c = true) :
    isBareChar c = true := by
  simp only [isNumeralChar, Bool.or_eq_true, List.contains_eq_mem, List.mem_cons,
    List.not_mem_nil, or_false, decide_eq_true_eq] at h
  rcases h with h | rfl | rfl | rfl | rfl | rfl | rfl | rfl
  · simp [isBareChar, Char.isAlphanum, h]
  all_goals decide

theorem ne_NULL_of_isNumeralChar {shown : List Char} (all : ∀ c ∈ shown, isNumeralChar c = true) :
    String.ofList shown ≠ "NULL" := by
  intro he
  have list : shown = ['N', 'U', 'L', 'L'] := by
    rw [← String.toList_ofList (l := shown), he]
    rfl
  exact absurd (all 'U' (by simp [list])) (by decide)

theorem isNumeralChar_of_mem_toString {i : Int} {c : Char} (h : c ∈ (toString i).toList) :
    isNumeralChar c = true := by
  rw [toList_toString_int] at h
  split at h
  · rcases List.mem_cons.1 h with rfl | h
    · decide
    · exact isNumeralChar_of_isDigit (isDigit_of_mem_digits h)
  · exact isNumeralChar_of_isDigit (isDigit_of_mem_digits h)

theorem cases_of_mem_chars {m : Moment} {c : Char} (h : c ∈ m.chars) :
    c.isDigit = true ∨ c = '-' ∨ c = '+' ∨ c = ':' ∨ c = ' ' := by
  simp only [Moment.chars, Date.chars, Time.chars, yearChars, List.mem_append, List.mem_cons] at h
  rcases h with (h | rfl | h | rfl | h) | rfl | h | rfl | h | rfl | h
  · split at h
    · rcases List.mem_cons.1 h with rfl | h
      · simp
      · exact .inl (isDigit_of_mem_padded h)
    · split at h
      · rcases List.mem_cons.1 h with rfl | h
        · simp
        · exact .inl (isDigit_of_mem_padded h)
      · exact .inl (isDigit_of_mem_padded h)
  all_goals first
    | exact .inl (isDigit_of_mem_padded h)
    | simp

theorem not_special_of_mem_chars (d : Dialect) {m : Moment} {c : Char} (h : c ∈ m.chars) :
    c ∉ d.literalSpecials := by
  have plain := cases_of_mem_chars h
  have special : ∀ c ∈ d.literalSpecials, c = '\\' ∨ c = '\'' := by cases d <;> decide
  intro hs
  rcases special c hs with rfl | rfl <;> revert plain <;> decide

/-- The literal of a value is read, and stands for the value in its column. -/
theorem literal_run (d : Dialect) {type : ColumnType} {v : Value} (fits : v.IsOfType type)
    {rest : List Char} (follow : EndsItem rest) :
    ∃ l, datum? d type l = some (v.datum type) ∧
      literal d ((d.literal type v).toList ++ rest) = some (l, rest) := by
  cases v with
  | null =>
    refine ⟨.bare "NULL", by simp [datum?, Value.datum], ?_⟩
    exact literal_bare_run d "NULL".toList (by decide) (by decide) follow
  | integer i =>
    obtain rfl : type = .integer := fits
    have filled : (toString i).toList ≠ [] := by
      rw [toList_toString_int]
      split <;> simp [digits_ne_nil]
    refine ⟨.bare (toString i), ?_, ?_⟩
    · have word : toString i ≠ "NULL" := by
        rw [← String.ofList_toList (s := toString i)]
        exact ne_NULL_of_isNumeralChar fun c => isNumeralChar_of_mem_toString
      simp only [datum?, if_neg word, int?_toString, Option.map_some, Value.datum]
    · have read := literal_bare_run d _ filled
        (fun c hc => isBareChar_of_isNumeralChar (isNumeralChar_of_mem_toString hc)) follow
      rwa [String.ofList_toList] at read
  | decimal n =>
    obtain ⟨p, rfl⟩ := fits
    obtain ⟨shown, written, filled, all⟩ : ∃ shown : List Char,
        d.literal (.decimal p) (.decimal n) = String.ofList shown ∧ shown ≠ [] ∧
          ∀ c ∈ shown, isNumeralChar c = true := by
      cases p with
      | none => exact ⟨_, rfl, n.chars_ne_nil, fun c => Binary64.isNumeralChar_of_mem_chars⟩
      | some p =>
        exact ⟨_, rfl, n.fixedChars_ne_nil _, fun c => Binary64.isNumeralChar_of_mem_fixedChars⟩
    have same : (Value.decimal n).datum (.decimal p) = .numeral (String.ofList shown) := by
      rw [← written]
      cases p <;> rfl
    refine ⟨.bare (String.ofList shown), ?_, ?_⟩
    · simp only [datum?, if_neg (ne_NULL_of_isNumeralChar all), same]
    · rw [written, String.toList_ofList]
      exact literal_bare_run d shown filled (fun c hc => isBareChar_of_isNumeralChar (all c hc)) follow
  | text s =>
    obtain ⟨limit, rfl⟩ := fits
    refine ⟨.string s, rfl, ?_⟩
    have read := literal_string_run d d.literalMark (.inr rfl) s.toList follow
    simpa [Dialect.literal, Dialect.stringLiteral, Dialect.literalChars] using read
  | boolean b =>
    obtain rfl : type = .boolean := fits
    refine ⟨.bare (d.booleanLiteral b), ?_, ?_⟩
    · cases d <;> cases b <;> decide
    · have read := literal_bare_run d (d.booleanLiteral b).toList
        (by cases d <;> cases b <;> decide) (by cases d <;> cases b <;> decide) follow
      rwa [String.ofList_toList] at read
  | timestamp m =>
    obtain rfl : type = .timestamp := fits
    refine ⟨.string m.text, ?_, ?_⟩
    · simp [datum?, Value.datum, Moment.text, fields?_chars]
    · have plain := doubling_eq_self fun c hc => not_special_of_mem_chars d (m := m) hc
      have read := literal_string_run d [] (.inl rfl) m.chars follow
      rw [plain] at read
      simpa [Dialect.literal, Moment.text] using read

end Sql.Reading

end TableLoad
