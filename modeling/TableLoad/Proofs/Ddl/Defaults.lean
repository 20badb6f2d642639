import TableLoad.Ddl.Resolve
import TableLoad.Sql.CreateTable
import TableLoad.Proofs.Ddl.Tokens
import TableLoad.Proofs.Text.Case

/-! # Reading defaults back

A default that a dialect writes is read back, up to the numbers that stand for truth values.  What
follows it is the end of the column or another part of it.
-/
namespace TableLoad.Ddl
open Text Sql

/-- How the parts of a column start, behind a blank. -/
def openings : List String :=
  ["NOT NULL", "DEFAULT ", "UNIQUE", "PRIMARY KEY", "AUTO_INCREMENT", "AUTOINCREMENT", "CHECK (",
    "IDENTITY(1,1)"]

inductive EndsPart : List Char → Prop
  | nil : EndsPart []
  | comma (t : List Char) : EndsPart (',' :: t)
  | close (t : List Char) : EndsPart ('\n' :: ')' :: t)
  | part {opening : String} (h : opening ∈ openings) (t : List Char) :
      EndsPart (' ' :: (opening.toList ++ t))

namespace EndsPart
variable {rest : List Char}

theorem head?_mem (h : EndsPart rest) : ∀ c ∈ rest.head?, c = ',' ∨ c = '\n' ∨ c = ' ' := by
  cases h <;> simp

theorem endsWord (h : EndsPart rest) : EndsWord rest := by
  intro c hc
  rcases h.head?_mem c hc with rfl | rfl | rfl <;> rfl

theorem endsNumeral (h : EndsPart rest) : EndsNumeral rest := by
  intro c hc
  rcases h.head?_mem c hc with rfl | rfl | rfl <;> decide

theorem head?_ne_apostrophe (h : EndsPart rest) : rest.head? ≠ some '\'' := by
  intro he
  rcases h.head?_mem _ he with he | he | he <;> exact absurd he (by decide)

theorem refused {α : Type} {p : Scan α} (h : EndsPart rest) (nil : p [] = none)
    (comma : ∀ t, p (',' :: t) = none) (close : ∀ t, p (')' :: t) = none)
    (part : ∀ opening ∈ openings, ∀ t, p (opening.toList ++ t) = none) :
    (do gap; p : Scan α) rest = none := by
  cases h with
  | nil =>
    have token : AtToken [] := rfl
    rw [Scan.bind_run token.gap_run, nil]
  | comma t =>
    have token : AtToken (',' :: t) := rfl
    rw [Scan.bind_run token.gap_run, comma]
  | close t =>
    have token : AtToken (')' :: t) := rfl
    rw [Scan.bind_run ((gap_cons_of_blank (by decide) _).trans token.gap_run), close]
  | @part opening ho t =>
    have token : AtToken (opening.toList ++ t) := by fin_cases ho <;> rfl
    rw [Scan.bind_run token.gap_space, part opening ho]

end EndsPart

theorem group_refused_opening : ∀ opening ∈ openings, ∀ t, group (opening.toList ++ t) = none := by
  intro opening ho t
  fin_cases ho <;> rfl

theorem call_run {shown rest : List Char} (filled : shown ≠ [])
    (all : ∀ c ∈ shown, isWordChar c = true) (h : EndsPart rest) :
    call (shown ++ rest) = some (shown, rest) := by
  have alone : Scan.optional (do gap; group) rest = some (none, rest) :=
    Scan.optional_refused (h.refused rfl (fun _ => rfl) (fun _ => rfl) group_refused_opening)
  rw [call, Scan.bind_run (Scan.consumed_run (a := none) ?_)]
  · rfl
  · rw [Scan.bind_run (word_run filled all h.endsWord), alone]

theorem call_run_of_group {shown behind inner rest : List Char} (filled : shown ≠ [])
    (all : ∀ c ∈ shown, isWordChar c = true) (stop : EndsWord (behind ++ rest))
    (read : (do gap; group : Scan (List Char)) (behind ++ rest) = some (inner, rest)) :
    call (shown ++ behind ++ rest) = some (shown ++ behind, rest) := by
  rw [call, Scan.bind_run (Scan.consumed_run (a := some inner) ?_)]
  · rfl
  · rw [List.append_assoc, Scan.bind_run (word_run filled all stop)]
    exact Scan.optional_run read

theorem call_group_run (shown inner : List Char) (filled : shown ≠ [])
    (all : ∀ c ∈ shown, isWordChar c = true) (closed : Closed inner) (rest : List Char) :
    call (shown ++ '(' :: (inner ++ [')']) ++ rest) =
      some (shown ++ '(' :: (inner ++ [')']), rest) := by
  have token : AtToken ('(' :: (inner ++ [')']) ++ rest) := rfl
  have read : (do gap; group : Scan (List Char)) ('(' :: (inner ++ [')']) ++ rest) =
      some (inner, rest) := by
    rw [Scan.bind_run token.gap_run, List.cons_append, List.append_assoc, List.singleton_append,
      group_run closed]
  exact call_run_of_group filled all (endsWord_cons rfl _) read

theorem defaultValue_plain {s rest : List Char} {value : Default}
    (h : plainDefault s = some (value, rest)) : defaultValue s = some (value, rest) := by
  rw [defaultValue, h]

theorem defaultValue_group (inner : List Char) {s rest : List Char} {value : Default}
    (plain : plainDefault s = none) (read : group s = some (inner, rest))
    (body : defaultValue (trimmed inner) = some (value, [])) :
    defaultValue s = some (value, rest) := by
  rw [defaultValue, plain]
  simp only
  split
  · rename_i inner' rest' he
    rw [read] at he
    cases he
    have token : AtToken [] := rfl
    simp [body, token.afterGap_eq]
  · rename_i he
    rw [read] at he
    cases he

theorem defaultValue_call (shown : List Char) {s rest : List Char} (plain : plainDefault s = none)
    (refused : group s = none) (read : call s = some (shown, rest)) :
    defaultValue s = some (wordDefault shown, rest) := by
  rw [defaultValue, plain]
  simp only
  split
  · rename_i he
    rw [refused] at he
    cases he
  · rw [read]
    rfl

/-- A text that is read as a default from end to end, wherever a column may go on. -/
structure ReadsDefault (code : List Char) (value : Default) : Prop where
  run : ∀ rest, EndsPart rest → defaultValue (code ++ rest) = some (value, rest)
  closed : Closed code
  token : ∀ rest, AtToken (code ++ rest)

/-- A text of which nothing is left behind a default, wherever a column may go on. -/
def ReadsToEnd (code : List Char) : Prop := ∀ rest, EndsPart rest →
  ∃ value, (do gap; defaultValue : Scan Default) (code ++ rest) = some (value, rest)

namespace ReadsDefault

theorem readsToEnd {code : List Char} {value : Default} (h : ReadsDefault code value) :
    ReadsToEnd code :=
  fun rest hr => ⟨value, (Scan.bind_run (h.token rest).gap_run).trans (h.run rest hr)⟩

theorem word {shown : List Char} (filled : shown ≠ []) (all : ∀ c ∈ shown, isWordChar c = true)
    (plain : ∀ rest, EndsPart rest → plainDefault (shown ++ rest) = none)
    (token : ∀ rest, AtToken (shown ++ rest)) : ReadsDefault shown (wordDefault shown) where
  run rest h := by
    refine defaultValue_call shown (plain rest h) ?_ (call_run filled all h)
    obtain ⟨c, t, rfl⟩ := List.exists_cons_of_ne_nil filled
    exact group_refused (ne_of_isWordChar (all c List.mem_cons_self) rfl) _
  closed := .of_inert fun c hc => isInert_of_isWordChar (all c hc)
  token := token

theorem numeral {s : List Char} (h : IsNumeral s) :
    ReadsDefault s (.number (String.ofList s)) where
  run rest hr := by
    apply defaultValue_plain
    rw [plainDefault, stringLiteral_numeral h, numeral_run h hr.endsNumeral]
    rfl
  closed := h.closed
  token := h.atToken

theorem string (d : Dialect) (s : List Char) :
    ReadsDefault (d.literalChars s) (.text (String.ofList (doubling (leftDouble d) s))) where
  run rest h := by
    apply defaultValue_plain
    rw [plainDefault, stringLiteral_run d s h.head?_ne_apostrophe]
  closed := closed_literalChars d s
  token rest := by cases d <;> rfl

theorem group {code : List Char} {value : Default} (h : ReadsDefault code value)
    (trim : trimmed code = code) : ReadsDefault ('(' :: (code ++ [')'])) value where
  run rest _ := by
    refine defaultValue_group code rfl ?_ ?_
    · rw [List.cons_append, List.append_assoc, List.singleton_append, group_run h.closed]
    · have read := h.run [] .nil
      rwa [List.append_nil, ← trim] at read
  closed := .group h.closed .nil
  token _ := rfl

end ReadsDefault

/-- A text is not the current time of a text column if it starts, perhaps in parentheses, with
another letter. -/
theorem isTextClock_eq_false {mark : List Char} (isMark : mark = [] ∨ mark = ['(']) {c : Char}
    (ascii : c.toNat < 0x80) (filled : isBlank c = false) (opening : c.toLower ≠ '(')
    (letter : c.toLower ≠ 'd') (s : List Char) : isTextClock (mark ++ c :: s) = false := by
  obtain ⟨t, ht⟩ : ∃ t, (compact (mark ++ c :: s)).dropWhile (· == '(') = c.toLower :: t := by
    rcases isMark with rfl | rfl
    · rw [compact, List.nil_append, List.filter_cons_of_pos (by simp [filled]), lowercase,
        lowercaseAfter_cons_of_ascii ascii, List.dropWhile_cons_of_neg (by simpa using opening)]
      exact ⟨_, rfl⟩
    · rw [compact, List.singleton_append, List.filter_cons_of_pos (by decide),
        List.filter_cons_of_pos (by simp [filled]), lowercase,
        lowercaseAfter_cons_of_ascii (by decide), lowercaseAfter_cons_of_ascii ascii,
        List.dropWhile_cons_of_pos (by decide),
        List.dropWhile_cons_of_neg (by simpa using opening)]
      exact ⟨_, rfl⟩
  have clock : "datetime('now'".toList = 'd' :: "atetime('now'".toList := rfl
  rw [isTextClock, ht, clock, List.isPrefixOf_cons_cons, Bool.and_eq_false_iff, beq_eq_false_iff_ne]
  exact .inl (Ne.symm letter)

def defaultCode (d : Dialect) (type : ColumnType) (value : Default) : String :=
  let code := d.defaultText type value
  if type = .text none ∧ value ≠ .null then d.unboundedTextDefault code else code

/-- The defaults that every dialect can write in a column of the given type. -/
def IsPlainDefault (type : ColumnType) : Default → Prop
  | .null => True
  | .number shown => type ≠ .boolean ∧ IsNumeral shown.toList
  | .text content => type ≠ .boolean ∧ '\\' ∉ content.toList
  | .boolean _ => type = .boolean
  | .currentTimestamp => True
  | .expression _ => False

/-- The defaults that the dialect writes so that they read back. -/
def IsWritableDefault (d : Dialect) (type : ColumnType) : Default → Prop
  | .text content => type ≠ .boolean ∧ KeepsText d content.toList
  | value => IsPlainDefault type value

theorem IsPlainDefault.isWritable {type : ColumnType} {value : Default}
    (plain : IsPlainDefault type value) (d : Dialect) : IsWritableDefault d type value := by
  cases value with
  | text content => exact ⟨plain.1, fun _ => plain.2⟩
  | _ => exact plain

theorem readsDefault_null : ReadsDefault "NULL".toList .null :=
  .word (by decide) (by decide) (fun _ _ => rfl) (fun _ => rfl)

theorem readsDefault_clockWord : ReadsDefault "CURRENT_TIMESTAMP".toList .currentTimestamp :=
  .word (by decide) (by decide) (fun _ _ => rfl) (fun _ => rfl)

theorem readsDefault_clockCall : ReadsDefault "GETDATE()".toList .currentTimestamp where
  run rest h := by
    apply defaultValue_call "GETDATE()".toList rfl rfl
    exact call_group_run "GETDATE".toList [] (by decide) (by decide) .nil rest
  closed := by
    refine (Closed.of_inert (s := "GETDATE".toList) (by decide)).append (.group .nil .nil)
  token _ := rfl

theorem readsDefault_clockGroup :
    ReadsDefault "(datetime('now'))".toList .currentTimestamp := by
  have closed : Closed "'now'".toList := by
    rw [show "'now'".toList = '\'' :: ("now".toList ++ ['\'']) from rfl]
    exact .quoted (by decide) (by decide) .nil
  have inner : ReadsDefault "datetime('now')".toList .currentTimestamp := {
    run := fun rest h => by
      apply defaultValue_call "datetime('now')".toList rfl rfl
      exact call_group_run "datetime".toList "'now'".toList (by decide)
        (by decide) closed rest
    closed := (Closed.of_inert (s := "datetime".toList) (by decide)).append (.group closed .nil)
    token := fun _ => rfl }
  exact inner.group (by decide)

/-- A text that starts like a literal, and not like a call for the current time. -/
structure StartsLiteral (s : List Char) : Prop where
  first : ∃ c t, s = c :: t ∧ c.toNat < 0x80 ∧ isBlank c = false ∧ c.toLower ≠ '(' ∧
    c.toLower ≠ 'd'
  last : ∀ c ∈ s.getLast?, isBlank c = false

theorem StartsLiteral.trimmed_eq {s : List Char} (h : StartsLiteral s) : trimmed s = s := by
  obtain ⟨⟨c, t, rfl, -, filled, -⟩, last⟩ := h
  exact trimmed_eq_self (by simpa using filled) last

theorem StartsLiteral.isTextClock {s : List Char} (h : StartsLiteral s) {mark : List Char}
    (isMark : mark = [] ∨ mark = ['(']) (rest : List Char) :
    isTextClock (mark ++ (s ++ rest)) = false := by
  obtain ⟨⟨c, t, rfl, ascii, filled, opening, letter⟩, -⟩ := h
  exact isTextClock_eq_false isMark ascii filled opening letter _

theorem startsLiteral_numeral {s : List Char} (h : IsNumeral s) : StartsLiteral s := by
  have filled : ∀ c ∈ s, isBlank c = false := by
    intro c hc
    rcases h.mem hc with digit | rfl | rfl | rfl
    · exact not_isBlank_of_isDigit digit
    all_goals decide
  refine ⟨?_, fun c hc => filled c (List.mem_of_getLast? hc)⟩
  obtain ⟨c, t, rfl, first⟩ := h.exists_cons
  refine ⟨c, t, rfl, ?_⟩
  rcases first with digit | rfl | rfl | rfl
  · have bound := Char.isDigit_iff_toNat.1 digit
    simp only [Char.reduceToNat] at bound
    have same : c.toLower = c := toLower_eq_self (by omega)
    rw [same]
    exact ⟨by omega, not_isBlank_of_isDigit digit, ne_of_isDigit digit rfl, ne_of_isDigit digit rfl⟩
  all_goals decide

theorem startsLiteral_string (d : Dialect) (s : List Char) : StartsLiteral (d.literalChars s) := by
  constructor
  · cases d with
    | sqlserver => exact ⟨'N', _, rfl, by decide⟩
    | _ => exact ⟨'\'', _, rfl, by decide⟩
  · rw [Dialect.literalChars, ← List.cons_append, ← List.append_assoc, List.getLast?_concat]
    simp only [Option.mem_some]
    rintro c rfl
    decide

theorem unboundedTextDefault_run (d : Dialect) {code : String} {value : Default}
    (h : ReadsDefault code.toList value) (start : StartsLiteral code.toList) :
    ReadsDefault (d.unboundedTextDefault code).toList value ∧
      isTextClock (d.unboundedTextDefault code).toList = false := by
  cases d with
  | mysql =>
    have text : (Dialect.mysql.unboundedTextDefault code).toList =
        '(' :: (code.toList ++ [')']) := by
      rw [Dialect.unboundedTextDefault, String.toList_append, String.toList_append]
      rfl
    rw [text]
    exact ⟨h.group start.trimmed_eq, start.isTextClock (.inr rfl) [')']⟩
  | _ =>
    refine ⟨h, ?_⟩
    have clock := start.isTextClock (.inl rfl) []
    rwa [List.nil_append, List.append_nil] at clock

/-- What a default reads back as, before the column is known to hold truth values. -/
def readDefault (d : Dialect) : Default → Default
  | .boolean b =>
    match d with
    | .postgresql => .boolean b
    | _ => .number (if b then "1" else "0")
  | value => value

/-- A default that a dialect writes reads back, and stands for itself in its column. -/
structure DefaultRun (d : Dialect) (type : ColumnType) (value : Default) : Prop where
  run : ReadsDefault (defaultCode d type value).toList (readDefault d value)
  same : (if type = .boolean then truthDefault (readDefault d value) else readDefault d value) =
    value
  clock : type = .text none → isTextClock (defaultCode d type value).toList = false

theorem defaultRun_of_literal {d : Dialect} {type : ColumnType} {value : Default} {code : String}
    (other : type ≠ .boolean) (filled : value ≠ .null) (text : d.defaultText type value = code)
    (read : readDefault d value = value) (h : ReadsDefault code.toList value)
    (start : StartsLiteral code.toList) : DefaultRun d type value := by
  have unbounded := unboundedTextDefault_run d h start
  by_cases ht : type = .text none
  · have shown : defaultCode d type value = d.unboundedTextDefault code := by
      simp [defaultCode, ht, filled, ← text]
    exact ⟨by rw [shown, read]; exact unbounded.1, by rw [if_neg other, read],
      fun _ => by rw [shown]; exact unbounded.2⟩
  · have shown : defaultCode d type value = code := by
      simp [defaultCode, ht, text]
    exact ⟨by rw [shown, read]; exact h, by rw [if_neg other, read], fun he => absurd he ht⟩

theorem readsDefault_digits {shown : String} (h : IsDigits shown.toList) :
    ReadsDefault shown.toList (.number shown) := by
  have numeral : IsNumeral shown.toList :=
    ⟨[], shown.toList, [], by simp, .inl rfl, h, .inl rfl⟩
  have read := ReadsDefault.numeral numeral
  rwa [String.ofList_toList] at read

/-- A dialect spells a truth value by a word or by a number that stands for it. -/
theorem defaultRun_boolean (d : Dialect) (b : Bool) : DefaultRun d .boolean (.boolean b) := by
  have shown : defaultCode d .boolean (.boolean b) = d.booleanLiteral b := rfl
  have clock : ColumnType.boolean = .text none →
      isTextClock (defaultCode d .boolean (.boolean b)).toList = false := fun he => by cases he
  cases d with
  | postgresql =>
    cases b with
    | true => exact ⟨.word (by decide) (by decide) (fun _ _ => rfl) (fun _ => rfl), rfl, clock⟩
    | false => exact ⟨.word (by decide) (by decide) (fun _ _ => rfl) (fun _ => rfl), rfl, clock⟩
  | mysql | sqlite | sqlserver =>
    refine ⟨?_, ?_, clock⟩
    · rw [shown]
      apply readsDefault_digits
      cases b <;> exact ⟨by decide, by decide⟩
    · cases b <;> decide

theorem defaultRun_text {d : Dialect} {type : ColumnType} {content : String}
    (other : type ≠ .boolean) (kept : KeepsText d content.toList) :
    DefaultRun d type (.text content) := by
  have read := ReadsDefault.string d content.toList
  rw [doubling_leftDouble_iff.2 kept, String.ofList_toList] at read
  have text : (d.stringLiteral content).toList = d.literalChars content.toList := by
    simp [Dialect.stringLiteral]
  exact defaultRun_of_literal other (by simp) (if_neg other) rfl (text ▸ read)
    (text ▸ startsLiteral_string d _)

/-- Every dialect reads its defaults back. -/
theorem defaultRun_of_writable {d : Dialect} {type : ColumnType} {value : Default}
    (h : IsWritableDefault d type value) : DefaultRun d type value := by
  cases value with
  | null =>
    have shown : defaultCode d type .null = "NULL" := by simp [defaultCode, Dialect.defaultText]
    refine ⟨by rw [shown]; exact readsDefault_null, by split <;> rfl, fun _ => ?_⟩
    rw [shown]
    decide
  | number shown =>
    obtain ⟨other, numeral⟩ := h
    have read := ReadsDefault.numeral numeral
    rw [String.ofList_toList] at read
    exact defaultRun_of_literal other (by simp) (if_neg other) rfl read
      (startsLiteral_numeral numeral)
  | text content =>
    exact defaultRun_text h.1 h.2
  | boolean b =>
    obtain rfl : type = .boolean := h
    exact defaultRun_boolean d b
  | currentTimestamp =>
    by_cases ht : type = .timestamp
    · subst ht
      cases d with
      | mysql => exact ⟨readsDefault_clockWord, rfl, fun he => by cases he⟩
      | postgresql => exact ⟨readsDefault_clockWord, rfl, fun he => by cases he⟩
      | sqlite => exact ⟨readsDefault_clockGroup, rfl, fun he => by cases he⟩
      | sqlserver => exact ⟨readsDefault_clockCall, rfl, fun he => by cases he⟩
    · have text : d.defaultText type .currentTimestamp = "CURRENT_TIMESTAMP" := by
        cases type <;> first | rfl | exact absurd rfl ht
      by_cases hb : type = .boolean
      · subst hb
        have shown : defaultCode d .boolean .currentTimestamp = "CURRENT_TIMESTAMP" := rfl
        exact ⟨by rw [shown]; exact readsDefault_clockWord, rfl, fun he => by cases he⟩
      · apply defaultRun_of_literal hb (by simp) text rfl readsDefault_clockWord
        exact ⟨⟨'C', "URRENT_TIMESTAMP".toList, rfl, by decide⟩, by rintro c ⟨⟩; rfl⟩
  | expression code => exact absurd h id

end TableLoad.Ddl
