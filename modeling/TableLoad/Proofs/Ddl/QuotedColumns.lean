import TableLoad.Proofs.Ddl.Standing

/-! # Columns with quoted names

The grammar takes a quoted name as it is, up to its closing mark.  The first look at a statement
skips what stands between backticks or double quotes, too, but it does not know brackets: the name
between them counts there as code, and the statement is read only if that code leaves the balance
as it was.
-/
namespace TableLoad.Ddl
open Text Sql Scan

/-- What follows the name of a column in brackets, to the end of the statement. -/
def behindBrackets : List Char := ']' :: " INT)".toList

/-- Code behind `depth` open parentheses that leaves one of them open in the end, and no quote; or
none and a comment, which then hides what follows. -/
inductive LeavesOneOpen : (depth : Nat) → List Char → Prop
  | last : LeavesOneOpen 1 []
  | plain {depth : Nat} {c : Char} {s : List Char} : isQuote c = false → c ≠ '(' → c ≠ ')' →
      opensComment (c :: s) = false → LeavesOneOpen depth s → LeavesOneOpen depth (c :: s)
  | opening {depth : Nat} {s : List Char} : LeavesOneOpen (depth + 1) s →
      LeavesOneOpen depth ('(' :: s)
  | closing {depth : Nat} {s : List Char} : LeavesOneOpen depth s →
      LeavesOneOpen (depth + 1) (')' :: s)
  | quoted {depth : Nat} {q : Char} {content s : List Char} : isQuote q = true → q ∉ content →
      LeavesOneOpen depth s → LeavesOneOpen depth (q :: (content ++ q :: s))
  | line {depth : Nat} {text s : List Char} : '\n' ∉ text → LeavesOneOpen depth s →
      LeavesOneOpen depth ('-' :: '-' :: (text ++ '\n' :: s))
  | block {depth : Nat} {text s : List Char} : afterBlockComment? text = some s →
      LeavesOneOpen depth s → LeavesOneOpen depth ('/' :: '*' :: text)
  | lastLine {text : List Char} : '\n' ∉ text → LeavesOneOpen 0 ('-' :: '-' :: text)
  | lastBlock {text : List Char} : afterBlockComment? text = none →
      LeavesOneOpen 0 ('/' :: '*' :: text)

section Unfinished
variable {depth : Nat} {q : Char} {text s : List Char}

/-- A quote that does not end is missed at the end of the text. -/
theorem imbalance?_quoted_of_free (free : q ∉ text) :
    imbalance? depth (.quoted q) text = some (.quote, []) := by
  induction text with
  | nil => rfl
  | cons c text ih =>
    rw [List.mem_cons, not_or] at free
    rw [imbalance?, if_neg (Ne.symm free.1), ih free.2]

theorem imbalance?_lineComment_of_free (free : '\n' ∉ text) :
    imbalance? depth .lineComment text = if depth = 0 then none else some (.parentheses, []) := by
  induction text with
  | nil => rfl
  | cons c text ih =>
    rw [List.mem_cons, not_or] at free
    rw [imbalance?, if_neg (Ne.symm free.1), ih free.2]

theorem imbalance?_blockComment_of_open (endless : afterBlockComment? text = none) :
    imbalance? depth .blockComment text = if depth = 0 then none else some (.parentheses, []) := by
  fun_induction afterBlockComment? text with
  | case1 => cases endless
  | case2 c text other ih =>
    rw [imbalance?, ih endless]
    exact other
  | case3 => rfl

theorem afterBlockComment?_append_behindBrackets (endless : afterBlockComment? text = none) :
    afterBlockComment? (text ++ behindBrackets) = none := by
  fun_induction afterBlockComment? text with
  | case1 => cases endless
  | case2 c text other ih =>
    rw [List.cons_append, afterBlockComment?, ih endless]
    rintro rest rfl he
    cases text with
    | nil => exact absurd (List.cons.inj he).1 (by decide)
    | cons d text => exact other text rfl (by rw [(List.cons.inj he).1])
  | case3 => rfl

theorem not_mem_append_behindBrackets {c : Char} (free : c ∉ text) (other : c ∉ behindBrackets) :
    c ∉ text ++ behindBrackets := by
  simp [free, other]

end Unfinished

/-- The end of the statement closes the one parenthesis that is open. -/
theorem imbalance?_behindBrackets (depth : Nat) :
    imbalance? depth .plain behindBrackets = none ↔ depth = 1 := by
  have close : imbalance? depth .plain behindBrackets = imbalance? depth .plain [')'] :=
    (Closed.of_inert (s := "] INT".toList) (by decide)).imbalance?_append depth [')']
  rw [close]
  match depth with
  | 0 => exact iff_of_false (by decide) (by decide)
  | 1 => exact iff_of_true (by decide) rfl
  | depth + 2 =>
    rw [imbalance?_close]
    exact iff_of_false (by simp [imbalance?]) (by omega)

theorem opensComment_cases {c : Char} {s : List Char} (h : opensComment (c :: s) = true) :
    (∃ text, c = '-' ∧ s = '-' :: text) ∨ ∃ text, c = '/' ∧ s = '*' :: text := by
  rcases opensComment_iff.1 h with ⟨text, whole⟩ | ⟨text, whole⟩
  · cases whole
    exact .inl ⟨text, rfl, rfl⟩
  · cases whole
    exact .inr ⟨text, rfl, rfl⟩

theorem opensComment_append_behindBrackets {c : Char} {s : List Char}
    (h : opensComment (c :: s) = false) : opensComment (c :: (s ++ behindBrackets)) = false :=
  opensComment_append_stop h (by decide) _

theorem LeavesOneOpen.imbalance?_eq {depth : Nat} {s : List Char} (h : LeavesOneOpen depth s) :
    imbalance? depth .plain (s ++ behindBrackets) = none := by
  induction h with
  | last => exact (imbalance?_behindBrackets 1).2 rfl
  | plain quote opening closing comment _ ih =>
    rw [List.cons_append, imbalance?_cons (opensComment_append_behindBrackets comment),
      if_neg opening, if_neg closing, ih]
    simp [quote]
  | opening _ ih => rw [List.cons_append, imbalance?_open, ih]
  | closing _ ih => rw [List.cons_append, imbalance?_close, ih]
  | quoted hq free _ ih =>
    rw [List.cons_append, List.append_assoc, List.cons_append, imbalance?_quote hq,
      imbalance?_quoted _ free, ih]
  | line free _ ih =>
    rw [List.cons_append, List.cons_append, List.append_assoc, List.cons_append]
    exact (imbalance?_lineComment_append free _).trans ih
  | block ends _ ih => exact (imbalance?_blockComment (afterBlockComment?_append ends)).trans ih
  | lastLine free =>
    exact imbalance?_lineComment_of_free (not_mem_append_behindBrackets free (by decide))
  | lastBlock endless =>
    exact imbalance?_blockComment_of_open (afterBlockComment?_append_behindBrackets endless)

section Completeness
variable {depth : Nat} {c : Char} {s : List Char}

/-- A comment ends, and what is behind it is looked at, or it hides the rest. -/
theorem leavesOneOpen_of_comment (comment : opensComment (c :: s) = true)
    (shorter : ∀ {depth : Nat} {t : List Char}, t.length < s.length →
      imbalance? depth .plain (t ++ behindBrackets) = none → LeavesOneOpen depth t)
    (h : imbalance? depth .plain (c :: s ++ behindBrackets) = none) :
    LeavesOneOpen depth (c :: s) := by
  rcases opensComment_cases comment with ⟨text, rfl, rfl⟩ | ⟨text, rfl, rfl⟩
  · replace h : imbalance? depth .lineComment (text ++ behindBrackets) = none := h
    by_cases line : '\n' ∈ text
    · obtain ⟨before, after, rfl, free⟩ := List.eq_append_cons_of_mem line
      rw [List.append_assoc, List.cons_append, imbalance?_lineComment_append free] at h
      exact .line free (shorter (by simp; omega) h)
    · rw [imbalance?_lineComment_of_free (not_mem_append_behindBrackets line (by decide))] at h
      obtain rfl : depth = 0 := by simpa using h
      exact .lastLine line
  · replace h : imbalance? depth .blockComment (text ++ behindBrackets) = none := h
    cases ends : afterBlockComment? text with
    | some rest =>
      rw [imbalance?_blockComment (afterBlockComment?_append ends)] at h
      have less := (afterBlockComment?_suffix ends).length_le
      exact .block ends (shorter (by simp; omega) h)
    | none =>
      rw [imbalance?_blockComment_of_open (afterBlockComment?_append_behindBrackets ends)] at h
      obtain rfl : depth = 0 := by simpa using h
      exact .lastBlock ends

theorem leavesOneOpen_of_quote (quote : isQuote c = true)
    (shorter : ∀ {depth : Nat} {t : List Char}, t.length < s.length →
      imbalance? depth .plain (t ++ behindBrackets) = none → LeavesOneOpen depth t)
    (h : imbalance? depth (.quoted c) (s ++ behindBrackets) = none) :
    LeavesOneOpen depth (c :: s) := by
  by_cases mark : c ∈ s
  · obtain ⟨content, after, rfl, free⟩ := List.eq_append_cons_of_mem mark
    rw [List.append_assoc, List.cons_append, imbalance?_quoted _ free] at h
    exact .quoted quote free (shorter (by simp; omega) h)
  · have other : c ∉ behindBrackets := by
      have none : ∀ d ∈ behindBrackets, isQuote d = false := by decide
      intro hc
      simp [none c hc] at quote
    rw [imbalance?_quoted_of_free (not_mem_append_behindBrackets mark other)] at h
    cases h

end Completeness

/-- Only such code leaves the balance as it was. -/
theorem leavesOneOpen_of_imbalance? {depth : Nat} {s : List Char}
    (h : imbalance? depth .plain (s ++ behindBrackets) = none) : LeavesOneOpen depth s := by
  -- what is left behind a quote or a comment is shorter by any number of characters
  induction hn : s.length using Nat.strong_induction_on generalizing depth s with
  | _ n ih =>
    subst hn
    have shorter {depth : Nat} {t : List Char} (less : t.length < s.length)
        (h : imbalance? depth .plain (t ++ behindBrackets) = none) : LeavesOneOpen depth t :=
      ih t.length less h rfl
    cases s with
    | nil =>
      obtain rfl := (imbalance?_behindBrackets depth).1 h
      exact .last
    | cons c s =>
      have tail {depth : Nat} {t : List Char} (less : t.length < s.length)
          (h : imbalance? depth .plain (t ++ behindBrackets) = none) : LeavesOneOpen depth t :=
        shorter (less.trans (Nat.lt_succ_self s.length)) h
      have next {depth : Nat} (h : imbalance? depth .plain (s ++ behindBrackets) = none) :
          LeavesOneOpen depth s := shorter (Nat.lt_succ_self s.length) h
      by_cases comment : opensComment (c :: s) = true
      · exact leavesOneOpen_of_comment comment tail h
      rw [Bool.not_eq_true] at comment
      rw [List.cons_append, imbalance?_cons (opensComment_append_behindBrackets comment)] at h
      split at h
      · rename_i quote
        exact leavesOneOpen_of_quote quote tail h
      rename_i quote
      split at h
      · rename_i opening
        exact opening ▸ .opening (next h)
      rename_i opening
      split at h
      · rename_i closing
        cases depth with
        | zero => cases h
        | succ depth => exact closing ▸ .closing (next h)
      · rename_i closing
        exact .plain (Bool.not_eq_true _ ▸ quote) opening closing comment (next h)

theorem imbalance?_append_behindBrackets_iff {depth : Nat} {s : List Char} :
    imbalance? depth .plain (s ++ behindBrackets) = none ↔ LeavesOneOpen depth s :=
  ⟨leavesOneOpen_of_imbalance?, LeavesOneOpen.imbalance?_eq⟩

/-! ### The statement -/

theorem columnTail_run (n : String) {stop : Char} (marked : stop = ',' ∨ stop = ')')
    (t : List Char) : columnTail n (" INT".toList ++ stop :: t) =
      some (⟨n, "INT", [], [], 0⟩, stop :: t) := by
  have token : AtToken (stop :: t) := by rcases marked with rfl | rfl <;> rfl
  have ends : EndsWord (stop :: t) := by rcases marked with rfl | rfl <;> exact endsWord_cons rfl t
  have refused {α : Type} {p : Scan α} (h : p (stop :: t) = none) :
      (do gap; p : Scan α) (stop :: t) = none := (bind_run token.gap_run).trans h
  have type : word ("INT".toList ++ stop :: t) = some ("INT", stop :: t) :=
    word_run (by decide) (by decide) ends
  have start : AtToken ("INT".toList ++ stop :: t) := rfl
  have more : Scan.many (do gap; columnConstraint) (stop :: t) = some ([], stop :: t) := by
    rw [Scan.many, repeated_refused (refused ?_)]
    rcases marked with rfl | rfl <;> rfl
  have second : Scan.optional (do gap; oneOf ["PRECISION", "VARYING"]) (stop :: t) =
      some (none, stop :: t) :=
    optional_refused (refused (by rcases marked with rfl | rfl <;> rfl))
  have args : Scan.optional (do gap; typeArguments) (stop :: t) = some (none, stop :: t) :=
    optional_refused (refused (by rcases marked with rfl | rfl <;> rfl))
  have zone : Scan.optional (do
      gap
      oneOf ["WITHOUT", "WITH"]
      gap
      phrase ["TIME", "ZONE"]) (stop :: t) = some (none, stop :: t) :=
    optional_refused (refused (by rcases marked with rfl | rfl <;> rfl))
  have text : " INT".toList ++ stop :: t = ' ' :: ("INT".toList ++ stop :: t) := rfl
  rw [columnTail, text, bind_run start.gap_space, bind_run type, bind_run second, bind_run args,
    bind_run zone, bind_run more]
  rfl

def quotedColumn (d : Dialect) (x : List Char) : List Char :=
  d.nameMarks.1 :: (x ++ d.nameMarks.2 :: " INT".toList)

/-- The name of a column is what stands between its marks, whatever it is. -/
theorem quotedColumn_readsWhole (d : Dialect) {x : List Char} (filled : x ≠ [])
    (free : d.nameMarks.2 ∉ x) :
    ReadsWhole entry (quotedColumn d x) (.column ⟨String.ofList x, "INT", [], [], 0⟩) := by
  refine (ReadsWhole.of_wholeColumn ?_).of_keptEntry
  intro stop t marked
  have token : AtToken (quotedColumn d x ++ stop :: t) := by cases d <;> rfl
  have text : quotedColumn d x ++ stop :: t =
      d.nameMarks.1 :: (x ++ d.nameMarks.2 :: (" INT".toList ++ stop :: t)) := by
    simp [quotedColumn]
  have named : name (quotedColumn d x ++ stop :: t) =
      some (String.ofList x, " INT".toList ++ stop :: t) := by
    rw [text, name_mark, quotedName_eq free, if_neg filled]
  have column : (name >>= columnTail) (quotedColumn d x ++ stop :: t) =
      some (⟨String.ofList x, "INT", [], [], 0⟩, stop :: t) :=
    (bind_run named).trans (columnTail_run _ marked t)
  have whole : afterGap (stop :: t) = stop :: t := by
    have token : AtToken (stop :: t) := by rcases marked with rfl | rfl <;> rfl
    exact token.afterGap_eq
  have ends : atEntryEnd (stop :: t) = true := by
    rw [atEntryEnd, whole]
    rcases marked with rfl | rfl <;> rfl
  have known : (TypeFamily.ofName? "INT").isSome = true := by decide
  have run : (do return (← wholeColumn).unplaced : Scan Entry) (quotedColumn d x ++ stop :: t) =
      some (.column ⟨String.ofList x, "INT", [], [], 0⟩, stop :: t) := by
    rw [unplaced_wholeColumn, unplacedColumn, column]
    simp only [known, ends, Bool.and_self, if_true]
    rfl
  obtain ⟨E, read, same⟩ := exists_of_unplaced run
  rw [token.afterGap_eq]
  exact ⟨E, _, read, whole, same⟩

theorem resolve_integer (n : String) :
    resolve 0 "t" [.column ⟨n, "INT", [], [], 0⟩] =
      .ok ⟨"t", [{ name := n, type := .integer }]⟩ := by
  have type : ResolvedType.ofName "INT" [] = .ok { type := .integer } := by decide
  have column : resolveColumn 0 none ⟨n, "INT", [], [], 0⟩ =
      .ok ({ name := n, type := .integer }, none) := by
    rw [resolveColumn, type]
    rfl
  have gathered : gather 0 {} [.column ⟨n, "INT", [], [], 0⟩] =
      .ok { columns := [{ name := n, type := .integer }] } := by
    rw [gather, column]
    rfl
  have made : Schema.make "t" [{ name := n, type := .integer }] =
      .ok ⟨"t", [{ name := n, type := .integer }]⟩ :=
    Schema.make_eq_ok_iff.2 ⟨by decide, by simp, by simp, rfl, rfl⟩
  rw [resolve, gathered]
  exact congrArg (Except.mapError DdlError.ofSchemaFault) made

def headOfT : List Char := "CREATE TABLE t ".toList

theorem readsHead_headOfT : ReadsHead headOfT "t" := by
  have closed : Alike entryMarks [] [] headOfT headOfT := .of_inert (by decide)
  have read : header (headOfT ++ ['(']) = some ("t", " (".toList) := by decide +kernel
  exact (readsHead_of_alike closed read (by decide +kernel)).1

def quotedStatement (d : Dialect) (x : String) : String :=
  "CREATE TABLE t (" ++ String.ofList (d.nameMarks.1 :: (x.toList ++ [d.nameMarks.2])) ++ " INT)"

theorem toList_quotedStatement (d : Dialect) (x : String) : (quotedStatement d x).toList =
    headOfT ++ '(' :: (d.nameMarks.1 :: (x.toList ++ d.nameMarks.2 :: " INT)".toList)) := by
  have start : "CREATE TABLE t (".toList = headOfT ++ ['('] := by decide
  delta quotedStatement
  simp only [String.toList_append, String.toList_ofList, start, List.append_assoc,
    List.cons_append, List.nil_append]

theorem quotedStatement_eq (d : Dialect) (x : String) :
    (quotedStatement d x).toList = statementText headOfT [quotedColumn d x.toList] [] := by
  have stop : " INT)".toList = " INT".toList ++ [')'] := by decide
  rw [toList_quotedStatement, stop, statementText, intercalate_cons, quotedColumn]
  simp only [List.flatMap_nil, List.append_nil, List.append_assoc, List.cons_append]

/-- The first look at the statement: marks that quote hide the name, and brackets do not. -/
theorem imbalance?_quotedStatement (d : Dialect) {x : String} (free : d.nameMarks.2 ∉ x.toList) :
    imbalance? 0 .plain (quotedStatement d x).toList = none ↔
      (d = .sqlserver → LeavesOneOpen 1 x.toList) := by
  have head : Closed headOfT := .of_inert (by decide)
  rw [toList_quotedStatement, head.imbalance?_append, imbalance?_open]
  have hidden {q : Char} (quote : isQuote q = true) (free : q ∉ x.toList) :
      imbalance? 1 .plain (q :: (x.toList ++ q :: " INT)".toList)) = none := by
    rw [imbalance?_quote quote, imbalance?_quoted 1 free]
    decide
  cases d with
  | mysql => exact iff_of_true (hidden (by decide) free) nofun
  | postgresql => exact iff_of_true (hidden (by decide) free) nofun
  | sqlite => exact iff_of_true (hidden (by decide) free) nofun
  | sqlserver =>
    have looked : imbalance? 1 .plain ('[' :: (x.toList ++ behindBrackets)) = none ↔
        LeavesOneOpen 1 x.toList := by
      rw [imbalance?_inert (by decide), imbalance?_append_behindBrackets_iff]
    exact looked.trans ⟨fun h _ => h, fun h => h rfl⟩

theorem parse_of_imbalance {text : String} {fault : Imbalance × List Char}
    (h : imbalance? 0 .plain text.toList = some fault) :
    ∃ position, parse text = .error (.malformed position (.imbalance fault.1)) := by
  rw [parse, schemaOf, h]
  exact ⟨_, rfl⟩

/-- A column with its name in backticks or double quotes is read with that name, whatever the name
holds.  In brackets it is read so exactly when the name, taken as code, leaves the balance of the
statement as it was; otherwise the first look refuses the statement. -/
theorem parse_quotedStatement_iff (d : Dialect) {x : String} (filled : x ≠ "")
    (free : d.nameMarks.2 ∉ x.toList) :
    (parse (quotedStatement d x) = .ok ⟨"t", [{ name := x, type := .integer }]⟩ ↔
      (d = .sqlserver → LeavesOneOpen 1 x.toList)) ∧
    (parse (quotedStatement d x) = .ok ⟨"t", [{ name := x, type := .integer }]⟩ ∨
      ∃ position kind,
        parse (quotedStatement d x) = .error (.malformed position (.imbalance kind))) := by
  have balance := imbalance?_quotedStatement d free
  cases look : imbalance? 0 .plain (quotedStatement d x).toList with
  | some fault =>
    obtain ⟨position, refused⟩ := parse_of_imbalance look
    rw [look] at balance
    refine ⟨iff_of_false (by simp [refused]) fun h => ?_, .inr ⟨position, fault.1, refused⟩⟩
    cases balance.2 h
  | none =>
    have some : x.toList ≠ [] := by simpa using filled
    have column := quotedColumn_readsWhole d some free
    rw [String.ofList_toList] at column
    have schema : (schemaOf (statementText _ _ [])).toOption = _ :=
      toOption_schemaOf readsHead_headOfT (.cons column .nil) (by simp)
    rw [← quotedStatement_eq, look, if_pos ⟨rfl, rfl⟩] at schema
    have read : parse (quotedStatement d x) = .ok ⟨"t", [{ name := x, type := .integer }]⟩ := by
      rw [parse, eq_ok_iff_toOption, schema]
      exact congrArg Except.toOption (resolve_integer x)
    exact ⟨iff_of_true read (balance.1 look), .inl read⟩

/-- A name with an apostrophe and a parenthesis in backticks, and in brackets a name whose own
parentheses and quotes close, and one that closes the table and hides the rest. -/
theorem parse_quotedStatement_marked :
    parse "CREATE TABLE t (`it's (a` INT)" = .ok ⟨"t", [{ name := "it's (a", type := .integer }]⟩ ∧
      parse "CREATE TABLE t ([f(x), 'y)'] INT)" =
        .ok ⟨"t", [{ name := "f(x), 'y)'", type := .integer }]⟩ ∧
      parse "CREATE TABLE t ([a) -- b] INT)" =
        .ok ⟨"t", [{ name := "a) -- b", type := .integer }]⟩ := by
  have quote : LeavesOneOpen 1 ('\'' :: ("y)".toList ++ '\'' :: [])) :=
    .quoted rfl (by decide) .last
  have closed : LeavesOneOpen 1 "f(x), 'y)'".toList :=
    .plain rfl (by decide) (by decide) rfl <| .opening <| .plain rfl (by decide) (by decide) rfl <|
      .closing <| .plain rfl (by decide) (by decide) rfl <|
        .plain rfl (by decide) (by decide) rfl quote
  have hidden : LeavesOneOpen 1 "a) -- b".toList :=
    .plain rfl (by decide) (by decide) rfl <| .closing <|
      .plain rfl (by decide) (by decide) rfl <| .lastLine (by decide)
  have backticks : quotedStatement .mysql "it's (a" = "CREATE TABLE t (`it's (a` INT)" := by decide
  have brackets : quotedStatement .sqlserver "f(x), 'y)'" =
      "CREATE TABLE t ([f(x), 'y)'] INT)" := by decide
  have comment : quotedStatement .sqlserver "a) -- b" =
      "CREATE TABLE t ([a) -- b] INT)" := by decide
  rw [← backticks, ← brackets, ← comment]
  exact ⟨(parse_quotedStatement_iff .mysql (by decide) (by decide)).1.2 nofun,
    (parse_quotedStatement_iff .sqlserver (by decide) (by decide)).1.2 fun _ => closed,
    (parse_quotedStatement_iff .sqlserver (by decide) (by decide)).1.2 fun _ => hidden⟩

/-- An apostrophe or a parenthesis in brackets counts for the balance, though the grammar takes it
as a part of the name. -/
theorem parse_bracketed_apostrophe :
    name "[it's] INT)".toList = some ("it's", " INT)".toList) ∧
      quotedStatement .sqlserver "it's" = "CREATE TABLE t ([it's] INT)" ∧
      parse "CREATE TABLE t ([it's] INT)" = .error (.malformed 27 (.imbalance .quote)) ∧
      parse "CREATE TABLE t ([a(b] INT)" = .error (.malformed 26 (.imbalance .parentheses)) := by
  decide +kernel

end TableLoad.Ddl
