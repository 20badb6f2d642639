import TableLoad.Ddl.Entry
import TableLoad.Proofs.Ddl.Defaults
import TableLoad.Proofs.Number.Digits

/-! # Reading types back

The type that a dialect writes is read back as the type, but for the dialect that spells truth
values as integers.
-/
namespace TableLoad.Ddl
open Text Sql Number

/-- An argument of a type: digits, or the word for the largest length. -/
def IsArgument (shown : List Char) : Prop := IsDigits shown ∨ shown = "MAX".toList

inductive EndsArgument : List Char → Prop
  | comma (t : List Char) : EndsArgument (',' :: t)
  | close (t : List Char) : EndsArgument (')' :: t)

theorem IsArgument.atToken {shown : List Char} (h : IsArgument shown) (rest : List Char) :
    AtToken (shown ++ rest) := by
  rcases h with digits | rfl
  · exact IsNumeral.atToken ⟨[], shown, [], by simp, .inl rfl, digits, .inl rfl⟩ rest
  · rfl

theorem IsArgument.closed {shown : List Char} (h : IsArgument shown) : Closed shown := by
  rcases h with digits | rfl
  · exact .of_inert fun c hc => isInert_of_isDigit (digits.2 c hc)
  · exact .of_inert (by decide)

theorem typeArgument_run {shown rest : List Char} (h : IsArgument shown)
    (stop : EndsArgument rest) : typeArgument (shown ++ rest) = some (String.ofList shown, rest) := by
  rcases h with digits | rfl
  · have numeral : IsNumeral shown := ⟨[], shown, [], by simp, .inl rfl, digits, .inl rfl⟩
    have ends : EndsNumeral rest := by cases stop <;> simp [EndsNumeral]
    exact (Scan.orElse_refused (stringLiteral_numeral numeral rest)).trans
      (Scan.orElse_run (numeral_run numeral ends))
  · have ends : EndsWord rest := by cases stop <;> simp [EndsWord] <;> rfl
    exact (Scan.orElse_refused rfl).trans
      ((Scan.orElse_refused rfl).trans (word_run (by decide) (by decide) ends))

theorem comma_run {rest : List Char} (h : AtToken rest) : comma (',' :: rest) = some ((), rest) := by
  have token : AtToken (',' :: rest) := rfl
  rw [comma, Scan.bind_run token.gap_run, Scan.bind_run (Scan.char_cons_self _ _), h.gap_run]

theorem comma_refused_close (rest : List Char) : comma (')' :: rest) = none := by
  have token : AtToken (')' :: rest) := rfl
  rw [comma, Scan.bind_run token.gap_run]
  exact Scan.bind_refused (Scan.char_cons_ne (by decide) rest)

theorem typeArguments_run {args : List (List Char)} (h : ∀ shown ∈ args, IsArgument shown)
    (filled : args ≠ []) (rest : List Char) :
    typeArguments ('(' :: ([','].intercalate args ++ ')' :: rest)) =
      some (args.map String.ofList, rest) := by
  obtain ⟨values, each, read⟩ := Scan.separated_intercalate (fun shown => shown) EndsArgument
    (fun shown a => String.ofList shown = a) [','] args (by simp)
    (fun shown hs t ht => ⟨_, rfl, typeArgument_run (h shown hs) ht⟩)
    (fun shown hs t => comma_run ((h shown hs).atToken t)) (fun t => .comma t) (.close rest)
    (fun he => absurd he filled) (Scan.bind_refused (comma_refused_close rest))
  have same : args.map String.ofList = values := by
    rw [← List.forall₂_eq_eq_eq, List.forall₂_map_left_iff]
    exact each
  have start : AtToken ([','].intercalate args ++ ')' :: rest) := by
    obtain ⟨first, more, rfl⟩ := List.exists_cons_of_ne_nil filled
    rw [Scan.intercalate_cons, List.append_assoc]
    exact (h first List.mem_cons_self).atToken _
  have close : AtToken (')' :: rest) := rfl
  rw [List.map_id'] at read
  rw [typeArguments, Scan.bind_run (Scan.char_cons_self _ _), Scan.bind_run start.gap_run,
    Scan.bind_run read, Scan.bind_run close.gap_run, Scan.bind_run (Scan.char_cons_self _ _), same]
  rfl

/-- What follows the first word of a type, as far as it is part of the type. -/
def TypeTail (tail : List Char) (args : List String) : Prop :=
  ∀ rest, EndsPart rest → ∃ second mid found,
    Scan.optional (do gap; oneOf ["PRECISION", "VARYING"]) (tail ++ rest) = some (second, mid) ∧
      Scan.optional (do gap; typeArguments) mid = some (found, rest) ∧ found.getD [] = args

theorem second_refused {rest : List Char} (h : EndsPart rest) :
    Scan.optional (do gap; oneOf ["PRECISION", "VARYING"]) rest = some (none, rest) := by
  refine Scan.optional_refused (h.refused rfl (fun _ => rfl) (fun _ => rfl) ?_)
  intro opening ho t
  fin_cases ho <;> rfl

theorem arguments_refused {rest : List Char} (h : EndsPart rest) :
    Scan.optional (do gap; typeArguments) rest = some (none, rest) := by
  refine Scan.optional_refused (h.refused rfl (fun _ => rfl) (fun _ => rfl) ?_)
  intro opening ho t
  fin_cases ho <;> rfl

theorem typeTail_nil : TypeTail [] [] :=
  fun rest h => ⟨none, rest, none, second_refused h, arguments_refused h, rfl⟩

theorem typeTail_precision : TypeTail " PRECISION".toList [] := by
  intro rest h
  refine ⟨some (), rest, none, Scan.optional_run ?_, arguments_refused h, rfl⟩
  have token : AtToken ("PRECISION".toList ++ rest) := rfl
  apply (Scan.bind_run token.gap_space).trans
  exact Scan.orElse_run (keyword_run _ (by decide) h.endsWord)

theorem typeTail_arguments {args : List (List Char)} (h : ∀ shown ∈ args, IsArgument shown)
    (filled : args ≠ []) :
    TypeTail ('(' :: ([','].intercalate args ++ [')'])) (args.map String.ofList) := by
  intro rest _
  have token (s : List Char) : AtToken ('(' :: s) := rfl
  refine ⟨none, _, some (args.map String.ofList), Scan.optional_refused ?_, Scan.optional_run ?_,
    rfl⟩
  · apply (Scan.bind_run (token _).gap_run).trans
    rfl
  · rw [List.cons_append, List.append_assoc, List.singleton_append,
      Scan.bind_run (token _).gap_run, typeArguments_run h filled]

/-- A type as written: its first word and what belongs to it, and what they stand for. -/
structure TypeRun (shown : List Char) (resolved : ResolvedType) (word tail : List Char)
    (args : List String) : Prop where
  text : shown = word ++ tail
  filled : word ≠ []
  all : ∀ c ∈ word, isWordChar c = true
  ends : ∀ rest, EndsPart rest → EndsWord (tail ++ rest)
  run : TypeTail tail args
  closed : Closed tail
  resolves : ResolvedType.ofName (String.ofList word) args = .ok resolved

theorem typeRun_word {shown : List Char} {resolved : ResolvedType} (filled : shown ≠ [])
    (all : ∀ c ∈ shown, isWordChar c = true)
    (resolves : ResolvedType.ofName (String.ofList shown) [] = .ok resolved) :
    TypeRun shown resolved shown [] [] where
  text := (List.append_nil _).symm
  filled := filled
  all := all
  ends _ h := h.endsWord
  run := typeTail_nil
  closed := .nil
  resolves := resolves

theorem typeRun_arguments (shown : List Char) (args : List (List Char)) {resolved : ResolvedType}
    (filled : shown ≠ []) (all : ∀ c ∈ shown, isWordChar c = true)
    (h : ∀ arg ∈ args, IsArgument arg) (some : args ≠ [])
    (resolves : ResolvedType.ofName (String.ofList shown) (args.map String.ofList) =
      .ok resolved) :
    TypeRun (shown ++ '(' :: ([','].intercalate args ++ [')'])) resolved shown
      ('(' :: ([','].intercalate args ++ [')'])) (args.map String.ofList) where
  text := rfl
  filled := filled
  all := all
  ends _ _ := by simp [EndsWord]; rfl
  run := typeTail_arguments h some
  closed := by
    have mark : Closed [','] := .of_inert (by decide)
    exact .group (.intercalate mark fun arg ha => (h arg ha).closed) .nil
  resolves := resolves

theorem isArgument_digits (n : Nat) : IsArgument (digits n) :=
  .inl ⟨digits_ne_nil n, fun _ => isDigit_of_mem_digits⟩

theorem trimmed_digits (n : Nat) : trimmed (digits n) = digits n :=
  trimmed_of_no_blank fun _ hc => not_isBlank_of_isDigit (isDigit_of_mem_digits hc)

theorem natBelow?_digits {bound n : Nat} (h : n < bound) : natBelow? bound (digits n) = some n := by
  obtain ⟨c, t, hc⟩ := List.exists_cons_of_ne_nil (digits_ne_nil n)
  have digit : c.isDigit = true := isDigit_of_mem_digits (hc ▸ List.mem_cons_self)
  rw [natBelow?, nat?_digits]
  · simp [h]
  · intro rest he
    rw [hc] at he
    exact absurd (List.cons.inj he).1 (ne_of_isDigit digit rfl)

theorem number_digits {n : Nat} (h : n < 2 ^ 32) (name : String) :
    ResolvedType.number name (String.ofList (digits n)) = .ok n := by
  rw [ResolvedType.number, String.toList_ofList, trimmed_digits, natBelow?_digits h]

theorem smallNumber_digits (n : UInt16) (name : String) :
    ResolvedType.smallNumber name (String.ofList (digits n.toNat)) = .ok n := by
  have bound := n.toNat_lt
  rw [ResolvedType.smallNumber, number_digits (by omega)]
  simp only [bound, if_true]
  simp

theorem toList_limit (n : UInt32) : (toString n).toList = digits n.toNat := Nat.toList_repr

theorem toList_size (n : UInt16) : (toString n).toList = digits n.toNat := Nat.toList_repr

theorem ofName_limit (n : UInt32) :
    ResolvedType.ofName "VARCHAR" [String.ofList (digits n.toNat)] =
      .ok { type := .text (some n) } := by
  have family : TypeFamily.ofName? "VARCHAR" = some .char := by decide
  obtain ⟨c, t, hc⟩ := List.exists_cons_of_ne_nil (digits_ne_nil n.toNat)
  have digit : c.isDigit = true := isDigit_of_mem_digits (hc ▸ List.mem_cons_self)
  have other : eqAsciiCaseless (trimmed (digits n.toNat)) ['m', 'a', 'x'] = false := by
    have bound := Char.isDigit_iff_toNat.1 digit
    simp only [Char.reduceToNat] at bound
    have same : c.toLower = c := toLower_eq_self (by omega)
    have letter : c ≠ 'm' := ne_of_isDigit digit rfl
    rw [trimmed_digits, hc, eqAsciiCaseless, beq_eq_false_iff_ne]
    intro he
    exact letter (same.symm.trans (List.cons.inj he).1)
  rw [ResolvedType.ofName, family]
  simp only [ResolvedType.ofFamily, String.toList_ofList, other, Bool.false_eq_true, if_false]
  rw [number_digits n.toNat_lt]
  simp [bind, Except.bind, pure, Except.pure]

theorem ofName_precision {name : String} (family : TypeFamily.ofName? name = some .decimal)
    (p : Precision) : ResolvedType.ofName name
      ([digits p.digits.toNat, digits p.scale.toNat].map String.ofList) =
        .ok { type := .decimal (some p) } := by
  rw [ResolvedType.ofName, family]
  simp only [List.map_cons, List.map_nil, ResolvedType.ofFamily]
  rw [smallNumber_digits, smallNumber_digits]
  rfl

/-- The type that a dialect can tell a column to have. -/
def readType (d : Dialect) (type : ColumnType) : ResolvedType where
  type := if d = .sqlite ∧ type = .boolean then .integer else type
  holdsDates := decide (type = .text none ∧ d ≠ .sqlserver)

theorem exists_typeRun_precision {name : String} (filled : name.toList ≠ [])
    (all : ∀ c ∈ name.toList, isWordChar c = true)
    (family : TypeFamily.ofName? name = some .decimal) (p : Precision) :
    ∃ word tail args, TypeRun (withPrecision name p).toList
      { type := .decimal (some p) } word tail args := by
  have resolves := ofName_precision family p
  rw [← String.ofList_toList (s := name)] at resolves
  have run := typeRun_arguments _ _ filled all (by simp [isArgument_digits]) (by simp) resolves
  have text : (withPrecision name p).toList = name.toList ++ '(' :: ([','].intercalate
      [digits p.digits.toNat, digits p.scale.toNat] ++ [')']) := by
    rw [withPrecision]
    simp only [String.toList_append, toList_size, List.append_assoc]
    rw [List.intercalate_cons_cons, List.intercalate_singleton, List.append_assoc,
      List.append_assoc]
    rfl
  rw [text]
  exact ⟨_, _, _, run⟩

theorem exists_typeRun (d : Dialect) (type : ColumnType) : ∃ word tail args,
    TypeRun (d.typeText type).toList (readType d type) word tail args := by
  cases type with
  | integer => cases d <;> exact ⟨_, _, _, typeRun_word (by decide) (by decide) (by decide)⟩
  | boolean =>
    cases d with
    | mysql =>
      exact ⟨_, _, _, typeRun_arguments "TINYINT".toList [['1']] (by decide)
        (by decide) (by simpa using .inl ⟨by decide, by decide⟩) (by decide) (by decide)⟩
    | _ => exact ⟨_, _, _, typeRun_word (by decide) (by decide) (by decide)⟩
  | timestamp => cases d <;> exact ⟨_, _, _, typeRun_word (by decide) (by decide) (by decide)⟩
  | decimal p =>
    cases p with
    | none =>
      cases d with
      | postgresql =>
        exact ⟨"DOUBLE".toList, " PRECISION".toList, [], {
          text := by decide
          filled := by decide
          all := by decide
          ends := fun _ _ => by intro c hc; cases hc; rfl
          run := typeTail_precision
          closed := .of_inert (by decide)
          resolves := by decide }⟩
      | _ => exact ⟨_, _, _, typeRun_word (by decide) (by decide) (by decide)⟩
    | some p =>
      cases d with
      | mysql | sqlserver => exact exists_typeRun_precision (by decide) (by decide) (by decide) p
      | postgresql | sqlite => exact exists_typeRun_precision (by decide) (by decide) (by decide) p
  | text limit =>
    cases limit with
    | none =>
      cases d with
      | sqlserver =>
        exact ⟨_, _, _, typeRun_arguments "VARCHAR".toList ["MAX".toList]
          (by decide) (by decide) (by simp [IsArgument]) (by decide) (by decide)⟩
      | _ => exact ⟨_, _, _, typeRun_word (by decide) (by decide) (by decide)⟩
    | some n =>
      have run := typeRun_arguments "VARCHAR".toList [digits n.toNat] (by decide) (by decide)
        (by simp [isArgument_digits]) (by simp) (ofName_limit n)
      have text : (d.typeText (.text (some n))).toList = "VARCHAR".toList ++ '(' ::
          ([','].intercalate [digits n.toNat] ++ [')']) := by
        rw [Dialect.typeText, String.toList_append, String.toList_append, toList_limit,
          List.append_assoc, List.intercalate_singleton]
        rfl
      have same : readType d (.text (some n)) = { type := .text (some n) } := by cases d <;> rfl
      rw [text, same]
      exact ⟨_, _, _, run⟩

end TableLoad.Ddl
