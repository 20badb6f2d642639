import TableLoad.Ddl.Balance
import TableLoad.Proofs.Text.Scan

/-! # Closed texts

A text in which every quote and every parenthesis that opens closes again, and in which no comment
starts.  The balance of a statement and the search for the end of a group pass over such a text at
once.
-/
namespace TableLoad.Ddl
open Text

/-- A character that opens nothing, closes nothing and starts no comment. -/
def isInert (c : Char) : Bool := !isQuote c && c != '(' && c != ')' && c != '-' && c != '/'

/-- Texts whose quotes and parentheses close. -/
inductive Closed : List Char → Prop
  | nil : Closed []
  | inert {c : Char} {s : List Char} : isInert c = true → Closed s → Closed (c :: s)
  /-- A minus sign that starts no comment. -/
  | minus {c : Char} {s : List Char} : c ≠ '-' → Closed (c :: s) → Closed ('-' :: c :: s)
  | quoted {q : Char} {content s : List Char} :
      isQuote q = true → q ∉ content → Closed s → Closed (q :: (content ++ q :: s))
  | group {inner s : List Char} : Closed inner → Closed s → Closed ('(' :: (inner ++ ')' :: s))

namespace Closed

theorem of_inert {s : List Char} (all : ∀ c ∈ s, isInert c = true) : Closed s := by
  induction s with
  | nil => exact nil
  | cons c s ih =>
    simp only [List.forall_mem_cons] at all
    exact inert all.1 (ih all.2)

theorem append {s t : List Char} (hs : Closed s) (ht : Closed t) : Closed (s ++ t) := by
  induction hs with
  | nil => exact ht
  | inert hc _ ih => exact inert hc ih
  | minus hc _ ih => exact minus hc ih
  | @quoted q content s hq free _ ih =>
    rw [List.cons_append, List.append_assoc, List.cons_append]
    exact quoted hq free ih
  | @group inner s hi _ _ ih =>
    rw [List.cons_append, List.append_assoc, List.cons_append]
    exact group hi ih

/-- A text between quotes is closed if the quotes in it are doubled: it is several texts between
quotes, one behind the other. -/
theorem doubled {q : Char} (hq : isQuote q = true) (s : List Char) {t : List Char} (ht : Closed t) :
    Closed (q :: (doubling [q] s ++ q :: t)) := by
  suffices ∀ first : List Char, q ∉ first → Closed (q :: (first ++ (doubling [q] s ++ q :: t))) by
    simpa using this [] (by simp)
  induction s with
  | nil => exact fun first free => quoted hq free ht
  | cons c s ih =>
    intro first free
    by_cases hc : c = q
    · subst hc
      have next := quoted hq free (ih [] (by simp))
      simpa using next
    · have next := ih (first ++ [c]) (by simp [free, Ne.symm hc])
      simpa [hc] using next

theorem flatMap {α : Type} {f : α → List Char} {items : List α}
    (all : ∀ a ∈ items, Closed (f a)) : Closed (items.flatMap f) := by
  induction items with
  | nil => exact nil
  | cons a items ih =>
    simp only [List.forall_mem_cons] at all
    rw [List.flatMap_cons]
    exact all.1.append (ih all.2)

theorem intercalate {mark : List Char} (hm : Closed mark) {parts : List (List Char)}
    (all : ∀ part ∈ parts, Closed part) : Closed (mark.intercalate parts) := by
  cases parts with
  | nil => exact nil
  | cons first parts =>
    rw [List.forall_mem_cons] at all
    rw [Scan.intercalate_cons]
    exact all.1.append (flatMap fun part hp => hm.append (all.2 part hp))

end Closed

theorem imbalance?_plain {c : Char} {rest : List Char} (depth : Nat)
    (minus : c = '-' → rest.head? ≠ some '-') (slash : c ≠ '/') :
    imbalance? depth .plain (c :: rest) =
      if isQuote c then imbalance? depth (.quoted c) rest
      else if c = '(' then imbalance? (depth + 1) .plain rest
      else if c = ')' then
        match depth with
        | 0 => some (.parentheses, c :: rest)
        | depth + 1 => imbalance? depth .plain rest
      else imbalance? depth .plain rest := by
  rw [imbalance?.eq_def]
  split
  case h_9 he =>
    obtain ⟨rfl, rfl⟩ := List.cons.inj he
    rfl
  all_goals simp_all

theorem imbalance?_quote {c : Char} (h : isQuote c = true) (depth : Nat) (rest : List Char) :
    imbalance? depth .plain (c :: rest) = imbalance? depth (.quoted c) rest := by
  have minus : c ≠ '-' := by rintro rfl; exact absurd h (by decide)
  have slash : c ≠ '/' := by rintro rfl; exact absurd h (by decide)
  rw [imbalance?_plain depth (fun he => absurd he minus) slash, if_pos h]

theorem imbalance?_open (depth : Nat) (rest : List Char) :
    imbalance? depth .plain ('(' :: rest) = imbalance? (depth + 1) .plain rest := by
  rw [imbalance?_plain depth (fun he => absurd he (by decide)) (by decide)]
  rfl

theorem imbalance?_close (depth : Nat) (rest : List Char) :
    imbalance? (depth + 1) .plain (')' :: rest) = imbalance? depth .plain rest := by
  rw [imbalance?_plain (depth + 1) (fun he => absurd he (by decide)) (by decide)]
  rfl

theorem imbalance?_minus {rest : List Char} (h : rest.head? ≠ some '-') (depth : Nat) :
    imbalance? depth .plain ('-' :: rest) = imbalance? depth .plain rest := by
  rw [imbalance?_plain depth (fun _ => h) (by decide)]
  rfl

theorem imbalance?_inert {c : Char} (h : isInert c = true) (depth : Nat) (rest : List Char) :
    imbalance? depth .plain (c :: rest) = imbalance? depth .plain rest := by
  simp only [isInert, Bool.and_eq_true, Bool.not_eq_true', bne_iff_ne] at h
  obtain ⟨⟨⟨⟨quote, opening⟩, closing⟩, minus⟩, slash⟩ := h
  rw [imbalance?_plain depth (fun he => absurd he minus) slash, if_neg opening, if_neg closing]
  simp [quote]

theorem imbalance?_quoted {q : Char} (depth : Nat) {content rest : List Char} (free : q ∉ content) :
    imbalance? depth (.quoted q) (content ++ q :: rest) = imbalance? depth .plain rest := by
  induction content with
  | nil => simp [imbalance?]
  | cons c content ih =>
    rw [List.mem_cons, not_or] at free
    rw [List.cons_append, imbalance?, if_neg (Ne.symm free.1), ih free.2]

theorem Closed.imbalance?_append {s : List Char} (h : Closed s) (depth : Nat) (rest : List Char) :
    imbalance? depth .plain (s ++ rest) = imbalance? depth .plain rest := by
  induction h generalizing depth rest with
  | nil => rfl
  | inert hc _ ih => rw [List.cons_append, imbalance?_inert hc, ih]
  | minus hc _ ih => rw [List.cons_append, imbalance?_minus (by simpa using hc), ih]
  | quoted hq free _ ih =>
    rw [List.cons_append, List.append_assoc, List.cons_append, imbalance?_quote hq,
      imbalance?_quoted depth free, ih]
  | group _ _ inside ih =>
    rw [List.cons_append, List.append_assoc, List.cons_append, imbalance?_open, inside,
      imbalance?_close, ih]

/-- What was read of a group, with more before it. -/
def before (s : List Char) : Option (List Char × List Char) → Option (List Char × List Char) :=
  Option.map fun (inner, rest) => (s ++ inner, rest)

theorem groupTail?_quoted {q : Char} (depth : Nat) {content rest : List Char}
    (free : q ∉ content) :
    groupTail? depth (some q) (content ++ q :: rest) =
      before (content ++ [q]) (groupTail? depth none rest) := by
  induction content with
  | nil => simp [groupTail?, before]
  | cons c content ih =>
    rw [List.mem_cons, not_or] at free
    rw [List.cons_append, groupTail?]
    simp only [if_neg (Ne.symm free.1), ih free.2, before, Option.map_map]
    rfl

theorem groupTail?_quote {c : Char} (h : isQuote c = true) (depth : Nat) (rest : List Char) :
    groupTail? depth none (c :: rest) = before [c] (groupTail? depth (some c) rest) := by
  rw [groupTail?.eq_def]
  simp only [h, if_true]
  rfl

theorem groupTail?_plain {c : Char} (quote : isQuote c = false) (opening : c ≠ '(')
    (closing : c ≠ ')') (depth : Nat) (rest : List Char) :
    groupTail? depth none (c :: rest) = before [c] (groupTail? depth none rest) := by
  rw [groupTail?.eq_def]
  simp only [quote, Bool.false_eq_true, if_false, opening, closing]
  rfl

theorem groupTail?_open (depth : Nat) (rest : List Char) :
    groupTail? depth none ('(' :: rest) = before ['('] (groupTail? (depth + 1) none rest) := by
  rw [groupTail?.eq_def]
  rfl

theorem groupTail?_close (depth : Nat) (rest : List Char) :
    groupTail? (depth + 1) none (')' :: rest) = before [')'] (groupTail? depth none rest) := by
  rw [groupTail?.eq_def]
  rfl

theorem before_before (s t : List Char) (read : Option (List Char × List Char)) :
    before s (before t read) = before (s ++ t) read := by
  cases read <;> simp [before]

/-- The search for the end of a group passes over a closed text. -/
theorem Closed.groupTail?_append {s : List Char} (h : Closed s) (depth : Nat) (rest : List Char) :
    groupTail? depth none (s ++ rest) = before s (groupTail? depth none rest) := by
  induction h generalizing depth rest with
  | nil => cases he : groupTail? depth none rest <;> simp [before, he]
  | inert hc _ ih =>
    simp only [isInert, Bool.and_eq_true, Bool.not_eq_true', bne_iff_ne] at hc
    obtain ⟨⟨⟨⟨quote, opening⟩, closing⟩, -⟩, -⟩ := hc
    rw [List.cons_append, groupTail?_plain quote opening closing, ih, before_before,
      List.singleton_append]
  | minus _ _ ih =>
    rw [List.cons_append, groupTail?_plain (by decide) (by decide) (by decide), ih,
      before_before, List.singleton_append]
  | quoted hq free _ ih =>
    rw [List.cons_append, List.append_assoc, List.cons_append, groupTail?_quote hq,
      groupTail?_quoted depth free, ih, before_before, before_before]
    simp
  | group _ _ inside ih =>
    rw [List.cons_append, List.append_assoc, List.cons_append, groupTail?_open, inside,
      groupTail?_close, ih, before_before, before_before, before_before]
    simp

theorem group_run {inner : List Char} (h : Closed inner) (rest : List Char) :
    group ('(' :: (inner ++ ')' :: rest)) = some (inner, rest) := by
  have start (s : List Char) : group ('(' :: s) = groupTail? 0 none s := rfl
  have last : groupTail? 0 none (')' :: rest) = some ([], rest) := by
    rw [groupTail?.eq_def]
    rfl
  rw [start, h.groupTail?_append, last]
  simp [before]

theorem group_refused {c : Char} (h : c ≠ '(') (rest : List Char) : group (c :: rest) = none :=
  Scan.bind_refused (Scan.char_cons_ne h rest)

end TableLoad.Ddl
