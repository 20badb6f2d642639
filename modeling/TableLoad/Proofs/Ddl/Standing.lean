import TableLoad.Proofs.Ddl.EntryTexts

/-! # Statements by their parts

The parts of a statement that close stand by themselves: they change neither the balance nor the
comments of what follows them.
-/
namespace TableLoad.Ddl
open Text Scan

/-! ### Texts that stand by themselves -/

/-- A text in front of which neither the balance nor the comments of what follows change. -/
structure ScansAlone (s : List Char) : Prop where
  balance : ∀ depth x, imbalance? depth .plain (s ++ x) = imbalance? depth .plain x
  comments : ∀ x, uncommented .plain (s ++ x) = uncommented .plain s ++ uncommented .plain x

/-- The same before marks only. -/
structure Stands (u : List Char) : Prop where
  balance : ∀ {stop}, isStop stop = true → ∀ depth t,
    imbalance? depth .plain (u ++ stop :: t) = imbalance? depth .plain (stop :: t)
  comments : ∀ {stop}, isStop stop = true → ∀ t,
    uncommented .plain (u ++ stop :: t) = uncommented .plain u ++ uncommented .plain (stop :: t)

theorem Inside.stands {mark : Char} {s : List Char} (h : Inside mark s) : Stands s :=
  ⟨h.imbalance?_append, h.uncommented_append⟩

theorem Alike.stands {special u v : List Char} (h : Alike special [] [] u v) : Stands u where
  balance {stop} marked depth t := by
    have ends : EndAlike (stop :: t) (stop :: t) := ⟨_, _, _, _, marked, marked, rfl, rfl⟩
    exact (h.append ends).imbalance?_eq depth
  comments := h.uncommented_append

namespace ScansAlone
variable {s t : List Char}

theorem append (hs : ScansAlone s) (ht : ScansAlone t) : ScansAlone (s ++ t) where
  balance depth x := by rw [List.append_assoc, hs.balance, ht.balance]
  comments x := by
    rw [List.append_assoc, hs.comments, ht.comments, hs.comments, List.append_assoc]

theorem append_stands (hs : ScansAlone s) (ht : Stands t) : Stands (s ++ t) where
  balance marked depth x := by rw [List.append_assoc, hs.balance, ht.balance marked]
  comments marked x := by
    rw [List.append_assoc, hs.comments, ht.comments marked, hs.comments, List.append_assoc]

theorem nil : ScansAlone [] := ⟨fun _ _ => rfl, fun _ => rfl⟩

theorem inert {c : Char} (hc : isInert c = true) (hs : ScansAlone s) : ScansAlone (c :: s) where
  balance depth x := by rw [List.cons_append, imbalance?_inert hc, hs.balance]
  comments x := by
    rw [List.cons_append, uncommented_inert hc, uncommented_inert hc, hs.comments,
      List.cons_append]

theorem of_inert (all : ∀ c ∈ s, isInert c = true) : ScansAlone s := by
  induction s with
  | nil => exact nil
  | cons c s ih =>
    rw [List.forall_mem_cons] at all
    exact inert all.1 (ih all.2)

theorem word (all : ∀ c ∈ s, isWordChar c = true) : ScansAlone s :=
  of_inert fun c hc => isInert_of_isWordChar (all c hc)

theorem gap {g : List Char} (h : IsGap g) : ScansAlone g := by
  induction h with
  | nil => exact nil
  | blank hc _ ih => exact inert (isInert_of_isGapChar hc) ih
  | comment hp _ ih => exact append ⟨fun _ _ => hp.imbalance?_append _, hp.uncommented_append⟩ ih

end ScansAlone

theorem uncommented_of_inert {s : List Char} (all : ∀ c ∈ s, isInert c = true) :
    uncommented .plain s = s := by
  induction s with
  | nil => rfl
  | cons c s ih =>
    rw [List.forall_mem_cons] at all
    rw [uncommented_inert all.1, ih all.2]

theorem uncommented_of_word {s : List Char} (all : ∀ c ∈ s, isWordChar c = true) :
    uncommented .plain s = s :=
  uncommented_of_inert fun c hc => isInert_of_isWordChar (all c hc)

theorem IsGap.uncommented {g : List Char} (h : IsGap g) : IsGap (Ddl.uncommented .plain g) := by
  have blanks {q g : List Char} (all : ∀ c ∈ q, isGapChar c = true) (hg : IsGap g) :
      IsGap (q ++ g) := by
    induction q with
    | nil => exact hg
    | cons c q ih =>
      rw [List.forall_mem_cons] at all
      exact .blank all.1 (ih all.2)
  induction h with
  | nil => exact .nil
  | blank hc _ ih =>
    rw [uncommented_inert (isInert_of_isGapChar hc)]
    exact .blank hc ih
  | comment hp _ ih =>
    rw [hp.uncommented_append]
    exact blanks hp.uncommented_blank.2 ih

/-! ### Statements by their parts -/

section Parts
variable {us : List (List Char)}

theorem Stands.balance_behindEntry {u : List Char} (h : Stands u) (us : List (List Char))
    (options : List Char) (depth : Nat) :
    imbalance? depth .plain (u ++ behindEntry us options) =
      imbalance? depth .plain (behindEntry us options) := by
  obtain ⟨stop, t, marked, behind⟩ := exists_stop us options
  rw [behind, h.balance (isStop_of_end marked)]

theorem Stands.comments_behindEntry {u : List Char} (h : Stands u) (us : List (List Char))
    (options : List Char) :
    uncommented .plain (u ++ behindEntry us options) =
      uncommented .plain u ++ uncommented .plain (behindEntry us options) := by
  obtain ⟨stop, t, marked, behind⟩ := exists_stop us options
  rw [behind, h.comments (isStop_of_end marked)]

theorem imbalance?_behindEntry (each : ∀ u ∈ us, Stands u) (options : List Char) :
    imbalance? 1 .plain (behindEntry us options) = imbalance? 0 .plain options := by
  induction us with
  | nil => exact imbalance?_close 0 options
  | cons u us ih =>
    rw [List.forall_mem_cons] at each
    rw [behindEntry, imbalance?_inert (by decide), each.1.balance_behindEntry, ih each.2]

theorem uncommented_behindEntry (each : ∀ u ∈ us, Stands u) (options : List Char) :
    uncommented .plain (behindEntry us options) =
      behindEntry (us.map (uncommented .plain)) (uncommented .plain options) := by
  induction us with
  | nil => exact uncommented_stop (by decide) options
  | cons u us ih =>
    rw [List.forall_mem_cons] at each
    rw [behindEntry, uncommented_stop (by decide), each.1.comments_behindEntry, ih each.2]
    rfl

/-- The balance of a statement is that of its options. -/
theorem imbalance?_statementText {head : List Char} (hh : Stands head)
    (each : ∀ u ∈ us, Stands u) (options : List Char) :
    imbalance? 0 .plain (statementText head us options) = imbalance? 0 .plain options := by
  rw [statementText, hh.balance (by decide), imbalance?_open]
  cases us with
  | nil => exact imbalance?_close 0 options
  | cons u us =>
    rw [List.forall_mem_cons] at each
    rw [intercalate_behindEntry, each.1.balance_behindEntry, imbalance?_behindEntry each.2]

/-- A statement without its comments is put together from its parts without theirs. -/
theorem uncommented_statementText {head : List Char} (hh : Stands head)
    (each : ∀ u ∈ us, Stands u) (options : List Char) :
    uncommented .plain (statementText head us options) =
      statementText (uncommented .plain head) (us.map (uncommented .plain))
        (uncommented .plain options) := by
  rw [statementText, statementText, hh.comments (by decide), uncommented_stop (by decide)]
  cases us with
  | nil =>
    have closing : uncommented .plain (')' :: options) = _ := uncommented_stop (by decide) options
    exact congrArg (fun t => _ ++ '(' :: t) closing
  | cons u us =>
    rw [List.forall_mem_cons] at each
    rw [List.map_cons, intercalate_behindEntry, intercalate_behindEntry,
      each.1.comments_behindEntry, uncommented_behindEntry each.2]

end Parts

/-- Marks that stand for themselves in an entry outside of groups. -/
def entryMarks : List Char := [',', '[']

/-- A head of a statement whose names in brackets close, read up to the parenthesis that follows. -/
structure IsHead (head : List Char) : Prop where
  closed : Alike entryMarks [] [] head head
  reads : ∃ table z, header (head ++ ['(']) = some (table, z) ∧ afterGap z = ['(']

theorem readsHead_of_alike {u v z : List Char} {table : String}
    (alike : Alike entryMarks [] [] u v) (read : header (v ++ ['(']) = some (table, z))
    (whole : afterGap z = ['(']) : ReadsHead u table ∧ ReadsHead v table := by
  have left (x : List Char) :
      ∃ z', header (u ++ '(' :: x) = some (table, z') ∧ afterGap z' = '(' :: x := by
    have ends : EndAlike ('(' :: x) ['('] := ⟨_, _, _, _, by decide, by decide, rfl, rfl⟩
    exact (alike.append ends).exists_run_left ends (keeps_header ends (by decide)) read whole
  refine ⟨left, fun x => ?_⟩
  obtain ⟨z', run, rest⟩ := left x
  have ends : EndAlike ('(' :: x) ('(' :: x) := ⟨_, _, _, _, by decide, by decide, rfl, rfl⟩
  exact (alike.append ends).exists_run_right ends (keeps_header ends (by decide)) run rest

end TableLoad.Ddl
