import TableLoad.Ddl.Resolve
import TableLoad.Proofs.Ddl.Columns
import TableLoad.Proofs.Text.Sigma

/-! # Recognising checks for truth values

The check of a column of truth values is compared with the name of the column when both are in lower
case; of the check, but not of the name, the blanks are taken out first.  So a blank in the name
hides the check, and so does a capital sigma at its end, which is a final one only without the rest
of the check.
-/
namespace TableLoad.Ddl
open Text Sql

def IsUnquoted (name : String) : Prop := name ≠ "" ∧ ∀ a ∈ name.toList, isNameQuote a = false

theorem IsUnquoted.mark_not_mem {name : String} (h : IsUnquoted name) (d : Dialect) :
    d.nameMarks.2 ∉ name.toList := by
  intro mark
  have quote : isNameQuote d.nameMarks.2 = true := by cases d <;> rfl
  rw [h.2 _ mark] at quote
  cases quote

theorem isUnquoted_of_isWord {name : String} (h : IsWord name) : IsUnquoted name := by
  refine ⟨h.1, fun a ha => ?_⟩
  have word := h.2 a ha
  have double := ne_of_isWordChar word (d := '"') rfl
  have back := ne_of_isWordChar word (d := backtick) rfl
  have opening := ne_of_isWordChar word (d := '[') rfl
  have closing := ne_of_isWordChar word (d := ']') rfl
  simp [isNameQuote, double, back, opening, closing]

/-- What is compared with the name: its own characters without blanks, and the list of values. -/
theorem compact_truthCode {c : Column} (h : IsUnquoted c.name) :
    compact ((truthCode .sqlite c).filter fun a => !isNameQuote a) =
      lowercase (c.name.toList.filter (fun a => !isBlank a) ++ "IN(0,1)".toList) := by
  have own : c.name.toList.filter (fun a => !isNameQuote a) = c.name.toList :=
    List.filter_eq_self.2 fun a ha => by simp [h.2 a ha]
  have rest : " IN (0, 1)".toList.filter (fun a => !isNameQuote a) = " IN (0, 1)".toList := by
    decide
  have quoted : ((Dialect.sqlite.quoteName c.name).toList).filter (fun a => !isNameQuote a) =
      c.name.toList := by
    rw [toList_quoteName_of_free _ (h.mark_not_mem .sqlite), List.filter_cons_of_neg (by decide),
      List.filter_append, own]
    exact List.append_nil _
  have values : " IN (0, 1)".toList.filter (fun a => !isBlank a) = "IN(0,1)".toList := by decide
  rw [truthCode, List.filter_append, quoted, rest, compact, List.filter_append, values]

theorem lowercaseAfter_values (before : List Char) :
    lowercaseAfter before "IN(0,1)".toList = "in(0,1)".toList :=
  (lowercaseAfter_eq_flatMap before (by decide)).trans (by decide)

/-- A name whose checks keep it: it has no blank and does not end in a capital sigma. -/
def KeepsCheck (name : String) : Prop :=
  (∀ a ∈ name.toList, isBlank a = false) ∧ ¬ EndsInSigma [] name.toList

theorem keepsCheck_of_isWord {name : String} (h : IsWord name)
    (lettered : capitalSigma ∉ name.toList) : KeepsCheck name :=
  ⟨fun a ha => not_isBlank_of_isWordChar (h.2 a ha), not_endsInSigma_of_not_mem lettered⟩

/-- The check of a column of truth values is recognised exactly when the name keeps it. -/
theorem isTruthCheck_truthCode_iff {c : Column} (h : IsUnquoted c.name) :
    isTruthCheck c.name (truthCode .sqlite c) = true ↔ KeepsCheck c.name := by
  obtain ⟨start, text, length⟩ := exists_lowercaseAfter_append []
    (c.name.toList.filter fun a => !isBlank a) "IN(0,1)".toList
  rw [lowercaseAfter_values] at text
  have shown : isTruthCheck c.name (truthCode .sqlite c) = true ↔
      start ++ "in(0,1)".toList = lowercase c.name.toList ++ "in(0,1)".toList ∨
        start ++ "in(0,1)".toList = lowercase c.name.toList ++ "in(1,0)".toList := by
    rw [isTruthCheck, compact_truthCode h, lowercase, text]
    simp only [Bool.or_eq_true, beq_iff_eq]
  have other : start ++ "in(0,1)".toList ≠ lowercase c.name.toList ++ "in(1,0)".toList :=
    fun same => absurd (List.append_inj_right' same (by decide)) (by decide)
  rw [shown, or_iff_left other]
  by_cases blank : ∃ a ∈ c.name.toList, isBlank a = true
  · obtain ⟨a, ha, blank⟩ := blank
    -- the check without blanks is too short
    have shorter : start.length < (lowercase c.name.toList).length :=
      length ▸ length_lowercaseAfter_filter_lt ha (by simp [blank]) [] []
    refine iff_of_false (fun same => ?_) fun free => ?_
    · exact absurd (congrArg List.length (List.append_inj_left' same rfl)) (by omega)
    · rw [free.1 a ha] at blank
      cases blank
  · have free : ∀ a ∈ c.name.toList, isBlank a = false := fun a ha =>
      Bool.eq_false_iff.2 fun found => blank ⟨a, ha, found⟩
    have own : c.name.toList.filter (fun a => !isBlank a) = c.name.toList :=
      List.filter_eq_self.2 fun a ha => by simp [free a ha]
    have letters := lowercaseAfter_append_iff (c := 'I') (by decide) (by decide) []
      c.name.toList "N(0,1)".toList
    have values : 'I' :: "N(0,1)".toList = "IN(0,1)".toList := rfl
    rw [values] at letters
    rw [own] at text
    rw [← text, ← lowercaseAfter_values (c.name.toList.reverse ++ [])]
    exact letters.trans (and_iff_right free).symm

end TableLoad.Ddl
