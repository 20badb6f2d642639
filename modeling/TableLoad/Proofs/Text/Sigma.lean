import Mathlib.Algebra.Order.BigOperators.Group.List
import Mathlib.Algebra.Order.Ring.Nat
import Mathlib.Data.List.TakeWhile
import TableLoad.Proofs.Text.Case

/-! # Final sigmas

The lower case of a text that a letter follows is that of the text alone, but for a capital sigma
that ends the text: alone it is a final sigma, and with a letter behind it, it is not.
-/
namespace TableLoad.Text

theorem lowercaseAfter_cons_sigma (before s : List Char) :
    lowercaseAfter before (capitalSigma :: s) =
      (if meetsCased before && !meetsCased s then Char.ofNat 0x3c2 else Char.ofNat 0x3c3) ::
        lowercaseAfter (capitalSigma :: before) s := rfl

theorem lowercaseAfter_cons_of_ne {c : Char} (other : c ≠ capitalSigma) (before s : List Char) :
    lowercaseAfter before (c :: s) = lowerChar c ++ lowercaseAfter (c :: before) s := by
  have code : (c.toNat == 0x3a3) = false := by
    rw [beq_eq_false_iff_ne]
    intro he
    exact other (by rw [← Char.ofNat_toNat c, he]; rfl)
  simp [lowercaseAfter, code]

theorem length_lowercaseAfter (before s : List Char) :
    (lowercaseAfter before s).length = (s.map fun c => (lowerChar c).length).sum := by
  induction s generalizing before with
  | nil => rfl
  | cons c s ih =>
    rw [List.map_cons, List.sum_cons, ← ih (c :: before)]
    by_cases sigma : c = capitalSigma
    · have one : (lowerChar capitalSigma).length = 1 := by decide +kernel
      rw [sigma, lowercaseAfter_cons_sigma, List.length_cons, one, Nat.add_comm]
    · rw [lowercaseAfter_cons_of_ne sigma, List.length_append]

theorem length_lowerChar_pos (c : Char) : 0 < (lowerChar c).length := by
  rw [lowerChar]
  split
  · exact Nat.one_pos
  · split <;> simp

theorem length_lowercaseAfter_filter_lt {p : Char → Bool} {s : List Char} {c : Char} (hc : c ∈ s)
    (out : p c = false) (before before' : List Char) :
    (lowercaseAfter before (s.filter p)).length < (lowercaseAfter before' s).length := by
  rw [length_lowercaseAfter, length_lowercaseAfter]
  have le (t : List Char) : ((t.filter p).map fun c => (lowerChar c).length).sum ≤
      (t.map fun c => (lowerChar c).length).sum :=
    (List.filter_sublist.map _).sum_le_sum (by simp)
  obtain ⟨front, back, rfl⟩ := List.append_of_mem hc
  have pos := length_lowerChar_pos c
  have front_le := le front
  have back_le := le back
  rw [List.filter_append, List.filter_cons_of_neg (by simp [out])]
  simp only [List.map_append, List.map_cons, List.sum_append, List.sum_cons]
  omega

/-- In the lower case of a longer text, that of its start has the length it has alone. -/
theorem exists_lowercaseAfter_append (before s t : List Char) :
    ∃ start, lowercaseAfter before (s ++ t) = start ++ lowercaseAfter (s.reverse ++ before) t ∧
      start.length = (lowercaseAfter before s).length := by
  induction s generalizing before with
  | nil => exact ⟨[], rfl, rfl⟩
  | cons c s ih =>
    obtain ⟨start, text, length⟩ := ih (c :: before)
    have around : (c :: s).reverse ++ before = s.reverse ++ c :: before := by simp
    rw [around, List.cons_append]
    by_cases sigma : c = capitalSigma
    · subst sigma
      refine ⟨(if meetsCased before && !meetsCased (s ++ t) then Char.ofNat 0x3c2
        else Char.ofNat 0x3c3) :: start, ?_, ?_⟩
      · rw [lowercaseAfter_cons_sigma, text, List.cons_append]
      · rw [List.length_cons, length, lowercaseAfter_cons_sigma, List.length_cons]
    · refine ⟨lowerChar c ++ start, ?_, ?_⟩
      · rw [lowercaseAfter_cons_of_ne sigma, text, List.append_assoc]
      · rw [lowercaseAfter_cons_of_ne sigma, List.length_append, List.length_append, length]

/-- The text, behind `before`, nearest first, ends in a capital sigma that ends a word, but for
characters that the sigma rule looks past. -/
def EndsInSigma (before s : List Char) : Prop :=
  ∃ front back, s = front ++ capitalSigma :: back ∧ meetsCased (front.reverse ++ before) = true ∧
    back.all isCaseIgnorable = true

theorem endsInSigma_cons {before s : List Char} {c : Char} : EndsInSigma before (c :: s) ↔
    (c = capitalSigma ∧ meetsCased before = true ∧ s.all isCaseIgnorable = true) ∨
      EndsInSigma (c :: before) s := by
  constructor
  · rintro ⟨front, back, text, cased, ignored⟩
    cases front with
    | nil =>
      obtain ⟨rfl, rfl⟩ := List.cons.inj text
      exact .inl ⟨rfl, cased, ignored⟩
    | cons d front =>
      obtain ⟨rfl, rfl⟩ := List.cons.inj text
      rw [List.reverse_cons, List.append_assoc] at cased
      exact .inr ⟨front, back, rfl, cased, ignored⟩
  · rintro (⟨rfl, cased, ignored⟩ | ⟨front, back, rfl, cased, ignored⟩)
    · exact ⟨[], s, rfl, cased, ignored⟩
    · refine ⟨c :: front, back, rfl, ?_, ignored⟩
      rw [List.reverse_cons, List.append_assoc]
      exact cased

theorem not_endsInSigma_of_not_mem {before s : List Char} (h : capitalSigma ∉ s) :
    ¬ EndsInSigma before s := by
  rintro ⟨front, back, rfl, -⟩
  simp at h

/-- A cased letter is met behind a text if one is met in it or all of it is looked past. -/
theorem meetsCased_append_cons {c : Char} (letter : isCased c = true)
    (seen : isCaseIgnorable c = false) (s t : List Char) :
    meetsCased (s ++ c :: t) = (meetsCased s || s.all isCaseIgnorable) := by
  induction s with
  | nil => simp [meetsCased, seen, letter]
  | cons d s ih =>
    cases hd : isCaseIgnorable d with
    | true =>
      have skip (u : List Char) : meetsCased (d :: u) = meetsCased u := by simp [meetsCased, hd]
      rw [List.cons_append, skip, skip, ih, List.all_cons, hd, Bool.true_and]
    | false =>
      have first (u : List Char) : meetsCased (d :: u) = isCased d := by simp [meetsCased, hd]
      rw [List.cons_append, first, first, List.all_cons, hd, Bool.false_and, Bool.or_false]

theorem meetsCased_of_all {s : List Char} (h : s.all isCaseIgnorable = true) :
    meetsCased s = false := by
  have none : s.dropWhile isCaseIgnorable = [] := by
    rw [List.dropWhile_eq_nil_iff]
    exact List.all_eq_true.1 h
  rw [meetsCased, none]
  rfl

/-- In front of a letter, the lower case of a text is that of the text alone exactly when the text
does not end in a capital sigma. -/
theorem lowercaseAfter_append_iff {c : Char} (letter : isCased c = true)
    (seen : isCaseIgnorable c = false) (before s t : List Char) :
    lowercaseAfter before (s ++ c :: t) =
        lowercaseAfter before s ++ lowercaseAfter (s.reverse ++ before) (c :: t) ↔
      ¬ EndsInSigma before s := by
  induction s generalizing before with
  | nil => simp [lowercaseAfter, EndsInSigma]
  | cons d s ih =>
    have around : (d :: s).reverse ++ before = s.reverse ++ d :: before := by simp
    rw [endsInSigma_cons, not_or, ← ih (d :: before), around, List.cons_append]
    by_cases sigma : d = capitalSigma
    · subst sigma
      rw [lowercaseAfter_cons_sigma, lowercaseAfter_cons_sigma, List.cons_append, List.cons.injEq,
        meetsCased_append_cons letter seen]
      refine and_congr_left' ?_
      cases all : s.all isCaseIgnorable with
      | false => simp
      | true =>
        have differ : Char.ofNat 0x3c3 ≠ Char.ofNat 0x3c2 := by decide
        rw [meetsCased_of_all all]
        cases meetsCased before <;> simp [differ]
    · rw [lowercaseAfter_cons_of_ne sigma, lowercaseAfter_cons_of_ne sigma, List.append_assoc,
        List.append_cancel_left_eq]
      simp [sigma]

end TableLoad.Text
