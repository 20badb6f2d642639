import Mathlib.Data.List.Forall2
import TableLoad.Proofs.Text.Sigma

/-! # The case of ASCII letters

Of the texts that have one lower case, comparison without the case of ASCII letters equates those
that have the same characters beyond ASCII at the same places.  The two comparisons come to the same
where every character beyond ASCII is its own lower case.
-/
namespace TableLoad.Text

/-- Texts of one length with the same characters beyond ASCII at the same places. -/
def AgreeBeyondAscii (a b : List Char) : Prop :=
  List.Forall₂ (fun c d => c = d ∨ c.toNat < 0x80 ∧ d.toNat < 0x80) a b

theorem toNat_toLower_lt_iff (c : Char) : c.toLower.toNat < 0x80 ↔ c.toNat < 0x80 := by
  have image := apply_toLower (f := fun c => decide (c.toNat < 0x80)) (by decide) c
  simpa using image

theorem eq_or_ascii_of_toLower_eq {c d : Char} (h : c.toLower = d.toLower) :
    c = d ∨ c.toNat < 0x80 ∧ d.toNat < 0x80 := by
  have both : c.toNat < 0x80 ↔ d.toNat < 0x80 := by
    rw [← toNat_toLower_lt_iff c, ← toNat_toLower_lt_iff d, h]
  by_cases ascii : c.toNat < 0x80
  · exact .inr ⟨ascii, both.1 ascii⟩
  · left
    have beyond : ¬ d.toNat < 0x80 := fun hd => ascii (both.2 hd)
    rwa [toLower_eq_self (by omega), toLower_eq_self (by omega)] at h

theorem agreeBeyondAscii_of_eqAsciiCaseless {a b : List Char} (h : eqAsciiCaseless a b = true) :
    AgreeBeyondAscii a b := by
  have same : List.Forall₂ (· = ·) (a.map Char.toLower) (b.map Char.toLower) := by
    rw [List.forall₂_eq_eq_eq]
    exact eq_of_beq h
  rw [List.forall₂_map_left_iff, List.forall₂_map_right_iff] at same
  exact same.imp fun c d => eq_or_ascii_of_toLower_eq

/-- The image of a character has one length, whatever stands around it, so equal lower cases are
equal character by character. -/
theorem map_toLower_eq_of_agree {a b : List Char} (agree : AgreeBeyondAscii a b)
    {before before' : List Char} (lower : lowercaseAfter before a = lowercaseAfter before' b) :
    a.map Char.toLower = b.map Char.toLower := by
  induction agree generalizing before before' with
  | nil => rfl
  | @cons c d a b here agree ih =>
    rcases here with rfl | ⟨ascii, ascii'⟩
    · rw [lowercaseAfter, lowercaseAfter] at lower
      have images := (List.append_inj lower (by split <;> rfl)).2
      rw [List.map_cons, List.map_cons, ih images]
    · rw [lowercaseAfter_cons_of_ascii ascii, lowercaseAfter_cons_of_ascii ascii'] at lower
      rw [List.map_cons, List.map_cons, (List.cons.inj lower).1, ih (List.cons.inj lower).2]

/-- Texts differ in the case of ASCII letters alone exactly when they have one lower case and agree
beyond ASCII. -/
theorem eqAsciiCaseless_iff {a b : List Char} : eqAsciiCaseless a b = true ↔
    lowercase a = lowercase b ∧ AgreeBeyondAscii a b := by
  constructor
  · intro h
    exact ⟨lowercase_eq_of_eqAsciiCaseless h, agreeBeyondAscii_of_eqAsciiCaseless h⟩
  · intro h
    rw [eqAsciiCaseless, beq_iff_eq]
    exact map_toLower_eq_of_agree h.2 h.1

/-- A text in which every character beyond ASCII is its own lower case. -/
def IsLowerBeyondAscii (s : List Char) : Prop := ∀ c ∈ s, 0x80 ≤ c.toNat → lowerChar c = [c]

theorem lowercaseAfter_eq_map {s : List Char} (h : IsLowerBeyondAscii s) (before : List Char) :
    lowercaseAfter before s = s.map Char.toLower := by
  induction s generalizing before with
  | nil => rfl
  | cons c s ih =>
    have later := ih (fun d hd => h d (List.mem_cons_of_mem c hd)) (c :: before)
    by_cases ascii : c.toNat < 0x80
    · rw [lowercaseAfter_cons_of_ascii ascii, later, List.map_cons]
    · have own : lowerChar c = [c] := h c List.mem_cons_self (by omega)
      have other : c ≠ capitalSigma := by
        rintro rfl
        exact absurd own (by decide +kernel)
      rw [lowercaseAfter_cons_of_ne other, own, later, List.map_cons, toLower_eq_self (by omega),
        List.singleton_append]

/-- Where every character beyond ASCII is its own lower case, only ASCII letters have case. -/
theorem eqAsciiCaseless_iff_of_lower {a b : List Char} (ha : IsLowerBeyondAscii a)
    (hb : IsLowerBeyondAscii b) : eqAsciiCaseless a b = true ↔ lowercase a = lowercase b := by
  rw [lowercase, lowercase, lowercaseAfter_eq_map ha, lowercaseAfter_eq_map hb, eqAsciiCaseless,
    beq_iff_eq]

end TableLoad.Text
