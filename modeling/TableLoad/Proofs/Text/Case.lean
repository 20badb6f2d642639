import TableLoad.Text.Case

/-! # Case by characters

Without a capital sigma, the lower case of a text is that of its characters one by one.  Texts that
differ in the case of ASCII letters have one lower case, with a sigma or without.
-/
namespace TableLoad.Text

theorem toNat_of_isAlpha {c : Char} (letter : c.isAlpha = true) :
    (0x41 ≤ c.toNat ∧ c.toNat ≤ 0x5a) ∨ (0x61 ≤ c.toNat ∧ c.toNat ≤ 0x7a) := by
  have cases : (c.isUpper || c.isLower) = true := letter
  rcases Bool.or_eq_true_iff.1 cases with upper | lower
  · exact .inl (of_decide_eq_true upper)
  · have bounds := Bool.and_eq_true_iff.1 lower
    exact .inr ⟨of_decide_eq_true bounds.1, of_decide_eq_true bounds.2⟩

/-- The letter whose lower case depends on what stands around it. -/
def capitalSigma : Char := Char.ofNat 0x3a3

theorem lowercaseAfter_eq_flatMap (before : List Char) {s : List Char} (h : capitalSigma ∉ s) :
    lowercaseAfter before s = s.flatMap lowerChar := by
  induction s generalizing before with
  | nil => rfl
  | cons c s ih =>
    rw [List.mem_cons, not_or] at h
    have other : (c.toNat == 0x3a3) = false := by
      rw [beq_eq_false_iff_ne]
      intro he
      exact h.1 (by rw [← Char.ofNat_toNat c, he]; rfl)
    rw [lowercaseAfter, ih _ h.2]
    simp [other]

theorem lowerChar_of_ascii {c : Char} (h : c.toNat < 0x80) : lowerChar c = [c.toLower] := by
  simp [lowerChar, h]

theorem lowercaseAfter_cons_of_ascii {c : Char} (h : c.toNat < 0x80) (before s : List Char) :
    lowercaseAfter before (c :: s) = c.toLower :: lowercaseAfter (c :: before) s := by
  have other : (c.toNat == 0x3a3) = false := by
    rw [beq_eq_false_iff_ne]
    omega
  rw [lowercaseAfter]
  simp [other, lowerChar_of_ascii h]

theorem toLower_mem_lowercaseAfter {c : Char} (ascii : c.toNat < 0x80) (before : List Char)
    {s : List Char} (h : c ∈ s) : c.toLower ∈ lowercaseAfter before s := by
  induction s generalizing before with
  | nil => cases h
  | cons d s ih =>
    cases h with
    | head =>
      rw [lowercaseAfter_cons_of_ascii ascii]
      exact List.mem_cons_self
    | tail _ later => exact List.mem_append_right _ (ih _ later)

theorem toLower_eq_self {c : Char} (h : c.toNat < 0x41 ∨ 0x5a < c.toNat) : c.toLower = c := by
  apply dif_neg
  rintro ⟨lower, upper⟩
  have low : 0x41 ≤ c.toNat := UInt32.le_iff_toNat_le.1 lower
  have high : c.toNat ≤ 0x5a := UInt32.le_iff_toNat_le.1 upper
  omega

/-- What ASCII letters of both cases share, every character shares with its image. -/
theorem apply_toLower {α : Type} {f : Char → α}
    (ascii : ∀ n < 0x80, f (Char.ofNat n).toLower = f (Char.ofNat n)) (c : Char) :
    f c.toLower = f c := by
  by_cases h : c.toNat < 0x80
  · have image := ascii c.toNat h
    rwa [Char.ofNat_toNat] at image
  · rw [toLower_eq_self (by omega)]

theorem lowerChar_toLower (c : Char) : lowerChar c.toLower = lowerChar c :=
  apply_toLower (by decide) c

theorem isCased_toLower (c : Char) : isCased c.toLower = isCased c := apply_toLower (by decide) c

theorem isCaseIgnorable_toLower (c : Char) : isCaseIgnorable c.toLower = isCaseIgnorable c :=
  apply_toLower (by decide) c

theorem meetsCased_map_toLower (s : List Char) : meetsCased (s.map Char.toLower) = meetsCased s := by
  have ignored : isCaseIgnorable ∘ Char.toLower = isCaseIgnorable :=
    funext isCaseIgnorable_toLower
  rw [meetsCased, meetsCased, List.dropWhile_map, ignored, List.head?_map, Option.any_map]
  simp only [isCased_toLower]

/-- The case of ASCII letters does not count for the lower case of a text, nor for what a sigma
in it becomes. -/
theorem lowercaseAfter_map_toLower (before s : List Char) :
    lowercaseAfter (before.map Char.toLower) (s.map Char.toLower) = lowercaseAfter before s := by
  induction s generalizing before with
  | nil => rfl
  | cons c s ih =>
    have sigma : (c.toLower.toNat == 0x3a3) = (c.toNat == 0x3a3) :=
      apply_toLower (f := fun c => c.toNat == 0x3a3) (by decide) c
    have later := ih (c :: before)
    rw [List.map_cons] at later
    rw [List.map_cons, lowercaseAfter, lowercaseAfter, later, sigma, lowerChar_toLower,
      meetsCased_map_toLower, meetsCased_map_toLower]

/-- Names that differ in the case of ASCII letters have one lower case. -/
theorem lowercase_eq_of_eqAsciiCaseless {a b : List Char} (h : eqAsciiCaseless a b = true) :
    lowercase a = lowercase b := by
  have lower (s : List Char) : lowercase (s.map Char.toLower) = lowercase s :=
    lowercaseAfter_map_toLower [] s
  rw [← lower a, ← lower b, eq_of_beq h]

end TableLoad.Text
