import TableLoad.Text.Quoted

/-! # Doubling what occurs

Only the special characters that a text has make a difference.
-/
namespace TableLoad.Text

theorem doubling_congr {special other s : List Char}
    (same : ∀ c ∈ s, c ∈ special ↔ c ∈ other) : doubling special s = doubling other s := by
  induction s with
  | nil => rfl
  | cons c s ih =>
    rw [List.forall_mem_cons] at same
    simp [same.1, ih same.2]

theorem doubling_eq_self {special s : List Char} (plain : ∀ c ∈ s, c ∉ special) :
    doubling special s = s := by
  induction s with
  | nil => rfl
  | cons c s ih =>
    simp only [List.forall_mem_cons] at plain
    simp [plain.1, ih plain.2]

theorem length_doubling (special s : List Char) :
    (doubling special s).length = s.length + s.countP (special.contains ·) := by
  induction s with
  | nil => rfl
  | cons c s ih =>
    by_cases hc : c ∈ special
    · simp [hc, ih]
      omega
    · simp [hc, ih]
      omega

theorem doubling_eq_self_iff {special s : List Char} :
    doubling special s = s ↔ ∀ c ∈ s, c ∉ special := by
  constructor
  · intro same
    have hl := length_doubling special s
    rw [same] at hl
    have none : s.countP (special.contains ·) = 0 := by omega
    simpa using none
  · exact doubling_eq_self

/-- Characters of two kinds are doubled one kind after the other. -/
theorem doubling_append_special {special other : List Char} (apart : ∀ c ∈ special, c ∉ other)
    (s : List Char) : doubling (special ++ other) s = doubling other (doubling special s) := by
  induction s with
  | nil => rfl
  | cons c s ih =>
    by_cases hc : c ∈ special
    · simp [hc, apart c hc, ih]
    · by_cases ho : c ∈ other
      · simp [hc, ho, ih]
      · simp [hc, ho, ih]

end TableLoad.Text
