import TableLoad.Proofs.Text.Progress

/-! # Scanners that keep a relation

A scanner keeps a relation of texts if it reads the same from related texts, or refuses both, and
leaves related texts behind.  A scanner in several steps keeps what its steps keep.
-/
namespace TableLoad.Scan

variable {α β : Type} {R : List Char → List Char → Prop} {p q : Scan α} {f : α → Scan β}

/-- The scanner does the same with related texts, and leaves related texts. -/
def Keeps (R : List Char → List Char → Prop) (p : Scan α) : Prop :=
  ∀ ⦃x y⦄, R x y → (p x = none ∧ p y = none) ∨
    ∃ a x' y', p x = some (a, x') ∧ p y = some (a, y') ∧ R x' y'

theorem keeps_pure (a : α) : Keeps R (pure a : Scan α) :=
  fun x y h => .inr ⟨a, x, y, rfl, rfl, h⟩

theorem Keeps.bind (hp : Keeps R p) (hf : ∀ a, Keeps R (f a)) : Keeps R (p >>= f) := by
  intro x y h
  rcases hp h with ⟨left, right⟩ | ⟨a, x', y', left, right, next⟩
  · exact .inl ⟨bind_refused left, bind_refused right⟩
  · rw [bind_run left, bind_run right]
    exact hf a next

theorem Keeps.orElse (hp : Keeps R p) (hq : Keeps R q) : Keeps R (p <|> q) := by
  intro x y h
  rcases hp h with ⟨left, right⟩ | ⟨a, x', y', left, right, next⟩
  · rw [orElse_refused left, orElse_refused right]
    exact hq h
  · exact .inr ⟨a, x', y', orElse_run left, orElse_run right, next⟩

theorem Keeps.optional (hp : Keeps R p) : Keeps R (optional p) := by
  intro x y h
  rcases hp h with ⟨left, right⟩ | ⟨a, x', y', left, right, next⟩
  · exact .inr ⟨none, x, y, optional_refused left, optional_refused right, h⟩
  · exact .inr ⟨some a, x', y', optional_run left, optional_run right, next⟩

/-- By induction on the length of the first text, which a scanner that advances shortens. -/
theorem Keeps.repeated (hp : Keeps R p) (advances : p.Advances) {x y : List Char} (h : R x y) :
    ∃ items x' y', repeated p x = (items, x') ∧ repeated p y = (items, y') ∧ R x' y' := by
  induction size : x.length using Nat.strong_induction_on generalizing x y with
  | _ n ih =>
    subst size
    rcases hp h with ⟨left, right⟩ | ⟨a, x', y', left, right, next⟩
    · exact ⟨[], x, y, repeated_refused left, repeated_refused right, h⟩
    · obtain ⟨items, x'', y'', more, more', last⟩ := ih x'.length (advances.length_lt left) next rfl
      refine ⟨a :: items, x'', y'', ?_, ?_, last⟩
      · rw [repeated_run left (advances.length_lt left), more]
      · rw [repeated_run right (advances.length_lt right), more']

theorem Keeps.many (hp : Keeps R p) (advances : p.Advances) : Keeps R (many p) := by
  intro x y h
  obtain ⟨items, x', y', left, right, last⟩ := hp.repeated advances h
  exact .inr ⟨items, x', y', congrArg some left, congrArg some right, last⟩

theorem Keeps.separated {sep : Scan Unit} (hs : Keeps R sep) (hp : Keeps R p)
    (advances : (do sep; p : Scan α).Advances) : Keeps R (separated sep p) := by
  intro x y h
  rcases hp h with ⟨left, right⟩ | ⟨a, x', y', left, right, next⟩
  · exact .inr ⟨[], x, y, separated_refused left, separated_refused right, h⟩
  · obtain ⟨items, x'', y'', more, more', last⟩ := (hs.bind fun _ => hp).repeated advances next
    refine .inr ⟨a :: items, x'', y'', ?_, ?_, last⟩
    · rw [Scan.separated, left]
      simp only [more]
    · rw [Scan.separated, right]
      simp only [more']

def Behind (R : List Char → List Char → Prop) (x₀ y₀ x y : List Char) : Prop :=
  R x y ∧ ∃ shown, x₀ = shown ++ x ∧ y₀ = shown ++ y

/-- The scanner keeps the relation, and reads the same text where it reads the same. -/
def Copies (R : List Char → List Char → Prop) (p : Scan α) : Prop :=
  ∀ x₀ y₀, Keeps (Behind R x₀ y₀) p

/-- What has to be shown of one scanner. -/
theorem copies_of_forall (h : ∀ ⦃x y⦄, R x y → (p x = none ∧ p y = none) ∨
    ∃ a shown x' y', x = shown ++ x' ∧ y = shown ++ y' ∧ p x = some (a, x') ∧
      p y = some (a, y') ∧ R x' y') : Copies R p := by
  rintro x₀ y₀ x y ⟨related, first, rfl, rfl⟩
  rcases h related with refused | ⟨a, shown, x', y', rfl, rfl, left, right, next⟩
  · exact .inl refused
  · refine .inr ⟨a, x', y', left, right, next, first ++ shown, ?_, ?_⟩ <;>
      rw [List.append_assoc]

theorem Copies.cases (hp : Copies R p) {x y : List Char} (h : R x y) :
    (p x = none ∧ p y = none) ∨ ∃ a shown x' y', x = shown ++ x' ∧ y = shown ++ y' ∧
      p x = some (a, x') ∧ p y = some (a, y') ∧ R x' y' := by
  rcases hp x y ⟨h, [], rfl, rfl⟩ with refused | ⟨a, x', y', left, right, next, shown, hx, hy⟩
  · exact .inl refused
  · exact .inr ⟨a, shown, x', y', hx, hy, left, right, next⟩

theorem Copies.keeps (hp : Copies R p) : Keeps R p := by
  intro x y h
  rcases hp.cases h with refused | ⟨a, -, x', y', -, -, left, right, next⟩
  · exact .inl refused
  · exact .inr ⟨a, x', y', left, right, next⟩

theorem copies_pure (a : α) : Copies R (pure a : Scan α) := fun _ _ => keeps_pure a

theorem Copies.bind (hp : Copies R p) (hf : ∀ a, Copies R (f a)) : Copies R (p >>= f) :=
  fun x₀ y₀ => (hp x₀ y₀).bind fun a => hf a x₀ y₀

theorem Copies.orElse (hp : Copies R p) (hq : Copies R q) : Copies R (p <|> q) :=
  fun x₀ y₀ => (hp x₀ y₀).orElse (hq x₀ y₀)

theorem Copies.optional (hp : Copies R p) : Copies R (optional p) :=
  fun x₀ y₀ => (hp x₀ y₀).optional

/-- The text that was read is the same, so it can be looked at. -/
theorem Copies.consumed (hp : Copies R p) : Copies R (consumed p) := by
  apply copies_of_forall
  intro x y h
  rcases hp.cases h with ⟨left, right⟩ | ⟨a, shown, x', y', rfl, rfl, left, right, next⟩
  · refine .inl ⟨?_, ?_⟩
    · rw [Scan.consumed, left]
    · rw [Scan.consumed, right]
  · exact .inr ⟨(shown, a), shown, x', y', rfl, rfl, consumed_run left, consumed_run right, next⟩

end TableLoad.Scan
