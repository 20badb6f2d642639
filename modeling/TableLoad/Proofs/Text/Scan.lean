import Mathlib.Data.List.Forall2
import TableLoad.Text.Scan

/-! # What scanners read

A scanner in several steps reads what its steps read one after the other.  A list of items reads
back from their texts, with or without separators, if each item reads back from its own text
whatever follows; what may follow an item is a condition on the rest of the text.
-/
namespace TableLoad.Scan

variable {α β γ : Type} {s rest : List Char}

/-- What holds of the characters of a text is decided along the text, not over all characters. -/
instance decidableForallMem (p : Char → Prop) [DecidablePred p] (s : List Char) :
    Decidable (∀ c ∈ s, p c) :=
  List.decidableBAll p s

theorem bind_then (p : Scan α) (f : α → Scan β) (g : β → Scan γ) :
    p >>= f >>= g = p >>= fun a => f a >>= g := by
  funext s
  simp only [bind]
  cases p s <;> rfl

theorem map_id (p : Scan α) : id <$> p = p := by
  funext s
  change (p >>= pure) s = p s
  simp only [bind]
  cases p s <;> rfl

instance : LawfulMonad Scan := LawfulMonad.mk' Scan map_id (fun _ _ => rfl) bind_then

theorem bind_run {p : Scan α} {f : α → Scan β} {a : α} (h : p s = some (a, rest)) :
    (p >>= f) s = f a rest := by
  simp only [bind, h]

theorem bind_refused {p : Scan α} {f : α → Scan β} (h : p s = none) : (p >>= f) s = none := by
  simp only [bind, h]

theorem orElse_run {p q : Scan α} {result : α × List Char} (h : p s = some result) :
    (p <|> q) s = some result := by
  change orElse p (fun _ => q) s = _
  rw [orElse, h]

theorem orElse_refused {p q : Scan α} (h : p s = none) : (p <|> q) s = q s := by
  change orElse p (fun _ => q) s = _
  rw [orElse, h]

theorem orElse_of_refused {p q : Scan α} (h : q s = none) : (p <|> q) s = p s := by
  cases read : p s with
  | some result => exact orElse_run read
  | none => exact (orElse_refused read).trans h

theorem orElse_map (p q : Scan α) (f : α → β) :
    (do return f (← p <|> q) : Scan β) = ((do return f (← p)) <|> (do return f (← q))) := by
  funext s
  cases read : p s with
  | some result => exact (bind_run (orElse_run read)).trans (orElse_run (bind_run read)).symm
  | none =>
    refine Eq.trans ?_ (orElse_refused (bind_refused read)).symm
    simp only [bind, orElse_refused read]

theorem optional_run {p : Scan α} {a : α} (h : p s = some (a, rest)) :
    optional p s = some (some a, rest) := by
  rw [optional, h]

theorem optional_refused {p : Scan α} (h : p s = none) : optional p s = some (none, s) := by
  rw [optional, h]

theorem consumed_eq {p : Scan α} {a : α} {s : List Char} (h : p s = some (a, rest)) :
    consumed p s = some ((s.take (s.length - rest.length), a), rest) := by
  rw [consumed, h]

theorem consumed_run {p : Scan α} {a : α} {shown : List Char}
    (h : p (shown ++ rest) = some (a, rest)) :
    consumed p (shown ++ rest) = some ((shown, a), rest) := by
  simp [consumed_eq h]

@[simp] theorem char_cons_self (c : Char) (s : List Char) : char c (c :: s) = some ((), s) := by
  simp [char]

theorem char_cons_ne {c d : Char} (h : d ≠ c) (s : List Char) : char c (d :: s) = none := by
  simp [char, h]

theorem char_refused {c : Char} {s : List Char} (h : s.head? ≠ some c) : char c s = none := by
  cases s with
  | nil => rfl
  | cons d s => exact char_cons_ne (by simpa using h) s

theorem exists_optional (p : Scan α) (s : List Char) :
    ∃ found rest, optional p s = some (found, rest) := by
  cases h : p s with
  | none => exact ⟨none, s, optional_refused h⟩
  | some read => exact ⟨some read.1, read.2, optional_run h⟩

theorem takeWhile_append_of_stop {p : Char → Bool} {shown : List Char}
    (all : ∀ c ∈ shown, p c = true) (stop : ∀ c ∈ rest.head?, p c = false) :
    (shown ++ rest).takeWhile p = shown ∧ (shown ++ rest).dropWhile p = rest := by
  have last : rest.takeWhile p = [] ∧ rest.dropWhile p = rest := by
    cases rest with
    | nil => simp
    | cons c rest => simp [stop c (by simp)]
  constructor
  · rw [List.takeWhile_append_of_pos all, last.1, List.append_nil]
  · rw [List.dropWhile_append_of_pos all, last.2]

theorem some1_run {p : Char → Bool} {shown : List Char} (filled : shown ≠ [])
    (all : ∀ c ∈ shown, p c = true) (stop : ∀ c ∈ rest.head?, p c = false) :
    some1 p (shown ++ rest) = some (shown, rest) := by
  obtain ⟨take, drop⟩ := takeWhile_append_of_stop all stop
  simp [some1, take, drop, filled]

theorem some1_refused {p : Char → Bool} (stop : ∀ c ∈ s.head?, p c = false) :
    some1 p s = none := by
  cases s with
  | nil => rfl
  | cons c s => simp [some1, stop c (by simp)]

theorem repeated_run {p : Scan α} {a : α} (h : p s = some (a, rest))
    (shorter : rest.length < s.length) :
    repeated p s = (a :: (repeated p rest).1, (repeated p rest).2) := by
  rw [repeated, h]
  simp [shorter]

theorem repeated_refused {p : Scan α} (h : p s = none) : repeated p s = ([], s) := by
  rw [repeated, h]

theorem exists_of_forall₂ {R : α → β → Prop} {items : List α} {values : List β}
    (each : List.Forall₂ R items values) {b : β} (hb : b ∈ values) : ∃ a ∈ items, R a b := by
  induction each with
  | nil => simp at hb
  | @cons a b' items values first _ ih =>
    rcases List.mem_cons.1 hb with rfl | hb
    · exact ⟨a, List.mem_cons_self, first⟩
    · obtain ⟨a', ha, related⟩ := ih hb
      exact ⟨a', List.mem_cons_of_mem _ ha, related⟩

theorem forall₂_trans {R : α → β → Prop} {S : β → γ → Prop} {T : α → γ → Prop}
    (step : ∀ a b c, R a b → S b c → T a c) {items : List α} {between : List β} {values : List γ}
    (first : List.Forall₂ R items between) (second : List.Forall₂ S between values) :
    List.Forall₂ T items values := by
  induction first generalizing values with
  | nil =>
    cases second
    exact .nil
  | cons here _ ih =>
    cases second with
    | cons there more => exact .cons (step _ _ _ here there) (ih more)

variable (shown : γ → List Char) (Follow : List Char → Prop) (Reads : γ → α → Prop)

/-- Items read back one by one from their texts put together. -/
theorem repeated_flatMap (items : List γ) {p : Scan α}
    (reads : ∀ x ∈ items, ∀ t, Follow t → ∃ a, Reads x a ∧ p (shown x ++ t) = some (a, t))
    (filled : ∀ x ∈ items, shown x ≠ []) (follow : ∀ x ∈ items, ∀ t, Follow (shown x ++ t))
    (last : Follow rest) (stop : p rest = none) :
    ∃ values, List.Forall₂ Reads items values ∧
      repeated p (items.flatMap shown ++ rest) = (values, rest) := by
  induction items with
  | nil => exact ⟨[], .nil, repeated_refused stop⟩
  | cons x items ih =>
    simp only [List.forall_mem_cons] at reads filled follow
    obtain ⟨values, each, more⟩ := ih reads.2 filled.2 follow.2
    have next : Follow (items.flatMap shown ++ rest) := by
      cases items with
      | nil => exact last
      | cons y items =>
        rw [List.flatMap_cons, List.append_assoc]
        exact follow.2 y List.mem_cons_self _
    obtain ⟨a, ha, hp⟩ := reads.1 _ next
    refine ⟨a :: values, .cons ha each, ?_⟩
    rw [List.flatMap_cons, List.append_assoc, repeated_run hp, more]
    have := List.length_pos_iff.2 filled.1
    simp only [List.length_append]
    omega

theorem intercalate_cons (mark first : List Char) (parts : List (List Char)) :
    mark.intercalate (first :: parts) = first ++ parts.flatMap (mark ++ ·) := by
  induction parts generalizing first with
  | nil => simp
  | cons part parts ih =>
    rw [List.intercalate_cons_cons, ih, List.flatMap_cons]
    simp only [List.append_assoc]

theorem separated_refused {sep : Scan Unit} {item : Scan α} (h : item s = none) :
    separated sep item s = some ([], s) := by
  rw [separated, h]

theorem separated_intercalate (mark : List Char) (items : List γ) {sep : Scan Unit}
    {item : Scan α} (marked : mark ≠ [])
    (reads : ∀ x ∈ items, ∀ t, Follow t → ∃ a, Reads x a ∧ item (shown x ++ t) = some (a, t))
    (sepReads : ∀ x ∈ items, ∀ t, sep (mark ++ (shown x ++ t)) = some ((), shown x ++ t))
    (follow : ∀ t, Follow (mark ++ t)) (last : Follow rest)
    (empty : items = [] → item rest = none)
    (stop : (do sep; item : Scan α) rest = none) :
    ∃ values, List.Forall₂ Reads items values ∧
      separated sep item (mark.intercalate (items.map shown) ++ rest) = some (values, rest) := by
  cases items with
  | nil =>
    refine ⟨[], .nil, ?_⟩
    simp [separated, empty rfl]
  | cons x items =>
    simp only [List.forall_mem_cons] at reads sepReads
    have next : ∀ y ∈ items, ∀ t, Follow t →
        ∃ a, Reads y a ∧ (do sep; item : Scan α) (mark ++ shown y ++ t) = some (a, t) := by
      intro y hy t ht
      obtain ⟨a, ha, hp⟩ := reads.2 y hy t ht
      refine ⟨a, ha, ?_⟩
      rw [List.append_assoc, bind_run (sepReads.2 y hy t), hp]
    obtain ⟨values, each, more⟩ := repeated_flatMap (fun y => mark ++ shown y) Follow Reads items
      next (fun y _ => by simp [marked]) (fun y _ t => by rw [List.append_assoc]; exact follow _)
      last stop
    have first : Follow (items.flatMap (fun y => mark ++ shown y) ++ rest) := by
      cases items with
      | nil => exact last
      | cons y items =>
        rw [List.flatMap_cons, List.append_assoc, List.append_assoc]
        exact follow _
    obtain ⟨a, ha, hp⟩ := reads.1 _ first
    refine ⟨a :: values, .cons ha each, ?_⟩
    rw [List.map_cons, intercalate_cons, List.flatMap_map, List.append_assoc, separated, hp]
    simp only [more]

end TableLoad.Scan
