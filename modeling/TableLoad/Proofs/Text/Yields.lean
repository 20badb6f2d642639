import Mathlib.Data.List.TakeWhile
import TableLoad.Text.Scan

/-! # What scanners give

Conditions on all that a scanner gives, and on all that it reads, whatever the text.  A scanner in
several steps satisfies what its steps bring along.
-/
namespace TableLoad.Scan

variable {α β : Type} {p q : Scan α} {P : α → Prop}

theorem exists_of_bind {f : α → Scan β} {s rest : List Char} {b : β}
    (h : (p >>= f) s = some (b, rest)) :
    ∃ a middle, p s = some (a, middle) ∧ f a middle = some (b, rest) := by
  simp only [bind] at h
  split at h
  · rename_i a middle first
    exact ⟨a, middle, first, h⟩
  · cases h

theorem orElse_cases {s : List Char} {result : α × List Char} (h : (p <|> q) s = some result) :
    p s = some result ∨ q s = some result := by
  change orElse p (fun _ => q) s = _ at h
  rw [orElse] at h
  split at h
  · rename_i first
    exact .inl (first.trans h)
  · exact .inr h

def Yields (p : Scan α) (P : α → Prop) : Prop := ∀ ⦃s a rest⦄, p s = some (a, rest) → P a

theorem yields_pure {a : α} (h : P a) : (pure a : Scan α).Yields P := by
  intro s b rest hb
  cases hb
  exact h

/-- A first step may bring along what the second one needs. -/
theorem Yields.bind {f : α → Scan β} {Q : β → Prop} (hp : p.Yields P)
    (hf : ∀ a, P a → (f a).Yields Q) : (p >>= f).Yields Q := by
  intro s b rest h
  obtain ⟨a, middle, first, last⟩ := exists_of_bind h
  exact hf a (hp first) last

/-- A first step that does not matter. -/
theorem yields_bind {f : α → Scan β} {Q : β → Prop} (hf : ∀ a, (f a).Yields Q) :
    (p >>= f).Yields Q :=
  Yields.bind (P := fun _ => True) (fun _ _ _ _ => trivial) fun a _ => hf a

theorem Yields.orElse (hp : p.Yields P) (hq : q.Yields P) : (p <|> q).Yields P := by
  intro s a rest h
  rcases orElse_cases h with h | h
  · exact hp h
  · exact hq h

theorem Yields.mem_repeated (hp : p.Yields P) (s : List Char) : ∀ a ∈ (repeated p s).1, P a := by
  fun_induction repeated p s with
  | case1 s a rest read shorter more last next ih =>
    rw [next] at ih
    exact List.forall_mem_cons.2 ⟨hp read, ih⟩
  | case2 | case3 => simp

theorem Yields.many (hp : p.Yields P) : (many p).Yields fun items => ∀ a ∈ items, P a := by
  intro s items rest h
  obtain rfl : (repeated p s).1 = items := congrArg Prod.fst (Option.some.inj h)
  exact hp.mem_repeated s

theorem Yields.separated {sep : Scan Unit} (hp : p.Yields P) :
    (separated sep p).Yields fun items => ∀ a ∈ items, P a := by
  intro s items rest h
  rw [Scan.separated] at h
  split at h
  · rename_i first more read
    cases h
    have next : (do sep; p : Scan α).Yields P := yields_bind fun _ => hp
    exact List.forall_mem_cons.2 ⟨hp read, next.mem_repeated more⟩
  · cases h
    simp

theorem Yields.consumed (hp : p.Yields P) : (consumed p).Yields fun e => P e.2 := by
  intro s e rest h
  rw [Scan.consumed] at h
  split at h
  · rename_i read
    cases h
    exact hp read
  · cases h

def Reads (p : Scan α) (P : List Char → Prop) : Prop :=
  ∀ ⦃s a rest⦄, p s = some (a, rest) → ∃ shown, s = shown ++ rest ∧ P shown

section Reads
variable {R T : List Char → Prop}

theorem Reads.bind {f : α → Scan β} (hp : p.Reads R) (hf : ∀ a, (f a).Reads T) :
    (p >>= f).Reads fun shown => ∃ first last, shown = first ++ last ∧ R first ∧ T last := by
  intro s b rest h
  obtain ⟨a, middle, read, next⟩ := exists_of_bind h
  obtain ⟨first, rfl, hr⟩ := hp read
  obtain ⟨last, rfl, ht⟩ := hf a next
  exact ⟨first ++ last, (List.append_assoc ..).symm, first, last, rfl, hr, ht⟩

theorem Reads.orElse (hp : p.Reads R) (hq : q.Reads T) :
    (p <|> q).Reads fun shown => R shown ∨ T shown := by
  intro s a rest h
  rcases orElse_cases h with h | h
  · obtain ⟨shown, whole, hr⟩ := hp h
    exact ⟨shown, whole, .inl hr⟩
  · obtain ⟨shown, whole, ht⟩ := hq h
    exact ⟨shown, whole, .inr ht⟩

theorem Reads.optional (hp : p.Reads R) : (optional p).Reads fun shown => shown = [] ∨ R shown := by
  intro s a rest h
  rw [Scan.optional] at h
  split at h
  · rename_i read
    cases h
    obtain ⟨shown, whole, hr⟩ := hp read
    exact ⟨shown, whole, .inr hr⟩
  · cases h
    exact ⟨[], rfl, .inl rfl⟩

theorem Reads.of_consumed (hp : p.Reads R) {s rest : List Char} {e : List Char × α}
    (h : Scan.consumed p s = some (e, rest)) : s = e.1 ++ rest ∧ R e.1 := by
  rw [Scan.consumed] at h
  split at h
  · rename_i read
    cases h
    obtain ⟨shown, rfl, hr⟩ := hp read
    simpa using hr
  · cases h

theorem char_reads (c : Char) : (char c).Reads fun shown => shown = [c] := by
  intro s a rest h
  cases s with
  | nil => cases h
  | cons d s =>
    rw [char] at h
    split at h
    · rename_i same
      cases h
      exact ⟨[c], by rw [same, List.singleton_append], rfl⟩
    · cases h

end Reads

theorem some1_spec {c : Char → Bool} {s shown rest : List Char}
    (h : some1 c s = some (shown, rest)) :
    s = shown ++ rest ∧ shown ≠ [] ∧ ∀ d ∈ shown, c d = true := by
  rw [some1] at h
  split at h
  · cases h
  · rename_i filled
    cases h
    exact ⟨List.takeWhile_append_dropWhile.symm, by simpa using filled,
      fun d hd => List.mem_takeWhile_imp hd⟩

theorem some1_yields (c : Char → Bool) : (some1 c).Yields (· ≠ []) :=
  fun _ _ _ h => (some1_spec h).2.1

theorem some1_reads (c : Char → Bool) :
    (some1 c).Reads fun shown => shown ≠ [] ∧ ∀ d ∈ shown, c d = true :=
  fun _ _ _ h => ⟨_, some1_spec h⟩

end TableLoad.Scan
