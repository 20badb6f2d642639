import TableLoad.Proofs.Text.Scan
import TableLoad.Proofs.Text.Yields

/-! # How far scanners get

What a scanner of a grammar leaves is an end of the text it was given, and of a scanner that
advances a shorter one.  A repetition goes on for as long as its scanner accepts, if that scanner
advances.
-/
namespace TableLoad.Scan

variable {α β : Type} {p q : Scan α} {f : α → Scan β}

def StaysWithin (p : Scan α) : Prop := ∀ ⦃s a rest⦄, p s = some (a, rest) → rest <:+ s

/-- The scanner leaves an end of the text it was given, and less than all of it. -/
def Advances (p : Scan α) : Prop :=
  ∀ ⦃s a rest⦄, p s = some (a, rest) → rest <:+ s ∧ rest.length < s.length

theorem Advances.staysWithin (hp : p.Advances) : p.StaysWithin := fun _ _ _ h => (hp h).1

theorem Advances.length_lt (hp : p.Advances) {s rest : List Char} {a : α}
    (h : p s = some (a, rest)) : rest.length < s.length := (hp h).2

theorem staysWithin_pure (a : α) : (pure a : Scan α).StaysWithin := by
  intro s b rest h
  cases h
  exact List.suffix_rfl

theorem StaysWithin.bind (hp : p.StaysWithin) (hf : ∀ a, (f a).StaysWithin) :
    (p >>= f).StaysWithin := by
  intro s b rest h
  obtain ⟨a, middle, first, last⟩ := exists_of_bind h
  exact (hf a last).trans (hp first)

theorem Advances.bind (hp : p.Advances) (hf : ∀ a, (f a).StaysWithin) : (p >>= f).Advances := by
  intro s b rest h
  obtain ⟨a, middle, first, last⟩ := exists_of_bind h
  obtain ⟨within, shorter⟩ := hp first
  exact ⟨(hf a last).trans within, (hf a last).length_le.trans_lt shorter⟩

/-- A later step may be the one that advances. -/
theorem StaysWithin.bind_advances (hp : p.StaysWithin) (hf : ∀ a, (f a).Advances) :
    (p >>= f).Advances := by
  intro s b rest h
  obtain ⟨a, middle, first, last⟩ := exists_of_bind h
  obtain ⟨within, shorter⟩ := hf a last
  exact ⟨within.trans (hp first), shorter.trans_le (hp first).length_le⟩

theorem StaysWithin.orElse (hp : p.StaysWithin) (hq : q.StaysWithin) : (p <|> q).StaysWithin := by
  intro s a rest h
  rcases orElse_cases h with h | h
  · exact hp h
  · exact hq h

theorem Advances.orElse (hp : p.Advances) (hq : q.Advances) : (p <|> q).Advances := by
  intro s a rest h
  rcases orElse_cases h with h | h
  · exact hp h
  · exact hq h

theorem StaysWithin.optional (hp : p.StaysWithin) : (optional p).StaysWithin := by
  intro s a rest h
  rw [Scan.optional] at h
  split at h
  · rename_i read
    cases h
    exact hp read
  · cases h
    exact List.suffix_rfl

theorem Advances.consumed (hp : p.Advances) : (consumed p).Advances := by
  intro s a rest h
  rw [Scan.consumed] at h
  split at h
  · rename_i read
    cases h
    exact hp read
  · cases h

theorem StaysWithin.repeated (hp : p.StaysWithin) (s : List Char) : (repeated p s).2 <:+ s := by
  fun_induction Scan.repeated p s with
  | case1 s a rest read shorter more last next ih =>
    rw [next] at ih
    exact ih.trans (hp read)
  | case2 | case3 => exact List.suffix_rfl

theorem StaysWithin.many (hp : p.StaysWithin) : (many p).StaysWithin := by
  intro s items rest h
  obtain rfl : (Scan.repeated p s).2 = rest := congrArg Prod.snd (Option.some.inj h)
  exact hp.repeated s

theorem StaysWithin.separated {sep : Scan Unit} (hs : sep.StaysWithin) (hp : p.StaysWithin) :
    (separated sep p).StaysWithin := by
  intro s items rest h
  rw [Scan.separated] at h
  split at h
  · rename_i first more read
    cases h
    exact ((hs.bind fun _ => hp).repeated more).trans (hp read)
  · cases h
    exact List.suffix_rfl

/-- The items that a separated list reads, each with what was left of the text when it was read. -/
inductive ReadsItem (sep : Scan Unit) (item : Scan α) : List Char → α → List Char → Prop where
  | first {s rest : List Char} {a : α} (read : item s = some (a, rest)) : ReadsItem sep item s a s
  | later {s rest next u : List Char} {a b : α} (read : item s = some (b, rest))
      (mark : sep rest = some ((), next)) (more : ReadsItem sep item next a u) :
      ReadsItem sep item s a u

theorem exists_readsItem {sep : Scan Unit} {s rest : List Char} {items : List α} {a : α}
    (h : separated sep p s = some (items, rest)) (ha : a ∈ items) :
    ∃ u, ReadsItem sep p s a u := by
  -- what an item leaves is where the repetition goes on
  have behind {s rest : List Char} {b : α} (read : p s = some (b, rest))
      (ha : a ∈ (Scan.repeated (do sep; p) rest).1) : ∃ u, ReadsItem sep p s a u := by
    fun_induction Scan.repeated (do sep; p) rest generalizing s b with
    | case1 rest c last next shorter more stop repeats ih =>
      obtain ⟨_, middle, mark, item⟩ := exists_of_bind next
      rcases List.mem_cons.1 ha with rfl | ha
      · exact ⟨middle, .later read mark (.first item)⟩
      · rw [repeats] at ih
        obtain ⟨u, here⟩ := ih item ha
        exact ⟨u, .later read mark here⟩
    | case2 | case3 => cases ha
  rw [Scan.separated] at h
  split at h
  · rename_i first middle read
    cases h
    rcases List.mem_cons.1 ha with rfl | ha
    · exact ⟨s, .first read⟩
    · exact behind read ha
  · cases h
    cases ha

theorem ReadsItem.exists_run {sep : Scan Unit} {s u : List Char} {a : α}
    (h : ReadsItem sep p s a u) : ∃ rest, p u = some (a, rest) := by
  induction h with
  | first read => exact ⟨_, read⟩
  | later _ _ _ ih => exact ih

theorem ReadsItem.suffix {sep : Scan Unit} {s u : List Char} {a : α} (hs : sep.StaysWithin)
    (hp : p.StaysWithin) (h : ReadsItem sep p s a u) : u <:+ s := by
  induction h with
  | first => exact List.suffix_rfl
  | later read mark _ ih => exact ih.trans ((hs mark).trans (hp read))

theorem advances_char (c : Char) : (char c).Advances := by
  intro s a rest h
  obtain ⟨shown, rfl, rfl⟩ := char_reads c h
  exact ⟨List.suffix_append _ _, by simp⟩

theorem advances_some1 (c : Char → Bool) : (some1 c).Advances := by
  intro s shown rest h
  obtain ⟨rfl, filled, -⟩ := some1_spec h
  have := List.length_pos_iff.2 filled
  refine ⟨List.suffix_append _ _, ?_⟩
  rw [List.length_append]
  omega

theorem StaysWithin.consumed_eq_some_iff (hp : p.StaysWithin) {s shown rest : List Char} {a : α} :
    consumed p s = some ((shown, a), rest) ↔ s = shown ++ rest ∧ p s = some (a, rest) := by
  constructor
  · intro h
    rw [Scan.consumed] at h
    split at h
    · rename_i read
      cases h
      obtain ⟨front, rfl⟩ := hp read
      simpa using read
    · cases h
  · rintro ⟨rfl, read⟩
    exact consumed_run read

end TableLoad.Scan
