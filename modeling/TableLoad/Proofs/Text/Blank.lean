import Mathlib.Data.List.TakeWhile
import TableLoad.Text.Blank

/-! # Trimming

Blanks go at the ends of a text and nowhere else.
-/
namespace TableLoad.Text

theorem trimStart_of_not_blank {c : Char} {s : List Char} (h : isBlank c = false) :
    trimStart (c :: s) = c :: s := by
  simp [trimStart, h]

theorem trimmed_cons_of_blank {c : Char} {s : List Char} (h : isBlank c = true) :
    trimmed (c :: s) = trimmed s := by
  simp [trimmed, trimStart, h]

theorem trimEnd_eq_self {s : List Char} (last : ∀ c ∈ s.getLast?, isBlank c = false) :
    trimEnd s = s := by
  have back : s.reverse.dropWhile isBlank = s.reverse := by
    rw [← List.head?_reverse] at last
    cases h : s.reverse with
    | nil => rfl
    | cons d t =>
      rw [h] at last
      simp [last d rfl]
  rw [trimEnd, back, List.reverse_reverse]

theorem trimmed_eq_self {s : List Char} (first : ∀ c ∈ s.head?, isBlank c = false)
    (last : ∀ c ∈ s.getLast?, isBlank c = false) : trimmed s = s := by
  cases s with
  | nil => rfl
  | cons c s => rw [trimmed, trimStart_of_not_blank (first c rfl), trimEnd_eq_self last]

theorem trimmed_of_no_blank {s : List Char} (filled : ∀ c ∈ s, isBlank c = false) :
    trimmed s = s := by
  apply trimmed_eq_self
  · exact fun c hc => filled c (List.mem_of_mem_head? hc)
  · exact fun c hc => filled c (List.mem_of_getLast? hc)

structure IsTrimmed (s : List Char) : Prop where
  first : ∀ c ∈ s.head?, isBlank c = false
  last : ∀ c ∈ s.getLast?, isBlank c = false

theorem IsTrimmed.trimmed_eq {s : List Char} (h : IsTrimmed s) : trimmed s = s :=
  trimmed_eq_self h.first h.last

/-- The blanks around a text without a blank at its ends are what is taken away. -/
theorem IsTrimmed.trimmed_between {front s back : List Char} (h : IsTrimmed s) (filled : s ≠ [])
    (frontBlank : ∀ c ∈ front, isBlank c = true) (backBlank : ∀ c ∈ back, isBlank c = true) :
    trimmed (front ++ (s ++ back)) = s := by
  have start : trimStart (front ++ (s ++ back)) = s ++ back := by
    obtain ⟨c, s, rfl⟩ := List.exists_cons_of_ne_nil filled
    rw [trimStart, List.dropWhile_append_of_pos frontBlank]
    exact trimStart_of_not_blank (h.first c rfl)
  have finish : trimEnd (s ++ back) = trimEnd s := by
    rw [trimEnd, List.reverse_append, List.dropWhile_append_of_pos, ← trimEnd]
    exact fun c hc => backBlank c (List.mem_reverse.1 hc)
  rw [trimmed, start, finish, trimEnd_eq_self h.last]

theorem not_isBlank_head?_trimStart (s : List Char) :
    ∀ c ∈ (trimStart s).head?, isBlank c = false := by
  intro c hc
  have stop := List.head?_dropWhile_not isBlank s
  rw [trimStart] at hc
  rw [hc] at stop
  exact stop

theorem not_isBlank_getLast?_trimEnd (s : List Char) :
    ∀ c ∈ (trimEnd s).getLast?, isBlank c = false := by
  rw [trimEnd, List.getLast?_reverse]
  exact not_isBlank_head?_trimStart s.reverse

theorem trimEnd_ne_nil {c : Char} {s : List Char} (hc : c ∈ s) (h : isBlank c = false) :
    trimEnd s ≠ [] := by
  rw [trimEnd, ne_eq, List.reverse_eq_nil_iff, List.dropWhile_eq_nil_iff]
  intro blank
  have := blank c (List.mem_reverse.2 hc)
  rw [h] at this
  cases this

/-- The start of a text has the first character of the text. -/
theorem IsTrimmed.of_isPrefix {s t : List Char} (h : IsTrimmed s) (start : t <+: s)
    (last : ∀ c ∈ t.getLast?, isBlank c = false) : IsTrimmed t := by
  refine ⟨fun c hc => ?_, last⟩
  obtain ⟨rest, rfl⟩ := start
  apply h.first
  rw [List.head?_append, hc]
  rfl

theorem isTrimmed_trimmed (s : List Char) : IsTrimmed (trimmed s) := by
  refine ⟨fun c hc => ?_, not_isBlank_getLast?_trimEnd _⟩
  obtain ⟨rest, whole⟩ := trimEnd_isPrefix (trimStart s)
  apply not_isBlank_head?_trimStart s
  rw [trimmed] at hc
  rw [← whole, List.head?_append, hc]
  rfl

theorem exists_blanks_trimmed (s : List Char) : ∃ front back, s = front ++ (trimmed s ++ back) ∧
    (∀ c ∈ front, isBlank c = true) ∧ ∀ c ∈ back, isBlank c = true := by
  refine ⟨s.takeWhile isBlank, ((trimStart s).reverse.takeWhile isBlank).reverse, ?_, ?_, ?_⟩
  · rw [trimmed, trimEnd, ← List.reverse_append, List.takeWhile_append_dropWhile,
      List.reverse_reverse, trimStart, List.takeWhile_append_dropWhile]
  · exact fun c hc => List.mem_takeWhile_imp hc
  · exact fun c hc => List.mem_takeWhile_imp (List.mem_reverse.1 hc)

theorem not_isBlank_of_isDigit {c : Char} (h : c.isDigit = true) : isBlank c = false := by
  rw [Char.isDigit_iff_toNat] at h
  simp only [Char.reduceToNat] at h
  simp only [isBlank, Bool.or_eq_false_iff, Bool.and_eq_false_iff, decide_eq_false_iff_not,
    beq_eq_false_iff_ne]
  omega

def everyBlank : List Char :=
  [0x9, 0xa, 0xb, 0xc, 0xd, 0x20, 0x85, 0xa0, 0x1680, 0x2000, 0x2001, 0x2002, 0x2003, 0x2004,
    0x2005, 0x2006, 0x2007, 0x2008, 0x2009, 0x200a, 0x2028, 0x2029, 0x202f, 0x205f,
    0x3000].map Char.ofNat

theorem mem_everyBlank_of_isBlank {c : Char} (h : isBlank c = true) : c ∈ everyBlank := by
  rw [← Char.ofNat_toNat c]
  apply List.mem_map_of_mem
  simp only [isBlank, Bool.or_eq_true, Bool.and_eq_true, decide_eq_true_eq, beq_iff_eq] at h
  simp only [List.mem_cons, List.not_mem_nil, or_false]
  omega

end TableLoad.Text
