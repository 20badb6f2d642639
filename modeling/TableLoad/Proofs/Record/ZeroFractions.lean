import TableLoad.Proofs.Cell.Words
import TableLoad.Proofs.Text.Scan

/-! # Zero fractions in text columns

A whole number that a sheet shows with a fraction of zeros loses the fraction in a text column.
The text is clipped first, which may leave the whole number alone, or with some of its zeros, or
with nothing but the point, which is no fraction and stays.
-/
namespace TableLoad
open Text

/-- A whole number as a text: digits, perhaps behind a minus sign. -/
def IsWholeText (w : List Char) : Prop :=
  ∃ sign digits, w = sign ++ digits ∧ (sign = [] ∨ sign = ['-']) ∧ digits ≠ [] ∧
    ∀ c ∈ digits, c.isDigit = true

namespace IsWholeText
variable {w : List Char}

theorem ne_nil (h : IsWholeText w) : w ≠ [] := by
  obtain ⟨sign, digits, rfl, -, filled, -⟩ := h
  simp [filled]

theorem mem (h : IsWholeText w) {c : Char} (hc : c ∈ w) : c.isDigit = true ∨ c = '-' := by
  obtain ⟨sign, digits, rfl, signed, -, all⟩ := h
  rcases List.mem_append.1 hc with hc | hc
  · rcases signed with rfl | rfl
    · simp at hc
    · exact .inr (List.mem_singleton.1 hc)
  · exact .inl (all c hc)

theorem not_isBlank (h : IsWholeText w) : ∀ c ∈ w, isBlank c = false := by
  intro c hc
  rcases h.mem hc with digit | rfl
  · exact not_isBlank_of_isDigit digit
  · decide

theorem not_isAlpha (h : IsWholeText w) : ∀ c ∈ w, c.isAlpha = false := by
  intro c hc
  rw [← Bool.not_eq_true]
  intro letter
  rcases h.mem hc with digit | rfl
  · rw [not_isDigit_of_isAlpha letter] at digit
    cases digit
  · revert letter
    decide

theorem point_not_mem (h : IsWholeText w) : '.' ∉ w := by
  intro point
  exact absurd (h.mem point) (by decide)

/-- A whole number, or one with a point at the end, has a value as a text. -/
theorem present?_eq (h : IsWholeText w) {point : List Char} (dot : point = [] ∨ point = ['.']) :
    present? (w ++ point) = some (w ++ point) := by
  have filled : ∀ c ∈ w ++ point, isBlank c = false := by
    intro c hc
    rcases List.mem_append.1 hc with hc | hc
    · exact h.not_isBlank c hc
    · rcases dot with rfl | rfl
      · simp at hc
      · obtain rfl := List.mem_singleton.1 hc
        decide
  have trim := trimmed_of_no_blank filled
  obtain ⟨c, rest, hw⟩ := List.exists_cons_of_ne_nil h.ne_nil
  cases present : present? (w ++ point) with
  | none =>
    have letter := startsWithLetter_of_present? present
    rw [trim, hw] at letter
    have other := h.not_isAlpha c (hw ▸ List.mem_cons_self)
    rw [letter c rfl] at other
    cases other
  | some t => rw [(isPresent_of_present? present).1, trim]

/-- Only zeros behind the point go, and only if there are any. -/
theorem withoutZeroFraction_append (h : IsWholeText w) (fraction : List Char) :
    withoutZeroFraction (w ++ '.' :: fraction) =
      if fraction ≠ [] ∧ ∀ c ∈ fraction, c = '0' then w else w ++ '.' :: fraction := by
  have plain : ∀ c ∈ w, (c != '.') = true := fun c hc =>
    bne_iff_ne.2 fun he => h.point_not_mem (he ▸ hc)
  have stop : ∀ c ∈ ('.' :: fraction).head?, (c != '.') = false := by simp
  obtain ⟨take, drop⟩ := Scan.takeWhile_append_of_stop plain stop
  obtain ⟨sign, digits, rfl, signed, filled, all⟩ := h
  have size : withoutZeroFraction (sign ++ digits ++ '.' :: fraction) =
      if !digits.isEmpty && digits.all Char.isDigit && !fraction.isEmpty && fraction.all (· == '0')
        then sign ++ digits else sign ++ digits ++ '.' :: fraction := by
    rw [withoutZeroFraction, take, drop]
    rcases signed with rfl | rfl
    · dsimp only
      split
      · rename_i rest minus
        rw [List.nil_append] at minus
        exact absurd (all '-' (minus ▸ List.mem_cons_self)) (by decide)
      · rfl
    · rfl
  have every : digits.all Char.isDigit = true := List.all_eq_true.2 all
  rw [size]
  simp [filled, every]

end IsWholeText

section
variable {w zeros : List Char} {n : Nat}

/-- A clip keeps a whole number that fits, and as much of what follows it as there is room for. -/
theorem clipped_append (whole : IsWholeText w) (zero : ∀ c ∈ zeros, c = '0') (fits : w.length ≤ n) :
    (clipped (some n) (w ++ '.' :: zeros)).1 = w ++ ('.' :: zeros).take (n - w.length) := by
  have cut : (w ++ '.' :: zeros).take n = w ++ ('.' :: zeros).take (n - w.length) := by
    rw [List.take_append, List.take_of_length_le fits]
  by_cases long : n < (w ++ '.' :: zeros).length
  · rw [clipped_of_long long, cut]
    apply trimEnd_eq_self
    intro c hc
    rcases List.mem_append.1 (List.mem_of_getLast? hc) with hc | hc
    · exact whole.not_isBlank c hc
    · rcases List.mem_cons.1 (List.mem_of_mem_take hc) with rfl | hc
      · decide
      · rw [zero c hc]
        decide
  · have short : ∀ m, some n = some m → (w ++ '.' :: zeros).length ≤ m := by
      rintro m ⟨⟩
      exact Nat.not_lt.1 long
    rw [clipped_of_short short, ← cut, List.take_of_length_le (Nat.not_lt.1 long)]

/-- What is left behind a whole number when zeros go: the point alone, where the clip leaves room
for it and for no zero. -/
theorem withoutZeroFraction_clipped (whole : IsWholeText w) (filled : zeros ≠ [])
    (zero : ∀ c ∈ zeros, c = '0') (fits : w.length ≤ n) :
    withoutZeroFraction (clipped (some n) (w ++ '.' :: zeros)).1 =
      w ++ if n = w.length + 1 then ['.'] else [] := by
  rw [clipped_append whole zero fits]
  obtain ⟨room, rfl⟩ := Nat.exists_eq_add_of_le fits
  rw [Nat.add_sub_cancel_left]
  match room with
  | 0 => simpa using withoutZeroFraction_of_no_point whole.point_not_mem
  | 1 => simpa using whole.withoutZeroFraction_append []
  | room + 2 =>
    rw [List.take_succ_cons, whole.withoutZeroFraction_append, if_pos, if_neg (by omega),
      List.append_nil]
    exact ⟨by simp [filled], fun c hc => zero c (List.mem_of_mem_take hc)⟩

/-- The text is cleaned to the whole number, and to the point if that is left. -/
theorem cleanText_zero_fraction {content : String}
    (shown : trimmed content.toList = w ++ '.' :: zeros) (whole : IsWholeText w)
    (filled : zeros ≠ []) (zero : ∀ c ∈ zeros, c = '0') (fits : w.length ≤ n) :
    (cleanText (some n) content).1 =
      .text (String.ofList (w ++ if n = w.length + 1 then ['.'] else [])) := by
  have dot : (if n = w.length + 1 then ['.'] else []) = [] ∨
      (if n = w.length + 1 then ['.'] else []) = ['.'] := by
    split <;> simp
  rw [cleanText, shown]
  dsimp only
  rw [withoutZeroFraction_clipped whole filled zero fits, whole.present?_eq dot]
  rfl

end

/-- In a text column, a whole number that a sheet shows with zeros behind the point becomes the
whole number exactly when the limit does not end behind the point; and otherwise the point stays. -/
theorem Schema.clean_zero_fraction {s : Schema} {row : Row} {position : Nat} {column : Column}
    {limit : UInt32} {content : String} {w zeros : List Char}
    (place : s.columns[position]? = some column) (type : column.type = .text (some limit))
    (cell : row[position]? = some (.text content))
    (shown : trimmed content.toList = w ++ '.' :: zeros) (whole : IsWholeText w)
    (filled : zeros ≠ []) (zero : ∀ c ∈ zeros, c = '0') (fits : w.length ≤ limit.toNat) :
    ((s.clean row).cells[position]? = some (.text (String.ofList w)) ↔
        limit.toNat ≠ w.length + 1) ∧
      (limit.toNat = w.length + 1 →
        (s.clean row).cells[position]? = some (.text (String.ofList (w ++ ['.'])))) := by
  have cleaned : (s.clean row).cells[position]? = some (.text (String.ofList
      (w ++ if limit.toNat = w.length + 1 then ['.'] else []))) := by
    have kept := cleanText_zero_fraction shown whole filled zero fits
    rw [clean, List.getElem?_map, getElem?_cleanCells, cell, place]
    dsimp only [Option.map_some]
    rw [type]
    exact congrArg some kept
  rw [cleaned]
  by_cases ends : limit.toNat = w.length + 1
  · simp [ends]
  · simp [ends]

theorem Schema.clean_zero_fraction_whole :
    (Schema.clean ⟨"t", [{ name := "a", type := .text (some 2) }]⟩ [.text " -7.000 "]).cells[0]? =
      some (.text "-7") := by
  have whole : IsWholeText ['-', '7'] := ⟨['-'], ['7'], rfl, .inr rfl, by decide, by decide⟩
  have result := @Schema.clean_zero_fraction ⟨"t", [{ name := "a", type := .text (some 2) }]⟩
    [.text " -7.000 "] 0 _ 2 " -7.000 " ['-', '7'] ['0', '0', '0'] rfl rfl rfl (by decide) whole
    (by decide) (by decide) (by decide)
  exact result.1.2 (by decide)

/-- A limit that ends behind the point leaves it. -/
theorem Schema.clean_zero_fraction_pointed :
    (Schema.clean ⟨"t", [{ name := "a", type := .text (some 3) }]⟩ [.text "12.000"]).cells =
      [.text "12."] := by
  decide

end TableLoad
