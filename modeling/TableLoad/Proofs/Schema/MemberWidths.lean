import Mathlib.Algebra.GroupWithZero.Nat
import Mathlib.Algebra.Order.BigOperators.Group.List
import Mathlib.Algebra.Order.Group.Nat
import Mathlib.Data.List.Perm.Subperm
import TableLoad.Cell.Value
import TableLoad.Proofs.Record.Clips
import TableLoad.Schema.TypeName

/-! # Widths of columns with members

An enumeration holds one of its members, and a set a choice of them with commas between.  The width
of such a column is that of the longest text it holds, so no text that it holds is clipped, and no
smaller width has room for all of them.
-/
namespace TableLoad
open Text

def joined (members : List String) : String := ",".intercalate members

/-- The texts that a column with members holds.  A set holds each member as often as it is listed,
in any order. -/
def TypeFamily.Holds (members : List String) : TypeFamily → String → Prop
  | enum, content => content ∈ members
  | set, content => ∃ chosen, List.Subperm chosen members ∧ content = joined chosen
  | _, _ => False

/-- A width for all the texts that one of them needs; a column is never narrower than 1. -/
structure IsTightWidth (holds : String → Prop) (width : Nat) : Prop where
  fits : ∀ text, holds text → text.length ≤ width
  needed : (∃ text, holds text ∧ text.length = width) ∨
    width = 1 ∧ ∀ text, holds text → text = ""

theorem isTightWidth_max {holds : String → Prop} {width : Nat}
    (fits : ∀ text, holds text → text.length ≤ width)
    (needed : ∃ text, holds text ∧ text.length = width) : IsTightWidth holds (max width 1) where
  fits text h := (fits text h).trans (Nat.le_max_left width 1)
  needed := by
    rcases Nat.eq_zero_or_pos width with rfl | filled
    · refine .inr ⟨rfl, fun text h => String.length_eq_zero_iff.1 ?_⟩
      exact Nat.le_zero.1 (fits text h)
    · exact .inl (by rwa [Nat.max_eq_left filled])

namespace ResolvedType
variable {members chosen : List String}

theorem enumWidth_eq (members : List String) :
    enumWidth members = (members.map String.length).max?.getD 0 := by
  rw [enumWidth, List.foldl_max, Nat.zero_max]

theorem length_le_enumWidth {member : String} (h : member ∈ members) :
    member.length ≤ enumWidth members := by
  rw [enumWidth_eq]
  exact List.le_max?_getD_of_mem (List.mem_map_of_mem h)

theorem exists_length_eq_enumWidth (filled : members ≠ []) :
    ∃ member ∈ members, member.length = enumWidth members := by
  have some_max : (members.map String.length).max?.isSome := by simpa using filled
  obtain ⟨width, top⟩ := Option.isSome_iff_exists.1 some_max
  rw [enumWidth_eq, top, Option.getD_some]
  exact List.mem_map.1 (List.max?_mem top)

/-- The length of a choice, with a comma behind each member but the last. -/
theorem setWidth_eq (members : List String) :
    setWidth members = (members.map fun member => member.length + 1).sum - 1 := by
  have commas : members.foldr (fun member n => member.length + n) 0 + members.length =
      (members.map fun member => member.length + 1).sum := by
    induction members with
    | nil => rfl
    | cons member members ih =>
      rw [List.map_cons, List.sum_cons, ← ih, List.foldr_cons, List.length_cons]
      omega
  rw [setWidth, commas]

theorem length_joined (members : List String) : (joined members).length = setWidth members := by
  rw [setWidth_eq]
  induction members with
  | nil => rfl
  | cons member members ih =>
    cases members with
    | nil => simp [joined]
    | cons next members =>
      have comma : ",".length = 1 := rfl
      rw [joined, String.intercalate_cons_cons, String.length_append, String.length_append, comma,
        ← joined, ih]
      simp only [List.map_cons, List.sum_cons]
      omega

theorem setWidth_le (h : List.Subperm chosen members) : setWidth chosen ≤ setWidth members := by
  obtain ⟨listed, same, part⟩ := h
  rw [setWidth_eq, setWidth_eq, ← (same.map fun member => member.length + 1).sum_eq]
  have sums := (part.map fun member => member.length + 1).sum_le_sum fun _ _ => Nat.zero_le _
  omega

theorem enumWidth_le_setWidth (members : List String) : enumWidth members ≤ setWidth members := by
  by_cases filled : members = []
  · subst filled
    exact Nat.zero_le _
  · obtain ⟨member, listed, width⟩ := exists_length_eq_enumWidth filled
    have single := setWidth_le (List.singleton_subperm_iff.2 listed)
    rw [← length_joined [member], joined, String.intercalate_singleton] at single
    exact width ▸ single

theorem isTightWidth_enum (filled : members ≠ []) :
    IsTightWidth (TypeFamily.enum.Holds members) (max (enumWidth members) 1) :=
  isTightWidth_max (fun _ => length_le_enumWidth) (exists_length_eq_enumWidth filled)

/-- All the members together make the longest text of a set. -/
theorem isTightWidth_set (members : List String) :
    IsTightWidth (TypeFamily.set.Holds members) (max (setWidth members) 1) := by
  refine isTightWidth_max ?_ ⟨joined members, ⟨members, List.Subperm.refl _, rfl⟩, length_joined _⟩
  rintro _ ⟨chosen, some_members, rfl⟩
  exact length_joined chosen ▸ setWidth_le some_members

theorem ofWidth_eq {width : Nat} (small : width < 2 ^ 32) :
    ∃ limit : UInt32, ofWidth width = { type := .text (some limit) } ∧
      limit.toNat = max width 1 := by
  have room : max width 1 < UInt32.size := Nat.max_lt.2 ⟨small, by decide⟩
  exact ⟨(max width 1).toUInt32, rfl, UInt32.toNat_ofNat_of_lt' room⟩

theorem ofName_members {name : String} {family : TypeFamily}
    (named : TypeFamily.ofName? name = some family) (kind : family = .enum ∨ family = .set)
    (filled : members ≠ []) (small : (joined members).length < 2 ^ 32) :
    ∃ limit : UInt32, ofName name members = .ok { type := .text (some limit) } ∧
      IsTightWidth (family.Holds members) limit.toNat ∧
      (family = .set → limit.toNat = max (joined members).length 1) := by
  have some_members : members.isEmpty = false := by simpa using filled
  rw [length_joined] at small ⊢
  rcases kind with rfl | rfl
  · obtain ⟨limit, type, width⟩ := ofWidth_eq ((enumWidth_le_setWidth members).trans_lt small)
    refine ⟨limit, ?_, width ▸ isTightWidth_enum filled, by simp⟩
    simp [ofName, named, ofFamily, some_members, type]
  · obtain ⟨limit, type, width⟩ := ofWidth_eq small
    refine ⟨limit, ?_, width ▸ isTightWidth_set members, fun _ => width⟩
    simp [ofName, named, ofFamily, some_members, type]

end ResolvedType

/-! ### Cells -/

/-- A text that fits is cleaned as if there was no limit. -/
theorem Cell.clean_of_fits {cell : Cell} {limit : UInt32} {content : String}
    (holds : cell.textValue = .text content) (fits : content.length ≤ limit.toNat) :
    cell.clean (.text (some limit)) = cell.clean (.text none) := by
  have short (s : String) (h : s.length ≤ limit.toNat) :
      cleanText (some limit.toNat) s = cleanText none s := by
    have trim := (trimmed_length_le s.toList).trans h
    rw [cleanText, cleanText, clipped_of_short (by rintro _ ⟨⟩; exact trim),
      clipped_of_short (by simp)]
  cases cell with
  | null => cases holds
  | boolean b =>
    cases holds
    exact short _ fits
  | number n =>
    cases holds
    by_cases empty : n.isNaN = true
    · rw [clean_of_isNaN empty, clean_of_isNaN empty]
    · rw [clean_number_text empty, clean_number_text empty]
      exact short _ fits
  | text s =>
    cases holds
    exact short _ fits

theorem Schema.clean_of_no_clip {s : Schema} {row : Row} {position : Nat} {column : Column}
    {cell : Cell} (hc : s.columns[position]? = some column) (hr : row[position]? = some cell)
    (kept : (cell.clean column.type).2 = none) :
    (s.clean row).cells[position]? = some (cell.clean column.type).1 ∧
      (s.clean row).truncationAt? position = none := by
  have own : (cleanCells s.columns row)[position]? = some (cell.clean column.type) := by
    rw [getElem?_cleanCells, hr, hc]
    rfl
  have notes := filter_truncationsFrom 0 (cleanCells s.columns row) position
  rw [Nat.zero_add, own, Option.bind_some, kept] at notes
  refine ⟨by rw [clean, List.getElem?_map, own, Option.map_some], ?_⟩
  rw [Record.truncationAt?, ← List.head?_filter, clean, notes]
  rfl

/-- An enumeration or a set becomes a text column that is wide enough for all the texts it holds
and no wider.  A cell that holds one of them is cleaned as in a column without a limit, and has no
note of a clip. -/
theorem Schema.clean_keeps_members {name : String} {family : TypeFamily} {members : List String}
    (named : TypeFamily.ofName? name = some family) (kind : family = .enum ∨ family = .set)
    (filled : members ≠ []) (small : (joined members).length < 2 ^ 32) :
    ∃ limit : UInt32, ResolvedType.ofName name members = .ok { type := .text (some limit) } ∧
      IsTightWidth (family.Holds members) limit.toNat ∧
      (family = .set → limit.toNat = max (joined members).length 1) ∧
      ∀ (s : Schema) (row : Row) (position : Nat) (column : Column) (cell : Cell)
        (content : String), s.columns[position]? = some column →
          column.type = .text (some limit) → row[position]? = some cell →
            cell.textValue = .text content → family.Holds members content →
              (s.clean row).cells[position]? = some (cell.clean (.text none)).1 ∧
                (s.clean row).truncationAt? position = none := by
  obtain ⟨limit, resolved, tight, whole⟩ := ResolvedType.ofName_members named kind filled small
  refine ⟨limit, resolved, tight, whole, ?_⟩
  intro s row position column cell content hc type hr holds legal
  have same := Cell.clean_of_fits holds (tight.fits content legal)
  have kept : (cell.clean (.text none)).2 = none := by
    rcases cell.clean_text_cases none with ⟨-, empty⟩ | ⟨shown, -, text⟩
    · rw [empty]
    · rw [text]
      rfl
  rw [← same, ← type] at kept ⊢
  exact Schema.clean_of_no_clip hc hr kept

/-- The answers of a survey: several of two words and an empty one. -/
theorem Schema.clean_keeps_members_answers :
    let members := ["n\u00e3o", "", "\u00e9"]
    let answers (limit : UInt32) : Schema := ⟨"t", [{ name := "a", type := .text (some limit) }]⟩
    let row : Row := [.text "\u00e9,n\u00e3o"]
    TypeFamily.ofName? "set" = some .set ∧ (joined members).length < 2 ^ 32 ∧
      TypeFamily.set.Holds members "\u00e9,n\u00e3o" ∧
        ∃ limit : UInt32, ResolvedType.ofName "set" members = .ok { type := .text (some limit) } ∧
          limit.toNat = 6 ∧ ((answers limit).clean row).cells[0]? = row[0]? ∧
            ((answers limit).clean row).truncationAt? 0 = none := by
  intro members answers row
  have named : TypeFamily.ofName? "set" = some .set := by decide
  have small : (joined members).length < 2 ^ 32 := by decide
  have legal : TypeFamily.set.Holds members "\u00e9,n\u00e3o" :=
    ⟨["\u00e9", "n\u00e3o"], by decide, rfl⟩
  obtain ⟨limit, resolved, -, whole, kept⟩ :=
    Schema.clean_keeps_members named (.inr rfl) (by decide) small
  have here := kept (answers limit) row 0 _ (.text "\u00e9,n\u00e3o") _ rfl rfl rfl rfl legal
  exact ⟨named, small, legal, limit, resolved, (whole rfl).trans (by decide), here⟩

end TableLoad
