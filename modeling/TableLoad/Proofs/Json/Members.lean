import Mathlib.Data.List.Nodup
import Mathlib.Data.List.Sort
import TableLoad.Json.Reader

/-! # Members in order

Members stand in the strict order of their keys, however they were written, so an object is what
its keys give.  Every object of a document that was read is of this kind.
-/
namespace TableLoad

section Lookup
variable {α β : Type} [BEq α] [LawfulBEq α] {l : List (α × β)} {a : α} {b : β}

theorem mem_of_lookup (h : l.lookup a = some b) : (a, b) ∈ l := by
  obtain ⟨before, after, rfl, -⟩ := List.lookup_eq_some_iff.1 h
  simp

theorem lookup_of_mem (h : (a, b) ∈ l) (only : ∀ c, (a, c) ∈ l → c = b) : l.lookup a = some b := by
  cases found : l.lookup a with
  | none =>
    have missing := List.lookup_eq_none_iff.1 found (a, b) h
    simp at missing
  | some c => rw [only c (mem_of_lookup found)]

theorem lookup_eq_some_iff_mem (distinct : (l.map Prod.fst).Nodup) :
    l.lookup a = some b ↔ (a, b) ∈ l := by
  refine ⟨mem_of_lookup, fun h => lookup_of_mem h fun c hc => ?_⟩
  have same := List.inj_on_of_nodup_map distinct hc h rfl
  exact (Prod.mk.inj same).2

end Lookup

namespace Json

variable {members other : List (String × Json)}

def InKeyOrder (members : List (String × Json)) : Prop := members.Pairwise fun a b => a.1 < b.1

theorem mem_insertMember {key : String} {value : Json} {m : String × Json}
    (h : m ∈ insertMember key value members) : m = (key, value) ∨ m ∈ members := by
  induction members with
  | nil => exact .inl (List.mem_singleton.1 h)
  | cons first rest ih =>
    obtain ⟨k, v⟩ := first
    rw [insertMember] at h
    split at h
    · exact List.mem_cons.1 h
    · split at h
      · exact (List.mem_cons.1 h).imp_right (List.mem_cons_of_mem _)
      · rcases List.mem_cons.1 h with rfl | later
        · exact .inr List.mem_cons_self
        · exact (ih later).imp_right (List.mem_cons_of_mem _)

theorem InKeyOrder.insertMember (key : String) (value : Json) (h : InKeyOrder members) :
    InKeyOrder (insertMember key value members) := by
  induction members with
  | nil => exact List.pairwise_singleton ..
  | cons first rest ih =>
    obtain ⟨k, v⟩ := first
    obtain ⟨below, later⟩ := List.pairwise_cons.1 h
    rw [Json.insertMember]
    split
    · rename_i before
      refine List.pairwise_cons.2 ⟨fun m hm => ?_, h⟩
      rcases List.mem_cons.1 hm with rfl | hm
      · exact before
      · exact String.lt_trans before (below m hm)
    · split
      · rename_i same
        subst same
        exact List.pairwise_cons.2 ⟨below, later⟩
      · rename_i behind different
        refine List.pairwise_cons.2 ⟨fun m hm => ?_, ih later⟩
        rcases mem_insertMember hm with rfl | hm
        · exact Std.lt_of_le_of_ne (String.not_lt.1 behind) (Ne.symm different)
        · exact below m hm

theorem InKeyOrder.nodup_keys (h : InKeyOrder members) : (members.map Prod.fst).Nodup := by
  rw [List.Nodup, List.pairwise_map]
  apply List.Pairwise.imp _ h
  intro a b less same
  rw [same] at less
  exact String.lt_irrefl b.1 less

/-- The values that keys give determine the members. -/
theorem InKeyOrder.eq_of_lookup_eq (h : InKeyOrder members) (h' : InKeyOrder other)
    (same : ∀ key, other.lookup key = members.lookup key) : other = members := by
  have shared : ∀ m, m ∈ other ↔ m ∈ members := by
    rintro ⟨key, value⟩
    rw [← lookup_eq_some_iff_mem h'.nodup_keys, same, lookup_eq_some_iff_mem h.nodup_keys]
  have permuted := (List.perm_ext_iff_of_nodup h'.nodup_keys.of_map h.nodup_keys.of_map).2 shared
  refine permuted.eq_of_pairwise (fun a b _ _ before after => ?_) h' h
  exact absurd (String.lt_trans before after) (String.lt_irrefl a.1)

inductive IsOrdered : Json → Prop
  | null : IsOrdered .null
  | bool (b : Bool) : IsOrdered (.bool b)
  | integer (i : Int) : IsOrdered (.integer i)
  | float (x : Number.Binary64) : IsOrdered (.float x)
  | string (s : String) : IsOrdered (.string s)
  | array {items : List Json} (each : ∀ item ∈ items, IsOrdered item) : IsOrdered (.array items)
  | object {members : List (String × Json)} (sorted : InKeyOrder members)
      (each : ∀ m ∈ members, IsOrdered m.2) : IsOrdered (.object members)

def ReadsOrdered (item : List Char → Read Json) : Prop :=
  ∀ s value rest, item s = .ok (value, rest) → IsOrdered value

section Reader
variable {item : List Char → Read Json} {s rest : List Char} {value : Json}

theorem isOrdered_readWord {word : Json} (h : IsOrdered word) {expected : List Char}
    (read : readWord word expected s = .ok (value, rest)) : IsOrdered value := by
  induction expected generalizing s with
  | nil =>
    cases read
    exact h
  | cons c expected ih =>
    cases s with
    | nil => cases read
    | cons d s =>
      rw [readWord] at read
      split at read
      · exact ih read
      · cases read

theorem isOrdered_finish {n : Number.Numeral} (read : finish n s = .ok (value, rest)) :
    IsOrdered value := by
  rw [finish] at read
  split at read
  · cases read
    exact .float _
  · cases read

theorem isOrdered_readExponent {n : Number.Numeral} (read : readExponent n s = .ok (value, rest)) :
    IsOrdered value := by
  unfold readExponent at read
  dsimp only at read
  split at read
  · cases read
  · split at read
    · split at read
      · exact isOrdered_finish read
      · split at read
        · cases read
        · exact isOrdered_finish read
    · cases read

theorem isOrdered_readPower {n : Number.Numeral} (read : readPower n s = .ok (value, rest)) :
    IsOrdered value := by
  unfold readPower at read
  split at read
  · split at read
    · exact isOrdered_readExponent read
    · exact isOrdered_finish read
  · exact isOrdered_finish read

theorem isOrdered_readInteger {negative : Bool} {whole after : List Char}
    (read : readInteger negative whole after = .ok (value, rest)) : IsOrdered value := by
  unfold readInteger at read
  split at read
  · split at read
    · cases read
      exact .integer _
    · split at read
      · cases read
        exact .integer _
      · exact isOrdered_finish read
  · cases read

theorem isOrdered_readNumber {negative : Bool}
    (read : readNumber negative s = .ok (value, rest)) : IsOrdered value := by
  unfold readNumber at read
  dsimp only at read
  split at read
  · cases read
  · split at read
    · cases read
    · split at read
      · cases read
      · split at read
        · split at read
          · split at read <;> cases read
          · exact isOrdered_readPower read
        · split at read
          · exact isOrdered_readExponent read
          · exact isOrdered_readInteger read
        · exact isOrdered_readInteger read

theorem isOrdered_readItems (each : ReadsOrdered item) {found : List Json}
    (before : ∀ item ∈ found, IsOrdered item)
    (read : readItems item found s = .ok (value, rest)) : IsOrdered value := by
  fun_induction readItems item found s with
  | case2 found s after ends =>
    cases read
    exact .array fun item hi => before item (List.mem_reverse.1 hi)
  | case5 found s c more other begins next start continues new last taken shorter ih =>
    exact ih (List.forall_mem_cons.2 ⟨each _ _ _ taken, before⟩) read
  | _ => cases read

theorem isOrdered_readMemberValue (each : ReadsOrdered item)
    (read : readMemberValue item s = .ok (value, rest)) : IsOrdered value := by
  unfold readMemberValue at read
  split at read
  · cases read
  · exact each _ _ _ read
  · cases read

theorem IsOrdered.insertMember (h : IsOrdered (.object members)) (key : String)
    (new : IsOrdered value) : IsOrdered (.object (insertMember key value members)) := by
  cases h with
  | object sorted each =>
    refine .object (sorted.insertMember key value) fun m hm => ?_
    rcases mem_insertMember hm with rfl | hm
    · exact new
    · exact each m hm

theorem isOrdered_readMembers (each : ReadsOrdered item) {first : Bool}
    (before : IsOrdered (.object members))
    (read : readMembers item first members s = .ok (value, rest)) : IsOrdered value := by
  fun_induction readMembers item first members s with
  | case2 first found s after ends =>
    cases read
    exact before
  | case6 first found s c more other begins next start continues key after named new last taken
      shorter ih =>
    exact ih (before.insertMember key (isOrdered_readMemberValue each taken)) read
  | _ => cases read

/-- Only what is nested one level deeper can be out of order. -/
theorem isOrdered_readValue {depth : Nat}
    (nested : ∀ below, depth = below + 1 → ReadsOrdered (readValue below))
    (read : readValue depth s = .ok (value, rest)) : IsOrdered value := by
  unfold readValue at read
  split at read
  · cases read
  · exact isOrdered_readWord .null read
  · exact isOrdered_readWord (.bool true) read
  · exact isOrdered_readWord (.bool false) read
  · exact isOrdered_readNumber read
  · split at read
    · cases read
    · cases read
      exact .string _
  · split at read
    · exact isOrdered_readNumber read
    · split at read
      · split at read
        · cases read
        · have each := nested _ rfl
          split at read
          · exact isOrdered_readItems each (by simp) read
          · exact isOrdered_readMembers each (.object .nil (by simp)) read
      · cases read

end Reader

theorem readsOrdered_readValue (depth : Nat) : ReadsOrdered (readValue depth) := by
  induction depth with
  | zero => exact fun _ _ _ read => isOrdered_readValue (by simp) read
  | succ depth ih =>
    refine fun _ _ _ read => isOrdered_readValue (fun below same => ?_) read
    rwa [← Nat.succ.inj same]

/-- In a document that was read, the members of every object are in order. -/
theorem isOrdered_of_parse {text : String} {document : Json}
    (read : parse text = .ok document) : IsOrdered document := by
  unfold parse at read
  dsimp only at read
  split at read
  · cases read
  · rename_i value rest taken
    split at read
    · cases read
      exact readsOrdered_readValue 127 _ _ _ taken
    · cases read

theorem inKeyOrder_of_parse {text : String} {items : List Json}
    (read : parse text = .ok (.array items)) {i : Nat} (row : items[i]? = some (.object members)) :
    InKeyOrder members := by
  cases isOrdered_of_parse read with
  | array each =>
    cases each _ (List.mem_of_getElem? row) with
    | object sorted => exact sorted

end Json

end TableLoad
