import TableLoad.Number.Binary64

/-! # JSON documents

Documents as values.  Numbers without a fraction or exponent stay exact integers as long as they
fit 64 bits; the members of an object stand in the order they are listed.
-/
namespace TableLoad
open Number

inductive Json where
  | null
  | bool (value : Bool)
  | integer (value : Int)
  | float (value : Binary64)
  | string (value : String)
  | array (items : List Json)
  | object (members : List (String × Json))

namespace Json

def ofNat (n : Nat) : Json := .integer n

def ofNats (ns : List Nat) : Json := .array (ns.map ofNat)

/-- A member that is null when there is no value. -/
def ofOption {α : Type} (f : α → Json) : Option α → Json
  | some a => f a
  | none => .null

def member? (key : String) : Json → Option Json
  | object members => members.lookup key
  | _ => none

/-- Members with one more, in the order of keys; a key that is there gets the new value. -/
def insertMember (key : String) (value : Json) : List (String × Json) → List (String × Json)
  | [] => [(key, value)]
  | (k, v) :: rest =>
    if key < k then (key, value) :: (k, v) :: rest
    else if key = k then (key, value) :: rest
    else (k, v) :: insertMember key value rest

end Json

end TableLoad
