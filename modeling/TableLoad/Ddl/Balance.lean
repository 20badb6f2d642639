import TableLoad.Ddl.Token

/-! # Balance

A first look at a statement: outside quotes and comments, no parenthesis closes that was not
opened, and at the end none is open, nor a quote.
-/
namespace TableLoad.Ddl
open Text

inductive Imbalance where
  | parentheses
  | quote
  deriving DecidableEq, Repr

/-- Where a look at the balance stands. -/
inductive Stretch where
  | plain
  /-- Inside a quote, up to the given character. -/
  | quoted (last : Char)
  | lineComment
  | blockComment
  deriving DecidableEq, Repr

/-- The first imbalance and what is left of the text there, with `depth` parentheses open. -/
def imbalance? (depth : Nat) : Stretch → List Char → Option (Imbalance × List Char)
  | .quoted _, [] => some (.quote, [])
  | _, [] => if depth = 0 then none else some (.parentheses, [])
  | .quoted q, c :: rest => imbalance? depth (if c = q then .plain else .quoted q) rest
  | .lineComment, c :: rest => imbalance? depth (if c = '\n' then .plain else .lineComment) rest
  | .blockComment, '*' :: '/' :: rest => imbalance? depth .plain rest
  | .blockComment, _ :: rest => imbalance? depth .blockComment rest
  | .plain, '-' :: '-' :: rest => imbalance? depth .lineComment rest
  | .plain, '/' :: '*' :: rest => imbalance? depth .blockComment rest
  | .plain, c :: rest =>
    if isQuote c then imbalance? depth (.quoted c) rest
    else if c = '(' then imbalance? (depth + 1) .plain rest
    else if c = ')' then
      match depth with
      | 0 => some (.parentheses, c :: rest)
      | depth + 1 => imbalance? depth .plain rest
    else imbalance? depth .plain rest

end TableLoad.Ddl
