import TableLoad.Report.Issue

/-! # Reports

The issues of a run of rows in order, and the counts drawn from them.  Reports of consecutive runs
merge into the report of the whole.
-/
namespace TableLoad

structure Report where
  issues : List Issue := []
  totalRows : Nat := 0
  deriving DecidableEq, Repr

/-- A number put into an ascending list, unless it is there. -/
def insertAscending (n : Nat) : List Nat → List Nat
  | [] => [n]
  | m :: rest =>
    if n < m then n :: m :: rest
    else if n = m then m :: rest
    else m :: insertAscending n rest

namespace Report

def isClean (r : Report) : Bool := r.issues.isEmpty

def hasErrors (r : Report) : Bool := r.issues.any Issue.blocks

/-- The rows that an error keeps out, in ascending order. -/
def blockedRows (r : Report) : List Nat :=
  ((r.issues.filter Issue.blocks).map Issue.row).foldr insertAscending []

def isBlocked (r : Report) (row : Nat) : Bool :=
  r.issues.any fun i => i.row == row && i.blocks

/-- The report of these rows and of the rows of `next` after them. -/
def merge (r next : Report) : Report :=
  ⟨r.issues ++ next.issues, r.totalRows + next.totalRows⟩

/-- How many issues are of each kind, kinds without issues left out. -/
def countsByKind (r : Report) : List (IssueKind × Nat) :=
  (IssueKind.all.map fun kind => (kind, r.issues.countP fun i => i.kind == kind)).filter
    fun (_, count) => count != 0

end Report

structure Summary where
  totalRows : Nat
  validRows : Nat
  blockedRows : Nat
  errors : Nat
  warnings : Nat
  byKind : List (IssueKind × Nat)
  deriving DecidableEq, Repr

def Report.summary (r : Report) : Summary :=
  let errors := r.issues.countP Issue.blocks
  let blocked := r.blockedRows.length
  { totalRows := r.totalRows
    validRows := r.totalRows - blocked
    blockedRows := blocked
    errors := errors
    warnings := r.issues.length - errors
    byKind := r.countsByKind }

def Summary.display (s : Summary) : String :=
  s!"Rows: {s.totalRows} ({s.validRows} valid, {s.blockedRows} blocked)\n" ++
    s!"Issues: {s.errors} errors, {s.warnings} warnings" ++
    String.join (s.byKind.map fun (kind, count) => s!"\n  {kind.name}: {count}")

end TableLoad
