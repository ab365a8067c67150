import LayerAudit.Audit.Basic

/-! The counts of an audit, and the gate that an audit passes if no finding is grave enough. -/

namespace LayerAudit.Report

/-- The counts of an audit. -/
structure Summary where
  files : Nat
  symbols : Nat
  edges : Nat
  /-- Edges to ids that are no nodes. -/
  dangling : Nat
  /-- The kinds of findings that occur, each with the number of its findings. -/
  violations : List (ViolationKind × Nat)
  deriving DecidableEq, Repr, Inhabited

/-- The kinds of some findings, each with the number of its findings. -/
def countByKind (violations : List Violation) : List (ViolationKind × Nat) :=
  (ViolationKind.all.map fun kind => (kind, violations.countP (·.kind = kind))).filter fun entry => 0 < entry.2

/-- The counts of an audit. -/
def Summary.of (audit : Audit) : Summary :=
  let nodes := audit.graph.nodes
  let files := nodes.countP Node.isFile
  { files
    -- A node that is not a file is a symbol.
    symbols := nodes.length - files
    edges := audit.graph.edgeCount
    dangling := audit.graph.danglingCount
    violations := countByKind audit.violations }

/-- The number of findings at or above a grade. -/
def failingCount (audit : Audit) (bound : Severity) : Nat :=
  audit.violations.countP fun violation => bound.rank ≤ violation.severity.rank

/-- The audit passes the gate for a grade. -/
def passes (audit : Audit) (bound : Severity) : Bool := failingCount audit bound = 0

end LayerAudit.Report
