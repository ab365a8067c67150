import LayerAudit.Audit.Discovery
import LayerAudit.Audit.Outcome
import LayerAudit.Graph.Basic

/-!
An audit of a source tree: what its files add is put together in the order of their paths, and all imports are checked
when every edge is known.
-/

namespace LayerAudit

/-- The result of an audit. -/
structure Audit where
  graph : Graph := .empty
  violations : List Violation := []
  fileCount : Nat := 0
  deriving Inhabited

namespace Audit

/-- Add a symbol, with a warning if it is a store whose name is taken. -/
def addSymbol (state : Graph × List Warning) (symbol : SymbolNode) : Graph × List Warning :=
  let (graph, accepted) := state.1.addNode (.symbol symbol)
  if !accepted && symbol.kind = .store then (graph, .repeatedStore symbol.id symbol.owner :: state.2)
  else (graph, state.2)

/-- Add the file itself. -/
def addFile (graph : Graph) (file : Option FileNode) : Graph :=
  match file with
  | some node => (graph.addNode (.file node)).1
  | none => graph

/-- Add what one file adds: the file, its symbols and its edges. Warnings are kept last first. -/
def merge (state : Graph × List Warning) (outcome : FileOutcome) : Graph × List Warning :=
  let (graph, warnings) := outcome.extraction.symbols.foldl addSymbol (addFile state.1 outcome.file, state.2)
  (outcome.extraction.edges.foldl Graph.addEdge graph, warnings)

/-- The audit of some files, with the warnings about them. -/
def ofOutcomes (policy : Policy) (outcomes : List FileOutcome) : Audit × List Warning :=
  let (graph, repeated) := outcomes.foldl merge (Graph.empty, [])
  ({ graph
     -- Findings about files come first, in the order of the files. Imports are checked on the whole graph.
     violations := outcomes.flatMap (·.violations) ++ policy.checkDependencies graph.edges
     fileCount := outcomes.length },
    -- The merge keeps its warnings last first.
    outcomes.flatMap (·.warnings) ++ repeated.reverse)

end Audit

namespace Setup

/-- What import specifiers are resolved against, where some paths were discovered. -/
def scopeOf (setup : Setup) (paths : List String) : ImportScope := ⟨setup.config.project.aliases, .ofList paths⟩

variable [Script.Syntax]

/-- What the discovered files add. -/
def outcomes (setup : Setup) (order : BindingOrder) (files : FileSystem) (root : String) (paths : List String) :
    List FileOutcome :=
  paths.map (setup.examine order files root (setup.scopeOf paths))

/-- The audit of the source tree below a root, with its warnings, where imported names are met in some order. -/
def audit (setup : Setup) (order : BindingOrder) (files : FileSystem) (root : String) :
    Except BadRoot (Audit × List Warning) :=
  match setup.discover files root with
  | .error bad => .error bad
  | .ok paths => .ok (Audit.ofOutcomes setup.policy (setup.outcomes order files root paths))

end Setup

end LayerAudit
