import LayerAudit.Layer
import LayerAudit.Pattern.Basic

/-!
The rules that files and edges have to keep: where files of a kind and purpose lie, and which layers a layer may import
from.
-/

namespace LayerAudit

/-- A placement rule with its pattern read. -/
structure PlacementRule where
  spec : PlacementSpec
  pattern : Pattern
  deriving DecidableEq, Repr, Inhabited

/-- The pattern of a placement rule is no pattern. -/
structure BadPlacement where
  kind : FileKind
  purpose : String
  deriving DecidableEq, Repr, Inhabited

/-- The text about a bad placement rule. -/
def BadPlacement.message (bad : BadPlacement) : String :=
  s!"invalid placement pattern for {bad.kind.name} / '{bad.purpose}'"

/-- All rules of a run. -/
structure Policy where
  layering : Layering
  placement : List PlacementRule
  /-- The layers that each layer may import from, all sorted by name. -/
  allowed : List (String × List String)
  sourceExtensions : List String
  rules : Rules
  deriving DecidableEq, Repr, Inhabited

namespace Policy

/-- Read the pattern of a placement rule. -/
def readPlacement [Pattern.Syntax] (spec : PlacementSpec) : Except BadPlacement PlacementRule :=
  match Pattern.Syntax.pattern? spec.pattern with
  | some pattern => .ok ⟨spec, pattern⟩
  | none => .error ⟨spec.kind, spec.purpose⟩

/-- Let a layer import from itself and from some more layers. -/
def allow (allowed : List (String × List String)) (layer : String) (targets : List String) :
    List (String × List String) :=
  Sorted.put layer (Sorted.addAll targets ((Sorted.get? layer allowed).getD [layer])) allowed

/-- The allow-lists of a run. Every layer may import from itself, whether or not a list says so. -/
def allowLists (layers : List LayerSpec) (dependencies : List (String × List String)) :
    List (String × List String) :=
  dependencies.foldl (fun allowed entry => allow allowed entry.1 entry.2)
    (layers.foldl (fun allowed layer => allow allowed layer.name []) [])

/-- The rules of a configuration. -/
def ofConfig [Pattern.Syntax] (config : Config) : Except BadPlacement Policy :=
  match config.placement.mapM readPlacement with
  -- One bad pattern makes the whole configuration a bad one.
  | .error bad => .error bad
  | .ok placement => .ok
    { layering := Layering.ofSpecs config.layers
      placement
      allowed := allowLists config.layers config.dependencies
      sourceExtensions := config.project.sourceExtensions
      rules := config.rules }

/-- The finding about a file that does not lie where a rule wants it. -/
def misplaced (policy : Policy) (file : FileNode) (pattern : String) : Violation where
  kind := .placement
  severity := policy.rules.severityOf .placement
  file := file.path
  message := s!"{file.path} ({file.kind.name}, {file.purpose}) is misplaced: expected path matching \x60{pattern}\x60"
  suggestion := some s!"Move the file to a location matching \x60{pattern}\x60."

/-- Check a file against the first rule for its kind and purpose. -/
def checkPlacement (policy : Policy) (file : FileNode) : Option Violation :=
  (policy.placement.find? fun rule => rule.spec.kind = file.kind ∧ rule.spec.purpose = file.purpose).bind fun rule =>
    if rule.pattern.matchesIn file.path then none else some (policy.misplaced file rule.spec.pattern)

/-- A path ends in an extension of the project's own modules. -/
def isSourceModule (policy : Policy) (path : String) : Bool :=
  match Text.cutLast? '.' path.toList with
  | some (_, extension) => policy.sourceExtensions.contains (String.ofList extension)
  | none => false

/-- The finding about an import from a higher layer. -/
def climbing (policy : Policy) (edge : Edge) (lower upper : LayerSpec) : Violation where
  kind := .dependency
  severity := policy.rules.severityOf .dependency
  file := edge.source
  edge := some edge
  message := s!"Layer \x60{lower.name}\x60 (rank {lower.rank}) must not import from higher layer \x60{upper.name}\x60 (rank {upper.rank}): {edge.source} -> {edge.target}"
  suggestion := some s!"Move the shared logic down into \x60{lower.name}\x60 or below, or invert the dependency."

/-- The finding about an import that no allow-list permits. -/
def unlisted (policy : Policy) (edge : Edge) (listed : List String) (source target : LayerSpec) : Violation :=
  let names := Text.joinWith ", " listed
  { kind := .dependency
    severity := policy.rules.severityOf .dependency
    file := edge.source
    edge := some edge
    message := s!"Layer \x60{source.name}\x60 may only import from [{names}], but {edge.source} imports {edge.target} in layer \x60{target.name}\x60" }

/-- The findings about an import between two layers: it must not climb, and it must be listed. -/
def checkLayers (policy : Policy) (edge : Edge) (source target : LayerSpec) : List Violation :=
  let listed := (Sorted.get? source.name policy.allowed).getD []
  let climbs := if source.rank < target.rank then [policy.climbing edge source target] else []
  let strays := if listed.contains target.name then [] else [policy.unlisted edge listed source target]
  if policy.rules.deduplicateDependencies && !climbs.isEmpty then climbs else climbs ++ strays

/-- Check an edge. Only imports of source modules between layered files are checked. -/
def checkDependency (policy : Policy) (edge : Edge) : List Violation :=
  -- The cheap tests come first; files without a layer may import everything.
  if edge.relation = .imports && policy.isSourceModule edge.target then
    match policy.layering.layerOf? edge.source, policy.layering.layerOf? edge.target with
    | some source, some target => policy.checkLayers edge source target
    | _, _ => []
  else []

/-- Check all edges in their order. -/
def checkDependencies (policy : Policy) (edges : List Edge) : List Violation :=
  edges.flatMap policy.checkDependency

end Policy

end LayerAudit
