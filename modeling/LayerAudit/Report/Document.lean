import LayerAudit.Files.System
import LayerAudit.Report.Json
import LayerAudit.Report.Moment
import LayerAudit.Report.Summary

/-! The protocol document of an audit: the rules it went by, its findings, its graph and its counts. -/

namespace LayerAudit.Report

/-- A text field that is left out if there is no text. -/
def optionalText (name : String) : Option String → List (String × Json)
  | some s => [(name, .text s)]
  | none => []

/-- An edge. -/
def edgeJson (edge : Edge) : Json :=
  .record [("source", .text edge.source), ("target", .text edge.target), ("relation", .text edge.relation.name)]

/-- A file. A file without layer says so. -/
def fileJson (file : FileNode) : Json :=
  .record [("node_type", .text "file"), ("id", .text file.id), ("path", .text file.path), ("hash", .text file.hash),
    ("file_kind", .text file.kind.name), ("purpose", .text file.purpose),
    -- The other texts that may be missing are left out. A layer is always there.
    ("layer", match file.layer with
      | some layer => .text layer
      | none => .null)]

/-- A symbol. -/
def symbolJson (symbol : SymbolNode) : Json :=
  .record ([("node_type", .text "symbol"), ("id", .text symbol.id), ("symbol_kind", .text symbol.kind.name),
    ("name", .text symbol.name), ("owner", .text symbol.owner)] ++ optionalText "purpose" symbol.purpose ++
    optionalText "route_path" symbol.routePath ++ optionalText "route_name" symbol.routeName)

/-- A node. -/
def nodeJson : Node → Json
  | .file file => fileJson file
  | .symbol symbol => symbolJson symbol

/-- A finding. -/
def violationJson (violation : Violation) : Json :=
  .record ([("kind", .text violation.kind.name), ("severity", .text violation.severity.name),
    ("file", .text violation.file)] ++ (violation.edge.toList.map fun edge => ("edge", edgeJson edge)) ++
    [("message", .text violation.message)] ++ optionalText "suggestion" violation.suggestion)

/-- A layer. -/
def layerJson (layer : LayerSpec) : Json :=
  .record [("rank", .number layer.rank), ("name", .text layer.name), ("path_prefix", .text layer.start)]

/-- A placement rule. -/
def placementJson (rule : PlacementRule) : Json :=
  .record [("file_kind", .text rule.spec.kind.name), ("purpose", .text rule.spec.purpose),
    ("path_pattern", .text rule.spec.pattern)]

/-- The counts. -/
def summaryJson (summary : Summary) : Json :=
  .record [("files", .number summary.files), ("symbols", .number summary.symbols), ("edges", .number summary.edges),
    ("dangling_edges", .number summary.dangling),
    ("violations", .record (summary.violations.map fun entry => (entry.1.name, .number entry.2)))]

/-- The document of an audit at a point in time. -/
def document (audit : Audit) (policy : Policy) (spec : ReportSpec) (seconds : Int) : Json :=
  .record [("$schema", .text spec.schema), ("protocol", .text spec.protocol), ("version", .text spec.version),
    ("generated_at", .text (momentText seconds)),
    ("layers", .list (policy.layering.layers.map layerJson)),
    ("placement_rules", .list (policy.placement.map placementJson)),
    -- The allow-lists keep the order of the settings, one field for each layer.
    ("dependency_rules", .record (policy.allowed.map fun entry => (entry.1, .list (entry.2.map .text)))),
    ("violations", .list (audit.violations.map violationJson)),
    ("nodes", .list (audit.graph.nodes.map nodeJson)),
    ("edges", .list (audit.graph.edges.map edgeJson)),
    -- Counted from the same graph and findings, so that the counts agree with the lists above.
    ("summary", summaryJson (.of audit))]

/-- The text of a document. -/
def documentText (document : Json) (isCompact : Bool) : String :=
  String.ofList (if isCompact then document.compact else document.pretty 0)

/-- Why a document is not written. -/
inductive WriteError
  | directory (path : String) (cause : FileFailure)
  | file (path : String) (cause : FileFailure)
  deriving DecidableEq, Repr, Inhabited

/-- The text of an error. -/
def WriteError.message : WriteError → String
  | directory path _ => s!"failed to create {path}"
  | file path _ => s!"failed to write {path}"

/-- The text of an error with its cause. -/
def WriteError.fullMessage (error : WriteError) : String :=
  match error with
  | directory _ cause => error.message ++ ": " ++ cause.message
  | file _ cause => error.message ++ ": " ++ cause.message

/-- Make the directory of a path. -/
def ensureParent (files : FileSystem) (path : String) : FileSystem × Option WriteError :=
  -- The root and the empty path have nothing above them.
  match Location.parent? path with
  | none => (files, none)
  | some parent =>
    match files.ensureDirectories parent with
    | (files, some cause) => (files, some (.directory parent cause))
    | (files, none) => (files, none)

/-- Write a document and a line end to a path, whose directory is made if it is missing. -/
def writeDocument (files : FileSystem) (path text : String) : FileSystem × Option WriteError :=
  -- Without its directory the document cannot be written either, so that error is told.
  match ensureParent files path with
  | (files, some error) => (files, some error)
  | (files, none) =>
    match files.write path (text ++ "\n").toUTF8 with
    | .ok files => (files, none)
    | .error cause => (files, some (.file path cause))

end LayerAudit.Report
