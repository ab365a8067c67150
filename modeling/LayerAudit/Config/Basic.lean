import LayerAudit.Severity
import LayerAudit.Violation
import LayerAudit.Sorted

/-!
The settings of a run. Each part has the value that holds where a project says nothing about it.
-/

namespace LayerAudit

/-- Which files are analyzed, and how import specifiers name them. -/
structure Project where
  /-- Globs below the source root that select files. -/
  included : List String := ["src/**/*.\x7bjs,mjs,ts,vue,json,css\x7d", "public/data/**/*.\x7bjson,webp\x7d"]
  /-- Globs that drop files again. -/
  excluded : List String := ["**/node_modules/**"]
  /-- Starts of specifiers and the paths that stand for them, sorted by start. -/
  aliases : List (String × String) := [("@/", "src/")]
  /-- Extensions of modules that belong to the project. -/
  sourceExtensions : List String := ["js", "mjs", "ts", "vue"]
  deriving DecidableEq, Repr, Inhabited

/-- The names by which files and their parts are recognized. -/
structure Conventions where
  sharedUi : String := "src/shared/ui/"
  features : String := "src/features/"
  pages : String := "src/pages/"
  /-- Ends of file stems that mark a state store below a model directory. -/
  storeSuffixes : List String := ["Store", ".store", "-store"]
  storeFactory : String := "defineStore"
  -- A hook is `use`, a capital letter and more, and `Store` at the end.
  storeHookPattern : String := "^use[A-Z]\\w*Store$"
  propsMacro : String := "defineProps"
  emitsMacro : String := "defineEmits"
  deriving DecidableEq, Repr, Inhabited

/-- A ranked layer and the start of the paths that belong to it. -/
structure LayerSpec where
  name : String
  rank : Nat
  start : String
  deriving DecidableEq, Repr, Inhabited

/-- Files of one kind and purpose must lie where a pattern matches. -/
structure PlacementSpec where
  kind : FileKind
  purpose : String
  pattern : String
  deriving DecidableEq, Repr, Inhabited

/-- How findings are graded. -/
structure Rules where
  severities : List (String × Severity) :=
    [("dependency", .error), ("parsing", .warning), ("placement", .warning), ("read", .error)]
  /-- Of two findings on one edge only the first is kept. -/
  deduplicateDependencies : Bool := false
  deriving DecidableEq, Repr, Inhabited

namespace Rules

/-- The grade of a finding of some kind. -/
def severityOf (rules : Rules) (kind : ViolationKind) : Severity :=
  (Sorted.get? kind.key rules.severities).getD kind.usualSeverity

end Rules

/-- What is stamped into the document, and where it goes. -/
structure ReportSpec where
  schema : String := "./adherence-protocol.schema.json"
  protocol : String := "architecture-adherence-protocol"
  version : String := "1.0.0"
  /-- The place of the document below the source root. -/
  output : String := "scripts/architecture/adherence-protocol.json"
  deriving DecidableEq, Repr, Inhabited

/-- The names of the usual layers, the most foundational first. -/
def usualLayerNames : List String := ["shared", "entities", "features", "widgets", "pages", "app"]

/-- The usual layers. -/
def usualLayers : List LayerSpec :=
  usualLayerNames.zipIdx.map fun (name, rank) => ⟨name, rank, "src/" ++ name ++ "/"⟩

/-- The usual placement rules. -/
def usualPlacement : List PlacementSpec :=
  [⟨.uiComponent, "UI Primitive", "^src/shared/ui/"⟩,
    ⟨.uiComponent, "Feature Implementation", "^src/features/[^/]+/ui/"⟩,
    ⟨.uiComponent, "Page Layout", "^src/pages/[^/]+/ui/"⟩,
    ⟨.stateStore, "Business Entity State", "^src/(entities|features)/[^/]+/model/"⟩,
    ⟨.routerConfig, "Application Routing", "^src/app/router/"⟩,
    ⟨.entryPoint, "Application Entry Point", "^src/app/main\\.(js|mjs|ts)$"⟩]

/-- The usual allow-lists: each layer may import from itself and from every layer below it. -/
def usualDependencies : List (String × List String) :=
  Sorted.ofList (usualLayerNames.zipIdx.map fun (name, rank) => (name, usualLayerNames.take (rank + 1)))

/-- All settings of a run. -/
structure Config where
  project : Project := {}
  conventions : Conventions := {}
  layers : List LayerSpec := usualLayers
  placement : List PlacementSpec := usualPlacement
  /-- The layers that each layer may import from, sorted by name. -/
  dependencies : List (String × List String) := usualDependencies
  rules : Rules := {}
  report : ReportSpec := {}
  deriving DecidableEq, Repr, Inhabited

end LayerAudit
