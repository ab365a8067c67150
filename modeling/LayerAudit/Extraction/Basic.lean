import LayerAudit.Graph.Node
import LayerAudit.Import.Target
import LayerAudit.Sorted
import LayerAudit.Tree.Basic

/-! What is extracted from one file: symbols and edges, both in the order in which they were found. -/

namespace LayerAudit

/-- Symbols and edges of a file. -/
structure Extraction where
  symbols : List SymbolNode := []
  edges : List Edge := []
  deriving DecidableEq, Repr, Inhabited

namespace Extraction

/-- What two extractions find, one after the other. -/
def append (a b : Extraction) : Extraction := ⟨a.symbols ++ b.symbols, a.edges ++ b.edges⟩

instance : Append Extraction := ⟨append⟩

/-- What several extractions find, one after the other. -/
def joined (parts : List Extraction) : Extraction := ⟨parts.flatMap (·.symbols), parts.flatMap (·.edges)⟩

end Extraction

/-- A parsed file with what its import specifiers are resolved against. -/
structure SourceModule where
  path : String
  tree : SyntaxTree
  scope : ImportScope

/-- An import at the top level of a file. -/
structure ResolvedImport where
  target : ImportTarget
  byDefault : Option String
  bindings : List String
  deriving DecidableEq, Repr, Inhabited

namespace SourceModule

/-- The imports at the top level, in their order. -/
def imports (file : SourceModule) : List ResolvedImport :=
  file.tree.statements.filterMap fun place =>
    match file.tree.shape? place with
    | some (.staticImport specifier byDefault bindings) =>
      -- An import that is written twice counts twice.
      some ⟨file.scope.resolve file.path specifier, byDefault, bindings⟩
    | _ => none

/-- Every imported name with its target, sorted by name; of two imports of one name the later counts. -/
def bindings (file : SourceModule) : List (String × ImportTarget) :=
  Sorted.ofList (file.imports.flatMap fun entry => entry.bindings.map fun name => (name, entry.target))

/-- Every name of a default import with its target; of two imports of one name the later counts. -/
def defaultBindings (file : SourceModule) : List (String × ImportTarget) :=
  Sorted.ofList (file.imports.filterMap fun entry => entry.byDefault.map fun name => (name, entry.target))

/-- The edge of an import, and the symbol of an imported package. -/
def extractImport (path : String) (entry : ResolvedImport) : Extraction :=
  match entry.target with
  | .file target => { edges := [⟨path, target, .imports⟩] }
  -- A package is a symbol of every file that imports it, and the first of them keeps it.
  | .package name =>
    { symbols := [(SymbolNode.standalone .externalPackage name path).withPurpose s!"External package \x60{name}\x60"]
      edges := [⟨path, name, .importsPackage⟩] }

/-- The imports of a file as edges. -/
def extractImports (file : SourceModule) : Extraction := .joined (file.imports.map (extractImport file.path))

end SourceModule

end LayerAudit
