import LayerAudit.Graph.Kind

/-!
The nodes and edges of the architecture graph. A node is a file or a symbol owned by a file, and is named by its id.
-/

namespace LayerAudit

/-- A discovered file; its id is its path below the source root. -/
structure FileNode where
  id : String
  path : String
  hash : String
  kind : FileKind
  purpose : String
  layer : Option String
  deriving DecidableEq, Repr, Inhabited

/-- A named element owned by exactly one file. -/
structure SymbolNode where
  id : String
  kind : SymbolKind
  name : String
  owner : String
  purpose : Option String := none
  routePath : Option String := none
  routeName : Option String := none
  deriving DecidableEq, Repr, Inhabited

namespace SymbolNode

/-- The id of a symbol inside a scope: the scope, a hash sign, the section, a dot and the name. -/
def scopedId (kind : SymbolKind) (scope name : String) : String :=
  scope ++ "#" ++ kind.sectionName ++ "." ++ name

/-- A symbol named within a scope. -/
def within (kind : SymbolKind) (scope name owner : String) : SymbolNode :=
  { id := scopedId kind scope name, kind, name, owner }

/-- A symbol whose name is its id. -/
def standalone (kind : SymbolKind) (name owner : String) : SymbolNode :=
  { id := name, kind, name, owner }

/-- The symbol with a stated purpose. -/
def withPurpose (symbol : SymbolNode) (purpose : String) : SymbolNode :=
  { symbol with purpose := some purpose }

end SymbolNode

/-- A node of the graph. -/
inductive Node
  | file (node : FileNode)
  | symbol (node : SymbolNode)
  deriving DecidableEq, Repr, Inhabited

namespace Node

/-- The id that names a node. -/
def id : Node → String
  | file node => node.id
  | symbol node => node.id

/-- The node is a file. -/
def isFile : Node → Bool
  | file _ => true
  | symbol _ => false

end Node

/-- A directed relation between two ids, which need not name nodes. -/
structure Edge where
  source : String
  target : String
  relation : Relation
  deriving DecidableEq, Repr, Inhabited

end LayerAudit
