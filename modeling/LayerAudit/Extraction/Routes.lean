import LayerAudit.Extraction.Basic

/-!
The routes that a file declares. A route table is an array of objects; a route may hold a table of its own, whose paths
are read from the path of the route.
-/

namespace LayerAudit.Routes

/-- The text without the slashes at its end. -/
def trimSlashes (s : List Char) : List Char := (s.reverse.dropWhile (· == '/')).reverse

/-- A path read from the path of the route around it. -/
def joinPath (parent path : String) : String :=
  if Text.isStartOf "/" path || parent = "" then path
  else if path = "" then parent
  else String.ofList (trimSlashes parent.toList) ++ "/" ++ path

/-- An entry of a route table, as far as it is known. -/
structure Entry where
  path : Option String
  name : Option String
  component : Option ImportTarget
  deriving DecidableEq, Repr, Inhabited

/-- What a walk through a script knows about the tables in it. -/
structure Candidates where
  /-- The first array under the name for routes. -/
  named : Option Nat := none
  /-- The first array under a key for routes. -/
  keyed : Option Nat := none
  /-- The first array with any name. -/
  any : Option Nat := none
  deriving DecidableEq, Repr, Inhabited

/-- Meet one node in the search for the route table. -/
def meet (tree : SyntaxTree) (_place : Nat) (shape : Shape) (found : Candidates) : Bool × Candidates :=
  let isArray (place : Nat) : Bool := (tree.shape? place).any Shape.isArray
  -- The walk goes on below every node, as a table may stand anywhere.
  (true, match shape with
    | .declarator name (some value) =>
      -- The first array that fits stays, as walks meet nodes in source order.
      if isArray value then
        { found with
          named := found.named.or (if name = some "routes" then some value else none)
          any := found.any.or (some value) }
      else found
    | .property (some key) value =>
      if key = "routes" && isArray value then { found with keyed := found.keyed.or (some value) } else found
    | _ => found)

/-- The route table of a script: an array with the name for routes, else one under a key for routes, else the first
array with a name. -/
def table? (tree : SyntaxTree) : Option Nat :=
  let found := tree.visitFrom (meet tree) tree.program {}
  (found.named.or found.keyed).or found.any

/-- The shape is a dynamic import of a known module. -/
def importsKnown : Shape → Bool
  | .dynamicImport (some _) => true
  | _ => false

/-- The component of a route: a default import by its name, or the first dynamic import in the value. -/
def componentOf? (file : SourceModule) (defaults : List (String × ImportTarget)) (value : Nat) : Option ImportTarget :=
  match file.tree.identifierAt? value with
  | some name => Sorted.get? name defaults
  -- A component that is loaded late stands in an import inside of a function.
  | none =>
    (file.tree.find? value importsKnown).bind fun place =>
      match file.tree.shape? place with
      | some (.dynamicImport (some specifier)) => some (file.scope.resolve file.path specifier)
      | _ => none

/-- What one object of a route table says. -/
def entryOf (file : SourceModule) (defaults : List (String × ImportTarget)) (parent : String) (route : Nat) :
    Entry where
  path := ((file.tree.valueOf? route "path").bind file.tree.stringAt?).map (joinPath parent)
  name := (file.tree.valueOf? route "name").bind file.tree.stringAt?
  component := (file.tree.valueOf? route "component").bind (componentOf? file defaults)

/-- The entries of a table and of the tables inside it. An inner table is laid down before the outer one. -/
def entries (file : SourceModule) (defaults : List (String × ImportTarget)) (parent : String) (table : Nat) :
    List Entry :=
  match file.tree.shape? table with
  | some (.array elements) => elements.flatMap fun route =>
    -- An element that is no object is no route.
    if (file.tree.shape? route).any Shape.isObject then
      let entry := entryOf file defaults parent route
      match file.tree.valueOf? route "children" with
      | some inner =>
        -- Children lie before their parents, which is why this comes to an end.
        if inner < table then entry :: entries file defaults (entry.path.getD parent) inner else [entry]
      | none => [entry]
    else []
  | _ => []
termination_by table

/-- A known entry as a symbol of the file, with the edges to its component and from the file. -/
def extractEntry (file : String) (entry : Entry) : Extraction :=
  -- Without a path or a component there is nothing to show of a route.
  match entry.path, entry.component with
  | some path, some component =>
    let symbol := { (SymbolNode.within .route file path file).withPurpose s!"Route \x60{path}\x60" with
      routePath := some path
      routeName := entry.name }
    { symbols := [symbol]
      edges := [⟨symbol.id, component.id, .rendersComponent⟩, ⟨file, symbol.id, .definesRoute⟩] }
  | _, _ => {}

/-- What is extracted from a router file. -/
def extract (file : SourceModule) : Extraction :=
  match table? file.tree with
  | none => {}
  | some table => .joined ((entries file file.defaultBindings "" table).map (extractEntry file.path))

end LayerAudit.Routes
