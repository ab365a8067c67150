import LayerAudit.Graph.Node
import LayerAudit.Report.Json
import LayerAudit.Violation

/-!
Nodes, edges and findings from the values that stand for them in a document. A record may have more fields than are
asked for, but none of those twice. Where a text may be missing, null stands for a missing one too. Forms that no
document has, such as a list of the values of a record in its place, are not read.
-/

namespace LayerAudit.Report

/-! ### Fields -/

/-- The text of a value. -/
def text? : Json → Option String
  | .text s => some s
  | _ => none

/-- The items of a list, if all of them can be read. -/
def list? {α : Type} (read? : Json → Option α) : Json → Option (List α)
  | .list items => items.mapM read?
  | _ => none

/-- The value of a field, if there is one. No field may be there twice. -/
def fieldOf? (name : String) (fields : List (String × Json)) : Option (Option Json) :=
  match fields.filter (·.1 == name) with
  | [] => some none
  | [(_, value)] => some (some value)
  | _ => none

/-- A field that has to be there. -/
def needed? {α : Type} (read? : Json → Option α) (name : String) (fields : List (String × Json)) : Option α :=
  match fieldOf? name fields with
  | some (some value) => read? value
  | _ => none

/-- A field that may be missing. -/
def optional? {α : Type} (read? : Json → Option α) (name : String) (fields : List (String × Json)) :
    Option (Option α) :=
  match fieldOf? name fields with
  -- A field that is not there and a null are both no value. A value of another sort is an error instead.
  | some none | some (some .null) => some none
  | some (some value) => (read? value).map some
  | none => none

/-- A written name of a vocabulary. -/
def named? {α : Type} (ofName? : String → Option α) (value : Json) : Option α := (text? value).bind ofName?

/-! ### Records -/

/-- An edge. -/
def edge? : Json → Option Edge
  | .record fields => do
    return {
      source := ← needed? text? "source" fields
      target := ← needed? text? "target" fields
      relation := ← needed? (named? Relation.ofName?) "relation" fields }
  | _ => none

/-- A file. -/
def file? (fields : List (String × Json)) : Option FileNode := do
  return {
    id := ← needed? text? "id" fields
    path := ← needed? text? "path" fields
    hash := ← needed? text? "hash" fields
    kind := ← needed? (named? FileKind.ofName?) "file_kind" fields
    purpose := ← needed? text? "purpose" fields
    -- A file outside of all layers has a null here.
    layer := ← optional? text? "layer" fields }

/-- A symbol. -/
def symbol? (fields : List (String × Json)) : Option SymbolNode := do
  return {
    id := ← needed? text? "id" fields
    kind := ← needed? (named? SymbolKind.ofName?) "symbol_kind" fields
    name := ← needed? text? "name" fields
    owner := ← needed? text? "owner" fields
    -- A symbol that is not a route lacks the fields below.
    purpose := ← optional? text? "purpose" fields
    routePath := ← optional? text? "route_path" fields
    routeName := ← optional? text? "route_name" fields }

/-- The field that says what a node is. -/
def nodeTag : String := "node_type"

/-- A node. One field says what it is, and the others are read as such a thing. -/
def node? : Json → Option Node
  | .record fields => do
    let tag ← needed? text? nodeTag fields
    -- The tag is no field of the thing itself.
    let others := fields.filter (·.1 != nodeTag)
    match tag with
    | "file" => return .file (← file? others)
    | "symbol" => return .symbol (← symbol? others)
    | _ => none
  | _ => none

/-- A finding. -/
def violation? : Json → Option Violation
  | .record fields => do
    return {
      kind := ← needed? (named? ViolationKind.ofName?) "kind" fields
      severity := ← needed? (named? Severity.ofName?) "severity" fields
      file := ← needed? text? "file" fields
      -- Only findings about an import have an edge.
      edge := ← optional? edge? "edge" fields
      message := ← needed? text? "message" fields
      suggestion := ← optional? text? "suggestion" fields }
  | _ => none

/-- What a document holds of an audit. -/
structure Contents where
  nodes : List Node
  edges : List Edge
  violations : List Violation
  deriving DecidableEq, Repr, Inhabited

/-- The nodes, edges and findings in a document. -/
def contents? : Json → Option Contents
  | .record fields => do
    return {
      nodes := ← needed? (list? node?) "nodes" fields
      edges := ← needed? (list? edge?) "edges" fields
      violations := ← needed? (list? violation?) "violations" fields }
  | _ => none

end LayerAudit.Report
