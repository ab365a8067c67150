import LayerAudit.Graph.Node
import Std.Data.HashMap

/-!
The architecture graph: a slot for every id that was offered as a node or used as the end of an edge, in the order
of first appearance, and every edge in the order of addition.
-/

namespace LayerAudit

/-- The slot of an id: a known node, or an id that only edges have named so far. -/
inductive Slot
  | known (node : Node)
  | unresolved (id : String)
  deriving DecidableEq, Repr, Inhabited

namespace Slot

/-- The id that a slot stands for. -/
def id : Slot → String
  | known node => node.id
  | unresolved id => id

/-- The node in a slot, if it is known. -/
def node? : Slot → Option Node
  | known node => some node
  | unresolved _ => none

end Slot

/-- A multigraph over ids. The place of an id is the number of its slot. -/
structure Graph where
  slots : Array Slot := #[]
  places : Std.HashMap String Nat := ∅
  /-- Source slot, target slot and relation of each edge. -/
  links : Array (Nat × Nat × Relation) := #[]

namespace Graph

/-- The graph without nodes and edges. -/
def empty : Graph := {}

instance : Inhabited Graph := ⟨empty⟩

/-- The slot of an id. -/
def slot? (graph : Graph) (id : String) : Option Slot :=
  graph.places[id]?.bind (graph.slots[·]?)

/-- Offer a node. It is refused, with the answer false, if its id is that of a known node. -/
def addNode (graph : Graph) (node : Node) : Graph × Bool :=
  match graph.places[node.id]? with
  | some place =>
    match graph.slots[place]? with
    -- The first node under an id stays.
    | some (.known _) => (graph, false)
    -- An edge was here before the node, and the slot keeps its place.
    | _ => ({ graph with slots := graph.slots.setIfInBounds place (.known node) }, true)
  | none =>
    ({ graph with
        slots := graph.slots.push (.known node)
        places := graph.places.insert node.id graph.slots.size }, true)

/-- The graph with a slot for an id, and the place of that slot. -/
def ensure (graph : Graph) (id : String) : Graph × Nat :=
  match graph.places[id]? with
  | some place => (graph, place)
  | none =>
    ({ graph with
        -- The id is kept until its node comes, if it ever does.
        slots := graph.slots.push (.unresolved id)
        places := graph.places.insert id graph.slots.size }, graph.slots.size)

/-- Add an edge; an equal edge may be there already. -/
def addEdge (graph : Graph) (edge : Edge) : Graph :=
  let (graph, source) := graph.ensure edge.source
  let (graph, target) := graph.ensure edge.target
  { graph with links := graph.links.push (source, target, edge.relation) }

/-- The known nodes, in the order of their slots. -/
def nodes (graph : Graph) : List Node := graph.slots.toList.filterMap Slot.node?

/-- The id at a place. -/
def idAt (graph : Graph) (place : Nat) : String := (graph.slots[place]?.map Slot.id).getD ""

/-- All edges in the order of addition. -/
def edges (graph : Graph) : List Edge :=
  graph.links.toList.map fun (source, target, relation) =>
    ⟨graph.idAt source, graph.idAt target, relation⟩

/-- The number of known nodes. -/
def nodeCount (graph : Graph) : Nat := graph.nodes.length

/-- The number of edges. -/
def edgeCount (graph : Graph) : Nat := graph.links.size

/-- The number of edges whose target is no known node. -/
def danglingCount (graph : Graph) : Nat :=
  (graph.links.toList.filter fun (_, target, _) =>
    match graph.slots[target]? with
    | some (.unresolved _) => true
    | _ => false).length

end Graph

end LayerAudit
