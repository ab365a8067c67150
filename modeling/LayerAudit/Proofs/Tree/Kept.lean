import LayerAudit.Proofs.Tree.Laying

/-!
Lowering keeps some parts of each node and drops the others, such as the parameters of a function, the name of a
variable or the key of an entry. What is in kept parts only is lowered.
-/

namespace LayerAudit

open Script

/-! ### Calls of a script -/

namespace Script.Cst

/-- What is called is the word for a dynamic import. -/
def callsImportWord (node : Cst) : Bool := (node.child? .function).any (·.role == .importWord)

/-- The node is a call, but no dynamic import. -/
def isCall (node : Cst) : Bool := node.role == .call && !node.callsImportWord

mutual

/-- All nodes at and below a node in source order. -/
def nodes : Cst → List Cst
  | .mk head children => .mk head children :: nodesIn children

/-- All nodes at and below some nodes. -/
def nodesIn : List Cst → List Cst
  | [] => []
  | node :: rest => node.nodes ++ nodesIn rest

end

mutual

/-- The calls at and below a node in source order, without dynamic imports and what stands in their arguments. -/
def openCalls : Cst → List Cst
  | .mk head children =>
    (if isCall (.mk head children) then [.mk head children] else []) ++
      openCallsIn (head.role == .call && callsImportWord (.mk head children)) children

/-- The same of the children of a node, which may be a dynamic import. -/
def openCallsIn (ofImport : Bool) : List Cst → List Cst
  | [] => []
  | child :: rest =>
    (if ofImport && child.head.label == some .arguments then [] else child.openCalls) ++ openCallsIn ofImport rest

end

/-- The nodes at and below some nodes come one tree after another. -/
theorem nodesIn_eq (list : List Cst) : nodesIn list = list.flatMap nodes := by
  induction list with
  | nil => rfl
  | cons first rest ih =>
    rw [nodesIn, ih]
    rfl

/-- The nodes at and below a child are below its parent. -/
theorem nodes_of_child {node child : Cst} (isChild : child ∈ node.children) : child.nodes ⊆ node.nodes := by
  intro inner member
  cases node with
  | mk head children =>
    rw [nodes, nodesIn_eq]
    exact List.mem_cons_of_mem _ (List.mem_flatMap.mpr ⟨child, isChild, member⟩)

end Script.Cst

namespace Tree

/-! ### What lowering keeps -/

/-- A node stands by itself, or as an entry of an object. -/
inductive Standing
  | alone | entry
  deriving DecidableEq, Repr

/-- How the parts of a node stand. -/
def standingBelow (node : Cst) : Standing := if node.role = .object then .entry else .alone

/-- The named parts of a part. -/
def partsOfPart {node : Cst} (part : Part node) : List (Part node) :=
  (namedParts part.1).map fun inner => ⟨inner.1, Nat.lt_trans inner.2 part.2⟩

/-- The parts of a node that are lowered with it. All others are dropped with all that stands in them. -/
def keptParts (standing : Standing) (node : Cst) : List (Part node) :=
  match node.role with
  -- Behind the first named part of a wrapper may come a type.
  | .group | .cast | .nonNull | .returnStatement => (namedParts node).take 1
  | .importStatement | .identifier | .propertyName | .shorthand | .string | .this => []
  | .exportStatement =>
    match node.child? .source, part? node .value with
    | some _, _ => []
    | none, some value => [value]
    | none, none => namedParts node
  | .call =>
    if node.callsImportWord then []
    else (part? node .function).toList ++ (part? node .arguments).toList.flatMap partsOfPart
  | .templateString => if node.namedChildren.any (·.role == .hole) then namedParts node else []
  -- The parameters are dropped with their defaults, and so is the key of a method.
  | .function | .method => (part? node .body).toList
  | .assignment =>
    match part? node .left, part? node .right with
    | some target, some value => [target, value]
    | _, _ => namedParts node
  | .update => (part? node .argument).toList
  | .member =>
    match part? node .object, node.child? .property with
    | some object, some _ => [object]
    | _, _ => namedParts node
  -- A pattern in place of the name is dropped with its defaults.
  | .declarator => (part? node .value).toList
  -- An entry loses its key, even if it is computed.
  | .pair => if standing = .entry then (part? node .value).toList else namedParts node
  | _ => namedParts node

/-- The nodes at and below a node that are lowered, each before those below it. -/
def kept (standing : Standing) (node : Cst) : List Cst :=
  node :: (keptParts standing node).flatMap fun part => kept (standingBelow node) part.1
termination_by sizeOf node
decreasing_by exact part.2

/-- The calls among the nodes that are lowered. -/
def keptCalls (standing : Standing) (node : Cst) : List Cst := (kept standing node).filter Cst.isCall

/-- A call comes before those in the parts that are lowered with it. -/
theorem keptCalls_eq (standing : Standing) (node : Cst) :
    keptCalls standing node = (if node.isCall then [node] else []) ++
      (keptParts standing node).flatMap fun part => keptCalls (standingBelow node) part.1 := by
  rw [keptCalls, kept, List.filter_cons, List.filter_flatMap]
  cases node.isCall <;> rfl

/-! ### Nodes without calls -/

variable {standing : Standing} {node : Cst}

/-- A part that is lowered with a node lies one level below it, or two. -/
theorem mem_children_of_keptPart {part : Part node} (member : part ∈ keptParts standing node) :
    part.1 ∈ node.children ∨ ∃ child ∈ node.children, part.1 ∈ child.children := by
  have labelled {label : Label} {other : Part node} (found : part? node label = some other) :
      other.1 ∈ node.children ∨ ∃ child ∈ node.children, other.1 ∈ child.children :=
    .inl (mem_children_of_part? found)
  have named (listed : part ∈ namedParts node) :
      part.1 ∈ node.children ∨ ∃ child ∈ node.children, part.1 ∈ child.children :=
    .inl (mem_children_of_mem_namedParts listed)
  -- The roles are taken one by one. All but the argument of a call are children of the node.
  unfold keptParts at member
  cases role : node.role
  all_goals
    rw [role] at member
    dsimp only at member
  case group | cast | nonNull | returnStatement => exact named (List.mem_of_mem_take member)
  case importStatement | identifier | propertyName | shorthand | string | this => cases member
  case function | method | update | declarator => exact labelled (Option.mem_toList.mp member)
  case exportStatement =>
    split at member
    · cases member
    · rename_i found
      exact List.mem_singleton.mp member ▸ labelled found
    · exact named member
  case call =>
    split at member
    · cases member
    · -- The callee is a child of the call.
      rcases List.mem_append.mp member with callee | argument
      · exact labelled (Option.mem_toList.mp callee)
      · -- An argument lies two levels below the call.
        obtain ⟨arguments, found, inner⟩ := List.mem_flatMap.mp argument
        obtain ⟨own, listed, rfl⟩ := List.mem_map.mp inner
        exact .inr ⟨arguments.1, mem_children_of_part? (Option.mem_toList.mp found),
          mem_children_of_mem_namedParts listed⟩
  case templateString =>
    split at member
    · exact named member
    · cases member
  case assignment =>
    split at member
    · rename_i isTarget isValue
      rcases List.mem_cons.mp member with rfl | other
      · exact labelled isTarget
      · exact List.mem_singleton.mp other ▸ labelled isValue
    · exact named member
  case member =>
    split at member
    · rename_i isObject _
      exact List.mem_singleton.mp member ▸ labelled isObject
    · exact named member
  case pair =>
    split at member
    · exact labelled (Option.mem_toList.mp member)
    · exact named member
  all_goals exact named member

/-- The nodes at and below a part that is lowered with a node are below the node. -/
theorem nodes_of_keptPart {part : Part node} (member : part ∈ keptParts standing node) :
    part.1.nodes ⊆ node.nodes := by
  rcases mem_children_of_keptPart member with isChild | ⟨child, isChild, isInner⟩
  · exact Cst.nodes_of_child isChild
  · exact List.Subset.trans (Cst.nodes_of_child isInner) (Cst.nodes_of_child isChild)

/-- What is lowered with a node is at or below it. -/
theorem kept_subset_nodes (standing : Standing) (node : Cst) : kept standing node ⊆ node.nodes := by
  -- The induction is on the size, which falls with every part.
  induction size : sizeOf node using Nat.strongRecOn generalizing node standing with
  | _ bound ih =>
    subst size
    intro inner member
    rw [kept] at member
    rcases List.mem_cons.mp member with rfl | below
    · cases inner
      exact List.mem_cons_self ..
    · obtain ⟨part, isPart, member⟩ := List.mem_flatMap.mp below
      exact nodes_of_keptPart isPart (ih _ part.2 _ part.1 rfl member)

/-- Where no node is a call, no call is lowered. -/
theorem keptCalls_of_nodes (standing : Standing) (silent : ∀ inner ∈ node.nodes, inner.isCall = false) :
    keptCalls standing node = [] := by
  refine List.filter_eq_nil_iff.mpr fun inner member => ?_
  simp [silent inner (kept_subset_nodes standing node member)]

/-- From an import statement, and from a function without calls in its body, no call is lowered. -/
def isSilent (statement : Cst) : Bool :=
  statement.role == .importStatement ||
    statement.role == .function && (statement.child? .body).all fun body => body.nodes.all fun inner => !inner.isCall

/-- A silent statement is lowered without a call, whatever stands in the parameters of a function. -/
theorem keptCalls_of_isSilent (silent : isSilent node = true) : keptCalls standing node = [] := by
  simp only [isSilent, Bool.or_eq_true, Bool.and_eq_true, beq_iff_eq] at silent
  -- An import statement keeps nothing, and a function keeps its body alone.
  rcases silent with role | ⟨role, quiet⟩
  · rw [keptCalls_eq, Cst.isCall, keptParts, role]
    rfl
  · rw [keptCalls_eq, Cst.isCall, keptParts, role]
    cases found : part? node .body with
    | none => rfl
    | some body =>
      -- Only the body is kept, in which no node is a call.
      have isBody : node.child? .body = some body.1 := by rw [← map_part?, found, Option.map_some]
      have none : ∀ inner ∈ body.1.nodes, inner.isCall = false := by
        rw [isBody] at quiet
        simpa using quiet
      simp [keptCalls_of_nodes _ none]

/-- From a script of silent statements no call is lowered. -/
theorem keptCalls_of_silent (isProgram : node.role = .program)
    (silent : ∀ statement ∈ node.namedChildren, isSilent statement = true) : keptCalls .alone node = [] := by
  rw [keptCalls_eq, Cst.isCall, keptParts, isProgram]
  refine List.flatMap_eq_nil_iff.mpr fun part member => ?_
  exact keptCalls_of_isSilent (silent part.1 (map_namedParts node ▸ List.mem_map_of_mem member))

end Tree

end LayerAudit
