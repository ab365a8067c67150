import LayerAudit.Proofs.Extraction.StoreAccess
import LayerAudit.Proofs.Tree.Uses

/-!
The edges from a getter or an action in terms of the script that it is written in. They come from the nodes of its body
that are lowered, one after another: a property of the receiver that is a state field is changed if its node is the
target of an assignment or an update, and read otherwise.
-/

open LayerAudit.Tree

namespace LayerAudit

open Script SyntaxTree

/-! ### What is written to -/

/-- A place below a node is the target of the node if it is its first child and the node writes. -/
theorem Shape.markedBelow_children {shape : Shape} (distinct : shape.children.Nodup) (outline : Nat → Outline) :
    shape.children.flatMap (fun child => (outline child).marked (shape.target? = some child)) =
      Outline.markedBelow shape.writes (shape.children.map outline) := by
  -- Where nothing is written to, no child is marked.
  have free (none : shape.target? = none) :
      shape.children.flatMap (fun child => (outline child).marked (shape.target? = some child)) =
        Outline.markedBelow false (shape.children.map outline) := by
    rw [Outline.markedBelow_false, List.flatMap_map]
    simp [none]
  -- An assignment writes to its first child, which is not the second one.
  cases shape with
  | assignment target value =>
    have other : target ≠ value := by simpa [children] using distinct
    simp [children, target?, writes, Outline.markedBelow, other]
  | update target => simp [children, target?, writes, Outline.markedBelow]
  | _ => exact free rfl

namespace SyntaxTree

variable {tree : SyntaxTree} {roots : List Nat}

/-- In a forest a child is written to by nodes at and below a place there if its own parent writes to it. -/
theorem mem_targets_iff (forest : Forest tree.nodes roots) {start place child : Nat}
    (member : place ∈ preorder tree.nodes start) (isChild : child ∈ childrenAt tree.nodes place) :
    child ∈ tree.targets (preorder tree.nodes start) ↔ tree.targetAt? place = some child := by
  constructor
  · intro written
    obtain ⟨writer, _, writes⟩ := List.mem_filterMap.mp written
    -- Whoever writes to the child is a parent of it, and there is only one.
    have same := forest.parent_unique (mem_childrenAt_of_targetAt? writes) isChild
    exact same ▸ writes
  · intro writes
    exact List.mem_filterMap.mpr ⟨place, member, writes⟩

/-- In a forest a place shows the outlines at and below it, each with whether a node there writes to it. -/
theorem map_marked_preorder (forest : Forest tree.nodes roots) {start : Nat} (inside : start < tree.nodes.size) :
    (preorder tree.nodes start).map
        (fun place => (decide (place ∈ tree.targets (preorder tree.nodes start)), outlineAt tree.nodes place)) =
      (outlineAt tree.nodes start).marked false := by
  -- The claim is made for every place at or below the start, so that the induction can go down.
  have below (place : Nat) (member : place ∈ preorder tree.nodes start) :
      (preorder tree.nodes place).map
          (fun place => (decide (place ∈ tree.targets (preorder tree.nodes start)), outlineAt tree.nodes place)) =
        (outlineAt tree.nodes place).marked (place ∈ tree.targets (preorder tree.nodes start)) := by
    -- The induction goes down to the children, which come before their node.
    induction place using Nat.strongRecOn with
    | _ place ih =>
      have within : place < tree.nodes.size := Nat.lt_of_le_of_lt (le_of_mem_preorder forest member) inside
      have stored : tree.nodes[place]? = some tree.nodes[place] := Array.getElem?_eq_getElem within
      have children : childrenAt tree.nodes place = tree.nodes[place].shape.children := by
        rw [childrenAt, stored, Option.map_some, Option.getD_some]
      have target : tree.targetAt? place = tree.nodes[place].shape.target? := by
        rw [targetAt?, shape?, stored]
        rfl
      -- Only the shape tells whether a node writes, and the children are distinct.
      have distinct := children ▸ forest.nodup_childrenAt place
      have bare : tree.nodes[place].shape.bare.writes = tree.nodes[place].shape.writes := by
        cases tree.nodes[place].shape <;> rfl
      rw [preorder_eq forest place, List.map_cons, List.map_flatMap, outlineAt_eq forest stored, Outline.marked, bare,
        ← Shape.markedBelow_children distinct, children]
      refine congrArg _ (List.flatMap_congr fun child listed => ?_)
      have isChild : child ∈ childrenAt tree.nodes place := children ▸ listed
      rw [ih child (forest.descending place child isChild) (child_mem_preorder forest member isChild)]
      simp only [mem_targets_iff forest member isChild, target]
  have free : start ∉ tree.targets (preorder tree.nodes start) := by
    intro written
    obtain ⟨writer, member, writes⟩ := List.mem_filterMap.mp written
    -- A node that writes to the start would come behind it.
    have before := forest.descending writer start (mem_childrenAt_of_targetAt? writes)
    exact absurd (le_of_mem_preorder forest member) (Nat.not_le_of_lt before)
  have self : start ∈ preorder tree.nodes start := by
    rw [preorder_eq forest]
    exact List.mem_cons_self ..
  rw [below start self, decide_eq_false free]

end SyntaxTree

/-! ### Edges from outlines -/

namespace Outline

/-- The outline stands for the store, which may also be seen through a parameter. -/
def isReceiver (parameter : Option String) : Outline → Bool
  | .mk .this _ _ => true
  | .mk (.identifier name) _ _ => parameter == some name
  | _ => false

/-- The property of the store that an outline is, if it is one. -/
def storeProperty? (parameter : Option String) : Outline → Option String
  | .mk (.member _ property) _ (receiver :: _) => if receiver.isReceiver parameter then some property else none
  | _ => none

/-- The property of the store that an outline calls, if it does so. -/
def calledProperty? (parameter : Option String) : Outline → Option String
  | .mk (.call _ _) _ (callee :: _) => callee.storeProperty? parameter
  | _ => none

variable {parameter : Option String} {outline : Outline}

/-- A plain node does not stand for the store. -/
theorem isReceiver_of_isPlain (plain : outline.shape.isPlain = true) : outline.isReceiver parameter = false := by
  obtain ⟨shape, span, below⟩ := outline
  cases shape <;> first | rfl | cases plain

/-- A plain node is no property of the store. -/
theorem storeProperty?_of_isPlain (plain : outline.shape.isPlain = true) :
    outline.storeProperty? parameter = none := by
  obtain ⟨shape, span, below⟩ := outline
  cases shape <;> first | rfl | cases plain

/-- A plain node calls no property of the store. -/
theorem calledProperty?_of_isPlain (plain : outline.shape.isPlain = true) :
    outline.calledProperty? parameter = none := by
  obtain ⟨shape, span, below⟩ := outline
  cases shape <;> first | rfl | cases plain

end Outline

namespace Store.Body

variable (body : Body)

/-- The edge for a property of the store, if it is a field of the state. -/
def fieldEdge? (isWritten : Bool) (property : String) : Option Edge :=
  if property ∈ body.members.state then
    some ⟨body.id, SymbolNode.scopedId .stateField body.members.store property,
      if isWritten then .modifiesState else .readsState⟩
  else none

/-- The edge for a call of a property of the store, if it is another action. -/
def callEdge? (property : String) : Option Edge :=
  if property ∈ body.members.actions.map (·.1) ∧ property ≠ body.name then
    some ⟨body.id, SymbolNode.scopedId .action body.members.store property, .calls⟩
  else none

/-- The edge that an outline in the body gives, when it is known whether it is written to. -/
def edgeOf? (isWritten : Bool) (outline : Outline) : Option Edge :=
  ((outline.storeProperty? body.parameter).bind (body.fieldEdge? isWritten)).or
    ((outline.calledProperty? body.parameter).bind body.callEdge?)

variable {body} {tree : SyntaxTree} {roots : List Nat}

/-- In a forest the receiver at a place is that of the outline there. -/
theorem isReceiver_outlineAt (place : Nat) :
    (outlineAt tree.nodes place).isReceiver body.parameter = body.isReceiver tree place := by
  -- Only a name and the word for the receiver can stand for it, and both are read off the shape.
  rw [outlineAt, isReceiver, shape?]
  cases tree.nodes[place]? with
  | none => rfl
  | some node =>
    obtain ⟨shape, span⟩ := node
    cases shape <;> rfl

/-- The property of the store at a place is that of the node there. -/
theorem storeProperty?_outlineAt (forest : Forest tree.nodes roots) (place : Nat) :
    (outlineAt tree.nodes place).storeProperty? body.parameter =
      match tree.shape? place with
      | some (.member receiver property) => if body.isReceiver tree receiver then some property else none
      | _ => none := by
  cases stored : tree.nodes[place]? with
  | none =>
    rw [outlineAt, shape?, stored]
    rfl
  | some node =>
    rw [outlineAt_eq forest stored, shape?, stored]
    obtain ⟨shape, span⟩ := node
    -- A member has one child, which is its receiver.
    cases shape with
    | member receiver property =>
      simp only [Shape.bare, Shape.children, List.map_cons, Outline.storeProperty?, isReceiver_outlineAt,
        Option.map_some]
    | _ => rfl

/-- The edge that a node gives is that of the outline at its place. -/
theorem edgeOf?_outlineAt (forest : Forest tree.nodes roots) {place : Nat} (inside : place < tree.nodes.size)
    (written : List Nat) :
    body.edgeOf? (place ∈ written) (outlineAt tree.nodes place) = body.edgeAt? tree written place := by
  have stored : tree.nodes[place]? = some tree.nodes[place] := Array.getElem?_eq_getElem inside
  have shaped : tree.shape? place = some tree.nodes[place].shape := by rw [shape?, stored, Option.map_some]
  rw [edgeOf?, storeProperty?_outlineAt forest, edgeAt?, outlineAt_eq forest stored, shaped]
  -- A member and a call give edges, on both sides under the same conditions.
  cases tree.nodes[place].shape with
  | member receiver property =>
    by_cases isReceiver : body.isReceiver tree receiver <;>
      by_cases isField : property ∈ body.members.state <;>
        simp [isReceiver, isField, fieldEdge?, Outline.calledProperty?, Shape.bare]
  | call callee arguments =>
    simp only [Shape.bare, Shape.children, List.map_cons, Outline.calledProperty?, storeProperty?_outlineAt forest]
    cases tree.shape? callee with
    | none => rfl
    | some called =>
      cases called with
      | member receiver property =>
        by_cases isReceiver : body.isReceiver tree receiver
        · simp only [isReceiver, if_true, true_and]
          rfl
        · simp only [isReceiver, Bool.false_eq_true, if_false, false_and]
          rfl
      | _ => rfl
  | _ => rfl

end Store.Body

/-! ### Edges from uses -/

namespace Store

section

variable (text : String) (parameter : Option String) (node : Cst)

/-- Without the wrappers around it, the node stands for the store, which may also be seen through a parameter. -/
def isReceiver : Bool :=
  match (core node).role with
  | .this => true
  | .identifier | .propertyName | .shorthand => parameter == some (textOf text (core node).span)
  | _ => false

/-- The property of the store that a node is, if it is one. -/
def storeProperty? : Option String :=
  match node.role, part? node .object, node.child? .property with
  | .member, some object, some property =>
    if isReceiver text parameter object.1 then some (textOf text property.span) else none
  | _, _, _ => none

/-- The property of the store that a node calls, if it does so. -/
def calledProperty? : Option String :=
  if node.isCall then (part? node .function).bind fun callee => storeProperty? text parameter (core callee.1) else none

end

/-- The edge that a use in a body gives. Only the target of an assignment or an update is changed. -/
def Body.useEdge? (body : Body) (text : String) (use : Use) : Option Edge :=
  ((storeProperty? text body.parameter use.node).bind (body.fieldEdge? (use.mark = .target))).or
    ((calledProperty? text body.parameter use.node).bind body.callEdge?)

/-- The uses in the body of a function. No assignment lies around it. -/
def bodyUses (text : String) (function : Cst) : List Use :=
  (part? function .body).toList.flatMap fun body => uses text .free .alone body.1

variable {text : String} {parameter : Option String} {node : Cst} {standing : Standing}

/-- What a node is lowered to is the receiver if the node is. -/
theorem isReceiver_outlineOf (node : Cst) :
    (outlineOf text .alone node).isReceiver parameter = isReceiver text parameter node := by
  obtain ⟨same, nothing⟩ := outlineOf_core text node
  rw [same, isReceiver]
  by_cases isWrapper : (core node).role ∈ wrappers
  · -- A wrapper around nothing is no receiver.
    rw [nothing isWrapper]
    rcases mem_wrappers.mp isWrapper with role | role | role
    all_goals
      rw [role]
      rfl
  · -- Without the wrappers the node becomes one of six things.
    have becomes := becomes_outlineOf text (core node) .alone isWrapper
    generalize outlineOf text .alone (core node) = outline at becomes ⊢
    cases becomes with
    | name isName aloud =>
      cases role : (core node).role
      case identifier | propertyName | shorthand => rfl
      all_goals exact absurd (role ▸ isName) (by decide)
    | this isThis =>
      rw [isThis]
      rfl
    | member isMember =>
      rw [isMember]
      rfl
    -- A call is no receiver, whatever is called.
    | call isCall arguments =>
      obtain ⟨role, _⟩ : (core node).role = .call ∧ (core node).callsImportWord = false := by
        simpa [Cst.isCall] using isCall
      rw [role]
      rfl
    | function isFunction =>
      rw [outlineOf_function text isFunction]
      rcases isFunction with role | role
      all_goals
        rw [role]
        rfl
    | plain quiet outline isPlain =>
      rw [Outline.isReceiver_of_isPlain isPlain]
      -- A plain node is not the receiver, and no role that could be one is quiet.
      rw [speaks] at quiet
      cases role : (core node).role
      case identifier | propertyName | this | shorthand => simp [role] at quiet
      all_goals rfl

/-- Nothing but a member is a property of the store. -/
theorem storeProperty?_of_role_ne (other : node.role ≠ .member) : storeProperty? text parameter node = none := by
  unfold storeProperty?
  split
  · contradiction
  · rfl

/-- What a node that is no wrapper is lowered to is the property of the store that the node is. -/
theorem storeProperty?_outlineOf (isOther : node.role ∉ wrappers) :
    (outlineOf text standing node).storeProperty? parameter = storeProperty? text parameter node := by
  have becomes := becomes_outlineOf text node standing isOther
  generalize outlineOf text standing node = outline at becomes ⊢
  cases becomes with
  | name isName aloud =>
    rw [storeProperty?_of_role_ne fun role => absurd (role ▸ isName) (by decide)]
    rfl
  | this isThis =>
    rw [storeProperty?_of_role_ne (by simp [isThis])]
    rfl
  -- A member is looked at through its receiver, for which the lemma was shown above.
  | member isMember isObject isProperty =>
    rw [storeProperty?, isMember, isObject, isProperty, Outline.storeProperty?, isReceiver_outlineOf]
  | call isCall arguments =>
    rw [storeProperty?_of_role_ne fun role => by simp [Cst.isCall, role] at isCall]
    rfl
  | function isFunction =>
    rw [outlineOf_function text isFunction, storeProperty?_of_role_ne]
    · rfl
    · rcases isFunction with role | role <;> simp [role]
  | plain quiet outline isPlain =>
    rw [Outline.storeProperty?_of_isPlain isPlain, storeProperty?]
    -- A member with a receiver and a name speaks.
    split
    · rename_i role isObject isProperty
      simp [speaks, role, isObject, isProperty] at quiet
    · rfl

/-- What a callee is lowered to is the property of the store that it is without the wrappers around it. -/
theorem storeProperty?_outlineOf_core (node : Cst) :
    (outlineOf text .alone node).storeProperty? parameter = storeProperty? text parameter (core node) := by
  obtain ⟨same, nothing⟩ := outlineOf_core text node
  rw [same]
  -- A wrapper around nothing is lowered to nothing in particular.
  by_cases isWrapper : (core node).role ∈ wrappers
  · rw [nothing isWrapper, storeProperty?_of_role_ne fun role => absurd (role ▸ isWrapper) (by decide)]
    rfl
  · exact storeProperty?_outlineOf isWrapper

/-- What a node that is no wrapper is lowered to calls the property of the store that the node calls. -/
theorem calledProperty?_outlineOf (isOther : node.role ∉ wrappers) :
    (outlineOf text standing node).calledProperty? parameter = calledProperty? text parameter node := by
  -- Whatever is no call calls no property.
  have silent (other : node.isCall = false) : calledProperty? text parameter node = none := by
    rw [calledProperty?, other]
    rfl
  have becomes := becomes_outlineOf text node standing isOther
  generalize outlineOf text standing node = outline at becomes ⊢
  cases becomes with
  | name isName aloud =>
    rw [silent]
    · rfl
    · cases role : node.role
      case call => exact absurd (role ▸ isName) (by decide)
      all_goals simp [Cst.isCall, role]
  | this isThis =>
    rw [silent (by simp [Cst.isCall, isThis])]
    rfl
  | member isMember isObject isProperty =>
    rw [silent (by simp [Cst.isCall, isMember])]
    rfl
  | call isCall arguments =>
    rw [calledProperty?, isCall, if_pos rfl, Outline.calledProperty?]
    -- The callee may stand in wrappers, which lowering takes away.
    cases part? node .function with
    | none => rfl
    | some callee => exact storeProperty?_outlineOf_core callee.1
  | function isFunction =>
    rw [outlineOf_function text isFunction, silent]
    · rfl
    · rcases isFunction with role | role <;> simp [role, Cst.isCall]
  | plain quiet outline isPlain =>
    rw [Outline.calledProperty?_of_isPlain isPlain, silent (isCall_of_quiet quiet)]

/-- What a node that is no wrapper is lowered to gives the edge that the node gives. -/
theorem edgeOf?_outlineOf (body : Body) (mark : Mark) (isOther : node.role ∉ wrappers) :
    body.edgeOf? (mark = .target) (outlineOf text standing node) = body.useEdge? text ⟨mark, standing, node⟩ := by
  rw [Body.edgeOf?, Body.useEdge?, storeProperty?_outlineOf isOther, calledProperty?_outlineOf isOther]

/-- Nothing but a member or a call gives an edge. -/
theorem useEdge?_of_role_ne {body : Body} {mark : Mark} (notMember : node.role ≠ .member)
    (notCall : node.role ≠ .call) :
    body.useEdge? text ⟨mark, standing, node⟩ = none := by
  have silent : calledProperty? text body.parameter node = none := by simp [calledProperty?, Cst.isCall, notCall]
  rw [Body.useEdge?, storeProperty?_of_role_ne notMember, silent]
  rfl

/-- Of what a use is lowered to only its own node gives an edge. -/
theorem filterMap_edgeOf?_heads (body : Body) (use : Use) :
    (use.heads text).filterMap (fun head => body.edgeOf? head.1 head.2) = (body.useEdge? text use).toList := by
  obtain ⟨mark, standing, node⟩ := use
  rw [Use.filterMap_heads text _ fun _ _ => rfl, Use.own]
  -- A wrapper has no head of its own.
  by_cases isWrapper : node.role ∈ wrappers
  · rw [useEdge?_of_role_ne (fun role => absurd (role ▸ isWrapper) (by decide)) fun role =>
      absurd (role ▸ isWrapper) (by decide)]
    rcases mem_wrappers.mp isWrapper with role | role | role
    all_goals
      rw [role]
      rfl
  · have whole : body.edgeOf? (mark = .target) (outlineOf text standing node) =
        body.useEdge? text ⟨mark, standing, node⟩ := edgeOf?_outlineOf body mark isWrapper
    -- Where the use has one head, it gives its own edge.
    have alone : [(decide (mark = .target), outlineOf text standing node)].filterMap
        (fun head => body.edgeOf? head.1 head.2) = (body.useEdge? text ⟨mark, standing, node⟩).toList := by
      cases gives : body.useEdge? text ⟨mark, standing, node⟩ <;> simp [whole, gives]
    cases role : node.role
    case group | cast | nonNull => exact absurd (by rw [role]; decide) isWrapper
    case method | shorthand =>
      -- As an entry it is lowered to a property over what it is by itself, and neither gives an edge.
      have inner : body.edgeOf? false (outlineOf text .alone node) = body.useEdge? text ⟨.free, .alone, node⟩ :=
        edgeOf?_outlineOf body .free isWrapper
      have none (mark : Mark) (standing : Standing) : body.useEdge? text ⟨mark, standing, node⟩ = none :=
        useEdge?_of_role_ne (by simp [role]) (by simp [role])
      rw [none] at whole inner ⊢
      dsimp only
      split <;> simp [whole, inner]
    all_goals exact alone

/-- A function of a script in its syntax tree stands over the outline of its body. -/
theorem outlineAt_body {tree : SyntaxTree} {roots : List Nat} (forest : Forest tree.nodes roots) {function : Cst}
    {place start : Nat} {parameters : List String} (isFunction : tree.shape? place = some (.function parameters start))
    (isOne : function.role = .function ∨ function.role = .method)
    (lowered : outlineAt tree.nodes place = outlineOf text .alone function) :
    parameters = parameterNames text function ∧
      outlineAt tree.nodes start =
        ((part? function .body).map fun body => outlineOf text .alone body.1).getD
          (.mk (.other []) function.span []) := by
  obtain ⟨⟨shape, span⟩, stored, rfl⟩ := Option.map_eq_some_iff.mp isFunction
  rw [outlineAt_eq forest stored, outlineOf_function text isOne, functionOutline] at lowered
  -- A function has one child, which is its body or what stands in for it.
  cases found : part? function .body <;> simp_all [Shape.bare, Shape.children]

/-- The edges from the body of a function are those that the uses in it give. -/
theorem edges_eq_uses {root function : Cst} {tags : List (String × Span)} (body : Body) {place start : Nat}
    {parameters : List String}
    (isFunction : (ofScript text root tags).shape? place = some (.function parameters start))
    (isOne : function.role = .function ∨ function.role = .method)
    (lowered : outlineAt (ofScript text root tags).nodes place = outlineOf text .alone function) :
    body.edges (ofScript text root tags) start = (bodyUses text function).filterMap (body.useEdge? text) := by
  have forest := ofScript_forest text root tags
  -- The body is a place of the tree, below which everything lies in pre-order.
  have inside : start < (ofScript text root tags).nodes.size :=
    ((isForest_of_forest forest).child_lt place _ isFunction start (List.mem_singleton_self start)).2
  have shown := (outlineAt_body forest isFunction isOne lowered).2
  generalize ofScript text root tags = tree at forest inside shown
  calc body.edges tree start
      _ = (preorder tree.nodes start).filterMap
          (body.edgeAt? tree (tree.targets (preorder tree.nodes start))) := Body.edges_eq_twoPass forest inside
      _ = ((outlineAt tree.nodes start).marked false).filterMap fun head => body.edgeOf? head.1 head.2 := by
        rw [← map_marked_preorder forest inside, List.filterMap_map]
        refine List.filterMap_congr fun place member => ?_
        have within : place < tree.nodes.size := Nat.lt_of_le_of_lt (le_of_mem_preorder forest member) inside
        exact (Body.edgeOf?_outlineAt forest within _).symm
      _ = (bodyUses text function).filterMap (body.useEdge? text) := by
        rw [shown, bodyUses]
        cases part? function .body with
        | none => rfl
        | some inner =>
          rw [Option.map_some, Option.getD_some, marked_false_outlineOf, List.filterMap_flatMap, Option.toList_some,
            List.flatMap_singleton, List.filterMap_eq_flatMap_toList]
          exact List.flatMap_congr fun use _ => filterMap_edgeOf?_heads body use

/-- A getter or an action that is a function gives the edges of the uses in the body of a function of the script. -/
theorem memberEdges_uses {root : Cst} {tags : List (String × Span)} (members : Members) (kind : SymbolKind)
    {entry : String × Nat} {parameters : List String} {start : Nat}
    (isFunction : (ofScript text root tags).shape? entry.2 = some (.function parameters start)) :
    ∃ function ∈ kept .alone root, (function.role = .function ∨ function.role = .method) ∧
      outlineAt (ofScript text root tags).nodes entry.2 = outlineOf text .alone function ∧
      memberEdges (ofScript text root tags) members kind entry = (bodyUses text function).filterMap
        ((bodyOf members kind entry.1 (parameterNames text function)).useEdge? text) := by
  -- The function in the tree comes from one that the script keeps, with the same parameters.
  obtain ⟨function, isKept, isOne, lowered⟩ := exists_function isFunction
  obtain ⟨rfl, _⟩ := outlineAt_body (ofScript_forest text root tags) isFunction isOne lowered
  refine ⟨function, isKept, isOne, lowered, ?_⟩
  rw [memberEdges_function isFunction, edges_eq_uses _ isFunction isOne lowered]

end Store

end LayerAudit
