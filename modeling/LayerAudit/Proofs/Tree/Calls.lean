import LayerAudit.Proofs.Tree.Uses

/-!
Which calls of a script a walk over its syntax tree meets: those in parts that lowering keeps, in their order, each with
its own range and the name of its callee.
-/

namespace LayerAudit

open Script SyntaxTree

namespace Tree

/-- The name that a node is lowered to, if it is one. -/
def nameOf? (text : String) (standing : Standing) (node : Cst) : Option String :=
  match node.role with
  | .group | .cast | .nonNull =>
    -- A name in parentheses or with a type is the name inside.
    match namedParts node with
    | inner :: _ => nameOf? text .alone inner.1
    | [] => none
  | .identifier | .propertyName => some (textOf text node.span)
  | .shorthand => if standing = .alone then some (textOf text node.span) else none
  | _ => none
termination_by sizeOf node
decreasing_by exact inner.2

/-- A call as a walk tells it: the bytes that it covers, and the name of its callee if that is a name. -/
structure Called where
  span : Span
  callee : Option String
  deriving DecidableEq, Repr

/-- A call of a script as a walk should tell it. -/
def called (text : String) (call : Cst) : Called :=
  ⟨call.span, (part? call .function).bind fun callee => nameOf? text .alone callee.1⟩

/-! ### What the nodes of a tree tell -/

/-- The name at a place, if the node there is one. -/
def nameAt? (nodes : Array TreeNode) (place : Nat) : Option String :=
  match nodes[place]? with
  | some ⟨.identifier name, _⟩ => some name
  | _ => none

/-- The call at a place, if the node there is one. -/
def calledAt? (nodes : Array TreeNode) (place : Nat) : Option Called :=
  match nodes[place]? with
  | some ⟨.call callee _, span⟩ => some ⟨span, nameAt? nodes callee⟩
  | _ => none

end Tree

namespace Outline

/-- The name that an outline is, if it is one. -/
def name? : Outline → Option String
  | .mk (.identifier name) _ _ => some name
  | _ => none

/-- The call that an outline is, if it is one. The first node below a call is its callee. -/
def called? : Outline → Option Tree.Called
  | .mk (.call _ _) span below => some ⟨span, below.head?.bind name?⟩
  | _ => none

variable {outline : Outline}

/-- A plain node is no name. -/
theorem name?_of_isPlain (plain : outline.shape.isPlain = true) : outline.name? = none := by
  obtain ⟨shape, span, below⟩ := outline
  cases shape <;> first | rfl | cases plain

/-- A plain node is no call. -/
theorem called?_of_isPlain (plain : outline.shape.isPlain = true) : outline.called? = none := by
  obtain ⟨shape, span, below⟩ := outline
  cases shape <;> first | rfl | cases plain

end Outline

namespace Tree

variable {nodes : Array TreeNode} {roots : List Nat} {text : String}

/-- The name at a place is that of the outline there. -/
theorem name?_outlineAt (place : Nat) : (outlineAt nodes place).name? = nameAt? nodes place := by
  rw [outlineAt, nameAt?]
  -- Only the shape is looked at, which both sides read from the same node.
  cases nodes[place]? with
  | none => rfl
  | some node =>
    obtain ⟨shape, span⟩ := node
    cases shape <;> rfl

/-- In a forest the call at a place is that of the outline there. -/
theorem called?_outlineAt (forest : Forest nodes roots) {place : Nat} (inside : place < nodes.size) :
    (outlineAt nodes place).called? = calledAt? nodes place := by
  -- The outline there is made of the node that is stored there.
  have stored : nodes[place]? = some nodes[place] := Array.getElem?_eq_getElem inside
  rw [outlineAt_eq forest stored, calledAt?, stored]
  obtain ⟨shape, span⟩ := nodes[place]
  cases shape with
  -- The name of a call is that of its callee, which lies directly below it.
  | call callee arguments => exact congrArg (fun name => some (Called.mk span name)) (name?_outlineAt callee)
  | _ => rfl

/-- What a node is lowered to is the name that it should be. -/
theorem name?_outlineOf (standing : Standing) (node : Cst) :
    (outlineOf text standing node).name? = nameOf? text standing node := by
  -- The induction strips wrappers, which leave no node behind.
  induction size : sizeOf node using Nat.strongRecOn generalizing standing node with
  | _ bound ih =>
    subst size
    by_cases isWrapper : node.role ∈ wrappers
    · rw [outlineOf_wrapper text standing isWrapper, nameOf?]
      rcases mem_wrappers.mp isWrapper with role | role | role
      all_goals
        -- The wrapper is lowered to its first part, whose name is the hypothesis.
        rw [role]
        cases namedParts node with
        | nil => rfl
        | cons inner rest => exact ih _ inner.2 .alone inner.1 rfl
    · have becomes := becomes_outlineOf text node standing isWrapper
      generalize outlineOf text standing node = outline at becomes ⊢
      rw [nameOf?]
      cases becomes with
      -- A shorthand is a name only where it stands by itself.
      | name isName aloud =>
        rw [speaks] at aloud
        cases role : node.role
        case identifier | propertyName => rfl
        case shorthand =>
          rw [role] at aloud
          rw [if_pos (of_decide_eq_true aloud)]
          rfl
        all_goals exact absurd (role ▸ isName) (by decide)
      | this isThis =>
        rw [isThis]
        rfl
      | member isMember =>
        rw [isMember]
        rfl
      | call isCall =>
        -- Of a call the role is all that matters here, since a call is no name.
        obtain ⟨role, _⟩ : node.role = .call ∧ node.callsImportWord = false := by simpa [Cst.isCall] using isCall
        rw [role]
        rfl
      | function isFunction =>
        rw [outlineOf_function text isFunction]
        rcases isFunction with role | role
        all_goals
          rw [role]
          rfl
      | plain quiet outline isPlain =>
        -- A plain node is no name, and the roles that would give one speak.
        rw [Outline.name?_of_isPlain isPlain]
        rw [speaks] at quiet
        cases role : node.role
        case group | cast | nonNull => exact absurd (by rw [role]; decide) isWrapper
        case shorthand =>
          rw [role] at quiet
          rw [if_neg (of_decide_eq_false quiet)]
        case identifier | propertyName => simp [role] at quiet
        all_goals rfl

/-- A node that is no wrapper is lowered to a call if it is one. -/
theorem called?_outlineOf (text : String) (standing : Standing) {node : Cst} (isOther : node.role ∉ wrappers) :
    (outlineOf text standing node).called? = if node.isCall then some (called text node) else none := by
  -- By what the node becomes: a call, or one of the forms of which none is a call.
  have becomes := becomes_outlineOf text node standing isOther
  generalize outlineOf text standing node = outline at becomes ⊢
  -- Whatever is no call tells of none.
  have silent (other : node.role ≠ .call) : (if node.isCall then some (called text node) else none) = none := by
    simp [Cst.isCall, other]
  cases becomes with
  | name isName aloud =>
    rw [silent fun role => absurd (role ▸ isName) (by decide)]
    rfl
  | this isThis =>
    rw [silent (by simp [isThis])]
    rfl
  | member isMember =>
    rw [silent (by simp [isMember])]
    rfl
  | call isCall arguments =>
    rw [isCall, called, Outline.called?]
    -- Without a callee there is no name, and with one it is the callee's.
    cases part? node .function with
    | none => rfl
    | some callee => exact congrArg (fun name => some (Called.mk node.span name)) (name?_outlineOf .alone callee.1)
  | function isFunction =>
    rw [outlineOf_function text isFunction, silent]
    · rfl
    · rcases isFunction with role | role <;> simp [role]
  | plain quiet outline isPlain =>
    simp [Outline.called?_of_isPlain isPlain, isCall_of_quiet quiet]

/-- Of what a use is lowered to only a call is a call. -/
theorem filterMap_called?_heads (use : Use) :
    (use.heads text).filterMap (fun head => head.2.called?) =
      ([use.node].filter Cst.isCall).map (called text) := by
  -- A use is told by its node. A wrapper is lowered to what is inside, which is told by a use of its own.
  obtain ⟨mark, standing, node⟩ := use
  rw [Use.filterMap_heads text _ fun _ _ => rfl, Use.own, List.filter_singleton]
  cases role : node.role
  case group | cast | nonNull =>
    have isOther : node.isCall = false := by simp [Cst.isCall, role]
    rw [isOther]
    rfl
  all_goals
    have same (standing : Standing) :
        (outlineOf text standing node).called? = if node.isCall then some (called text node) else none :=
      called?_outlineOf text standing (by rw [role]; decide)
  case call => cases isCall : node.isCall <;> simp [same, isCall]
  all_goals
    have isOther : node.isCall = false := by simp [Cst.isCall, role]
    simp only [isOther, Bool.false_eq_true, if_false] at same
    rw [isOther]
  case method | shorthand => cases standing <;> simp [same]
  all_goals simp [same]

/-! ### Walks over scripts -/

/-- A walk over a script tells the calls that are lowered, in their order, and no others. -/
theorem walk_calls (text : String) (root : Cst) (tags : List (String × Span)) :
    ((ofScript text root tags).walk (ofScript text root tags).program).filterMap
        (calledAt? (ofScript text root tags).nodes) =
      (keptCalls .alone root).map (called text) := by
  -- The tree is a forest with one root, so that a walk from there meets all of it in pre-order.
  have forest := ofScript_forest text root tags
  have inside := forest.root_lt (List.mem_cons_self ..)
  have told : ∀ place ∈ preorder (ofScript text root tags).nodes (ofScript text root tags).program,
      calledAt? (ofScript text root tags).nodes place =
        (outlineAt (ofScript text root tags).nodes place).called? := fun place member =>
    (called?_outlineAt forest (Nat.lt_of_le_of_lt (le_of_mem_preorder forest member) inside)).symm
  rw [walk_eq_preorder forest inside, List.filterMap_congr told, ← Function.comp_def, ← List.filterMap_map,
    map_outlineAt_preorder forest inside, outlineAt_program]
  -- The calls are those of the uses, and these are the nodes that are kept.
  calc ((outlineOf text .alone root).marked false |>.map Prod.snd).filterMap Outline.called?
      _ = (uses text .free .alone root).flatMap fun use => ([use.node].filter Cst.isCall).map (called text) := by
        rw [marked_false_outlineOf, List.filterMap_map, List.filterMap_flatMap]
        exact List.flatMap_congr fun use _ => filterMap_called?_heads use
      _ = (((uses text .free .alone root).map Use.node).filter Cst.isCall).map (called text) := by
        rw [← List.map_flatMap, ← List.filter_flatMap, ← List.map_eq_flatMap]
      _ = (keptCalls .alone root).map (called text) := by rw [map_node_uses, keptCalls]

end Tree

end LayerAudit
