import LayerAudit.Proofs.Tree.Kept

/-!
What a script is lowered to, apart from where it is laid down. An outline holds what the nodes at and below a place are,
without their places. The outline of a lowered node depends on the node alone, and on nothing that was laid down before
or behind it.
-/

namespace LayerAudit

open Script SyntaxTree

/-! ### Outlines -/

/-- What a node is, without the places of its children. -/
def Shape.bare : Shape → Shape
  | .program _ => .program []
  | .exportDefault _ => .exportDefault 0
  | .declarator name value => .declarator name (value.map fun _ => 0)
  | .call _ _ => .call 0 []
  | .object _ => .object []
  | .property key _ => .property key 0
  | .array _ => .array []
  | .function parameters _ => .function parameters 0
  | .returned argument => .returned (argument.map fun _ => 0)
  | .assignment _ _ => .assignment 0 0
  | .update _ => .update 0
  | .member _ name => .member 0 name
  | .template _ => .template []
  | .other _ => .other []
  | leaf => leaf

/-- A node that is neither a name, the word for the receiver, a member, a call nor a function. -/
def Shape.isPlain : Shape → Bool
  | .identifier _ | .this | .member _ _ | .call _ _ | .function _ _ => false
  | _ => true

/-- A node with all that lies below it, wherever that is. -/
inductive Outline
  | mk (shape : Shape) (span : Span) (below : List Outline)
  deriving Repr, Inhabited

/-- What the node of an outline is. -/
def Outline.shape : Outline → Shape
  | .mk shape _ _ => shape

namespace Tree

/-- The outline of what lies at and below a place. Nothing lies below a node that does not come before it. -/
def outlineAt (nodes : Array TreeNode) (place : Nat) : Outline :=
  let node := nodes[place]?.getD ⟨.other [], ⟨0, 0⟩⟩
  .mk node.shape.bare node.span
    (node.shape.children.map fun child => if _below : child < place then outlineAt nodes child else default)
termination_by place

/-! ### Outlines of scripts -/

section

variable (text : String) (node : Cst)

/-- The outline of a function over that of its body, if it has one. -/
def functionOutline (body : List Outline) : Outline :=
  .mk (.function (parameterNames text node) 0) node.span
    (if body.isEmpty then [.mk (.other []) node.span []] else body)

/-- The outline of a node, given those of the parts that are lowered with it. -/
def outlineOver (standing : Standing) (below : List Outline) : Outline :=
  let leaf (shape : Shape) : Outline := .mk shape node.span []
  let above (shape : Shape) : Outline := .mk shape node.span below
  let name : Shape := .identifier (textOf text node.span)
  match node.role with
  -- A wrapper leaves nothing behind.
  | .group | .cast | .nonNull => below.headD (leaf (.other []))
  -- The named parts stand below a program, whatever they are.
  | .program => above (.program [])
  -- Imports are read off the node, and nothing of them is laid down below it.
  | .importStatement => leaf (importShape text node)
  | .exportStatement =>
    match node.child? .source, part? node .value with
    -- What is exported again from another file is imported from there.
    | some source, _ => leaf (.staticImport (unquote (textOf text source.span)) none [])
    | none, some _ => above (.exportDefault 0)
    | none, none => above (.other [])
  | .call =>
    if node.callsImportWord then
      let first := (node.child? .arguments).bind fun arguments => arguments.namedChildren.head?
      leaf (.dynamicImport ((first.filter (·.role == .string)).map fun a => unquote (textOf text a.span)))
    else
      -- Something stands in for the callee where none is found.
      -- Below the callee come the arguments, in the order in which they are kept.
      .mk (.call 0 []) node.span
        (if (part? node .function).isSome then below else leaf (.other []) :: below)
  | .object => above (.object [])
  | .array => above (.array [])
  | .identifier | .propertyName => leaf name
  | .shorthand =>
    -- By itself a shorthand is a name, and as an entry it is a property over that name.
    match standing with
    | .alone => leaf name
    | .entry => .mk (.property (some (textOf text node.span)) 0) node.span [leaf name]
  | .string => leaf (.string (unquote (textOf text node.span)))
  | .templateString =>
    -- A template without holes is a text.
    if node.namedChildren.any (·.role == .hole) then above (.other [])
    else leaf (.string (unquote (textOf text node.span)))
  | .function => functionOutline text node below
  | .method =>
    match standing with
    | .alone => functionOutline text node below
    | .entry =>
      .mk (.property ((node.child? .name).bind (keyName text)) 0) node.span [functionOutline text node below]
  -- What is returned is the first part, if there is one.
  | .returnStatement => above (.returned (below.head?.map fun _ => 0))
  | .assignment =>
    match part? node .left, part? node .right with
    -- With one side missing the node is nothing in particular.
    | some _, some _ => above (.assignment 0 0)
    | _, _ => above (.other [])
  | .update => if (part? node .argument).isSome then above (.update 0) else leaf (.other [])
  | .member =>
    match part? node .object, node.child? .property with
    | some _, some property => above (.member 0 (textOf text property.span))
    | _, _ => above (.other [])
  | .this => leaf .this
  | .declarator =>
    -- A pattern in place of the name leaves no name.
    above (.declarator (((node.child? .name).filter (·.role == .identifier)).map fun n => textOf text n.span)
      (below.head?.map fun _ => 0))
  | .pair =>
    match standing with
    | .alone => above (.other [])
    | .entry =>
      .mk (.property ((node.child? .key).bind (keyName text)) 0) node.span
        -- A property always has a value, so that something stands in for a missing one.
        (if below.isEmpty then [leaf (.other [])] else below)
  | _ => above (.other [])

end

/-- The outline that a node of a script is lowered to. -/
def outlineOf (text : String) (standing : Standing) (node : Cst) : Outline :=
  outlineOver text node standing
    ((keptParts standing node).map fun part => outlineOf text (standingBelow node) part.1)
termination_by sizeOf node
decreasing_by exact part.2

/-! ### What becomes of a node -/

/-- The roles of nodes that leave nothing behind but what they stand around. -/
def wrappers : List Role := [.group, .cast, .nonNull]

/-- There are three kinds of wrappers. -/
theorem mem_wrappers {role : Role} : role ∈ wrappers ↔ role = .group ∨ role = .cast ∨ role = .nonNull := by
  simp [wrappers]

/-- The node speaks: it is lowered to a name, the word for the receiver, a member, a call or a function. -/
def speaks (standing : Standing) (node : Cst) : Bool :=
  match node.role with
  | .identifier | .propertyName | .this | .function => true
  -- As entries these are lowered to properties.
  | .shorthand | .method => standing = .alone
  | .member => (part? node .object).isSome && (node.child? .property).isSome
  | .call => !node.callsImportWord
  | _ => false

/-- A node without the wrappers around it. -/
def core (node : Cst) : Cst :=
  match node.role with
  | .group | .cast | .nonNull =>
    match namedParts node with
    | inner :: _ => core inner.1
    | [] => node
  | _ => node
termination_by sizeOf node
decreasing_by exact inner.2

section

variable (text : String) {node : Cst}

/-- A wrapper is lowered to what its first named part is lowered to. -/
theorem outlineOf_wrapper (standing : Standing) (isWrapper : node.role ∈ wrappers) :
    outlineOf text standing node =
      match namedParts node with
      | inner :: _ => outlineOf text .alone inner.1
      | [] => .mk (.other []) node.span [] := by
  -- No wrapper is an object, so that its part stands by itself.
  have below : standingBelow node = .alone := by
    rw [standingBelow, if_neg fun isObject => absurd (isObject ▸ isWrapper) (by decide)]
  rw [outlineOf, outlineOver.eq_def, keptParts.eq_def, below]
  rcases mem_wrappers.mp isWrapper with role | role | role
  all_goals
    rw [role]
    cases namedParts node <;> rfl

/-- A wrapper around something is taken away. -/
theorem core_wrapper (isWrapper : node.role ∈ wrappers) :
    core node =
      match namedParts node with
      | inner :: _ => core inner.1
      | [] => node := by
  rw [core]
  rcases mem_wrappers.mp isWrapper with role | role | role
  all_goals rw [role]

/-- Any other node is left as it is. -/
theorem core_other (isOther : node.role ∉ wrappers) : core node = node := by
  rw [core]
  cases role : node.role
  case group | cast | nonNull => exact absurd (by rw [role]; decide) isOther
  all_goals rfl

/-- A node is lowered as without the wrappers around it. Only what stands around nothing is still a wrapper then, and
is lowered to nothing in particular. -/
theorem outlineOf_core (node : Cst) :
    outlineOf text .alone node = outlineOf text .alone (core node) ∧
      ((core node).role ∈ wrappers →
        outlineOf text .alone (core node) = .mk (.other []) (core node).span []) := by
  -- The induction peels off one wrapper at a time, and every named part is smaller than its node.
  induction size : sizeOf node using Nat.strongRecOn generalizing node with
  | _ bound ih =>
    subst size
    by_cases isWrapper : node.role ∈ wrappers
    · have lowered := outlineOf_wrapper text .alone isWrapper
      have unwrapped := core_wrapper isWrapper
      cases named : namedParts node with
      -- A wrapper around nothing stays a wrapper.
      | nil =>
        rw [named] at lowered unwrapped
        rw [unwrapped]
        exact ⟨rfl, fun _ => lowered⟩
      | cons inner rest =>
        rw [named] at lowered unwrapped
        rw [unwrapped, lowered]
        exact ih _ inner.2 inner.1 rfl
    · -- Any other node is its own core.
      rw [core_other isWrapper]
      exact ⟨rfl, fun wraps => absurd wraps isWrapper⟩

/-- Only pairs, shorthands and methods are lowered to something else as entries of objects. -/
theorem outlineOf_entry (isPair : node.role ≠ .pair) (isShorthand : node.role ≠ .shorthand)
    (isMethod : node.role ≠ .method) : outlineOf text .entry node = outlineOf text .alone node := by
  -- The three excluded roles are the only ones in which the standing is asked for.
  rw [outlineOf, outlineOf, outlineOver, outlineOver, keptParts, keptParts]
  cases role : node.role
  case pair => exact absurd role isPair
  case shorthand => exact absurd role isShorthand
  case method => exact absurd role isMethod
  all_goals rfl

/-- A function is lowered to one over its body. -/
theorem outlineOf_function (isFunction : node.role = .function ∨ node.role = .method) :
    outlineOf text .alone node =
      functionOutline text node ((part? node .body).toList.map fun part => outlineOf text .alone part.1) := by
  rcases isFunction with role | role
  all_goals rw [outlineOf, outlineOver, keptParts, standingBelow, role]; rfl

/-- A node that is no wrapper is lowered to a plain one unless it speaks. -/
theorem isPlain_outlineOf (standing : Standing) (isOther : node.role ∉ wrappers)
    (quiet : speaks standing node = false) : (outlineOf text standing node).shape.isPlain = true := by
  -- For each quiet role both outcomes of every choice in lowering are plain shapes.
  rw [outlineOf, outlineOver.eq_def]
  rw [speaks] at quiet
  cases role : node.role
  all_goals
    rw [role] at quiet
    dsimp only at quiet ⊢
  case group | cast | nonNull => exact absurd (by rw [role]; decide) isOther
  -- These four always speak.
  case identifier | propertyName | this | function => cases quiet
  case importStatement =>
    unfold importShape
    cases node.child? .source <;> rfl
  case exportStatement =>
    cases node.child? .source with
    | some source => rfl
    | none => cases part? node .value <;> rfl
  -- By themselves these two speak, and as entries they are properties.
  case shorthand | method =>
    cases standing with
    | alone => cases quiet
    | entry => rfl
  case pair => cases standing <;> rfl
  case templateString => cases node.namedChildren.any (·.role == .hole) <;> rfl
  case assignment =>
    cases part? node .left with
    | none => rfl
    | some target => cases part? node .right <;> rfl
  case update => cases part? node .argument <;> rfl
  -- A quiet call is a dynamic import.
  case call =>
    rw [Bool.not_eq_false'] at quiet
    rw [quiet]
    rfl
  case member =>
    cases isObject : part? node .object with
    | none => rfl
    | some object =>
      cases isProperty : node.child? .property with
      | none => rfl
      -- A member with an object and a property speaks.
      | some property => simp [isObject, isProperty] at quiet
  all_goals rfl

/-- A call speaks. -/
theorem isCall_of_quiet {standing : Standing} (quiet : speaks standing node = false) : node.isCall = false := by
  cases role : node.role
  case call => simpa [speaks, Cst.isCall, role] using quiet
  all_goals simp [Cst.isCall, role]

variable (node)

/-- What a node that is no wrapper is lowered to. -/
inductive Becomes (standing : Standing) : Outline → Prop
  | name (isName : node.role ∈ [.identifier, .propertyName, .shorthand]) (isAlone : speaks standing node = true) :
    Becomes standing (.mk (.identifier (textOf text node.span)) node.span [])
  | this (isThis : node.role = .this) : Becomes standing (.mk .this node.span [])
  | member {object : Part node} {property : Cst} (isMember : node.role = .member)
      (isObject : part? node .object = some object) (isProperty : node.child? .property = some property) :
    Becomes standing (.mk (.member 0 (textOf text property.span)) node.span [outlineOf text .alone object.1])
  | call (isCall : node.isCall = true) (arguments : List Outline) :
    Becomes standing (.mk (.call 0 []) node.span
      (((part? node .function).map fun callee => outlineOf text .alone callee.1).getD (.mk (.other []) node.span []) ::
        arguments))
  | function (isFunction : node.role = .function ∨ node.role = .method) : Becomes standing (outlineOf text .alone node)
  | plain (quiet : speaks standing node = false) (outline : Outline) (isPlain : outline.shape.isPlain = true) :
    Becomes standing outline

/-- A node that is no wrapper is lowered to one of these. -/
theorem becomes_outlineOf (standing : Standing) (isOther : node.role ∉ wrappers) :
    Becomes text node standing (outlineOf text standing node) := by
  cases aloud : speaks standing node with
  | false => exact .plain aloud _ (isPlain_outlineOf text standing isOther aloud)
  | true =>
    have speaking := aloud
    rw [speaks] at speaking
    -- The node speaks, so that its role is one of eight, and each has its own case.
    cases role : node.role
    all_goals
      rw [role] at speaking
      dsimp only at speaking
    case identifier | propertyName =>
      rw [outlineOf, outlineOver.eq_def, role]
      exact .name (by rw [role]; decide) aloud
    -- A shorthand speaks by itself only.
    case shorthand =>
      rw [of_decide_eq_true speaking] at aloud ⊢
      rw [outlineOf, outlineOver, role]
      exact .name (by rw [role]; decide) aloud
    case this =>
      rw [outlineOf, outlineOver.eq_def, role]
      exact .this role
    case function =>
      cases standing with
      | alone => exact .function (.inl role)
      -- A function is the same as an entry and by itself.
      | entry =>
        rw [outlineOf_entry text (by simp [role]) (by simp [role]) (by simp [role])]
        exact .function (.inl role)
    case method =>
      rw [of_decide_eq_true speaking]
      exact .function (.inr role)
    case member =>
      obtain ⟨hasObject, hasProperty⟩ := Bool.and_eq_true_iff.mp speaking
      obtain ⟨object, isObject⟩ := Option.isSome_iff_exists.mp hasObject
      obtain ⟨property, isProperty⟩ := Option.isSome_iff_exists.mp hasProperty
      rw [outlineOf, outlineOver.eq_def, keptParts.eq_def, standingBelow, role, isObject, isProperty]
      exact .member role isObject isProperty
    case call =>
      have notImport : node.callsImportWord = false := by simpa using speaking
      rw [outlineOf, outlineOver.eq_def, keptParts.eq_def, standingBelow, role, notImport]
      have isCall : node.isCall = true := by simp [Cst.isCall, role, notImport]
      have lowered (arguments : List Outline) := @Becomes.call text node standing isCall arguments
      -- Without a function the filler is the callee of the case.
      cases found : part? node .function <;> exact (found ▸ lowered) _
    all_goals cases speaking

end

/-! ### Outlines in an array -/

variable {before nodes after : Array TreeNode} {roots : List Nat} {shape : Shape} {span : Span}

/-- In a forest the outline of a place is that of its node over those of the children. -/
theorem outlineAt_eq (forest : Forest nodes roots) {place : Nat} {node : TreeNode} (found : nodes[place]? = some node) :
    outlineAt nodes place = .mk node.shape.bare node.span (node.shape.children.map (outlineAt nodes)) := by
  have children : childrenAt nodes place = node.shape.children := by
    rw [childrenAt, found, Option.map_some, Option.getD_some]
  rw [outlineAt, found]
  -- The test in the definition never fails in a forest.
  refine congrArg _ (List.map_congr_left fun child member => ?_)
  rw [dif_pos (forest.descending place child (children ▸ member))]

/-- Where all nodes are kept, outlines stay as they were. -/
theorem outlineAt_kept
    (kept : ∀ (place : Nat) (node : TreeNode), nodes[place]? = some node → after[place]? = some node) {place : Nat}
    (inside : place < nodes.size) : outlineAt after place = outlineAt nodes place := by
  -- The induction goes down to the children, which come before their node.
  induction place using Nat.strongRecOn with
  | _ place ih =>
    have stored : nodes[place]? = some nodes[place] := Array.getElem?_eq_getElem inside
    -- At each place both sides read the same node, and then the same test for the children.
    rw [outlineAt, outlineAt, kept place _ stored, stored]
    refine congrArg _ (List.map_congr_left fun child _ => ?_)
    split
    · rename_i below
      exact ih child below (Nat.lt_trans below inside)
    · rfl

/-- A node behind all others stands over the outlines of its children, which were roots. -/
theorem outlineAt_push (forest : Forest nodes (shape.children ++ roots)) :
    outlineAt (nodes.push ⟨shape, span⟩) nodes.size =
      .mk shape.bare span (shape.children.map (outlineAt nodes)) := by
  have pushed : Forest (nodes.push ⟨shape, span⟩) (nodes.size :: roots) := forest.push
  -- The children were roots before, so that the new node behind them changes nothing that they show.
  rw [outlineAt_eq pushed Array.getElem?_push_size]
  refine congrArg _ (List.map_congr_left fun child isChild => ?_)
  exact outlineAt_kept (fun _ _ => getElem?_push_of_some) (forest.root_lt (List.mem_append_left _ isChild))

/-! ### What laying down shows -/

/-- Behind some nodes others were laid down, and the places without a parent show some outlines. -/
structure Showing (before : Array TreeNode) (places : List Nat) (outlines : List Outline) (after : Array TreeNode) :
    Prop where
  laid : Laid False ⟨0, 0⟩ before places after
  shown : ∀ roots, Forest before roots → places.map (outlineAt after) = outlines

/-- Work lays down one tree with an outline. -/
def Shows (work : Laying Nat) (outline : Outline) : Prop :=
  ∀ before, Showing before [(work before).1] [outline] (work before).2

/-- Where some places without a parent show outlines, work goes on, leaves others without one, and these show other
outlines. -/
def Proceeds {α : Type} (before : Array TreeNode) (held : List Nat) (seen : List Outline) (work : Laying α)
    (holds : α → List Nat) (outlines : List Outline) : Prop :=
  ∀ nodes, Showing before held seen nodes → Showing before (holds (work nodes).1) outlines (work nodes).2

variable {held places : List Nat} {seen outlines : List Outline} {α β : Type}

namespace Showing

/-- No work shows nothing. -/
theorem refl (before : Array TreeNode) : Showing before [] [] before where
  laid := .refl False ⟨0, 0⟩ before
  shown _ _ := rfl

/-- One tree can be laid down after another. -/
theorem trans (first : Showing before held seen nodes) (second : Showing nodes places outlines after) :
    Showing before (held ++ places) (seen ++ outlines) after where
  laid := first.laid.trans second.laid
  shown roots forest := by
    have middle : Forest nodes (held ++ roots) := first.laid.forest roots forest
    -- The second work keeps the nodes of the first one, so that these show what they showed.
    have older : held.map (outlineAt after) = held.map (outlineAt nodes) :=
      List.map_congr_left fun place isHeld =>
        outlineAt_kept second.laid.kept (middle.root_lt (List.mem_append_left _ isHeld))
    rw [List.map_append, older, first.shown roots forest, second.shown _ middle]

/-- A node takes all places without a parent as its children, and stands over their outlines. -/
theorem push (showing : Showing before held seen nodes) (children : shape.children = held) :
    Showing before [nodes.size] [.mk shape.bare span seen] (nodes.push ⟨shape, span⟩) where
  laid := by
    -- The ranges do not matter here.
    have laid : Laid False span before held nodes := showing.laid.widen False.elim
    exact (laid.push children).widen False.elim
  shown roots forest := by
    -- The children of the new node are the places that were held.
    have earlier : Forest nodes (shape.children ++ roots) := children ▸ showing.laid.forest roots forest
    rw [List.map_singleton, outlineAt_push earlier, children, showing.shown roots forest]

end Showing

/-- Work that goes on from no place without a parent and leaves one lays down a tree. -/
theorem shows_of_proceeds {work : Laying Nat} {outline : Outline}
    (proceeds : ∀ before, Proceeds before [] [] work (fun place => [place]) [outline]) : Shows work outline :=
  fun before => proceeds before before (.refl before)

namespace Proceeds

/-- Some work is followed by other work. -/
theorem bind {work : Laying α} {next : α → Laying β} {middle : α → List Nat} {meanwhile : List Outline}
    {holds : β → List Nat} (first : Proceeds before held seen work middle meanwhile)
    (second : ∀ result, Proceeds before (middle result) meanwhile (next result) holds outlines) :
    Proceeds before held seen (work >>= next) holds outlines :=
  fun nodes showing => second (work nodes).1 (work nodes).2 (first nodes showing)

/-- A result without work. -/
theorem pure (result : α) {holds : α → List Nat} (same : holds result = held) :
    Proceeds before held seen (Pure.pure result) holds seen := by
  intro nodes showing
  exact same ▸ showing

/-- A node is laid down over the places without a parent. -/
theorem lay (children : shape.children = held) :
    Proceeds before held seen (Tree.lay shape span) (fun place => [place]) [.mk shape.bare span seen] :=
  fun _ showing => showing.push children

/-- A tree is laid down beside others. -/
theorem tree {work : Laying Nat} {outline : Outline} (lays : Shows work outline) :
    Proceeds before held seen work (fun place => held ++ [place]) (seen ++ [outline]) :=
  fun nodes showing => showing.trans (lays nodes)

/-- Trees are laid down one after another beside others. -/
theorem trees {work : α → Laying Nat} {outline : α → Outline} {items : List α}
    (lays : ∀ item ∈ items, Shows (work item) (outline item)) :
    Proceeds before held seen (items.mapM work) (fun places => held ++ places) (seen ++ items.map outline) := by
  induction items generalizing held seen with
  | nil =>
    rw [List.map_nil, List.append_nil]
    exact pure [] (List.append_nil held)
  | cons item rest ih =>
    -- The first tree joins those that wait, and the rest is laid down beside it.
    rw [List.mapM_cons, List.map_cons, ← List.singleton_append, ← List.append_assoc]
    refine (tree (lays item (List.mem_cons_self ..))).bind fun place => ?_
    refine (ih fun other member => lays other (List.mem_cons_of_mem _ member)).bind fun places => ?_
    exact pure (place :: places) (by simp)

end Proceeds

/-- A node without children stands alone. -/
theorem shows_leaf (span : Span) (leaf : shape.children = []) : Shows (lay shape span) (.mk shape.bare span []) :=
  shows_of_proceeds fun _ => Proceeds.lay leaf

/-- A node over one tree stands over its outline. -/
theorem shows_over {shape : Nat → Shape} {work : Laying Nat} {outline result : Outline} (lays : Shows work outline)
    (children : ∀ place, (shape place).children = [place])
    (same : ∀ place, .mk (shape place).bare span [outline] = result) :
    Shows (work >>= fun place => lay (shape place) span) result :=
  shows_of_proceeds fun _ => (Proceeds.tree lays).bind fun place => same place ▸ Proceeds.lay (children place)

/-- A node over trees stands over their outlines. -/
theorem shows_overAll {shape : List Nat → Shape} {work : α → Laying Nat} {outline : α → Outline} {result : Outline}
    {items : List α} (lays : ∀ item ∈ items, Shows (work item) (outline item))
    (children : ∀ places, (shape places).children = places)
    (same : ∀ places, .mk (shape places).bare span (items.map outline) = result) :
    Shows (items.mapM work >>= fun places => lay (shape places) span) result :=
  shows_of_proceeds fun _ => (Proceeds.trees lays).bind fun places => same places ▸ Proceeds.lay (children places)

/-! ### Lowering -/

section

variable (text : String) (node : Cst)

/-- A node is lowered to its outline. -/
def Draws : Prop := Shows (lower text node) (outlineOf text .alone node)

/-- An entry is lowered to its outline. -/
def DrawsEntry : Prop := Shows (lowerEntry text node) (outlineOf text .entry node)

end

variable {text : String} {node : Cst}

/-- The named parts of a node that stand alone are lowered to their outlines. -/
theorem lowerAll_shows {shape : List Nat → Shape} {result : Outline} {list : List (Part node)}
    (draws : ∀ part ∈ list, Draws text part.1) (children : ∀ places, (shape places).children = places)
    (same : ∀ places,
      .mk (shape places).bare node.span (list.map fun part => outlineOf text .alone part.1) = result) :
    Shows (lowerAll text node list >>= fun places => lay (shape places) node.span) result := by
  rw [lowerAll_eq_mapM]
  exact shows_overAll draws children same

/-- A function stands over its body. -/
theorem lowerFunction_shows (draws : ∀ child ∈ node.children, Draws text child) :
    Shows (lowerFunction text node)
      (functionOutline text node ((part? node .body).toList.map fun part => outlineOf text .alone part.1)) := by
  rw [lowerFunction]
  -- Something stands in for a body that is missing.
  cases found : part? node .body with
  | some body => exact shows_over (draws body.1 (mem_children_of_part? found)) (fun _ => rfl) fun _ => rfl
  | none => exact shows_over (shows_leaf _ rfl) (fun _ => rfl) fun _ => rfl

/-- A call stands over its callee and over its arguments, which lie two levels below it. -/
theorem arguments_proceed {callee : Nat} {seen : Outline}
    (below : ∀ inner : Cst, sizeOf inner < sizeOf node → Draws text inner) :
    Proceeds before [callee] [seen]
      (match part? node .arguments with
        | some arguments => do
          let arguments ← lowerAll text arguments.1 (namedParts arguments.1)
          lay (.call callee arguments) node.span
        | none => do
          let arguments ← pure []
          lay (.call callee arguments) node.span)
      (fun place => [place])
      [.mk (.call 0 []) node.span
        (seen :: ((part? node .arguments).toList.flatMap partsOfPart).map fun part =>
            outlineOf text .alone part.1)] := by
  -- With or without arguments, the callee waits and comes first.
  cases found : part? node .arguments with
  | some arguments =>
    have draws : ∀ part ∈ namedParts arguments.1, Draws text part.1 :=
      fun part _ => below part.1 (Nat.lt_trans part.2 arguments.2)
    have same : ((some arguments).toList.flatMap partsOfPart).map (fun part => outlineOf text .alone part.1) =
        (namedParts arguments.1).map fun part => outlineOf text .alone part.1 := by simp [partsOfPart]
    dsimp only
    rw [lowerAll_eq_mapM, same]
    exact (Proceeds.trees draws).bind fun places => Proceeds.lay rfl
  | none =>
    have children : (Shape.call callee []).children = [callee] := rfl
    exact fun nodes showing => showing.push children

/-- A node is lowered to its outline if the nodes below it are. -/
theorem draws_of_below (below : ∀ inner : Cst, sizeOf inner < sizeOf node → Draws text inner)
    (entries : ∀ inner : Cst, sizeOf inner < sizeOf node → DrawsEntry text inner) : Draws text node := by
  have draws (child : Cst) (member : child ∈ node.children) : Draws text child :=
    below child (sizeOf_lt_of_mem_children member)
  have all : ∀ part ∈ namedParts node, Draws text part.1 :=
    fun part member => draws part.1 (mem_children_of_mem_namedParts member)
  unfold Draws
  -- Each role lays down a leaf, a node over one part or a node over all named parts, and its outline says the same.
  cases role : node.role
  all_goals
    rw [lower, outlineOf, outlineOver, keptParts, standingBelow, role]
    dsimp only
  case function | method => exact lowerFunction_shows draws
  case group | cast | nonNull =>
    -- A wrapper leaves nothing behind.
    cases named : namedParts node with
    | cons inner rest => exact all inner (named ▸ List.mem_cons_self ..)
    | nil => exact shows_leaf _ rfl
  case importStatement =>
    unfold importShape
    cases node.child? .source <;> exact shows_leaf _ rfl
  case exportStatement =>
    -- An export from elsewhere is a leaf, and one of a value stands over the value.
    cases node.child? .source with
    | some source => exact shows_leaf _ rfl
    | none =>
      cases found : part? node .value with
      | some value => exact shows_over (draws value.1 (mem_children_of_part? found)) (fun _ => rfl) fun _ => rfl
      | none => exact lowerAll_shows all (fun _ => rfl) fun _ => rfl
  case call =>
    cases ofImport : node.callsImportWord with
    | true =>
      rw [Cst.callsImportWord] at ofImport
      rw [ofImport]
      exact shows_leaf _ rfl
    | false =>
      rw [Cst.callsImportWord] at ofImport
      rw [ofImport]
      -- The callee waits without a parent until the arguments are laid down.
      refine shows_of_proceeds fun before => ?_
      cases found : part? node .function with
      | some function =>
        refine (Proceeds.tree (draws function.1 (mem_children_of_part? found))).bind fun callee => ?_
        exact arguments_proceed below
      | none =>
        refine (Proceeds.tree (shows_leaf _ rfl)).bind fun callee => ?_
        exact arguments_proceed below
  -- The parts of an object are lowered as entries.
  case object =>
    rw [lowerEntries_eq_mapM]
    exact shows_overAll (fun part member => entries part.1 part.2) (fun _ => rfl) fun _ => rfl
  case templateString =>
    -- Only a template with holes has something below it.
    cases node.namedChildren.any (·.role == .hole) with
    | true => exact lowerAll_shows all (fun _ => rfl) fun _ => rfl
    | false => exact shows_leaf _ rfl
  case returnStatement =>
    cases named : namedParts node with
    | cons argument rest =>
      exact shows_over (all argument (named ▸ List.mem_cons_self ..)) (fun _ => rfl) fun _ => rfl
    | nil => exact shows_leaf _ rfl
  case assignment =>
    cases isTarget : part? node .left with
    | none => exact lowerAll_shows all (fun _ => rfl) fun _ => rfl
    | some target =>
      cases isValue : part? node .right with
      | none => exact lowerAll_shows all (fun _ => rfl) fun _ => rfl
      | some value =>
        -- The target and the value wait without a parent until the assignment is laid down.
        refine shows_of_proceeds fun before => ?_
        refine (Proceeds.tree (draws target.1 (mem_children_of_part? isTarget))).bind fun target => ?_
        refine (Proceeds.tree (draws value.1 (mem_children_of_part? isValue))).bind fun value => ?_
        exact Proceeds.lay rfl
  case update =>
    cases found : part? node .argument with
    | some target => exact shows_over (draws target.1 (mem_children_of_part? found)) (fun _ => rfl) fun _ => rfl
    | none => exact shows_leaf _ rfl
  case member =>
    cases isObject : part? node .object with
    | none => exact lowerAll_shows all (fun _ => rfl) fun _ => rfl
    | some object =>
      cases node.child? .property with
      | none => exact lowerAll_shows all (fun _ => rfl) fun _ => rfl
      | some property =>
        exact shows_over (draws object.1 (mem_children_of_part? isObject)) (fun _ => rfl) fun _ => rfl
  case declarator =>
    cases found : part? node .value with
    | some value => exact shows_over (draws value.1 (mem_children_of_part? found)) (fun _ => rfl) fun _ => rfl
    | none => exact shows_leaf _ rfl
  case identifier | propertyName | shorthand | string | this => exact shows_leaf _ rfl
  all_goals exact lowerAll_shows all (fun _ => rfl) fun _ => rfl

/-- An entry is lowered to its outline if it is so outside of an object, and the nodes below it are. -/
theorem drawsEntry_of_below (own : Draws text node) (draws : ∀ child ∈ node.children, Draws text child) :
    DrawsEntry text node := by
  unfold DrawsEntry
  cases role : node.role
  -- A pair, a shorthand and a method each become a property over one node.
  case pair =>
    rw [lowerEntry, outlineOf, outlineOver, keptParts, standingBelow, role]
    cases found : part? node .value with
    | some value => exact shows_over (draws value.1 (mem_children_of_part? found)) (fun _ => rfl) fun _ => rfl
    | none => exact shows_over (shows_leaf _ rfl) (fun _ => rfl) fun _ => rfl
  case shorthand =>
    rw [lowerEntry, outlineOf, outlineOver, role]
    exact shows_over (shows_leaf _ rfl) (fun _ => rfl) fun _ => rfl
  case method =>
    rw [lowerEntry, outlineOf, outlineOver, keptParts, standingBelow, role]
    exact shows_over (lowerFunction_shows draws) (fun _ => rfl) fun _ => rfl
  -- All other entries are lowered as they are by themselves.
  all_goals
    rw [lowerEntry, role, outlineOf_entry text (by simp [role]) (by simp [role]) (by simp [role])]
    exact own

/-- Every node is lowered to its outline, and so it is as an entry of an object. -/
theorem draws_all (text : String) (node : Cst) : Draws text node ∧ DrawsEntry text node := by
  -- The induction is on the size, since the arguments of a call lie two levels below it.
  induction size : sizeOf node using Nat.strongRecOn generalizing node with
  | _ bound ih =>
    subst size
    have below (inner : Cst) (smaller : sizeOf inner < sizeOf node) := ih (sizeOf inner) smaller inner rfl
    have own : Draws text node :=
      draws_of_below (fun inner smaller => (below inner smaller).1) fun inner smaller => (below inner smaller).2
    exact ⟨own, drawsEntry_of_below own fun child member => (below child (sizeOf_lt_of_mem_children member)).1⟩

/-! ### Syntax trees -/

/-- What a template with some tags is lowered to, if there are any. -/
def templateOutlines (tags : List (String × Span)) : List Outline :=
  match tags.head?, tags.getLast? with
  | some first, some last =>
    [.mk (.template []) ⟨first.2.start, last.2.stop⟩ (tags.map fun tag => .mk (.element tag.1) tag.2 [])]
  | _, _ => []

/-- A template is lowered to its outline. -/
theorem layTemplate_proceeds (tags : List (String × Span)) (before : Array TreeNode) :
    Proceeds before [] [] (layTemplate tags) Option.toList (templateOutlines tags) := by
  rw [layTemplate, templateOutlines]
  cases tags.head? with
  | none => exact Proceeds.pure none rfl
  | some first =>
    cases tags.getLast? with
    | none => exact Proceeds.pure none rfl
    | some last =>
      -- A tag is a leaf under the template.
      have element (tag : String × Span) : Shows (lay (.element tag.1) tag.2) (.mk (.element tag.1) tag.2 []) :=
        shows_leaf tag.2 rfl
      dsimp only
      rw [layTags_eq_mapM]
      refine (Proceeds.trees fun tag _ => element tag).bind fun places => ?_
      -- The template takes the places of all tags.
      have children : (Shape.template places).children = [] ++ places := rfl
      exact (Proceeds.lay children).bind fun place => Proceeds.pure (some place) rfl

/-- The roots of a syntax tree show the outlines of the script and of the template. -/
theorem map_outlineAt_roots (text : String) (root : Cst) (tags : List (String × Span)) :
    (ofScript text root tags).roots.map (outlineAt (ofScript text root tags).nodes) =
      outlineOf text .alone root :: templateOutlines tags := by
  have script : Showing #[] [(lower text root #[]).1] [outlineOf text .alone root] (lower text root #[]).2 :=
    (draws_all text root).1 #[]
  -- The template is laid down behind the script, from what the script has left.
  have template := layTemplate_proceeds tags (lower text root #[]).2 _ (.refl (lower text root #[]).2)
  exact (script.trans template).shown [] forest_empty

/-- The script of a syntax tree shows its outline, whatever the template holds. -/
theorem outlineAt_program (text : String) (root : Cst) (tags : List (String × Span)) :
    outlineAt (ofScript text root tags).nodes (ofScript text root tags).program = outlineOf text .alone root :=
  (List.cons.inj (map_outlineAt_roots text root tags)).1

end Tree

end LayerAudit
