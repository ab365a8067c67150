import LayerAudit.Proofs.Tree.Outline

/-!
The nodes of a script that are lowered, each with the part that it plays in the assignments around it. A walk over the
syntax tree meets what these nodes are lowered to, one after another, and what is written to in the tree is what the
nodes at the places of targets are lowered to.
-/

namespace LayerAudit

open Script SyntaxTree

/-! ### Outlines in pre-order -/

/-- The first child of the node is written to. -/
def Shape.writes : Shape → Bool
  | .assignment _ _ | .update _ => true
  | _ => false

namespace Outline

mutual

/-- An outline and all that lies below it in pre-order, each with whether it is written to. -/
def marked (isWritten : Bool) : Outline → List (Bool × Outline)
  | .mk shape span below => (isWritten, .mk shape span below) :: markedBelow shape.writes below

/-- The same of the outlines below a node, of which the first one may be written to. -/
def markedBelow (firstIsWritten : Bool) : List Outline → List (Bool × Outline)
  | [] => []
  | outline :: rest => outline.marked firstIsWritten ++ markedBelow false rest

end

/-- Where nothing is written to, outlines come one after another. -/
theorem markedBelow_false (list : List Outline) : markedBelow false list = list.flatMap (marked false) := by
  induction list with
  | nil => rfl
  | cons first rest ih => rw [markedBelow, List.flatMap_cons, ih]

/-- Which outlines come does not depend on what is written to. -/
theorem map_snd_markedBelow (firstIsWritten : Bool) (list : List Outline) :
    (markedBelow firstIsWritten list).map Prod.snd =
      list.flatMap fun outline => (outline.marked false).map Prod.snd := by
  cases list with
  | nil => rfl
  | cons first rest =>
    have same : (first.marked firstIsWritten).map Prod.snd = (first.marked false).map Prod.snd := by
      cases first
      rfl
    rw [markedBelow, List.map_append, same, markedBelow_false, List.map_flatMap, List.flatMap_cons]

end Outline

namespace Tree

/-- In a forest a place shows the outlines of all that lies at and below it. -/
theorem map_outlineAt_preorder {nodes : Array TreeNode} {roots : List Nat} (forest : Forest nodes roots) {place : Nat}
    (inside : place < nodes.size) :
    (preorder nodes place).map (outlineAt nodes) = ((outlineAt nodes place).marked false).map Prod.snd := by
  -- The induction goes down to the children, which come before their node.
  induction place using Nat.strongRecOn with
  | _ place ih =>
    have stored : nodes[place]? = some nodes[place] := Array.getElem?_eq_getElem inside
    have children : childrenAt nodes place = nodes[place].shape.children := by
      rw [childrenAt, stored, Option.map_some, Option.getD_some]
    rw [preorder_eq forest, outlineAt_eq forest stored, Outline.marked, List.map_cons, List.map_cons,
      Outline.map_snd_markedBelow, List.flatMap_map, List.map_flatMap, ← children, outlineAt_eq forest stored,
      ← children]
    refine congrArg _ (List.flatMap_congr fun child isChild => ?_)
    have early := forest.descending place child isChild
    exact ih child early (Nat.lt_trans early inside)

/-! ### Parts in assignments -/

/-- The part that a node plays in the assignments around it. -/
inductive Mark
  /-- No assignment writes to the node. -/
  | free
  /-- The node is the target of an assignment or an update. -/
  | target
  /-- An assignment or an update writes to the node, but its target is a pattern that the node is an element of, or an
  assertion of a type in angle brackets in front of the node. -/
  | indirect
  deriving DecidableEq, Repr

/-- The part that a part of a pattern plays, given that of the pattern. -/
def Mark.within : Mark → Bool → Mark
  -- Once inside a pattern that is written to, a part stays inside it.
  | .target, true | .indirect, true => .indirect
  | _, _ => .free

/-- A node begins with one of some marks. -/
def opensWith (text : String) (marks : List String) (node : Cst) : Bool :=
  node.children.head?.any fun opener => opener.role == .token && marks.contains (textOf text opener.span)

/-- What writes to a pattern writes to a part of it. It does not write to a value to fall back on, to a key or to a
type. -/
def handsOn (text : String) (pattern part : Cst) : Bool :=
  -- A default has a target and a value.
  if (pattern.child? .left).isSome && (pattern.child? .right).isSome then part.head.label == some .left
  -- An entry of a pattern has a key.
  else if (pattern.child? .key).isSome then part.head.label == some .value
  -- In front of a target in angle brackets stands a type.
  else if pattern.children.head?.any (opensWith text ["<"]) then !opensWith text ["<"] part
  else opensWith text ["[", "\x7b", "..."] pattern

/-- The part that a part of a node plays, given that of the node. -/
def markBelow (text : String) (mark : Mark) (node part : Cst) : Mark :=
  match node.role with
  -- Wrappers change nothing.
  | .group | .cast | .nonNull => mark
  | .assignment =>
    if (node.child? .left).isSome && (node.child? .right).isSome && part.head.label == some .left then .target
    else .free
  | .update => .target
  -- Patterns nest.
  | .construct => mark.within (handsOn text node part)
  | _ => .free

/-- A node that is lowered, with how it stands and with its part in the assignments around it. -/
structure Use where
  mark : Mark
  standing : Standing
  node : Cst
  deriving Repr

/-- The nodes at and below a node that are lowered, each before those below it. -/
def uses (text : String) (mark : Mark) (standing : Standing) (node : Cst) : List Use :=
  ⟨mark, standing, node⟩ :: (keptParts standing node).flatMap fun part =>
    uses text (markBelow text mark node part.1) (standingBelow node) part.1
termination_by sizeOf node
decreasing_by exact part.2

/-- Every node that is lowered has one use. -/
theorem map_node_uses (text : String) (mark : Mark) (standing : Standing) (node : Cst) :
    (uses text mark standing node).map Use.node = kept standing node := by
  -- As for the nodes themselves, the induction is on the size.
  induction size : sizeOf node using Nat.strongRecOn generalizing mark standing node with
  | _ bound ih =>
    subst size
    rw [uses, kept, List.map_cons, List.map_flatMap]
    exact congrArg _ (List.flatMap_congr fun part _ => ih _ part.2 _ _ part.1 rfl)

/-! ### What uses are lowered to -/

namespace Use

variable (text : String) (use : Use)

/-- The nodes that a use is lowered to for its own sake, without those of its parts. A wrapper leaves nothing behind. -/
def own : List (Bool × Outline) :=
  let whole : Bool × Outline := (use.mark = .target, outlineOf text use.standing use.node)
  let inner : Bool × Outline := (false, outlineOf text .alone use.node)
  -- An entry of an object may stand over the function or the identifier that its node is by itself.
  match use.node.role with
  | .group | .cast | .nonNull => []
  | .method | .shorthand => if use.standing = .entry then [whole, inner] else [whole]
  | _ => [whole]

/-- What stands in for a part of a use that is not found. -/
def instead : List (Bool × Outline) :=
  let filler (isWritten isFound : Bool) : List (Bool × Outline) :=
    if isFound then [] else [(isWritten, .mk (.other []) use.node.span [])]
  match use.node.role with
  | .group | .cast | .nonNull => filler (use.mark = .target) !(namedParts use.node).isEmpty
  | .call => filler false (use.node.callsImportWord || (part? use.node .function).isSome)
  | .function | .method => filler false (part? use.node .body).isSome
  | .pair => filler false (use.standing = .alone || (part? use.node .value).isSome)
  | _ => []

/-- The nodes that a use is lowered to, without those of its parts. -/
def heads : List (Bool × Outline) := use.own text ++ use.instead

/-- Something that stands in for another node is nothing in particular. -/
theorem eq_of_mem_instead {use : Use} {head : Bool × Outline} (member : head ∈ use.instead) :
    ∃ isWritten, head = (isWritten, .mk (.other []) use.node.span []) := by
  -- All fillers are built alike, with the mark alone to be told.
  have filler (isWritten isFound : Bool)
      (listed : head ∈ if isFound then [] else [(isWritten, Outline.mk (.other []) use.node.span [])]) :
      ∃ isWritten, head = (isWritten, .mk (.other []) use.node.span []) := by
    cases isFound with
    | true => exact absurd listed List.not_mem_nil
    | false => exact ⟨isWritten, List.mem_singleton.mp listed⟩
  unfold instead at member
  split at member
  all_goals first | exact filler _ _ member | exact absurd member List.not_mem_nil

/-- Where nothing is told of what is nothing in particular, a use tells what its own nodes tell. -/
theorem filterMap_heads {α : Type} {tells : Bool × Outline → Option α}
    (silent : ∀ isWritten span, tells (isWritten, .mk (.other []) span []) = none) :
    (use.heads text).filterMap tells = (use.own text).filterMap tells := by
  have none : use.instead.filterMap tells = [] := by
    refine List.filterMap_eq_nil_iff.mpr fun head member => ?_
    obtain ⟨isWritten, rfl⟩ := eq_of_mem_instead member
    exact silent isWritten use.node.span
  rw [heads, List.filterMap_append, none, List.append_nil]

end Use

variable {text : String} {mark : Mark} {standing : Standing} {node : Cst}

/-- Only wrappers, assignments and updates have targets in their parts. -/
theorem markBelow_ne_target (part : Cst) (isOther : node.role ∉ wrappers) (isAssignment : node.role ≠ .assignment)
    (isUpdate : node.role ≠ .update) : markBelow text mark node part ≠ .target := by
  rw [markBelow]
  -- What is left are patterns, whose parts have marks of their own, and nodes that free their parts.
  cases role : node.role
  case group | cast | nonNull => exact absurd (by rw [role]; decide) isOther
  case assignment => exact absurd role isAssignment
  case update => exact absurd role isUpdate
  case construct => cases mark <;> cases handsOn text node part <;> simp [Mark.within]
  all_goals simp

/-- A part that is found by its label has it. -/
theorem label_of_part? {label : Label} {part : Part node} (found : part? node label = some part) :
    part.1.head.label = some label := by
  have labelled := List.find?_some found
  exact eq_of_beq labelled

/-- A node is lowered to the heads of the uses in it, of which those of targets are written to. -/
def ShowsUses (text : String) (mark : Mark) (standing : Standing) (node : Cst) : Prop :=
  (outlineOf text standing node).marked (mark = .target) = (uses text mark standing node).flatMap (Use.heads text)

/-- If the parts of a node are lowered to the heads of their uses, then so is the node, provided that it is lowered to
its own heads with those of the parts behind them. -/
theorem showsUses_of_heads {lowered : List (Bool × Outline)}
    (own : (outlineOf text standing node).marked (mark = .target) = Use.heads text ⟨mark, standing, node⟩ ++ lowered)
    (parts : lowered = (keptParts standing node).flatMap fun part =>
      (outlineOf text (standingBelow node) part.1).marked (markBelow text mark node part.1 = .target))
    (below : ∀ part ∈ keptParts standing node,
      ShowsUses text (markBelow text mark node part.1) (standingBelow node) part.1) :
    ShowsUses text mark standing node := by
  rw [ShowsUses, own, parts, uses, List.flatMap_cons, List.flatMap_assoc]
  exact congrArg _ (List.flatMap_congr below)

/-- Where no part is a target, what the parts are lowered to comes one after another. -/
theorem markedBelow_of_free (free : ∀ part ∈ keptParts standing node, markBelow text mark node part.1 ≠ .target) :
    Outline.markedBelow false
        ((keptParts standing node).map fun part => outlineOf text (standingBelow node) part.1) =
      (keptParts standing node).flatMap fun part =>
        (outlineOf text (standingBelow node) part.1).marked (markBelow text mark node part.1 = .target) := by
  rw [Outline.markedBelow_false, List.flatMap_map]
  exact List.flatMap_congr fun part member => by rw [decide_eq_false (free part member)]

/-- A wrapper is lowered to what its first named part is lowered to, which has the same mark. -/
theorem showsUses_wrapper (isWrapper : node.role ∈ wrappers)
    (below : ∀ part ∈ keptParts standing node,
      ShowsUses text (markBelow text mark node part.1) (standingBelow node) part.1) :
    ShowsUses text mark standing node := by
  have lowered := outlineOf_wrapper text standing isWrapper
  have same (part : Cst) : markBelow text mark node part = mark := by
    rcases mem_wrappers.mp isWrapper with role | role | role <;> rw [markBelow, role]
  have first : keptParts standing node = (namedParts node).take 1 := by
    rcases mem_wrappers.mp isWrapper with role | role | role <;> rw [keptParts, role]
  -- The part of a wrapper stands by itself, since no wrapper is an object.
  have alone : standingBelow node = .alone := by
    rw [standingBelow, if_neg fun isObject => absurd (isObject ▸ isWrapper) (by decide)]
  have heads : Use.heads text ⟨mark, standing, node⟩ =
      if (namedParts node).isEmpty then [(decide (mark = .target), .mk (.other []) node.span [])] else [] := by
    rcases mem_wrappers.mp isWrapper with role | role | role
    all_goals
      rw [Use.heads, Use.own, Use.instead, role]
      cases namedParts node <;> rfl
  -- Both sides are now cut down to the first named part, if there is any.
  refine showsUses_of_heads ?_ rfl below
  rw [heads, first, alone, lowered]
  cases namedParts node with
  | nil => rfl
  | cons inner rest => simp [same]

/-- An assignment writes to its target. -/
theorem showsUses_assignment (role : node.role = .assignment)
    (below : ∀ part ∈ keptParts standing node,
      ShowsUses text (markBelow text mark node part.1) (standingBelow node) part.1) :
    ShowsUses text mark standing node := by
  -- A node has the mark of a target by its label, which needs both sides of the assignment.
  have marks (part : Cst) : markBelow text mark node part =
      if (node.child? .left).isSome && (node.child? .right).isSome && part.head.label == some .left then .target
      else .free := by rw [markBelow, role]
  have heads : Use.heads text ⟨mark, standing, node⟩ = [(decide (mark = .target), outlineOf text standing node)] := by
    rw [Use.heads, Use.own, Use.instead, role]
    rfl
  have lowered := outlineOf.eq_1 text standing node
  rw [outlineOver.eq_def, role] at lowered
  -- Without a target or a value it is lowered like any other node.
  have unfinished (none : (part? node .left).isNone ∨ (part? node .right).isNone)
      (plain : outlineOf text standing node = .mk (.other []) node.span
        ((keptParts standing node).map fun part => outlineOf text (standingBelow node) part.1)) :
      ShowsUses text mark standing node := by
    refine showsUses_of_heads ?_ (markedBelow_of_free fun part _ => ?_) below
    · rw [heads, plain]
      rfl
    · rw [marks, ← map_part?, ← map_part?]
      rcases none with none | none <;> simp [Option.isNone_iff_eq_none.mp none]
  cases isTarget : part? node .left with
  | none => exact unfinished (.inl (by simp [isTarget])) (by rw [lowered, isTarget])
  | some target =>
    cases isValue : part? node .right with
    | none => exact unfinished (.inr (by simp [isValue])) (by rw [lowered, isTarget, isValue])
    -- With both sides, the target comes first and is the only part that is written to.
    | some value =>
      have both : keptParts standing node = [target, value] := by rw [keptParts, role, isTarget, isValue]
      have first : markBelow text mark node target.1 = .target := by
        simp [marks, ← map_part?, isTarget, isValue, label_of_part? isTarget]
      have second : markBelow text mark node value.1 = .free := by
        simp [marks, ← map_part?, isTarget, isValue, label_of_part? isValue]
      refine showsUses_of_heads ?_ rfl below
      rw [heads, lowered, isTarget, isValue, both]
      simp [Outline.marked, Outline.markedBelow, Shape.writes, first, second]

/-- An update writes to its argument. -/
theorem showsUses_update (role : node.role = .update)
    (below : ∀ part ∈ keptParts standing node,
      ShowsUses text (markBelow text mark node part.1) (standingBelow node) part.1) :
    ShowsUses text mark standing node := by
  -- The argument is the only part, and it is written to whatever its label is.
  have only : keptParts standing node = (part? node .argument).toList := by rw [keptParts, role]
  have written (part : Cst) : markBelow text mark node part = .target := by rw [markBelow, role]
  have lowered := outlineOf.eq_1 text standing node
  rw [outlineOver.eq_def, role] at lowered
  refine showsUses_of_heads ?_ rfl below
  rw [Use.heads, Use.own, Use.instead, role, lowered, only]
  cases part? node .argument with
  | none => rfl
  | some target => simp [Outline.marked, Outline.markedBelow, Shape.writes, written]

/-- A node that neither wraps another one nor writes to a part is lowered to its own heads, and behind them comes what
its parts are lowered to. -/
theorem marked_of_quiet (isOther : node.role ∉ wrappers) (isAssignment : node.role ≠ .assignment)
    (isUpdate : node.role ≠ .update) :
    (outlineOf text standing node).marked (mark = .target) = Use.heads text ⟨mark, standing, node⟩ ++
      Outline.markedBelow false
        ((keptParts standing node).map fun part => outlineOf text (standingBelow node) part.1) := by
  -- The roles are taken one by one: each lowers its own parts, and the list of kept parts names the same ones.
  have lowered := outlineOf.eq_1 text standing node
  rw [outlineOver.eq_def] at lowered
  rw [Use.heads, Use.own, Use.instead]
  cases role : node.role
  all_goals
    rw [role] at lowered
    dsimp only at lowered ⊢
  -- These three write to a part or leave nothing behind, which the hypotheses exclude.
  case group | cast | nonNull => exact absurd (by rw [role]; decide) isOther
  case assignment => exact absurd role isAssignment
  case update => exact absurd role isUpdate
  -- Leaves have no parts, so nothing comes behind their own head.
  case importStatement | identifier | propertyName | string | this =>
    have leaf : keptParts standing node = [] := by rw [keptParts, role]
    rw [leaf, lowered, Outline.marked]
    rfl
  -- A dynamic import drops its arguments, while a call keeps its function and its arguments.
  case call =>
    cases ofImport : node.callsImportWord with
    | true =>
      have leaf : keptParts standing node = [] := by
        rw [keptParts, role]
        exact if_pos ofImport
      rw [leaf, lowered, ofImport]
      rfl
    | false =>
      rw [lowered, ofImport]
      -- Without a function something else stands in for it, which is among the heads.
      cases part? node .function <;> rfl
  -- Of a function only the body is kept, and a filler stands in for one that is missing.
  case function =>
    have body : keptParts standing node = (part? node .body).toList := by rw [keptParts, role]
    rw [lowered, body]
    cases part? node .body <;> rfl
  case method =>
    have body : keptParts standing node = (part? node .body).toList := by rw [keptParts, role]
    cases standing with
    | alone =>
      rw [lowered, body]
      cases part? node .body <;> rfl
    | entry =>
      -- An entry stands over the function that the method is by itself.
      have inner := outlineOf_function text (.inr role)
      have alone : standingBelow node = .alone := by
        rw [standingBelow, role]
        rfl
      rw [lowered, body, inner, alone]
      cases part? node .body <;> simp [functionOutline, Outline.marked, Outline.markedBelow, Shape.writes]
  -- A shorthand entry stands over the identifier that it is by itself.
  case shorthand =>
    have leaf : keptParts standing node = [] := by rw [keptParts, role]
    cases standing with
    | alone =>
      rw [leaf, lowered]
      rfl
    | entry =>
      have inner : outlineOf text .alone node = .mk (.identifier (textOf text node.span)) node.span [] := by
        rw [outlineOf, outlineOver, role]
      rw [leaf, lowered, inner]
      rfl
  -- A pair keeps its key by itself, and loses it as an entry.
  case pair =>
    cases standing with
    | alone =>
      rw [lowered]
      rfl
    | entry =>
      have value : keptParts .entry node = (part? node .value).toList := by
        rw [keptParts, role]
        rfl
      rw [lowered, value]
      cases part? node .value <;> rfl
  -- In these three the kept parts make the same distinction as lowering does.
  case exportStatement =>
    rw [keptParts, role] at lowered ⊢
    rw [lowered]
    cases node.child? .source with
    | some source => rfl
    | none => cases part? node .value <;> rfl
  case templateString =>
    rw [keptParts, role] at lowered ⊢
    rw [lowered]
    cases node.namedChildren.any (·.role == .hole) <;> rfl
  case member =>
    rw [lowered]
    cases part? node .object with
    | none => rfl
    | some object => cases node.child? .property <;> rfl
  -- All other nodes keep their named parts and are nothing in particular.
  all_goals
    rw [lowered]
    rfl

/-- What a node is lowered to in pre-order are the heads of the uses in it. What is written to are those of targets. -/
theorem showsUses (text : String) (mark : Mark) (standing : Standing) (node : Cst) :
    ShowsUses text mark standing node := by
  -- The induction is on the size of the node, since the parts of some nodes lie two levels below.
  induction size : sizeOf node using Nat.strongRecOn generalizing mark standing node with
  | _ bound ih =>
    subst size
    have below : ∀ part ∈ keptParts standing node,
        ShowsUses text (markBelow text mark node part.1) (standingBelow node) part.1 :=
      fun part _ => ih _ part.2 _ _ part.1 rfl
    -- Only wrappers, assignments and updates hand a mark on, so each of them has its own lemma.
    by_cases isWrapper : node.role ∈ wrappers
    · exact showsUses_wrapper isWrapper below
    · by_cases isAssignment : node.role = .assignment
      · exact showsUses_assignment isAssignment below
      · by_cases isUpdate : node.role = .update
        · exact showsUses_update isUpdate below
        · refine showsUses_of_heads (marked_of_quiet isWrapper isAssignment isUpdate) ?_ below
          exact markedBelow_of_free fun part _ => markBelow_ne_target part.1 isWrapper isAssignment isUpdate

/-- A script is lowered to the heads of the uses in it. No assignment lies around it. -/
theorem marked_false_outlineOf (text : String) (node : Cst) :
    (outlineOf text .alone node).marked false = (uses text .free .alone node).flatMap (Use.heads text) :=
  showsUses text .free .alone node

/-! ### Functions -/

/-- The nodes that a use is lowered to for its own sake are those of its node, which is no wrapper. -/
theorem eq_of_mem_own {use : Use} {head : Bool × Outline} (member : head ∈ use.own text) :
    use.node.role ∉ wrappers ∧
      (head.2 = outlineOf text use.standing use.node ∨ head.2 = outlineOf text .alone use.node) := by
  -- Each role has one own node at most, except for entries that stand over an inner node.
  unfold Use.own at member
  cases role : use.node.role
  all_goals
    rw [role] at member
    dsimp only at member
  case group | cast | nonNull => cases member
  case method | shorthand =>
    refine ⟨by decide, ?_⟩
    split at member
    · rcases List.mem_cons.mp member with rfl | inner
      · exact .inl rfl
      · exact .inr (List.mem_singleton.mp inner ▸ rfl)
    · exact .inl (List.mem_singleton.mp member ▸ rfl)
  all_goals exact ⟨by decide, .inl (List.mem_singleton.mp member ▸ rfl)⟩

/-- Only functions are lowered to functions, and they are so by themselves. -/
theorem isFunction_of_outlineOf {parameters : List String} {body : Nat} (isOther : node.role ∉ wrappers)
    (isFunction : (outlineOf text standing node).shape = .function parameters body) :
    (node.role = .function ∨ node.role = .method) ∧
      outlineOf text standing node = outlineOf text .alone node := by
  -- Of all that a node can become, only one case has the shape of a function.
  have becomes := becomes_outlineOf text node standing isOther
  generalize outlineOf text standing node = outline at becomes isFunction ⊢
  cases becomes with
  | function role => exact ⟨role, rfl⟩
  | plain quiet outline plain =>
    rw [isFunction] at plain
    cases plain
  | _ => cases isFunction

/-- Of what a use is lowered to only a function is a function. -/
theorem function_of_mem_heads {use : Use} {head : Bool × Outline} {parameters : List String} {body : Nat}
    (member : head ∈ use.heads text) (isFunction : head.2.shape = .function parameters body) :
    (use.node.role = .function ∨ use.node.role = .method) ∧ head.2 = outlineOf text .alone use.node := by
  rcases List.mem_append.mp member with own | other
  · obtain ⟨isOther, same | same⟩ := eq_of_mem_own own
    all_goals
      rw [same] at isFunction ⊢
      exact isFunction_of_outlineOf isOther isFunction
  · -- What stands in for something else is no function.
    obtain ⟨isWritten, rfl⟩ := Use.eq_of_mem_instead other
    cases isFunction

/-- A template holds plain nodes only. -/
theorem isPlain_of_template {tags : List (String × Span)} {outline : Outline} {head : Bool × Outline}
    (isTemplate : outline ∈ templateOutlines tags) (member : head ∈ outline.marked false) :
    head.2.shape.isPlain = true := by
  unfold templateOutlines at isTemplate
  split at isTemplate
  · have silent : (Shape.template []).writes = false := rfl
    rw [List.mem_singleton.mp isTemplate, Outline.marked, silent, Outline.markedBelow_false, List.flatMap_map]
      at member
    -- The template itself has the shape of one, and below it are its elements.
    rcases List.mem_cons.mp member with rfl | below
    · rfl
    · -- An element has nothing below it.
      obtain ⟨tag, _, element⟩ := List.mem_flatMap.mp below
      rw [List.mem_singleton.mp element]
      rfl
  · cases isTemplate

/-- A function in a syntax tree is a function of the script that is lowered. -/
theorem exists_function {root : Cst} {tags : List (String × Span)} {place body : Nat} {parameters : List String}
    (isFunction : (ofScript text root tags).shape? place = some (.function parameters body)) :
    ∃ node ∈ kept .alone root, (node.role = .function ∨ node.role = .method) ∧
      outlineAt (ofScript text root tags).nodes place = outlineOf text .alone node := by
  have forest := ofScript_forest text root tags
  obtain ⟨⟨shape, span⟩, stored, rfl⟩ := Option.map_eq_some_iff.mp isFunction
  -- The place holds a function, whichever place its body has there.
  have shaped : (outlineAt (ofScript text root tags).nodes place).shape = .function parameters 0 := by
    rw [outlineAt_eq forest stored]
    rfl
  -- The place lies in the script or in the template.
  have inside := (Array.getElem?_eq_some_iff.mp stored).1
  obtain ⟨start, isRoot, member⟩ :=
    List.mem_flatMap.mp (forest.preorder_perm.mem_iff.mpr (List.mem_range.mpr inside))
  -- In pre-order from its root the place shows one of the heads that the root is lowered to.
  have listed := List.mem_map_of_mem (f := outlineAt (ofScript text root tags).nodes) member
  rw [map_outlineAt_preorder forest (forest.root_lt isRoot)] at listed
  obtain ⟨head, below, shows⟩ := List.mem_map.mp listed
  rw [← shows] at shaped ⊢
  have shown := List.mem_map_of_mem (f := outlineAt (ofScript text root tags).nodes) isRoot
  rw [map_outlineAt_roots] at shown
  -- The function is not in the template, so it is the head of a use in the script.
  rcases List.mem_cons.mp shown with script | template
  · rw [script, marked_false_outlineOf] at below
    obtain ⟨use, isUse, isHead⟩ := List.mem_flatMap.mp below
    have isKept := List.mem_map_of_mem (f := Use.node) isUse
    rw [map_node_uses] at isKept
    exact ⟨use.node, isKept, function_of_mem_heads isHead shaped⟩
  · -- In the template everything is plain, and a function is not.
    have plain := isPlain_of_template template below
    rw [shaped] at plain
    cases plain

end Tree

end LayerAudit
