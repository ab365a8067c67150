import LayerAudit.Proofs.Tree.Forest
import LayerAudit.Proofs.Tree.Imports
import LayerAudit.Script.Repair

/-!
Laying down a script and the tags of a template gives a forest with at most two roots, whose nodes cover the bytes of
the nodes below them.
-/

namespace LayerAudit

open Script

/-- All bytes of the second range are bytes of the first. -/
structure Script.Span.Covers (outer inner : Span) : Prop where
  start : outer.start ≤ inner.start
  stop : inner.stop ≤ outer.stop

/-- Ranges are compared by their ends. -/
instance (outer inner : Script.Span) : Decidable (outer.Covers inner) :=
  decidable_of_iff (outer.start ≤ inner.start ∧ inner.stop ≤ outer.stop) ⟨fun ⟨a, b⟩ => ⟨a, b⟩, fun ⟨a, b⟩ => ⟨a, b⟩⟩

namespace Script.Span.Covers

/-- A range covers itself. -/
theorem refl (span : Span) : span.Covers span := ⟨Nat.le_refl _, Nat.le_refl _⟩

/-- What a covered range covers is covered. -/
theorem trans {outer middle inner : Span} (first : outer.Covers middle) (second : middle.Covers inner) :
    outer.Covers inner :=
  ⟨Nat.le_trans first.start second.start, Nat.le_trans second.stop first.stop⟩

end Script.Span.Covers

/-- Every node covers its children. -/
inductive Script.Cst.Nested : Cst → Prop
  | mk {head : Head} {children : List Cst} (covers : ∀ child ∈ children, head.span.Covers child.span)
    (nested : ∀ child ∈ children, child.Nested) : Nested (.mk head children)

mutual

/-- Whether every node covers its children can be decided node by node. -/
instance Script.Cst.decidableNested : (node : Cst) → Decidable node.Nested
  | .mk head children =>
    match decidableAllNested head.span children with
    | isTrue all => isTrue (.mk (fun child member => (all child member).1) fun child member => (all child member).2)
    | isFalse wrong =>
      isFalse fun | .mk covers nested => wrong fun child member => ⟨covers child member, nested child member⟩

/-- The same of nodes that lie in one range. -/
instance Script.Cst.decidableAllNested (outer : Span) :
    (children : List Cst) → Decidable (∀ child ∈ children, outer.Covers child.span ∧ child.Nested)
  -- A node that is not covered, or a child that is not nested, settles the answer at once.
  | [] => isTrue fun _ member => absurd member List.not_mem_nil
  | child :: rest =>
    match decidableNested child, decidableAllNested outer rest with
    | isTrue here, isTrue later =>
      if covers : outer.Covers child.span then isTrue (List.forall_mem_cons.mpr ⟨⟨covers, here⟩, later⟩)
      else isFalse fun all => covers (all child (List.mem_cons_self ..)).1
    | isFalse here, _ => isFalse fun all => here (all child (List.mem_cons_self ..)).2
    | _, isFalse later => isFalse fun all => later (List.forall_mem_cons.mp all).2

end

/-- A child of a nested node is nested, and the node covers it. -/
theorem Script.Cst.Nested.child {node child : Cst} (nested : node.Nested) (member : child ∈ node.children) :
    child.Nested ∧ node.span.Covers child.span := by
  cases nested with
  | mk covers nested => exact ⟨nested child member, covers child member⟩

/-- Every node covers its children, which are nodes as well. -/
def SyntaxTree.SpansNest (nodes : Array TreeNode) : Prop :=
  ∀ (place : Nat) (node : TreeNode), nodes[place]? = some node → ∀ child ∈ node.shape.children,
    ∃ inner, nodes[child]? = some inner ∧ node.span.Covers inner.span

namespace Tree

open SyntaxTree

/-! ### What laying down adds -/

/-- Behind some nodes others were laid down, of which those at some places have no parent yet. Provided that the text
was read with nested ranges, a range covers them. -/
structure Laid (nested : Prop) (span : Span) (before : Array TreeNode) (places : List Nat) (after : Array TreeNode) :
    Prop where
  forest : ∀ roots, Forest before roots → Forest after (places ++ roots)
  kept : ∀ (place : Nat) (node : TreeNode), before[place]? = some node → after[place]? = some node
  within : nested → SpansNest before →
    SpansNest after ∧ ∀ place ∈ places, ∃ node, after[place]? = some node ∧ span.Covers node.span

/-- Work lays down one tree. -/
def LaysTree (nested : Prop) (span : Span) (work : Laying Nat) : Prop :=
  ∀ before, Laid nested span before [(work before).1] (work before).2

/-- Where some places are without a parent, work goes on and leaves others without one. -/
def Continues {α : Type} (nested : Prop) (span : Span) (before : Array TreeNode) (held : List Nat) (work : Laying α)
    (holds : α → List Nat) : Prop :=
  ∀ nodes, Laid nested span before held nodes → Laid nested span before (holds (work nodes).1) (work nodes).2

variable {nested other : Prop} {span inner : Span} {before nodes after : Array TreeNode} {held places : List Nat}
  {α β : Type}

namespace Laid

/-- No work adds nothing. -/
theorem refl (nested : Prop) (span : Span) (before : Array TreeNode) : Laid nested span before [] before where
  forest _ forest := forest
  kept _ _ found := found
  within _ nest := ⟨nest, fun _ member => absurd member List.not_mem_nil⟩

/-- One tree can be laid down after another. -/
theorem trans (first : Laid nested span before held nodes) (second : Laid nested span nodes places after) :
    Laid nested span before (held ++ places) after where
  forest roots forest := by
    -- What the second work leaves without a parent comes in front of what the first one has left.
    -- Both works keep a forest, each for its own places.
    have both := second.forest _ (first.forest roots forest)
    rw [← List.append_assoc] at both
    exact both.perm (List.perm_append_comm.append_right roots)
  kept place node found := second.kept place node (first.kept place node found)
  within isNested nest := by
    obtain ⟨middle, earlier⟩ := first.within isNested nest
    obtain ⟨last, later⟩ := second.within isNested middle
    -- Nodes of the first work are still there after the second one.
    refine ⟨last, fun place member => ?_⟩
    rcases List.mem_append.mp member with old | new
    · obtain ⟨node, found, covers⟩ := earlier place old
      exact ⟨node, second.kept place node found, covers⟩
    · exact later place new

/-- A range that covers another one covers what that one covers. -/
theorem widen (laid : Laid other inner before places after) (inside : nested → other ∧ span.Covers inner) :
    Laid nested span before places after where
  forest := laid.forest
  kept := laid.kept
  within isNested nest := by
    obtain ⟨isOther, covers⟩ := inside isNested
    -- What holds with the smaller range is passed on, and each place is covered by way of that range.
    obtain ⟨kept, covered⟩ := laid.within isOther nest
    refine ⟨kept, fun place member => ?_⟩
    obtain ⟨node, found, within⟩ := covered place member
    exact ⟨node, found, covers.trans within⟩

/-- A node takes all places without a parent as its children. -/
theorem push {shape : Shape} (laid : Laid nested span before held nodes) (children : shape.children = held) :
    Laid nested span before [nodes.size] (nodes.push ⟨shape, span⟩) where
  forest roots forest := by
    have earlier := laid.forest roots forest
    -- The places that wait are the children, so that the new node takes their place among the roots.
    rw [← children] at earlier
    exact earlier.push
  kept place node found := getElem?_push_of_some (laid.kept place node found)
  within isNested nest := by
    obtain ⟨earlier, covered⟩ := laid.within isNested nest
    refine ⟨fun place node found child member => ?_, fun place member => ?_⟩
    · rw [Array.getElem?_push] at found
      split at found
      · -- The new node covers its children, which were without a parent before.
        cases found
        obtain ⟨inner, there, covers⟩ := covered child (children ▸ member)
        exact ⟨inner, getElem?_push_of_some there, covers⟩
      · -- An earlier node covers its children as before.
        obtain ⟨inner, there, covers⟩ := earlier place node found child member
        exact ⟨inner, getElem?_push_of_some there, covers⟩
    · -- The new node is behind all others and covers its own range.
      rw [List.mem_singleton.mp member]
      exact ⟨_, Array.getElem?_push_size, .refl span⟩

end Laid

/-- Work that goes on from no place without a parent and leaves one lays down a tree. -/
theorem laysTree_of_continues {work : Laying Nat}
    (continues : ∀ before, Continues nested span before [] work fun place => [place]) : LaysTree nested span work :=
  fun before => continues before before (.refl nested span before)

namespace Continues

/-- Some work is followed by other work. -/
theorem bind {work : Laying α} {next : α → Laying β} {middle : α → List Nat} {holds : β → List Nat}
    (first : Continues nested span before held work middle)
    (second : ∀ result, Continues nested span before (middle result) (next result) holds) :
    Continues nested span before held (work >>= next) holds :=
  fun nodes laid => second (work nodes).1 (work nodes).2 (first nodes laid)

/-- A result without work. -/
theorem pure (result : α) {holds : α → List Nat} (same : holds result = held) :
    Continues nested span before held (Pure.pure result) holds := by
  intro nodes laid
  exact same ▸ laid

/-- A node is laid down over the places without a parent. -/
theorem lay {shape : Shape} (children : shape.children = held) :
    Continues nested span before held (Tree.lay shape span) fun place => [place] :=
  fun _ laid => laid.push children

/-- A tree is laid down beside others. -/
theorem tree {work : Laying Nat} (lays : LaysTree nested span work) :
    Continues nested span before held work fun place => held ++ [place] :=
  fun nodes laid => laid.trans (lays nodes)

/-- Trees are laid down one after another beside others. -/
theorem trees {work : α → Laying Nat} {items : List α} (lays : ∀ item ∈ items, LaysTree nested span (work item)) :
    Continues nested span before held (items.mapM work) fun places => held ++ places := by
  induction items generalizing held with
  | nil => exact pure [] (List.append_nil held)
  | cons item rest ih =>
    rw [List.mapM_cons]
    -- The first tree waits while the rest is laid down.
    refine (tree (lays item (List.mem_cons_self ..))).bind fun place => ?_
    refine (ih fun other member => lays other (List.mem_cons_of_mem _ member)).bind fun places => ?_
    exact pure (place :: places) (by simp)

end Continues

/-- A tree that a range covers lies in every range that covers that one. -/
theorem LaysTree.widen {work : Laying Nat} (lays : LaysTree other inner work)
    (inside : nested → other ∧ span.Covers inner) : LaysTree nested span work :=
  fun before => (lays before).widen inside

/-- A node without children is a tree. -/
theorem laysTree_leaf {shape : Shape} (nested : Prop) (span : Span) (leaf : shape.children = []) :
    LaysTree nested span (lay shape span) :=
  laysTree_of_continues fun _ => Continues.lay leaf

/-- A node over one tree is a tree. -/
theorem laysTree_over {shape : Nat → Shape} {work : Laying Nat} (lays : LaysTree nested span work)
    (children : ∀ place, (shape place).children = [place]) :
    LaysTree nested span (work >>= fun place => lay (shape place) span) :=
  laysTree_of_continues fun _ => (Continues.tree lays).bind fun place => Continues.lay (children place)

/-- A node over trees is a tree. -/
theorem laysTree_overAll {shape : List Nat → Shape} {work : α → Laying Nat} {items : List α}
    (lays : ∀ item ∈ items, LaysTree nested span (work item)) (children : ∀ places, (shape places).children = places) :
    LaysTree nested span (items.mapM work >>= fun places => lay (shape places) span) :=
  laysTree_of_continues fun _ => (Continues.trees lays).bind fun places => Continues.lay (children places)

/-! ### Parts -/

/-- The parts of a node are its children. -/
theorem mem_children_of_mem_parts {node : Cst} {part : Part node} (member : part ∈ parts node) :
    part.1 ∈ node.children := by
  obtain ⟨child, _, rfl⟩ := List.mem_map.mp member
  exact child.2

/-- The named parts of a node are among its children. -/
theorem mem_children_of_mem_namedParts {node : Cst} {part : Part node} (member : part ∈ namedParts node) :
    part.1 ∈ node.children :=
  mem_children_of_mem_parts (List.mem_of_mem_filter member)

/-- The part with a label is among the children. -/
theorem mem_children_of_part? {node : Cst} {label : Label} {part : Part node} (found : part? node label = some part) :
    part.1 ∈ node.children :=
  mem_children_of_mem_parts (List.mem_of_find?_eq_some found)

/-! ### Lowering -/

section

variable (text : String) (node : Cst)

/-- Parts are laid down one after another. -/
theorem lowerAll_eq_mapM (list : List (Part node)) :
    lowerAll text node list = list.mapM fun part => lower text part.1 := by
  induction list with
  | nil =>
    rw [lowerAll]
    rfl
  | cons part rest ih => rw [lowerAll, List.mapM_cons, ih]

/-- Entries are laid down one after another. -/
theorem lowerEntries_eq_mapM (list : List (Part node)) :
    lowerEntries text node list = list.mapM fun part => lowerEntry text part.1 := by
  induction list with
  | nil =>
    rw [lowerEntries]
    rfl
  | cons part rest ih => rw [lowerEntries, List.mapM_cons, ih]

/-- Lowering a node lays down one tree, which the node covers. -/
def Lowers : Prop := LaysTree node.Nested node.span (lower text node)

/-- Lowering an entry lays down one tree, which the entry covers. -/
def LowersEntry : Prop := LaysTree node.Nested node.span (lowerEntry text node)

end

variable {text : String} {node : Cst}

/-- The part of a node with a label lays down one tree. -/
theorem part?_laysTree (lowers : ∀ child ∈ node.children, Lowers text child) {label : Label} {part : Part node}
    (found : part? node label = some part) : LaysTree node.Nested node.span (lower text part.1) := by
  have member := mem_children_of_part? found
  exact (lowers _ member).widen fun nested => nested.child member

/-- All named parts of a node lay down one tree each. -/
theorem namedParts_laysTree (lowers : ∀ child ∈ node.children, Lowers text child) :
    ∀ part ∈ namedParts node, LaysTree node.Nested node.span (lower text part.1) := by
  intro part member
  have isChild := mem_children_of_mem_namedParts member
  exact (lowers _ isChild).widen fun nested => nested.child isChild

/-- A node over its named parts is a tree. -/
theorem laysTree_overParts (lowers : ∀ child ∈ node.children, Lowers text child) {shape : List Nat → Shape}
    (children : ∀ places, (shape places).children = places) :
    LaysTree node.Nested node.span
      (lowerAll text node (namedParts node) >>= fun places => lay (shape places) node.span) := by
  rw [lowerAll_eq_mapM]
  exact laysTree_overAll (namedParts_laysTree lowers) children

/-- A function lays down one tree. -/
theorem lowerFunction_laysTree (lowers : ∀ child ∈ node.children, Lowers text child) :
    LaysTree node.Nested node.span (lowerFunction text node) := by
  rw [lowerFunction]
  split
  · rename_i body found
    exact laysTree_over (part?_laysTree lowers found) fun _ => rfl
  · exact laysTree_over (laysTree_leaf _ _ rfl) fun _ => rfl

/-- Behind the function that is called come the arguments, which may be nested one level deeper. -/
theorem arguments_continue {before : Array TreeNode} {callee : Nat}
    (lowers : ∀ inner : Cst, sizeOf inner < sizeOf node → Lowers text inner) :
    Continues node.Nested node.span before [callee]
      (match part? node .arguments with
        | some arguments => do
          let arguments ← lowerAll text arguments.1 (namedParts arguments.1)
          lay (.call callee arguments) node.span
        | none => do
          let arguments ← pure []
          lay (.call callee arguments) node.span)
      fun place => [place] := by
  -- The arguments are parts of a part, so that the hypothesis is about all smaller nodes and not about children.
  split
  · rename_i arguments found
    have member := mem_children_of_part? found
    have below : ∀ part ∈ namedParts arguments.1,
        LaysTree arguments.1.Nested arguments.1.span (lower text part.1) :=
      namedParts_laysTree fun child isChild =>
        lowers child (Nat.lt_trans (sizeOf_lt_of_mem_children isChild) arguments.2)
    rw [lowerAll_eq_mapM]
    refine (Continues.trees fun part listed => ?_).bind fun places => Continues.lay rfl
    -- The call covers the node of the arguments, which covers each of them.
    exact (below part listed).widen fun nested => nested.child member
  · -- Without arguments only the function is waiting.
    exact fun nodes laid => laid.push rfl

/-- A node lays down one tree if the nodes below it do. -/
theorem lowers_of_below (below : ∀ inner : Cst, sizeOf inner < sizeOf node → Lowers text inner)
    (entries : ∀ inner : Cst, sizeOf inner < sizeOf node → LowersEntry text inner) : Lowers text node := by
  have lowers (child : Cst) (member : child ∈ node.children) : Lowers text child :=
    below child (sizeOf_lt_of_mem_children member)
  -- Most roles give a leaf, a node over one part or a node over all named parts.
  have leaf {shape : Shape} (none : shape.children = []) : LaysTree node.Nested node.span (lay shape node.span) :=
    laysTree_leaf _ _ none
  have first {part : Part node} {rest : List (Part node)} (named : namedParts node = part :: rest) :
      LaysTree node.Nested node.span (lower text part.1) :=
    namedParts_laysTree lowers part (named ▸ List.mem_cons_self ..)
  unfold Lowers
  rw [lower]
  -- Each role is treated as lowering treats it.
  cases role : node.role
  all_goals dsimp only
  case group | cast | nonNull =>
    -- A wrapper lays down nothing of its own.
    split
    · exact first ‹_›
    · exact leaf rfl
  case importStatement =>
    refine leaf ?_
    unfold importShape
    split <;> rfl
  case exportStatement =>
    split
    · exact leaf rfl
    · split
      · exact laysTree_over (part?_laysTree lowers ‹_›) fun _ => rfl
      · exact laysTree_overParts lowers fun _ => rfl
  case call =>
    split
    · exact leaf rfl
    · -- Without a function that is called, a leaf stands in for it.
      refine laysTree_of_continues fun before => ?_
      split
      · exact (Continues.tree (part?_laysTree lowers ‹_›)).bind fun callee => arguments_continue below
      · exact (Continues.tree (leaf rfl)).bind fun callee => arguments_continue below
  case object =>
    -- Entries are covered by the object around them.
    rw [lowerEntries_eq_mapM]
    refine laysTree_overAll (fun part member => ?_) fun _ => rfl
    have isChild := mem_children_of_mem_namedParts member
    exact (entries _ part.2).widen fun nested => nested.child isChild
  case templateString =>
    split
    · exact laysTree_overParts lowers fun _ => rfl
    · exact leaf rfl
  case function | method => exact lowerFunction_laysTree lowers
  case returnStatement =>
    split
    · exact laysTree_over (first ‹_›) fun _ => rfl
    · exact leaf rfl
  case assignment =>
    split
    · -- The target and the value wait without a parent until the assignment is laid down.
      rename_i target value isTarget isValue
      refine laysTree_of_continues fun before => ?_
      refine (Continues.tree (part?_laysTree lowers isTarget)).bind fun target => ?_
      refine (Continues.tree (part?_laysTree lowers isValue)).bind fun value => ?_
      exact Continues.lay rfl
    · exact laysTree_overParts lowers fun _ => rfl
  case update =>
    split
    · exact laysTree_over (part?_laysTree lowers ‹_›) fun _ => rfl
    · exact leaf rfl
  case member =>
    split
    · rename_i object property isObject _
      exact laysTree_over (part?_laysTree lowers isObject) fun _ => rfl
    · exact laysTree_overParts lowers fun _ => rfl
  case declarator =>
    split
    · exact laysTree_over (part?_laysTree lowers ‹_›) fun _ => rfl
    · exact leaf rfl
  case identifier | propertyName | shorthand | string | this => exact leaf rfl
  all_goals exact laysTree_overParts lowers fun _ => rfl

/-- An entry lays down one tree if it does so outside of an object, and the nodes below it do. -/
theorem lowersEntry_of_below (own : Lowers text node) (lowers : ∀ child ∈ node.children, Lowers text child) :
    LowersEntry text node := by
  unfold LowersEntry
  rw [lowerEntry]
  -- A pair, a shorthand and a method become a property over one tree, and other entries are as by themselves.
  cases role : node.role
  all_goals dsimp only
  case pair =>
    split
    · exact laysTree_over (part?_laysTree lowers ‹_›) fun _ => rfl
    · exact laysTree_over (laysTree_leaf _ _ rfl) fun _ => rfl
  case shorthand => exact laysTree_over (laysTree_leaf _ _ rfl) fun _ => rfl
  case method => exact laysTree_over (lowerFunction_laysTree lowers) fun _ => rfl
  all_goals exact own

/-- Every node lays down one tree, and so it does as an entry of an object. -/
theorem lowers_all (text : String) (node : Cst) : Lowers text node ∧ LowersEntry text node := by
  -- The induction is on the size, since the arguments of a call lie two levels below it.
  induction size : sizeOf node using Nat.strongRecOn generalizing node with
  | _ bound ih =>
    subst size
    have below (inner : Cst) (smaller : sizeOf inner < sizeOf node) := ih (sizeOf inner) smaller inner rfl
    have own : Lowers text node :=
      lowers_of_below (fun inner smaller => (below inner smaller).1) fun inner smaller => (below inner smaller).2
    exact ⟨own, lowersEntry_of_below own fun child member => (below child (sizeOf_lt_of_mem_children member)).1⟩

/-! ### Templates -/

/-- Neither end of a tag comes before that of an earlier one. -/
def Ascending (tags : List (String × Span)) : Prop :=
  tags.Pairwise fun earlier later => earlier.2.start ≤ later.2.start ∧ earlier.2.stop ≤ later.2.stop

/-- Tags are laid down one after another. -/
theorem layTags_eq_mapM (tags : List (String × Span)) :
    layTags tags = tags.mapM fun tag => lay (.element tag.1) tag.2 := by
  induction tags with
  | nil => rfl
  | cons tag rest ih => rw [layTags, List.mapM_cons, ih]

/-- Ascending tags lie between the start of the first and the end of the last. -/
theorem covers_of_ascending {tags : List (String × Span)} {first last tag : String × Span} (ascending : Ascending tags)
    (isFirst : tags.head? = some first) (isLast : tags.getLast? = some last) (member : tag ∈ tags) :
    Span.Covers ⟨first.2.start, last.2.stop⟩ tag.2 := by
  constructor
  · -- Every start is at or behind that of the first tag.
    obtain ⟨rest, rfl⟩ := List.head?_eq_some_iff.mp isFirst
    rcases List.mem_cons.mp member with rfl | later
    · exact Nat.le_refl _
    · exact ((List.pairwise_cons.mp ascending).1 tag later).1
  · -- Every stop is at or before that of the last tag.
    obtain ⟨rest, rfl⟩ := List.getLast?_eq_some_iff.mp isLast
    rcases List.mem_append.mp member with earlier | own
    · exact ((List.pairwise_append.mp ascending).2.2 tag earlier last (List.mem_singleton.mpr rfl)).2
    · cases List.mem_singleton.mp own
      exact Nat.le_refl _

/-- A template with tags lays down one tree, and one without lays down nothing. -/
theorem layTemplate_continues (tags : List (String × Span)) (nodes : Array TreeNode) :
    ∃ span, Continues (Ascending tags) span nodes [] (layTemplate tags) Option.toList := by
  unfold layTemplate
  split
  · rename_i first last isFirst isLast
    refine ⟨⟨first.2.start, last.2.stop⟩, ?_⟩
    -- The template begins with its first tag and ends with its last one.
    have element (tag : String × Span) (member : tag ∈ tags) :
        LaysTree (Ascending tags) ⟨first.2.start, last.2.stop⟩ (lay (.element tag.1) tag.2) :=
      (laysTree_leaf (Ascending tags) tag.2 rfl).widen fun ascending =>
        ⟨ascending, covers_of_ascending ascending isFirst isLast member⟩
    rw [layTags_eq_mapM]
    refine (Continues.trees element).bind fun places => ?_
    have children : (Shape.template places).children = [] ++ places := rfl
    exact (Continues.lay children).bind fun place => Continues.pure (some place) rfl
  · exact ⟨⟨0, 0⟩, Continues.pure none rfl⟩

/-! ### Syntax trees -/

/-- The tree of a script and of the tags of a template, as far as it is laid down. -/
theorem ofScript_laid (text : String) (root : Cst) (tags : List (String × Span)) :
    ∃ middle scriptSpan templateSpan,
      Laid root.Nested scriptSpan #[] [(ofScript text root tags).program] middle ∧
        Laid (Ascending tags) templateSpan middle (ofScript text root tags).template.toList
          (ofScript text root tags).nodes := by
  obtain ⟨span, continues⟩ := layTemplate_continues tags (lower text root #[]).2
  -- The template goes on from the nodes that the script has left.
  have template := continues _ (.refl (Ascending tags) span (lower text root #[]).2)
  exact ⟨(lower text root #[]).2, root.span, span, (lowers_all text root).1 #[], template⟩

/-- The nodes of the tree of a script form a forest, whose roots are the script and the template. -/
theorem ofScript_forest (text : String) (root : Cst) (tags : List (String × Span)) :
    Forest (ofScript text root tags).nodes (ofScript text root tags).roots := by
  obtain ⟨middle, _, _, script, template⟩ := ofScript_laid text root tags
  -- The template was laid down last, so it comes in front of the script among the places without a parent.
  exact (template.forest _ (script.forest [] forest_empty)).perm List.perm_append_comm

/-- The syntax tree of a script is a forest, whatever the script and the tags of the template are: every node except for
the script and the template is the child of one node, before which it comes, and walks from these two meet every node
once. If no range in the script reaches out of the one around it and the tags ascend, then every node covers its
children. -/
theorem ofScript_isForest (text : String) (root : Cst) (tags : List (String × Span)) :
    (ofScript text root tags).IsForest ∧
      (root.Nested → Ascending tags → SpansNest (ofScript text root tags).nodes) := by
  refine ⟨isForest_of_forest (ofScript_forest text root tags), fun nested ascending => ?_⟩
  obtain ⟨middle, _, _, script, template⟩ := ofScript_laid text root tags
  -- Before the script there are no nodes, so that nothing has to nest.
  have none : SpansNest #[] := fun place node found => by simp at found
  exact (template.within ascending (script.within nested none).1).1

/-- The call of a name in parentheses, read as a script, and a template with a tag inside another are a case of this. -/
theorem ofScript_isForest_call :
    ∃ root, Script.parseStrict "(f)(a)" = .ok root ∧ root.Nested ∧ Ascending [("ul", ⟨40, 43⟩), ("li", ⟨44, 47⟩)] ∧
      (ofScript "(f)(a)" root [("ul", ⟨40, 43⟩), ("li", ⟨44, 47⟩)]).IsForest ∧
      SpansNest (ofScript "(f)(a)" root [("ul", ⟨40, 43⟩), ("li", ⟨44, 47⟩)]).nodes := by
  -- The reader runs on the text, and the tree that it gives is tested for nesting.
  have read : (Script.parseStrict "(f)(a)").toOption.any fun root => decide root.Nested := by decide +kernel
  obtain ⟨root, accepted, checked⟩ := exists_ok_of_any read
  have nested : root.Nested := of_decide_eq_true checked
  have ascending : Ascending [("ul", ⟨40, 43⟩), ("li", ⟨44, 47⟩)] := by
    unfold Ascending
    decide
  obtain ⟨forest, spans⟩ := ofScript_isForest "(f)(a)" root [("ul", ⟨40, 43⟩), ("li", ⟨44, 47⟩)]
  exact ⟨root, accepted, nested, ascending, forest, spans nested ascending⟩

end Tree

end LayerAudit
