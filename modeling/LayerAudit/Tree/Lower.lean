import LayerAudit.Tree.Basic
import LayerAudit.Text.Basic
import LayerAudit.Text.Blank

/-!
From the concrete tree of a script to a syntax tree. Children are laid down before their parents; wrappers that do not
change a value, such as parentheses, leave no node behind.
-/

namespace LayerAudit.Tree

open Script

/-- The text of a range of bytes. -/
def textOf (text : String) (span : Span) : String := String.Pos.Raw.extract text ⟨span.start⟩ ⟨span.stop⟩

/-- A text without the pair of equal quotes around it. -/
def unquote (raw : String) : String :=
  let trimmed := Text.trim raw.toList
  match trimmed, trimmed.getLast? with
  | first :: rest, some last =>
    -- A single quote sign is not taken for an opening and a closing one.
    if first == last && !rest.isEmpty && (first == '"' || first == '\'' || first == '\x60') then
      String.ofList rest.dropLast
    else String.ofList trimmed
  | _, _ => String.ofList trimmed

/-- A part of a node. -/
abbrev Part (node : Cst) := { part : Cst // sizeOf part < sizeOf node }

/-- A child is smaller than its node. -/
theorem sizeOf_lt_of_mem_children {node child : Cst} (member : child ∈ node.children) : sizeOf child < sizeOf node := by
  have smaller := List.sizeOf_lt_of_mem member
  cases node with
  | mk head children =>
    simp only [Cst.children] at smaller
    simp only [Cst.mk.sizeOf_spec]
    omega

/-- The children of a node as its parts. -/
def parts (node : Cst) : List (Part node) :=
  node.children.attach.map fun child => ⟨child.1, sizeOf_lt_of_mem_children child.2⟩

/-- The named parts of a node. -/
def namedParts (node : Cst) : List (Part node) := (parts node).filter fun part => part.1.isNamed

/-- The first part with a label. -/
def part? (node : Cst) (label : Label) : Option (Part node) :=
  (parts node).find? fun part => part.1.head.label == some label

/-! ### Imports -/

/-- The names that a part of an import clause brings in. -/
def clauseNames (text : String) (part : Cst) : List String :=
  match part.role with
  | .identifier => [textOf text part.span]
  | .namedImports => (part.namedChildren.filter (·.role == .importSpecifier)).filterMap fun specifier =>
    -- An imported name counts under its alias.
    ((specifier.child? .alias).or (specifier.child? .name)).map fun name => textOf text name.span
  | .namespaceImport => (part.namedChildren.filter (·.role == .identifier)).map fun name => textOf text name.span
  | _ => []

/-- What an import statement amounts to. -/
def importShape (text : String) (node : Cst) : Shape :=
  match node.child? .source with
  | none => .other []
  | some source =>
    -- The clauses hold the names behind `import` and those in braces.
    let clauses := (node.namedChildren.filter (·.role == .importClause)).flatMap Cst.namedChildren
    let byDefault := (clauses.filter (·.role == .identifier)).getLast?.map fun name => textOf text name.span
    .staticImport (unquote (textOf text source.span)) byDefault (clauses.flatMap (clauseNames text))

/-! ### Names -/

/-- The key of an entry, if it is written out. -/
def keyName (text : String) (key : Cst) : Option String :=
  match key.role with
  | .propertyName | .identifier | .number => some (textOf text key.span)
  | .string => some (unquote (textOf text key.span))
  | _ => none

/-- The parameters of a function that are plain names. -/
def parameterNames (text : String) (node : Cst) : List String :=
  -- An arrow may have one parameter without brackets around it.
  let single := ((node.child? .parameter).map fun name => textOf text name.span).toList
  let listed := ((node.child? .parameters).map Cst.namedChildren).getD []
  single ++ listed.filterMap fun parameter =>
    let target := (parameter.child? .pattern).getD parameter
    -- A pattern takes a value apart, and is no name.
    if target.role == .identifier then some (textOf text target.span) else none

/-! ### Nodes -/

/-- Work that lays down nodes. -/
abbrev Laying := StateM (Array TreeNode)

/-- Lay down a node. -/
def lay (shape : Shape) (span : Span) : Laying Nat := fun nodes => (nodes.size, nodes.push ⟨shape, span⟩)

mutual

/-- Lay down a node and all below it, and tell its place. -/
def lower (text : String) (node : Cst) : Laying Nat := do
  match node.role with
  -- What is in brackets, cast or asserted stands for itself.
  | .group | .cast | .nonNull =>
    match namedParts node with
    | inner :: _ => lower text inner.1
    | [] => lay (.other []) node.span
  | .program => lay (.program (← lowerAll text node (namedParts node))) node.span
  | .importStatement => lay (importShape text node) node.span
  -- An export from another module is an import of it.
  | .exportStatement =>
    match node.child? .source with
    | some source => lay (.staticImport (unquote (textOf text source.span)) none []) node.span
    | none =>
      match part? node .value with
      | some value => lay (.exportDefault (← lower text value.1)) node.span
      | none => lay (.other (← lowerAll text node (namedParts node))) node.span
  | .call =>
    -- The word `import` in front of brackets loads a module when the call is reached.
    if (node.child? .function).any (·.role == .importWord) then
      let first := (node.child? .arguments).bind fun arguments => arguments.namedChildren.head?
      let specifier := (first.filter (·.role == .string)).map fun a => unquote (textOf text a.span)
      lay (.dynamicImport specifier) node.span
    else
      -- The callee is laid down before the arguments, as it is written before them.
      let callee ← match part? node .function with
        | some function => lower text function.1
        | none => lay (.other []) node.span
      let arguments ← match part? node .arguments with
        | some arguments => lowerAll text arguments.1 (namedParts arguments.1)
        | none => pure []
      lay (.call callee arguments) node.span
  | .object => lay (.object (← lowerEntries text node (namedParts node))) node.span
  | .array => lay (.array (← lowerAll text node (namedParts node))) node.span
  | .identifier | .propertyName | .shorthand => lay (.identifier (textOf text node.span)) node.span
  | .string => lay (.string (unquote (textOf text node.span))) node.span
  | .templateString =>
    -- A template without holes is a plain text.
    if node.namedChildren.any (·.role == .hole) then
      lay (.other (← lowerAll text node (namedParts node))) node.span
    else lay (.string (unquote (textOf text node.span))) node.span
  | .function | .method => lowerFunction text node
  | .returnStatement =>
    match namedParts node with
    | argument :: _ => lay (.returned (some (← lower text argument.1))) node.span
    | [] => lay (.returned none) node.span
  | .assignment =>
    -- Both sides of an assignment are there unless the script is damaged.
    match part? node .left, part? node .right with
    | some target, some value =>
      let target ← lower text target.1
      let value ← lower text value.1
      lay (.assignment target value) node.span
    | _, _ => lay (.other (← lowerAll text node (namedParts node))) node.span
  | .update =>
    match part? node .argument with
    | some target => lay (.update (← lower text target.1)) node.span
    | none => lay (.other []) node.span
  | .member =>
    match part? node .object, node.child? .property with
    | some object, some property =>
      lay (.member (← lower text object.1) (textOf text property.span)) node.span
    | _, _ => lay (.other (← lowerAll text node (namedParts node))) node.span
  | .this => lay .this node.span
  | .declarator =>
    -- Only a plain name declares one; a pattern declares several.
    let name := ((node.child? .name).filter (·.role == .identifier)).map fun n => textOf text n.span
    match part? node .value with
    | some value => lay (.declarator name (some (← lower text value.1))) node.span
    | none => lay (.declarator name none) node.span
  -- All other nodes are kept for what is below them.
  | _ => lay (.other (← lowerAll text node (namedParts node))) node.span
termination_by (sizeOf node, 1, 0)

/-- Lay down some parts of a node in their order. -/
def lowerAll (text : String) (node : Cst) (list : List (Part node)) : Laying (List Nat) := do
  match list with
  | [] => return []
  | part :: rest =>
    let place ← lower text part.1
    return place :: (← lowerAll text node rest)
termination_by (sizeOf node, 0, list.length)
decreasing_by
  · -- A part is smaller than its node, so that the walk goes down.
    exact Prod.Lex.left _ _ part.2
  · simp_wf; right; right; simp

/-- Lay down the entries of an object in their order. -/
def lowerEntries (text : String) (node : Cst) (list : List (Part node)) : Laying (List Nat) := do
  match list with
  | [] => return []
  | part :: rest =>
    let place ← lowerEntry text part.1
    return place :: (← lowerEntries text node rest)
termination_by (sizeOf node, 0, list.length)

/-- Lay down an entry of an object. -/
def lowerEntry (text : String) (node : Cst) : Laying Nat := do
  match node.role with
  -- A key that is computed is not known before the script runs.
  | .pair =>
    let key := (node.child? .key).bind (keyName text)
    let value ← match part? node .value with
      | some value => lower text value.1
      | none => lay (.other []) node.span
    lay (.property key value) node.span
  -- A name alone is the key and the value at once.
  | .shorthand =>
    let name := textOf text node.span
    let value ← lay (.identifier name) node.span
    lay (.property (some name) value) node.span
  -- A method is an entry whose value is a function.
  | .method =>
    let key := (node.child? .name).bind (keyName text)
    let value ← lowerFunction text node
    lay (.property key value) node.span
  | _ => lower text node
termination_by (sizeOf node, 2, 0)

/-- Lay down a function. -/
def lowerFunction (text : String) (node : Cst) : Laying Nat := do
  let body ← match part? node .body with
    | some body => lower text body.1
    -- A body that is missing is an empty node.
    | none => lay (.other []) node.span
  lay (.function (parameterNames text node) body) node.span
termination_by (sizeOf node, 0, 0)

end

/-- Lay down the tags of a template. -/
def layTags : List (String × Span) → Laying (List Nat)
  | [] => return []
  | (tag, span) :: rest => do
    let place ← lay (.element tag) span
    return place :: (← layTags rest)

/-- Lay down a template, which covers the bytes from its first tag to its last; without tags there is none. -/
def layTemplate (tags : List (String × Span)) : Laying (Option Nat) := do
  match tags.head?, tags.getLast? with
  | some first, some last =>
    let elements ← layTags tags
    -- The template comes after its tags, as a parent after its children.
    return some (← lay (.template elements) ⟨first.2.start, last.2.stop⟩)
  | _, _ => return none

/-- The syntax tree of a script and of the tags of a template. -/
def ofScript (text : String) (root : Cst) (tags : List (String × Span)) : SyntaxTree :=
  let (program, nodes) := lower text root #[]
  let (template, nodes) := layTemplate tags nodes
  { nodes, program, template }

end LayerAudit.Tree
