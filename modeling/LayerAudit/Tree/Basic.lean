import LayerAudit.Script.Cst

/-!
Syntax trees of files. The nodes of a tree lie in one array, and a node refers to its children by their places in it.
A walk meets every node at most once, so it ends whatever the places say.
-/

namespace LayerAudit

open Script (Span)

/-- What a node is, as far as extraction looks at it. Everything else is `other`, which keeps its children. -/
inductive Shape
  | program (body : List Nat)
  /-- A static import, or an export from another module, with the names that it brings in. -/
  | staticImport (specifier : String) (byDefault : Option String) (bindings : List String)
  | dynamicImport (specifier : Option String)
  | exportDefault (value : Nat)
  | declarator (name : Option String) (value : Option Nat)
  | call (callee : Nat) (arguments : List Nat)
  | object (properties : List Nat)
  /-- An entry of an object; a computed key is unknown. -/
  | property (key : Option String) (value : Nat)
  | array (elements : List Nat)
  | identifier (name : String)
  | string (text : String)
  | function (parameters : List String) (body : Nat)
  | returned (argument : Option Nat)
  | assignment (target value : Nat)
  | update (target : Nat)
  | member (object : Nat) (property : String)
  | this
  | template (elements : List Nat)
  /-- The opening tag of an element. -/
  | element (tag : String)
  | other (children : List Nat)
  deriving DecidableEq, Repr, Inhabited

namespace Shape

/-- The places of a node's children in source order. -/
def children : Shape → List Nat
  | program body => body
  | exportDefault value => [value]
  | declarator _ value => value.toList
  | call callee arguments => callee :: arguments
  | object properties => properties
  | property _ value => [value]
  | array elements => elements
  | function _ body => [body]
  | returned argument => argument.toList
  | assignment target value => [target, value]
  | update target => [target]
  | member receiver _ => [receiver]
  | template elements => elements
  | other children => children
  -- The words of an import are texts, and none of them is a node.
  | staticImport .. | dynamicImport _ | identifier _ | string _ | this | element _ => []

/-- The node is an object. -/
def isObject : Shape → Bool
  | .object _ => true
  | _ => false

/-- The node is an array. -/
def isArray : Shape → Bool
  | .array _ => true
  | _ => false

end Shape

/-- A node with the bytes that it covers. -/
structure TreeNode where
  shape : Shape
  span : Span
  deriving DecidableEq, Repr, Inhabited

/-- The syntax tree of one file: its script, and the tags of its template if it has any. -/
structure SyntaxTree where
  nodes : Array TreeNode
  program : Nat
  template : Option Nat
  deriving Repr, Inhabited

namespace SyntaxTree

/-- What the node at a place is. -/
def shape? (tree : SyntaxTree) (place : Nat) : Option Shape := tree.nodes[place]?.map TreeNode.shape

/-- The bytes that the node at a place covers. -/
def span? (tree : SyntaxTree) (place : Nat) : Option Span := tree.nodes[place]?.map TreeNode.span

/-- The statements of the script. -/
def statements (tree : SyntaxTree) : List Nat :=
  match tree.shape? tree.program with
  | some (.program body) => body
  | _ => []

/-! ### Walks -/

/-- Meeting a fresh place leaves fewer fresh places. -/
theorem count_met (fresh : Array Bool) (i : Nat) (isFresh : fresh[i]? = some true) :
    -- One place turns from fresh to met, and no other one changes.
    (fresh.setIfInBounds i false).count true < fresh.count true := by
  obtain ⟨inside, isTrue⟩ := Array.getElem?_eq_some_iff.mp isFresh
  have bound : (if fresh[i] == true then 1 else 0) ≤ fresh.count true := Array.boole_getElem_le_count inside
  rw [Array.setIfInBounds_def, dif_pos inside, Array.count_set, isTrue]
  rw [isTrue] at bound
  have one : (if (true == true) = true then 1 else 0) = 1 := rfl
  have zero : (if (false == true) = true then 1 else 0) = 0 := rfl
  rw [one] at bound
  rw [one, zero]
  omega

/-- A walk with a visitor, which is told each node that is met, carries a value along, and says whether to go on to the
children. The stack holds the places to go to; a place counts as fresh until it is met. -/
def walkOn {σ : Type} (tree : SyntaxTree) (visit : Nat → Shape → σ → Bool × σ) (fresh : Array Bool)
    (stack : List Nat) (carried : σ) : σ :=
  match stack with
  | [] => carried
  | place :: rest =>
    if _isFresh : fresh[place]? = some true then
      -- A fresh place is one of the array, so that there is a node.
      let shape := (tree.shape? place).getD (.other [])
      let (enters, carried) := visit place shape carried
      -- What is below the node comes before what is beside it.
      walkOn tree visit (fresh.setIfInBounds place false)
        (if enters then shape.children ++ rest else rest) carried
    -- A place that was met before, or that lies outside of the array, is passed over.
    else walkOn tree visit fresh rest carried
termination_by (fresh.count true, stack.length)
decreasing_by
  · exact Prod.Lex.left _ _ (count_met fresh place _isFresh)
  · apply Prod.Lex.right
    simp

/-- What a visitor carries from a walk that starts at a place. -/
def visitFrom {σ : Type} (tree : SyntaxTree) (visit : Nat → Shape → σ → Bool × σ) (start : Nat) (carried : σ) : σ :=
  tree.walkOn visit (Array.replicate tree.nodes.size true) [start] carried

/-- The places at and below a place in pre-order, without those below nodes that are not entered. -/
def walkInto (tree : SyntaxTree) (enters : Shape → Bool) (start : Nat) : List Nat :=
  (tree.visitFrom (fun place shape met => (enters shape, place :: met)) start []).reverse

/-- The places at and below a place in pre-order. -/
def walk (tree : SyntaxTree) (start : Nat) : List Nat := tree.walkInto (fun _ => true) start

/-- The first place at or below a place, in pre-order, whose node satisfies a condition. -/
def find? (tree : SyntaxTree) (start : Nat) (condition : Shape → Bool) : Option Nat :=
  tree.visitFrom (fun place shape found =>
    match found with
    | some first => (false, some first)
    | none => if condition shape then (false, some place) else (true, none)) start none

/-! ### Objects and leaves -/

/-- The named entries of an object in source order, each with the place of its value. -/
def entries (tree : SyntaxTree) (place : Nat) : List (String × Nat) :=
  match tree.shape? place with
  | some (.object properties) => properties.filterMap fun p =>
    match tree.shape? p with
    | some (.property (some key) value) => some (key, value)
    -- A computed key, or a spread in place of an entry, names nothing.
    | _ => none
  | _ => []

/-- The value of the first entry of an object with a key. -/
def valueOf? (tree : SyntaxTree) (place : Nat) (key : String) : Option Nat :=
  ((tree.entries place).find? fun entry => entry.1 == key).map (·.2)

/-- The text of a string. -/
def stringAt? (tree : SyntaxTree) (place : Nat) : Option String :=
  match tree.shape? place with
  | some (.string text) => some text
  | _ => none

/-- The name of an identifier. -/
def identifierAt? (tree : SyntaxTree) (place : Nat) : Option String :=
  match tree.shape? place with
  | some (.identifier name) => some name
  | _ => none

end SyntaxTree

end LayerAudit
