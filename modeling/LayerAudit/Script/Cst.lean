/-!
Concrete trees of scripts. A node has a role, the bytes that it covers and its parts in source order, marks such as
brackets and keywords included. Damage in a text shows as error nodes around what was passed over, and as missing
nodes where a token had to be assumed.
-/

namespace LayerAudit.Script

/-- A half-open range of bytes. -/
structure Span where
  start : Nat
  stop : Nat
  deriving DecidableEq, Repr, Inhabited

namespace Span

/-- The number of bytes in a range. -/
def size (span : Span) : Nat := span.stop - span.start

end Span

/-- What a node is, as far as its reading depends on it. -/
inductive Role
  | program
  | importStatement | importClause | namedImports | importSpecifier | namespaceImport
  | exportStatement
  | call
  /-- The keyword of a dynamic import. -/
  | importWord
  | object | pair | method | shorthand | array
  | identifier
  /-- A name that stands for itself, as behind a dot or before a colon. -/
  | propertyName
  | number | string | templateString
  /-- A hole in a template string. -/
  | hole
  | function
  | returnStatement
  | assignment | update | member | subscript | this
  | declarator
  /-- An expression in parentheses. -/
  | group
  /-- An expression with a type ascribed to it. -/
  | cast
  /-- An expression asserted to be present. -/
  | nonNull
  /-- Any other named node. -/
  | construct
  /-- A mark without a name of its own. -/
  | token
  /-- Text that was passed over. -/
  | error
  deriving DecidableEq, Repr, Inhabited

/-- The part that a child plays in its parent. -/
inductive Label
  | source | alias | name | value | function | arguments | left | right | argument | object
  | property | key | parameter | parameters | pattern | body
  deriving DecidableEq, Repr, Inhabited

/-- What is known about a node apart from its children. -/
structure Head where
  role : Role
  label : Option Label := none
  span : Span
  /-- The node may stand anywhere and is no part of its parent's construct. -/
  extra : Bool := false
  /-- The node stands for a token that the text lacks. -/
  missing : Bool := false
  deriving DecidableEq, Repr, Inhabited

/-- A node with its children. -/
inductive Cst
  | mk (head : Head) (children : List Cst)
  deriving Repr, Inhabited

namespace Cst

/-- What is known about a node apart from its children. -/
def head : Cst → Head
  | mk head _ => head

/-- The children of a node in source order. -/
def children : Cst → List Cst
  | mk _ children => children

/-- What a node is. -/
def role (node : Cst) : Role := node.head.role

/-- The bytes that a node covers. -/
def span (node : Cst) : Span := node.head.span

/-- The node with a part in its parent. -/
def withLabel (label : Label) : Cst → Cst
  | mk head children => mk { head with label := some label } children

/-- The first child that plays a part. -/
def child? (node : Cst) (label : Label) : Option Cst :=
  node.children.find? fun child => child.head.label == some label

/-- The node is a construct with a name that belongs to its parent. -/
def isNamed (node : Cst) : Bool := node.role != .token && !node.head.extra

/-- The named children of a node. -/
def namedChildren (node : Cst) : List Cst := node.children.filter isNamed

/-- The node itself is damage. -/
def isDamage (node : Cst) : Bool := node.role == .error || node.head.missing

mutual

/-- There is damage at or below a node. -/
def hasDamage : Cst → Bool
  | mk head children => head.role == .error || head.missing || hasDamageAmong children

/-- There is damage at or below one of several nodes. -/
def hasDamageAmong : List Cst → Bool
  | [] => false
  | node :: rest => hasDamage node || hasDamageAmong rest

end

end Cst

/-! ### Equality -/

namespace Cst

mutual

/-- Two nodes are the same, with all that lies below them. -/
def sameAs : Cst → Cst → Bool
  | mk head children, mk other others => head == other && sameAllAs children others

/-- The same of several nodes. -/
def sameAllAs : List Cst → List Cst → Bool
  | [], [] => true
  | node :: rest, other :: others => sameAs node other && sameAllAs rest others
  | _, _ => false

end

mutual

/-- Nodes that are the same are equal. -/
theorem sameAs_iff (node other : Cst) : sameAs node other = true ↔ node = other := by
  match node, other with
  | mk head children, mk otherHead others => simp [sameAs, sameAllAs_iff children others]

/-- The same of several nodes. -/
theorem sameAllAs_iff (nodes others : List Cst) : sameAllAs nodes others = true ↔ nodes = others := by
  match nodes, others with
  | [], [] => simp [sameAllAs]
  | [], _ :: _ | _ :: _, [] => simp [sameAllAs]
  | node :: rest, other :: others => simp [sameAllAs, sameAs_iff node other, sameAllAs_iff rest others]

end

instance : DecidableEq Cst := fun node other => decidable_of_iff _ (sameAs_iff node other)

end Cst

/-! ### Trees of texts -/

/-- How a script's text is to be read. -/
inductive Dialect
  /-- An angle bracket at the start of an expression is a cast. -/
  | typed
  /-- An angle bracket at the start of an expression is markup. -/
  | markup
  deriving DecidableEq, Repr, Inhabited

/-- The outcome of reading a text, damaged or not. -/
inductive Reading
  | tree (root : Cst)
  /-- The text nests deeper than any script may. -/
  | tooDeep
  deriving Inhabited

/-- The syntax of scripts: the tree that a text is read as. Nothing is asked of it here, so that what is said of scripts
holds of any syntax. -/
class Syntax where
  read : Dialect → List Char → Reading

end LayerAudit.Script
