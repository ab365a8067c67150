import LayerAudit.Extraction.Basic

/-!
What a file defines as a state store: the store with its state fields, getters and actions, and how the bodies of its
getters and actions read fields, change them, and call actions.
-/

namespace LayerAudit.Store

/-- The members of a store. -/
structure Members where
  store : String
  state : List String
  /-- Getters and actions with the places of their values. -/
  getters : List (String × Nat)
  actions : List (String × Nat)
  deriving DecidableEq, Repr, Inhabited

/-- The arguments of the first call of the store factory. -/
def factoryArguments? (factory : String) (tree : SyntaxTree) : Option (List Nat) :=
  let isFactoryCall : Shape → Bool
    | .call callee _ => tree.identifierAt? callee == some factory
    | _ => false
  -- The first call in source order defines the store, and there may be no other one.
  (tree.find? tree.program isFactoryCall).bind fun place =>
    match tree.shape? place with
    | some (.call _ arguments) => some arguments
    | _ => none

/-- The shape is a return with an argument. -/
def returnsValue : Shape → Bool
  | .returned (some _) => true
  | _ => false

/-- The object that a function body hands back: the body itself, or what its first return with an argument returns. -/
def returnedObject? (tree : SyntaxTree) (body : Nat) : Option Nat :=
  match tree.shape? body with
  -- An arrow may have an object as its body, without any return.
  | some (.object _) => some body
  | _ =>
    (tree.find? body returnsValue).bind fun place =>
      match tree.shape? place with
      -- Any other value that is returned names no fields.
      | some (.returned argument) => argument.filter fun a => (tree.shape? a).any Shape.isObject
      | _ => none

/-- The object with the initial state: written out, or handed back by a function. -/
def stateObject? (tree : SyntaxTree) (state : Nat) : Option Nat :=
  match tree.shape? state with
  | some (.object _) => some state
  | some (.function _ body) => returnedObject? tree body
  | _ => none

/-- The members of a store with some options. -/
def membersOf (tree : SyntaxTree) (store : String) (options : Nat) : Members where
  store
  state := (((tree.valueOf? options "state").bind (stateObject? tree)).map fun o => (tree.entries o).map (·.1)).getD []
  getters := ((tree.valueOf? options "getters").map tree.entries).getD []
  actions := ((tree.valueOf? options "actions").map tree.entries).getD []

/-- The edges from the body of a member of the store. An object counts as the store where it is written as such a name,
or as the word for the receiver itself. -/
structure Body where
  members : Members
  /-- The id and the name of the member. -/
  id : String
  name : String
  /-- The parameter through which a getter sees the store. -/
  parameter : Option String
  deriving DecidableEq, Repr, Inhabited

namespace Body

/-- The node at a place stands for the store. -/
def isReceiver (body : Body) (tree : SyntaxTree) (place : Nat) : Bool :=
  match tree.shape? place with
  | some .this => true
  | some (.identifier name) => body.parameter == some name
  | _ => false

/-- The edge for a use of a member, if it is a state field. -/
def stateUse? (body : Body) (property : String) (relation : Relation) : Option Edge :=
  if body.members.state.contains property then
    some ⟨body.id, SymbolNode.scopedId .stateField body.members.store property, relation⟩
  else none

/-- The edge for a call of a member, if it is another action. -/
def callOf? (body : Body) (property : String) : Option Edge :=
  if property != body.name && (body.members.actions.map (·.1)).contains property then
    some ⟨body.id, SymbolNode.scopedId .action body.members.store property, .calls⟩
  else none

/-- What a walk through a body carries along: the places known to be written to, and the edges found, last first. -/
structure Found where
  written : List Nat := []
  edges : List Edge := []
  deriving DecidableEq, Repr, Inhabited

/-- Meet one node of a body. Targets of assignments are met after the assignments themselves. -/
def meet (body : Body) (tree : SyntaxTree) (place : Nat) (shape : Shape) (found : Found) : Bool × Found :=
  (true, match shape with
    -- What is written to is noted here and told from what is read when it is met.
    | .assignment target _ | .update target => { found with written := target :: found.written }
    | .member receiver property =>
      if body.isReceiver tree receiver then
        let relation := if found.written.contains place then .modifiesState else .readsState
        { found with edges := (body.stateUse? property relation).toList ++ found.edges }
      else found
    | .call callee _ =>
      -- A call of a member is an edge of its own, beside the one for the member that is called.
      match tree.shape? callee with
      | some (.member receiver property) =>
        if body.isReceiver tree receiver then { found with edges := (body.callOf? property).toList ++ found.edges }
        else found
      | _ => found
    | _ => found)

/-- The edges from a body, in the order of the places that they come from. -/
def edges (body : Body) (tree : SyntaxTree) (start : Nat) : List Edge :=
  (tree.visitFrom (body.meet tree) start {}).edges.reverse

end Body

/-- The edges from one getter or action. A getter may see the store through its first parameter. -/
def memberEdges (tree : SyntaxTree) (members : Members) (kind : SymbolKind) (entry : String × Nat) : List Edge :=
  match tree.shape? entry.2 with
  | some (.function parameters body) =>
    -- Only getters are passed the state as a parameter.
    let parameter := if kind = .getter then parameters.head? else none
    Body.edges ⟨members, SymbolNode.scopedId kind members.store entry.1, entry.1, parameter⟩ tree body
  | _ => []

/-- A member as a symbol of the store, with the edge that defines it. -/
def definition (kind : SymbolKind) (path store name : String) : Extraction :=
  let symbol := SymbolNode.within kind store name path
  { symbols := [symbol], edges := [⟨store, symbol.id, .defines⟩] }

/-- What the members of a store amount to. -/
def extractMembers (file : SourceModule) (members : Members) : Extraction :=
  .joined (members.state.map (definition .stateField file.path members.store)) ++
    .joined ((members.getters.map (·.1)).map (definition .getter file.path members.store)) ++
    .joined ((members.actions.map (·.1)).map (definition .action file.path members.store)) ++
    -- The edges come behind all symbols, since an edge may lead to a member that is defined later.
    { edges := members.getters.flatMap (memberEdges file.tree members .getter) ++
        members.actions.flatMap (memberEdges file.tree members .action) }

/-- The name of a store: a string, or the name of a value. -/
def storeName? (tree : SyntaxTree) (argument : Nat) : Option String :=
  (tree.stringAt? argument).or (tree.identifierAt? argument)

/-- What is extracted from the arguments of the store factory. -/
def extractCall (file : SourceModule) (arguments : List Nat) : Extraction :=
  match arguments.head?.bind (storeName? file.tree) with
  | none => {}
  | some store =>
    let symbol := (SymbolNode.standalone .store store file.path).withPurpose s!"State store \x60{store}\x60"
    let itself : Extraction := { symbols := [symbol], edges := [⟨file.path, store, .defines⟩] }
    -- A store without options has no members that are known.
    match arguments[1]?.filter fun o => (file.tree.shape? o).any Shape.isObject with
    | none => itself
    | some options => itself ++ extractMembers file (membersOf file.tree store options)

/-- What is extracted from a state store file. -/
def extract (factory : String) (file : SourceModule) : Extraction :=
  match factoryArguments? factory file.tree with
  | none => {}
  | some arguments => extractCall file arguments

end LayerAudit.Store
