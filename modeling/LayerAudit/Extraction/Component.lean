import LayerAudit.Config.Basic
import LayerAudit.Extraction.Basic
import LayerAudit.Pattern.Basic

/-!
What a component file declares and uses: input properties, emitted events, stores behind imported hooks, and the
imported components that its template names.
-/

namespace LayerAudit

/-- An order in which the imported names of each file are met. The names are kept without any order of their own, and one
run may meet them in another order than the next. -/
structure BindingOrder where
  order : SourceModule → List (String × ImportTarget)
  /-- Every imported name occurs, with its target, as often as in the file. -/
  perm : ∀ file, (order file).Perm file.bindings

/-- The names sorted as texts. -/
def BindingOrder.sorted : BindingOrder := ⟨SourceModule.bindings, fun _ => .refl _⟩

instance : Inhabited BindingOrder := ⟨.sorted⟩

/-- The names that extraction looks for. -/
structure Vocabulary where
  propsMacro : String
  emitsMacro : String
  storeFactory : String
  storeHook : Pattern
  deriving DecidableEq, Repr, Inhabited

namespace Component

/-- What the name of a called function says about the call. -/
inductive CallRole
  | props | emits | storeHook | plain
  deriving DecidableEq, Repr, Inhabited

/-- The role of a call by the name of its callee. -/
def callRole (words : Vocabulary) (name : String) : CallRole :=
  if name = words.propsMacro then .props
  else if name = words.emitsMacro then .emits
  else if words.storeHook.matchesIn name then .storeHook
  else .plain

/-- The names that a value declares: the strings of an array, or the keys of an object. -/
def declaredNames (tree : SyntaxTree) (place : Nat) : List String :=
  match tree.shape? place with
  | some (.array elements) => elements.filterMap tree.stringAt?
  | some (.object _) => (tree.entries place).map (·.1)
  | _ => []

/-- The options of a component that is exported as an object, or as a call whose first argument is one. -/
def optionsOf? (tree : SyntaxTree) (value : Nat) : Option Nat :=
  match tree.shape? value with
  | some (.object _) => some value
  | some (.call _ arguments) => arguments.head?.filter fun a => (tree.shape? a).any Shape.isObject
  | _ => none

/-- The role of the call at a place, with its arguments. -/
def callAt? (words : Vocabulary) (tree : SyntaxTree) (place : Nat) : Option (CallRole × String × List Nat) :=
  match tree.shape? place with
  | some (.call callee arguments) =>
    (tree.identifierAt? callee).map fun name => (callRole words name, name, arguments)
  | _ => none

/-- The names declared by a macro call, or by an option of the component, at a place. -/
def declaredAt (words : Vocabulary) (tree : SyntaxTree) (role : CallRole) (option : String) (place : Nat) :
    List String :=
  match tree.shape? place with
  -- A component may export its options as a whole, where each kind of name has a key.
  | some (.exportDefault value) =>
    (((optionsOf? tree value).bind fun options => tree.valueOf? options option).map (declaredNames tree)).getD []
  | _ =>
    match callAt? words tree place with
    | some (found, _, arguments) =>
      -- A macro takes the names as its first argument.
      if found = role then (arguments.head?.map (declaredNames tree)).getD [] else []
    | none => []

/-- The input properties of a component. -/
def propNames (words : Vocabulary) (tree : SyntaxTree) : List String :=
  (tree.walk tree.program).flatMap (declaredAt words tree .props "props")

/-- The events that a component emits. -/
def eventNames (words : Vocabulary) (tree : SyntaxTree) : List String :=
  (tree.walk tree.program).flatMap (declaredAt words tree .emits "emits")

/-- The edges to the files of stores, one for each call of an imported hook. -/
def storeUses (words : Vocabulary) (file : SourceModule) : List Edge :=
  let bindings := file.bindings
  (file.tree.walk file.tree.program).filterMap fun place =>
    match callAt? words file.tree place with
    | some (.storeHook, name, _) =>
      -- A hook that is not imported may be one of the file itself.
      (Sorted.get? name bindings).map fun target => ⟨file.path, target.id, .usesStoreFile⟩
    | _ => none

/-- The form in which tags and imported names are compared: lower case without hyphens. -/
def tagKey (name : String) : String := String.ofList ((name.toList.filter (· != '-')).flatMap Text.lower)

/-- The ids of imported components by the keys of their names. Of two names with one key the later entry counts. -/
def tagTable (bindings : List (String × ImportTarget)) : List (String × String) :=
  Sorted.ofList (bindings.map fun (name, target) => (tagKey name, target.id))

/-- The edges to imported components, one for each element of the template that names one. -/
def componentUses (bindings : List (String × ImportTarget)) (file : SourceModule) : List Edge :=
  match file.tree.template with
  -- Without a template nothing is used by tags.
  | none => []
  | some template =>
    -- All names are put into the table before the first tag is looked up.
    let table := tagTable bindings
    (file.tree.walk template).filterMap fun place =>
      match file.tree.shape? place with
      | some (.element tag) => (Sorted.get? (tagKey tag) table).map fun target => ⟨file.path, target, .usesComponent⟩
      | _ => none

/-- A declared name as a symbol of the file, with the edge that declares it. -/
def declaration (kind : SymbolKind) (relation : Relation) (title path name : String) : Extraction :=
  let symbol := (SymbolNode.within kind path name path).withPurpose s!"{title} \x60{name}\x60"
  { symbols := [symbol], edges := [⟨path, symbol.id, relation⟩] }

/-- What is extracted from a component file, with the imported names in some order. -/
def extract (bindings : List (String × ImportTarget)) (words : Vocabulary) (file : SourceModule) : Extraction :=
  { edges := storeUses words file } ++
    .joined ((propNames words file.tree).map (declaration .prop .definesProp "Input property" file.path)) ++
    .joined ((eventNames words file.tree).map (declaration .event .definesEvent "Emitted event" file.path)) ++
    { edges := componentUses bindings file }

end Component

end LayerAudit
