import LayerAudit.Extraction.Routes
import LayerAudit.Proofs.Sorted
import LayerAudit.Proofs.Tree.Laying
import LayerAudit.Proofs.Tree.Traversal
import Mathlib.Data.List.Flatten

/-!
The routes of a script, found in two steps. Three searches, one after another, give the route table. Then the entries of
the table and of the tables inside it are listed with the entries around them, and each of them is read by itself. One
walk that notes three candidates, and one recursion that carries a path along, extract the same.
-/

namespace LayerAudit.Routes

open Script SyntaxTree

/-! ### The table -/

section

variable (tree : SyntaxTree)

/-- The node at a place is an array. -/
def isArrayAt (place : Nat) : Bool := (tree.shape? place).any Shape.isArray

/-- The node at a place is an object. -/
def isObjectAt (place : Nat) : Bool := (tree.shape? place).any Shape.isObject

/-- The array that a node gives a name to, if the name is one of those looked for. -/
def declaredArray? (isSought : Option String → Bool) (place : Nat) : Option Nat :=
  match tree.shape? place with
  | some (.declarator name (some value)) => if isSought name && isArrayAt tree value then some value else none
  | _ => none

/-- The array that a node puts under the key for routes. -/
def keyedArray? (place : Nat) : Option Nat :=
  match tree.shape? place with
  | some (.property (some key) value) => if key = "routes" && isArrayAt tree value then some value else none
  | _ => none

/-- The name is that of a route table. -/
def isRoutesName (name : Option String) : Bool := name == some "routes"

/-- The first array with the name for routes, else the first one under the key for routes, else the first array with
any name. Each of them is the first in pre-order. -/
def routeTable? : Option Nat :=
  let script := tree.walk tree.program
  (script.findSome? (declaredArray? tree isRoutesName)).or
    ((script.findSome? (keyedArray? tree)).or (script.findSome? (declaredArray? tree fun _ => true)))

end

variable {tree : SyntaxTree} {roots : List Nat}

/-- A candidate is noted where there was none before. -/
theorem carriedOn_meet (found : Candidates) (place : Nat) :
    tree.carriedOn (meet tree) found place =
      ⟨found.named.or (declaredArray? tree isRoutesName place), found.keyed.or (keyedArray? tree place),
        found.any.or (declaredArray? tree (fun _ => true) place)⟩ := by
  unfold carriedOn declaredArray? keyedArray?
  cases tree.shape? place with
  | none => simp [meet]
  | some shape =>
    -- Only variables and entries of objects hold candidates.
    cases shape with
    | declarator name value =>
      cases value with
      | none => simp [meet]
      | some value =>
        by_cases isArray : (tree.shape? value).any Shape.isArray = true <;>
          by_cases isNamed : name = some "routes" <;> simp [meet, isArrayAt, isRoutesName, isArray, isNamed]
    | property key value =>
      cases key with
      | none => simp [meet]
      | some key =>
        -- Both the key and the value decide, and either may fail.
        by_cases isTable : key = "routes" ∧ (tree.shape? value).any Shape.isArray = true <;>
          simp [meet, isArrayAt, isTable]
    | _ => simp [meet]

/-- A walk notes the first candidate of each sort behind those that it knows already. -/
theorem foldl_meet (places : List Nat) (found : Candidates) :
    places.foldl (tree.carriedOn (meet tree)) found =
      ⟨found.named.or (places.findSome? (declaredArray? tree isRoutesName)),
        found.keyed.or (places.findSome? (keyedArray? tree)),
        found.any.or (places.findSome? (declaredArray? tree fun _ => true))⟩ := by
  -- What was noted before counts first, and then the first place of the list, and then the rest.
  induction places generalizing found with
  | nil => simp
  | cons place rest ih =>
    rw [List.foldl_cons, ih, carriedOn_meet]
    simp only [List.findSome?_cons, Option.or_assoc]
    congr 2 <;> split <;> simp_all

/-- The table is what three searches find. -/
theorem table?_eq (forest : Forest tree.nodes roots) (isRoot : tree.program ∈ roots) :
    table? tree = routeTable? tree := by
  have inside : tree.program < tree.nodes.size := forest.root_lt isRoot
  unfold table? routeTable?
  rw [visitFrom_eq_foldl forest (fun _ _ _ => rfl) inside, foldl_meet, walk_eq_preorder forest inside]
  simp [Option.or_assoc]

/-! ### Entries -/

/-- The elements of the array at a place. -/
def elementsAt (tree : SyntaxTree) (place : Nat) : List Nat :=
  match tree.shape? place with
  | some (.array elements) => elements
  | _ => []

/-- An entry of a table comes before the table. -/
theorem lt_of_mem_elementsAt (forest : Forest tree.nodes roots) {table route : Nat}
    (member : route ∈ elementsAt tree table) : route < table := by
  unfold elementsAt at member
  -- Elements are the children of an array, and children come before their node.
  split at member
  · rename_i elements found
    refine forest.descending table route ?_
    rw [childrenAt_of_shape? found]
    exact member
  · cases member

/-- The value of an entry of an object lies two levels below the object. -/
theorem exists_of_valueOf? {place value : Nat} {key : String} (found : tree.valueOf? place key = some value) :
    ∃ entry ∈ childrenAt tree.nodes place, value ∈ childrenAt tree.nodes entry := by
  obtain ⟨pair, isFirst, rfl⟩ := Option.map_eq_some_iff.mp found
  have listed := List.mem_of_find?_eq_some isFirst
  unfold SyntaxTree.entries at listed
  split at listed
  · rename_i properties isObject
    -- The entry is a child of the object, and the value is the one child of the entry.
    obtain ⟨entry, member, isEntry⟩ := List.mem_filterMap.mp listed
    refine ⟨entry, ?_, ?_⟩
    · rw [childrenAt_of_shape? isObject]
      exact member
    · split at isEntry
      · rename_i key value isProperty
        cases isEntry
        rw [childrenAt_of_shape? isProperty]
        exact List.mem_singleton_self value
      · cases isEntry
  · cases listed

/-- The value of an entry of an object comes before the object. -/
theorem valueOf?_lt (forest : Forest tree.nodes roots) {place value : Nat} {key : String}
    (found : tree.valueOf? place key = some value) : value < place := by
  obtain ⟨entry, isEntry, isValue⟩ := exists_of_valueOf? found
  exact Nat.lt_trans (forest.descending entry value isValue) (forest.descending place entry isEntry)

/-- An entry of a route table with the entries around it, the outermost first. -/
structure Lineage where
  around : List Nat
  entry : Nat
  deriving DecidableEq, Repr

/-- The object entries of a table and of the tables inside it, each before those of its own table. -/
def lineages (forest : Forest tree.nodes roots) (around : List Nat) (table : Nat) : List Lineage :=
  -- An element that is no object is passed over.
  (elementsAt tree table).attach.flatMap fun route =>
    if isObjectAt tree route.1 then
      ⟨around, route.1⟩ :: match _found : tree.valueOf? route.1 "children" with
        | some inner => lineages forest (around ++ [route.1]) inner
        | none => []
    else []
termination_by table
decreasing_by exact Nat.lt_trans (valueOf?_lt forest _found) (lt_of_mem_elementsAt forest route.2)

/-- The path that is written in an entry. -/
def pathLiteral? (tree : SyntaxTree) (route : Nat) : Option String :=
  (tree.valueOf? route "path").bind tree.stringAt?

/-- The paths that are written in some entries, joined from the left. -/
def pathAlong (tree : SyntaxTree) (routes : List Nat) : String :=
  (routes.filterMap (pathLiteral? tree)).foldl joinPath ""

/-- The module that a node imports when it is needed. -/
def imported? (tree : SyntaxTree) (place : Nat) : Option String :=
  match tree.shape? place with
  | some (.dynamicImport specifier) => specifier
  | _ => none

/-- The component that a value stands for: what the last default import of its name leads to or, if it is no name, what
the first dynamic import in it leads to. -/
def resolved? (file : SourceModule) (value : Nat) : Option ImportTarget :=
  match file.tree.identifierAt? value with
  | some name => (file.imports.reverse.find? fun entry => entry.byDefault == some name).map (·.target)
  | none => ((file.tree.walk value).findSome? (imported? file.tree)).map (file.scope.resolve file.path)

/-- What an entry of a table amounts to: one route with two edges if a path is written in it and its component is
known, and nothing otherwise. -/
def routeOf (file : SourceModule) (lineage : Lineage) : Extraction :=
  match pathLiteral? file.tree lineage.entry, (file.tree.valueOf? lineage.entry "component").bind (resolved? file) with
  | some _, some component =>
    -- The route is named by the path from the root of the table on.
    let path := pathAlong file.tree (lineage.around ++ [lineage.entry])
    let id := SymbolNode.scopedId .route file.path path
    { symbols := [{
        id, kind := .route, name := path, owner := file.path
        purpose := some s!"Route \x60{path}\x60"
        routePath := some path
        routeName := (file.tree.valueOf? lineage.entry "name").bind file.tree.stringAt? }]
      edges := [⟨id, component.id, .rendersComponent⟩, ⟨file.path, id, .definesRoute⟩] }
  | _, _ => {}

/-- Behind the entries around it, an entry goes on with the path that is written in it, if there is one. -/
theorem pathAlong_concat (tree : SyntaxTree) (around : List Nat) (route : Nat) :
    pathAlong tree (around ++ [route]) =
      ((pathLiteral? tree route).map (joinPath (pathAlong tree around))).getD (pathAlong tree around) := by
  unfold pathAlong
  rw [List.filterMap_append, List.foldl_append]
  cases written : pathLiteral? tree route <;> simp [written]

/-- Of all default imports of a name the last one counts. -/
theorem get?_defaultBindings (file : SourceModule) (name : String) :
    Sorted.get? name file.defaultBindings =
      (file.imports.reverse.find? fun entry => entry.byDefault == some name).map (·.target) := by
  unfold SourceModule.defaultBindings
  rw [Sorted.get?_ofList, ← List.filterMap_reverse]
  -- An import without a default name is passed on both sides.
  induction file.imports.reverse with
  | nil => rfl
  | cons entry rest ih =>
    cases given : entry.byDefault with
    | none => simpa [given] using ih
    | some other =>
      by_cases same : name = other
      · simp [given, same, Sorted.get?_cons]
      · simp [given, Sorted.get?_cons, same, Ne.symm same, ih]

/-- The first element that gives something gives the first thing that is given. -/
theorem find?_bind {α β : Type} (give : α → Option β) (list : List α) :
    (list.find? fun element => (give element).isSome).bind give = list.findSome? give := by
  -- Where the first element gives something the search stops, and otherwise both go on.
  induction list with
  | nil => rfl
  | cons element rest ih =>
    rw [List.find?_cons, List.findSome?_cons]
    cases given : give element <;> simp [given, ih]

/-- The component of a value that is no name is what the first dynamic import in it leads to. -/
theorem componentOf?_eq (file : SourceModule) (value : Nat) :
    componentOf? file file.defaultBindings value = resolved? file value := by
  -- A dynamic import is looked for by its shape, and then its module is read off at the place that was found.
  have isImport (place : Nat) :
      (file.tree.shape? place).any importsKnown = (imported? file.tree place).isSome := by
    unfold imported?
    cases file.tree.shape? place with
    | none => rfl
    | some shape =>
      cases shape with
      | dynamicImport specifier => cases specifier <;> rfl
      | _ => rfl
  unfold componentOf? resolved?
  -- A name is looked up among the default imports, and anything else is searched for a dynamic import.
  cases file.tree.identifierAt? value with
  | some name => exact get?_defaultBindings file name
  | none =>
    simp only [find?_eq, isImport, ← find?_bind, Option.map_bind]
    refine congrArg (Option.bind _) (funext fun place => ?_)
    unfold imported?
    -- The place was found for its shape, so that reading it again gives the module.
    split
    · rename_i found
      simp [found]
    · rename_i unknown
      simp only [Function.comp_apply]
      split
      · rename_i specifier found
        cases specifier with
        | none => rfl
        | some specifier => exact absurd found (unknown specifier)
      · rfl

/-- An entry that is read with the path around it gives what it gives with the entries around it. -/
theorem extractEntry_entryOf (file : SourceModule) (around : List Nat) (route : Nat) :
    extractEntry file.path (entryOf file file.defaultBindings (pathAlong file.tree around) route) =
      routeOf file ⟨around, route⟩ := by
  have component : (file.tree.valueOf? route "component").bind (componentOf? file file.defaultBindings) =
      (file.tree.valueOf? route "component").bind (resolved? file) :=
    congrArg (Option.bind _) (funext (componentOf?_eq file))
  unfold extractEntry entryOf routeOf
  rw [component, pathAlong_concat]
  unfold pathLiteral?
  -- Without a path or without a component there is no route on either side.
  cases (file.tree.valueOf? route "path").bind file.tree.stringAt? with
  | none => rfl
  | some written => cases (file.tree.valueOf? route "component").bind (resolved? file) <;> rfl

/-- An entry comes before those of its own table, whose elements it stands around. -/
theorem lineages_eq (forest : Forest tree.nodes roots) (around : List Nat) (table : Nat) :
    lineages forest around table = (elementsAt tree table).flatMap fun route =>
      if isObjectAt tree route then
        ⟨around, route⟩ :: ((tree.valueOf? route "children").map (lineages forest (around ++ [route]))).getD []
      else [] := by
  -- That an element is one of the table does not matter for what it gives.
  rw [lineages, ← List.attach_map_subtype_val (elementsAt tree table), List.flatMap_map,
    List.attach_map_subtype_val]
  refine List.flatMap_congr fun route _ => ?_
  split
  · split <;> simp_all
  · rfl

/-- The recursion goes into every inner table, since it is laid down before the table around it. -/
theorem entries_flatMap {file : SourceModule} (forest : Forest file.tree.nodes roots)
    (defaults : List (String × ImportTarget)) (parent : String) (table : Nat) :
    entries file defaults parent table = (elementsAt file.tree table).flatMap fun route =>
      if isObjectAt file.tree route then
        let entry := entryOf file defaults parent route
        entry :: ((file.tree.valueOf? route "children").map (entries file defaults (entry.path.getD parent))).getD []
      else [] := by
  -- The recursion asks whether the inner table comes before the outer one, which it does in a forest.
  have before : ∀ route ∈ elementsAt file.tree table, ∀ inner,
      file.tree.valueOf? route "children" = some inner → inner < table := by
    intro route member inner found
    exact Nat.lt_trans (valueOf?_lt forest found) (lt_of_mem_elementsAt forest member)
  rw [entries]
  split
  · rename_i elements isArray
    have same : elementsAt file.tree table = elements := by rw [elementsAt, isArray]
    rw [same] at before ⊢
    refine List.flatMap_congr fun route member => ?_
    unfold isObjectAt
    split
    · cases found : file.tree.valueOf? route "children" with
      | none => rfl
      | some inner => simp [before route member inner found]
    · rfl
  · -- What is no array has no elements.
    rename_i noArray
    have none : elementsAt file.tree table = [] := by
      unfold elementsAt
      split
      · rename_i elements isArray
        exact absurd isArray (noArray elements)
      · rfl
    rw [none, List.flatMap_nil]

/-- One recursion that carries the path along gives the same as the list of all entries with those around them. -/
theorem entries_eq {file : SourceModule} (forest : Forest file.tree.nodes roots) (around : List Nat) (table : Nat) :
    (entries file file.defaultBindings (pathAlong file.tree around) table).map (extractEntry file.path) =
      (lineages forest around table).map (routeOf file) := by
  -- The induction goes down to the tables inside this one, which are laid down before it.
  induction table using Nat.strongRecOn generalizing around with
  | _ table ih =>
    rw [entries_flatMap forest, lineages_eq, List.map_flatMap, List.map_flatMap]
    refine List.flatMap_congr fun route member => ?_
    split
    · -- The entry gives one route, and the table inside it is read with the path around it.
      rw [List.map_cons, List.map_cons, extractEntry_entryOf]
      refine congrArg _ ?_
      cases found : file.tree.valueOf? route "children" with
      | none => rfl
      | some inner =>
        have before : inner < table := Nat.lt_trans (valueOf?_lt forest found) (lt_of_mem_elementsAt forest member)
        -- The path around the inner table is the one along all entries around it.
        have parent : (entryOf file file.defaultBindings (pathAlong file.tree around) route).path.getD
            (pathAlong file.tree around) = pathAlong file.tree (around ++ [route]) := by
          rw [pathAlong_concat]
          rfl
        simp only [Option.map_some, Option.getD_some]
        rw [parent]
        exact ih inner before (around ++ [route])
    · rfl

/-- The entries of a table and of the tables inside it are met in their order by a walk over the table, each once. -/
theorem lineages_sublist (forest : Forest tree.nodes roots) (around : List Nat) (table : Nat) :
    ((lineages forest around table).map Lineage.entry).Sublist (preorder tree.nodes table) := by
  induction table using Nat.strongRecOn generalizing around with
  -- Elements are met one after another, so that what is inside each of them is looked at by itself.
  | _ table ih =>
    rw [lineages_eq, List.map_flatMap, preorder_eq forest]
    -- The elements of an array are all its children, and any other node has no entries.
    have children : (elementsAt tree table).Sublist (childrenAt tree.nodes table) := by
      unfold elementsAt
      split
      · rename_i elements isArray
        rw [childrenAt_of_shape? isArray]
        exact List.Sublist.refl elements
      · exact List.nil_sublist _
    refine List.Sublist.cons _ (List.Sublist.trans (List.Sublist.flatMap_right _ ?_) (children.flatMap _))
    intro route member
    split
    · rw [List.map_cons, preorder_eq forest]
      refine List.Sublist.cons_cons route ?_
      cases found : tree.valueOf? route "children" with
      | none => exact List.nil_sublist _
      | some inner =>
        -- All that is met below the inner table is met together below the entry that holds it.
        obtain ⟨holder, isHolder, isInner⟩ := exists_of_valueOf? found
        have before : inner < table := Nat.lt_trans (valueOf?_lt forest found) (lt_of_mem_elementsAt forest member)
        have held : inner ∈ preorder tree.nodes holder := by
          refine child_mem_preorder forest ?_ isInner
          rw [preorder_eq forest]
          exact List.mem_cons_self ..
        calc (lineages forest (around ++ [route]) inner).map Lineage.entry
            _ |>.Sublist (preorder tree.nodes inner) := ih inner before (around ++ [route])
            _ |>.Sublist (preorder tree.nodes holder) := (preorder_together forest held).sublist
            _ |>.Sublist ((childrenAt tree.nodes route).flatMap (preorder tree.nodes)) :=
              List.sublist_flatten_of_mem (List.mem_map_of_mem isHolder)
    · exact List.nil_sublist _

/-- What is extracted from a router file. Three searches, one after another, give the route table. Every object entry of
it and of the tables inside it gives one route with two edges if a path is written in it and its component is known, and
nothing otherwise; the path of the route is joined from the left out of those that are written around it and its own.
The entries come in pre-order, each once. -/
theorem extract_eq_lineages (text : String) (root : Cst) (tags : List (String × Span)) (path : String)
    (scope : ImportScope) :
    let file : SourceModule := ⟨path, Tree.ofScript text root tags, scope⟩
    let inside := lineages (Tree.ofScript_forest text root tags) []
    extract file = ((routeTable? file.tree).map fun table => .joined ((inside table).map (routeOf file))).getD {} ∧
      ∀ table < file.tree.nodes.size, ((inside table).map Lineage.entry).Sublist (file.tree.walk table) := by
  intro file inside
  -- The script and the template are the roots, and the search starts at the script.
  have forest : Forest file.tree.nodes file.tree.roots := Tree.ofScript_forest text root tags
  refine ⟨?_, fun table within => ?_⟩
  · unfold extract
    rw [table?_eq forest (List.mem_cons_self ..)]
    cases routeTable? file.tree with
    | none => rfl
    | some table => exact congrArg Extraction.joined (entries_eq forest [] table)
  · rw [walk_eq_preorder forest within]
    exact lineages_sublist forest [] table

end LayerAudit.Routes
