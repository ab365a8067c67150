import LayerAudit.Proofs.Extraction.RoutePaths
import LayerAudit.Proofs.Tree.Depth

/-!
How deep an accepted script can be, and with it all that recurses over it. A table inside another one lies three levels
below it: in the value of an entry of one of its elements. So routes are read with no more calls inside of each other
than a third of the levels of the script.
-/

namespace LayerAudit.Routes

open Script SyntaxTree

variable {tree : SyntaxTree} {file : SourceModule} {roots : List Nat} {bound calls : Nat}

/-- What lies below a place in pre-order lies some levels below it. -/
theorem under_of_mem_preorder (forest : Forest tree.nodes roots) {top place : Nat}
    (member : place ∈ preorder tree.nodes top) : ∃ levels, Under (childrenAt tree.nodes) top levels place := by
  -- Pre-order is built by descending, so that each step down counts one level.
  induction top using Nat.strongRecOn with
  | _ top ih =>
    rw [preorder_eq forest] at member
    rcases List.mem_cons.mp member with rfl | below
    · exact ⟨0, .self place⟩
    · obtain ⟨child, isChild, inside⟩ := List.mem_flatMap.mp below
      obtain ⟨levels, under⟩ := ih child (forest.descending top child isChild) inside
      exact ⟨levels + 1, .down isChild under⟩

/-- A candidate for the table lies directly below the node that names it. -/
theorem mem_children_of_declaredArray? {isSought : Option String → Bool} {place table : Nat}
    (found : declaredArray? tree isSought place = some table) : table ∈ childrenAt tree.nodes place := by
  unfold declaredArray? at found
  split at found
  · -- Only the value of a declarator can be a candidate, and it is the one child of that node.
    rename_i value isDeclarator
    rw [childrenAt_of_shape? isDeclarator]
    split at found
    · cases found
      exact List.mem_singleton_self table
    · cases found
  · cases found

/-- A candidate for the table lies directly below the entry whose value it is. -/
theorem mem_children_of_keyedArray? {place table : Nat} (found : keyedArray? tree place = some table) :
    table ∈ childrenAt tree.nodes place := by
  unfold keyedArray? at found
  split at found
  · -- Likewise the value of an entry of an object.
    rename_i value isProperty
    rw [childrenAt_of_shape? isProperty]
    split at found
    · cases found
      exact List.mem_singleton_self table
    · cases found
  · cases found

/-- The table lies below the script. -/
theorem under_of_table? (forest : Forest tree.nodes roots) (isRoot : tree.program ∈ roots) {table : Nat}
    (found : table? tree = some table) : ∃ levels, Under (childrenAt tree.nodes) tree.program levels table := by
  rw [table?_eq forest isRoot] at found
  have below {candidate? : Nat → Option Nat}
      (isChild : ∀ place, candidate? place = some table → table ∈ childrenAt tree.nodes place)
      (first : (tree.walk tree.program).findSome? candidate? = some table) :
      ∃ levels, Under (childrenAt tree.nodes) tree.program levels table := by
    obtain ⟨place, met, isCandidate⟩ := List.exists_of_findSome?_eq_some first
    rw [walk_eq_preorder forest (forest.root_lt isRoot)] at met
    exact under_of_mem_preorder forest (child_mem_preorder forest met (isChild place isCandidate))
  -- Each of the three searches gives a value, which lies below the node at which it was found.
  unfold routeTable? at found
  rcases Option.or_eq_some_iff.mp found with named | ⟨-, rest⟩
  · exact below (fun _ => mem_children_of_declaredArray?) named
  · rcases Option.or_eq_some_iff.mp rest with keyed | ⟨-, any⟩
    · exact below (fun _ => mem_children_of_keyedArray?) keyed
    · exact below (fun _ => mem_children_of_declaredArray?) any

/-- A table inside another one lies three levels below it. -/
theorem within_of_children {table route inner : Nat} (within : Within (childrenAt tree.nodes) bound table)
    (isElement : route ∈ elementsAt tree table) (found : tree.valueOf? route "children" = some inner) :
    ∃ lower, bound = lower + 3 ∧ Within (childrenAt tree.nodes) lower inner := by
  have isChild : route ∈ childrenAt tree.nodes table := by
    unfold elementsAt at isElement
    split at isElement
    · rename_i elements isArray
      rw [childrenAt_of_shape? isArray]
      exact isElement
    · cases isElement
  -- The route holds the entry, the entry holds its value, and the array holds the route.
  obtain ⟨entry, isEntry, isValue⟩ := exists_of_valueOf? found
  obtain ⟨first, rfl, withinRoute⟩ := within.of_mem isChild
  obtain ⟨second, rfl, withinEntry⟩ := withinRoute.of_mem isEntry
  obtain ⟨third, rfl, withinValue⟩ := withinEntry.of_mem isValue
  exact ⟨third, rfl, withinValue⟩

section

variable (file : SourceModule) (defaults : List (String × ImportTarget))

/-- The entries of a table and of the tables inside it, as long as no more than a number of calls are needed inside of
each other. -/
def entriesWithin : Nat → String → Nat → Option (List Entry)
  | 0, _, _ => none
  | calls + 1, parent, table =>
    ((elementsAt file.tree table).mapM fun route =>
      if isObjectAt file.tree route then
        let entry := entryOf file defaults parent route
        match file.tree.valueOf? route "children" with
        | some inner => (entriesWithin calls (entry.path.getD parent) inner).map (entry :: ·)
        | none => some [entry]
      else some []).map List.flatten

end

/-- A call for each three levels is enough. -/
theorem entriesWithin_eq (forest : Forest file.tree.nodes roots) (defaults : List (String × ImportTarget))
    (parent : String) {table : Nat} (within : Within (childrenAt file.tree.nodes) bound table)
    (enough : bound < 3 * calls) :
    entriesWithin file defaults calls parent table = some (entries file defaults parent table) := by
  -- One call answers for three levels of the script.
  induction calls generalizing bound parent table with
  | zero => omega
  | succ calls ih =>
    rw [entriesWithin, entries_flatMap forest, List.flatMap_def, Tree.mapM_eq_some]
    · -- The table is read as in the recursion without a bound.
      rfl
    · intro route isElement
      split
      · cases found : file.tree.valueOf? route "children" with
        | none => rfl
        | some inner =>
          -- The inner table has three levels less below itself, and one call less is left for it.
          obtain ⟨lower, rfl, deeper⟩ := within_of_children within isElement found
          simp only [ih _ deeper (by omega), Option.map_some, Option.getD_some]
      · rfl

/-- An accepted script is lowered to nodes that lie no more than twice as deep as its own nodes may lie, and one level
more. Lowering takes no more calls inside of each other than one for each level and one for the script, and reading the
routes takes no more than one for each level. -/
theorem depth_of_accepted (text : String) (root : Cst) (tags : List (String × Span)) (path : String)
    (scope : ImportScope) (accepted : parseStrict text = .ok root ∨ parsePermissive text = .ok root) :
    let file : SourceModule := ⟨path, Tree.ofScript text root tags, scope⟩
    let nodes := file.tree.nodes
    (∀ levels place, Under (childrenAt nodes) file.tree.program levels place → levels ≤ 2 * deepest + 1) ∧
      Tree.outlineWithin text (deepest + 1) .alone root = some (Tree.outlineAt nodes file.tree.program) ∧
      ∀ table, table? file.tree = some table →
        entriesWithin file file.defaultBindings deepest "" table =
          some (entries file file.defaultBindings "" table) := by
  intro file nodes
  have forest : Forest nodes file.tree.roots := Tree.ofScript_forest text root tags
  -- The guard is about the script as it is written; what it becomes has its own levels.
  have shallow : Within Cst.children deepest root := Script.within_of_accepted accepted
  have lowered : Tree.outlineAt nodes file.tree.program = Tree.outlineOf text .alone root :=
    Tree.outlineAt_program text root tags
  have outline : Within Outline.parts (2 * deepest + Tree.Standing.alone.levels) (Tree.outlineOf text .alone root) :=
    Tree.within_outlineOf text shallow
  have within : Within (childrenAt nodes) (2 * deepest + 1) file.tree.program :=
    Tree.within_of_outlineAt forest (lowered ▸ outline)
  -- Levels below the program, the calls of lowering, and the calls of reading the routes.
  refine ⟨fun levels place under => under.levels_le within, ?_, fun table found => ?_⟩
  · rw [lowered]
    exact Tree.outlineWithin_eq shallow (Nat.lt_succ_self deepest)
  · obtain ⟨levels, under⟩ := under_of_table? forest (List.mem_cons_self ..) found
    exact entriesWithin_eq forest _ "" (within.under under) (by decide)

/-- The script with two routes of one name is a case of this. -/
theorem depth_of_accepted_table :
    parseStrict namesakesText = .ok namesakesScript ∧
      (∀ levels place, Under (childrenAt namesakesFile.tree.nodes) namesakesFile.tree.program levels place →
        levels ≤ 2 * deepest + 1) ∧
      Tree.outlineWithin namesakesText (deepest + 1) .alone namesakesScript =
        some (Tree.outlineAt namesakesFile.tree.nodes namesakesFile.tree.program) ∧
      table? namesakesFile.tree = some 18 ∧
      entriesWithin namesakesFile namesakesFile.defaultBindings deepest "" 18 =
        some (entries namesakesFile namesakesFile.defaultBindings "" 18) := by
  have accepted := parseStrict_namesakes
  -- The table is found by running the search on the tree that the reader gives.
  have found : table? namesakesFile.tree = some 18 := by cbv
  obtain ⟨levels, lowered, routes⟩ :=
    depth_of_accepted namesakesText namesakesScript [] namesakesFile.path namesakesFile.scope (.inl accepted)
  exact ⟨accepted, levels, lowered, found, routes 18 found⟩

end LayerAudit.Routes
