import LayerAudit.Proofs.Extraction.RoutePaths

/-!
Routes that only hold other routes together. Since joining paths is associative and the empty path changes nothing,
entries of a route table may be put into a group without a path of its own, and all of them stay the routes they were.
-/

namespace LayerAudit.Routes

open Script SyntaxTree

variable {file before after : SourceModule}

/-! ### Entries by themselves -/

/-- An entry as it reads with no path around it. -/
def entryAlone (file : SourceModule) (route : Nat) : Entry := entryOf file file.defaultBindings "" route

/-- An entry as it reads below a path. -/
def Entry.below (parent : String) (entry : Entry) : Entry := { entry with path := entry.path.map (joinPath parent) }

/-- The path around an entry matters for nothing but its path. -/
theorem entryOf_eq (file : SourceModule) (parent : String) (route : Nat) :
    entryOf file file.defaultBindings parent route = (entryAlone file route).below parent := by
  unfold entryAlone entryOf Entry.below
  cases (file.tree.valueOf? route "path").bind file.tree.stringAt? <;> simp

/-- The elements of the table inside an entry. -/
def innerElements (tree : SyntaxTree) (route : Nat) : List Nat :=
  ((tree.valueOf? route "children").map (elementsAt tree)).getD []

/-- The entries among some elements of a table and in the tables inside them. -/
def entriesAmong (file : SourceModule) (parent : String) (elements : List Nat) : List Entry :=
  elements.flatMap fun route =>
    if isObjectAt file.tree route then
      let entry := (entryAlone file route).below parent
      entry :: ((file.tree.valueOf? route "children").map
        (entries file file.defaultBindings (entry.path.getD parent))).getD []
    else []

variable {roots : List Nat}

/-- The entries of a table are those among its elements. -/
theorem entries_eq_among (forest : Forest file.tree.nodes roots) (parent : String) (table : Nat) :
    entries file file.defaultBindings parent table = entriesAmong file parent (elementsAt file.tree table) := by
  rw [entries_flatMap forest]
  simp only [entryOf_eq]
  rfl

/-- An object comes before the entries among the elements of the table inside it. -/
theorem entriesAmong_cons (forest : Forest file.tree.nodes roots) (parent : String) {route : Nat}
    (isObject : isObjectAt file.tree route = true) (rest : List Nat) :
    entriesAmong file parent (route :: rest) =
      (entryAlone file route).below parent ::
        entriesAmong file (((entryAlone file route).below parent).path.getD parent) (innerElements file.tree route) ++
          entriesAmong file parent rest := by
  have inner (at_ : String) : ((file.tree.valueOf? route "children").map
      (entries file file.defaultBindings at_)).getD [] = entriesAmong file at_ (innerElements file.tree route) := by
    unfold innerElements
    -- An object without a table inside it has no elements inside.
    cases file.tree.valueOf? route "children" with
    | none => rfl
    | some table => exact entries_eq_among forest at_ table
  rw [entriesAmong, List.flatMap_cons, if_pos isObject]
  simp only [inner]
  rfl

/-- What is no object is no entry. -/
theorem entriesAmong_cons_other (parent : String) {route : Nat} (isOther : isObjectAt file.tree route = false)
    (rest : List Nat) : entriesAmong file parent (route :: rest) = entriesAmong file parent rest := by
  simp [entriesAmong, isOther]

/-- The entries among two lists of elements come one after the other. -/
theorem entriesAmong_append (file : SourceModule) (parent : String) (first second : List Nat) :
    entriesAmong file parent (first ++ second) = entriesAmong file parent first ++ entriesAmong file parent second :=
  List.flatMap_append

/-! ### Groups -/

/-- The elements of one table become those of another one when some neighbours among them, at any depth, are put into a
group: an entry of its own without a path, or with the empty one. -/
inductive Grouped (before after : SourceModule) : List Nat → List Nat → Prop
  | nil : Grouped before after [] []
  /-- An entry is kept, whatever happens to those in the table inside it. -/
  | keep {route same : Nat} {elements others : List Nat} (isObject : isObjectAt before.tree route = true)
    (isObjectToo : isObjectAt after.tree same = true) (alike : entryAlone after same = entryAlone before route)
    (inside : Grouped before after (innerElements before.tree route) (innerElements after.tree same))
    (rest : Grouped before after elements others) : Grouped before after (route :: elements) (same :: others)
  /-- Some neighbours are put into a group. -/
  | group {group : Nat} {members elements others : List Nat} (isObject : isObjectAt after.tree group = true)
    (leadsNowhere : (entryAlone after group).path.getD "" = "")
    (inside : Grouped before after members (innerElements after.tree group))
    (rest : Grouped before after elements others) : Grouped before after (members ++ elements) (group :: others)
  /-- What is no object may come and go. -/
  | drop {place : Nat} {elements others : List Nat} (isOther : isObjectAt before.tree place = false)
    (rest : Grouped before after elements others) : Grouped before after (place :: elements) others
  | add {place : Nat} {elements others : List Nat} (isOther : isObjectAt after.tree place = false)
    (rest : Grouped before after elements others) : Grouped before after elements (place :: others)

/-- The path of a group is the one around it. -/
theorem path_below_of_leadsNowhere {entry : Entry} (leadsNowhere : entry.path.getD "" = "") (parent : String) :
    (entry.below parent).path.getD parent = parent := by
  unfold Entry.below
  -- Without a path of its own, or with the empty one, joining leaves what is around the group.
  cases written : entry.path with
  | none => rfl
  | some path =>
    have empty : path = "" := by simpa [written] using leadsNowhere
    simp [empty]

/-- All entries keep what they say when some of them are put into groups. -/
theorem Grouped.sublist_entries {elements others : List Nat} (grouped : Grouped before after elements others)
    {rootsBefore rootsAfter : List Nat} (forest : Forest before.tree.nodes rootsBefore)
    (forestAfter : Forest after.tree.nodes rootsAfter) (parent : String) :
    (entriesAmong before parent elements).Sublist (entriesAmong after parent others) := by
  -- The induction is on the grouping, for every path around the elements.
  induction grouped generalizing parent with
  | nil => exact List.nil_sublist _
  | keep isObject isObjectToo alike inside rest insideIh restIh =>
    -- Both sides begin with the same entry, whose path is around the elements inside it on both sides.
    rw [entriesAmong_cons forest parent isObject, entriesAmong_cons forestAfter parent isObjectToo, alike]
    exact ((insideIh _).cons_cons _).append (restIh parent)
  | group isObject leadsNowhere inside rest insideIh restIh =>
    -- The group itself is one entry more.
    rw [entriesAmong_cons forestAfter parent isObject, path_below_of_leadsNowhere leadsNowhere, entriesAmong_append]
    exact ((insideIh parent).cons _).append (restIh parent)
  -- What is no object is read on neither side.
  | drop isOther rest ih =>
    rw [entriesAmong_cons_other parent isOther]
    exact ih parent
  | add isOther rest ih =>
    rw [entriesAmong_cons_other parent isOther]
    exact ih parent

/-- More parts make more of an extraction, in the same order. -/
theorem sublist_joined {parts more : List Extraction} (included : parts.Sublist more) :
    (Extraction.joined parts).symbols.Sublist (Extraction.joined more).symbols ∧
      (Extraction.joined parts).edges.Sublist (Extraction.joined more).edges :=
  ⟨included.flatMap _, included.flatMap _⟩

/-- Joining paths is associative, and the empty path is neutral on both sides. So the path of a route comes out the
same wherever the entries around it are cut, and a router file whose entries are put into groups gives all routes that
it gave before, with the same ids and in the same order. -/
theorem joinPath_monoid_keeps_grouped_routes (path : String) (scope otherScope : ImportScope) (text otherText : String)
    (root otherRoot : Cst) (tags otherTags : List (String × Span)) (table otherTable : Nat) :
    (∀ first second third,
      joinPath (joinPath first second) third = joinPath first (joinPath second third)) ∧
    (∀ path, joinPath "" path = path ∧ joinPath path "" = path) ∧
    (∀ (file : SourceModule) (lineage : Lineage) (outer inner : List Nat),
      lineage.around ++ [lineage.entry] = outer ++ inner → ∀ symbol ∈ (routeOf file lineage).symbols,
        symbol.routePath = some (joinPath (pathAlong file.tree outer) (pathAlong file.tree inner))) ∧
    let before : SourceModule := ⟨path, Tree.ofScript text root tags, scope⟩
    let after : SourceModule := ⟨path, Tree.ofScript otherText otherRoot otherTags, otherScope⟩
    table? before.tree = some table → table? after.tree = some otherTable →
      Grouped before after (elementsAt before.tree table) (elementsAt after.tree otherTable) →
      (extract before).symbols.Sublist (extract after).symbols ∧
        (extract before).edges.Sublist (extract after).edges := by
  refine ⟨joinPath_assoc, fun path => ⟨joinPath_empty_left path, joinPath_empty_right path⟩, ?_, ?_⟩
  · intro file lineage outer inner cut symbol member
    -- The path along all entries is cut at the same place as the entries.
    rw [(route_of_mem_routeOf member).1, cut, pathAlong_append]
  · intro before after found foundAfter grouped
    have forest := Tree.ofScript_forest text root tags
    have forestAfter := Tree.ofScript_forest otherText otherRoot otherTags
    -- Entries stay in order, and each entry gives its own symbols and edges.
    have kept := grouped.sublist_entries forest forestAfter ""
    rw [← entries_eq_among forest, ← entries_eq_among forestAfter] at kept
    simp only [extract, found, foundAfter]
    exact sublist_joined (kept.map (extractEntry path))

/-- A route below another one. -/
def plainText : String :=
  "const routes = [\x7b path: '/a', children: [\x7b path: 'x', component: import('./X') \x7d] \x7d]"

/-- The tree of the script with this route. -/
def plainScript : Cst := routerScript 84 [.listed .object 16 83 [.pairOf ⟨18, 22⟩ (.quoted 24 28), childrenFrom 30]]

/-- The router file with this route. -/
def plainFile : SourceModule :=
  ⟨"src/app/router/index.js", Tree.ofScript plainText plainScript [], ⟨[], .emptyWithCapacity⟩⟩

/-- The same routes, all of them in a group with the empty path, and the inner one in a group without a path. -/
def groupedText : String :=
  "const routes = [\x7b path: '', children: [\x7b path: '/a', children: [\x7b " ++
    "children: [\x7b path: 'x', component: import('./X') \x7d] \x7d] \x7d] \x7d]"

/-- The tree of the script with these groups. -/
def groupedScript : Cst :=
  routerScript 126
    [.listed .object 16 125
      [.pairOf ⟨18, 22⟩ (.quoted 24 26),
        .pairOf ⟨28, 36⟩ (.listed .array 38 123
          [.listed .object 39 122
            [.pairOf ⟨41, 45⟩ (.quoted 47 51),
              .pairOf ⟨53, 61⟩ (.listed .array 63 120 [.listed .object 64 119 [childrenFrom 66]])]])]]

/-- The router file with these groups. -/
def groupedFile : SourceModule :=
  ⟨"src/app/router/index.js", Tree.ofScript groupedText groupedScript [], ⟨[], .emptyWithCapacity⟩⟩

/-- The route `/a/x` stays what it is inside two groups. -/
theorem joinPath_monoid_keeps_grouped_routes_twice :
    parseStrict plainText = .ok plainScript ∧ parseStrict groupedText = .ok groupedScript ∧
      table? plainFile.tree = some 10 ∧ table? groupedFile.tree = some 18 ∧
      Grouped plainFile groupedFile (elementsAt plainFile.tree 10) (elementsAt groupedFile.tree 18) ∧
      (extract plainFile).symbols.map (·.routePath) = [some "/a/x"] ∧
      (extract plainFile).symbols.Sublist (extract groupedFile).symbols := by
  -- Both files are evaluated once for all that the grouping asks of them.
  have plain : (table? plainFile.tree, elementsAt plainFile.tree 10, isObjectAt plainFile.tree 9,
      isObjectAt plainFile.tree 6, innerElements plainFile.tree 9, innerElements plainFile.tree 6,
      entryAlone plainFile 9, entryAlone plainFile 6, (extract plainFile).symbols.map (·.routePath)) =
      (some 10, [9], true, true, [6], [], ⟨some "/a", none, none⟩,
        ⟨some "x", none, some (.file "src/app/router/X")⟩, [some "/a/x"]) := by cbv
  have grouped : (table? groupedFile.tree, elementsAt groupedFile.tree 18, isObjectAt groupedFile.tree 17,
      isObjectAt groupedFile.tree 14, isObjectAt groupedFile.tree 11, isObjectAt groupedFile.tree 8,
      innerElements groupedFile.tree 17, innerElements groupedFile.tree 14, innerElements groupedFile.tree 11,
      innerElements groupedFile.tree 8, entryAlone groupedFile 17, entryAlone groupedFile 14, entryAlone groupedFile 11,
      entryAlone groupedFile 8) =
      (some 18, [17], true, true, true, true, [14], [11], [8], [], ⟨some "", none, none⟩, ⟨some "/a", none, none⟩,
        ⟨none, none, none⟩, ⟨some "x", none, some (.file "src/app/router/X")⟩) := by cbv
  simp only [Prod.mk.injEq] at plain grouped
  obtain ⟨found, elements, isRoute, isInner, inner, innermost, route, innerRoute, paths⟩ := plain
  obtain ⟨otherFound, otherElements, isOuterGroup, isRouteToo, isGroup, isInnerToo, inOuterGroup, inRoute, inGroup,
    inInner, outerGroup, routeToo, group, innerRouteToo⟩ := grouped
  -- From the outside in: the outer group, the route in it, the inner group, and the inner route.
  have together : Grouped plainFile groupedFile [9] [17] := by
    change Grouped plainFile groupedFile ([9] ++ []) [17]
    refine .group isOuterGroup (by rw [outerGroup]; rfl) ?_ .nil
    rw [inOuterGroup]
    refine .keep isRoute isRouteToo (by rw [route, routeToo]) ?_ .nil
    rw [inner, inRoute]
    change Grouped plainFile groupedFile ([6] ++ []) [11]
    refine .group isGroup (by rw [group]; rfl) ?_ .nil
    rw [inGroup]
    refine .keep isInner isInnerToo (by rw [innerRoute, innerRouteToo]) ?_ .nil
    rw [innermost, inInner]
    exact .nil
  rw [← elements, ← otherElements] at together
  refine ⟨by decide +kernel, by decide +kernel, found, otherFound, together, paths, ?_⟩
  have kept := (joinPath_monoid_keeps_grouped_routes plainFile.path plainFile.scope groupedFile.scope _ _ _ _ [] []
    10 18).2.2.2 found otherFound together
  exact kept.1

end LayerAudit.Routes
