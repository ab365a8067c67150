import LayerAudit.Proofs.Extraction.RouteTable
import LayerAudit.Script.Repair
import LayerAudit.Script.Written
import Mathlib

/-!
Paths of routes under joining. Joining is associative, the empty path changes nothing on either side, and what a
relative path is joined to can be told from the outcome but for the slashes at its end. So routes of one name below
different paths are different routes.
-/

namespace LayerAudit

/-- Symbols of one kind within one scope are told apart by their names. -/
theorem SymbolNode.scopedId_injective (kind : SymbolKind) (scope : String) :
    Function.Injective (SymbolNode.scopedId kind scope) := by
  intro first second same
  have letters := congrArg String.toList same
  simp only [SymbolNode.scopedId, String.toList_append, List.append_cancel_left_eq] at letters
  exact String.toList_inj.mp letters

namespace Routes

open Script SyntaxTree

variable {parent path first second : String}

/-! ### Slashes -/

/-- Trimming goes no further than to a character that is no slash. -/
theorem trimSlashes_append (front : List Char) {back : List Char} (hasOther : ∃ c ∈ back, c ≠ '/') :
    trimSlashes (front ++ back) = front ++ trimSlashes back := by
  obtain ⟨c, member, isOther⟩ := hasOther
  have stops : (back.reverse.dropWhile (· == '/')).isEmpty = false := by
    -- Trimming would go through all of the second part only if it were all slashes.
    rw [List.isEmpty_eq_false_iff, Ne, List.dropWhile_eq_nil_iff]
    exact fun all => isOther (beq_iff_eq.mp (all c (List.mem_reverse.mpr member)))
  simp [trimSlashes, List.dropWhile_append, stops]

/-- A path is absolute if its first character is a slash. -/
theorem isStartOf_slash_iff : Text.isStartOf "/" path = true ↔ path.toList.head? = some '/' := by
  unfold Text.isStartOf
  cases path.toList with
  | nil => simp
  | cons c rest => simpa using eq_comm

/-! ### Joining -/

/-- An absolute path stands alone. -/
theorem joinPath_absolute (parent : String) (absolute : Text.isStartOf "/" path = true) :
    joinPath parent path = path := by
  simp [joinPath, absolute]

/-- Below the empty path every path stands alone. -/
@[simp] theorem joinPath_empty_left (path : String) : joinPath "" path = path := by
  simp [joinPath]

/-- The empty path leads nowhere else. -/
@[simp] theorem joinPath_empty_right (parent : String) : joinPath parent "" = parent := by
  by_cases atTop : parent = ""
  · simp [joinPath, atTop]
  · simp [joinPath, Text.isStartOf, atTop]

/-- A relative path is written behind a path, with one slash between them. -/
theorem toList_joinPath (below : parent ≠ "") (relative : Text.isStartOf "/" path = false) (written : path ≠ "") :
    (joinPath parent path).toList = trimSlashes parent.toList ++ '/' :: path.toList := by
  simp [joinPath, below, relative, written]

/-- What a relative path is joined to is not empty. -/
theorem joinPath_ne_empty (below : parent ≠ "") (relative : Text.isStartOf "/" path = false) (written : path ≠ "") :
    joinPath parent path ≠ "" := by
  intro empty
  have letters := toList_joinPath below relative written
  simp [empty] at letters

/-- A path stays absolute or relative when a relative one is joined to it. -/
theorem isStartOf_joinPath (below : parent ≠ "") (relative : Text.isStartOf "/" path = false) (written : path ≠ "") :
    Text.isStartOf "/" (joinPath parent path) = Text.isStartOf "/" parent := by
  rw [Bool.eq_iff_iff, isStartOf_slash_iff, isStartOf_slash_iff, toList_joinPath below relative written]
  -- What is left of the parent's path begins like it, unless all of it were slashes.
  obtain ⟨rest, split⟩ : trimSlashes parent.toList <+: parent.toList := List.rdropWhile_prefix _ _
  cases trimmed : trimSlashes parent.toList with
  | nil =>
    have slashes : ∀ c ∈ parent.toList, (c == '/') = true := List.rdropWhile_eq_nil_iff.mp trimmed
    obtain ⟨c, rest, begins⟩ := List.exists_cons_of_ne_nil (mt String.toList_eq_nil_iff.mp below)
    -- The parent is made of slashes only, so that it begins with the one that joining writes.
    rw [begins] at slashes ⊢
    simpa using slashes c (List.mem_cons_self ..)
  | cons c kept =>
    rw [trimmed] at split
    rw [← split]
    rfl

/-- A relative path with any characters has one that is no slash. -/
theorem exists_ne_slash (relative : Text.isStartOf "/" path = false) (written : path ≠ "") :
    ∃ c ∈ path.toList, c ≠ '/' := by
  obtain ⟨c, rest, begins⟩ := List.exists_cons_of_ne_nil (mt String.toList_eq_nil_iff.mp written)
  refine ⟨c, begins ▸ List.mem_cons_self .., fun same => ?_⟩
  rw [isStartOf_slash_iff.mpr (by rw [begins, same]; rfl)] at relative
  cases relative

/-- Joining two paths and then a third one is joining the first one and the other two. -/
theorem joinPath_assoc (first second third : String) :
    joinPath (joinPath first second) third = joinPath first (joinPath second third) := by
  -- The cases are those of joining: an absolute path, an empty one, or one that is written behind the other.
  by_cases absolute : Text.isStartOf "/" third = true
  · simp only [joinPath_absolute _ absolute]
  · have relative : Text.isStartOf "/" third = false := Bool.eq_false_iff.mpr absolute
    by_cases written : third = ""
    · simp [written]
    by_cases empty : second = ""
    · simp [empty]
    by_cases topmost : Text.isStartOf "/" second = true
    · -- The second path hides the first one, alone as well as together with the third one.
      have together : Text.isStartOf "/" (joinPath second third) = true := by
        rw [isStartOf_joinPath empty relative written, topmost]
      rw [joinPath_absolute first topmost, joinPath_absolute first together]
    have inner : Text.isStartOf "/" second = false := Bool.eq_false_iff.mpr topmost
    by_cases atTop : first = ""
    · simp [atTop]
    -- All three are written down. The slashes that trimming may find behind the first two are those of the second.
    have below : joinPath first second ≠ "" := joinPath_ne_empty atTop inner empty
    have nonempty : joinPath second third ≠ "" := joinPath_ne_empty empty relative written
    have together : Text.isStartOf "/" (joinPath second third) = false := by
      rw [isStartOf_joinPath empty relative written, inner]
    apply String.toList_injective
    calc (joinPath (joinPath first second) third).toList
        = trimSlashes ((trimSlashes first.toList ++ ['/']) ++ second.toList) ++ '/' :: third.toList := by
          rw [toList_joinPath below relative written, toList_joinPath atTop inner empty]
          simp
      _ = trimSlashes first.toList ++ '/' :: (trimSlashes second.toList ++ '/' :: third.toList) := by
          rw [trimSlashes_append _ (exists_ne_slash inner empty)]
          simp
      _ = (joinPath first (joinPath second third)).toList := by
          rw [toList_joinPath atTop together nonempty, toList_joinPath empty relative written]

/-- Below a path that is not empty, a relative path is not what it is by itself. -/
theorem joinPath_ne_self (below : parent ≠ "") (relative : Text.isStartOf "/" path = false) (written : path ≠ "") :
    joinPath parent path ≠ path := by
  intro same
  have letters := congrArg List.length (toList_joinPath below relative written)
  simp only [same, List.length_append, List.length_cons] at letters
  omega

/-- A relative path below two paths gives one path exactly if these differ in nothing but the slashes at their ends, and
both or none of them is empty. -/
theorem joinPath_eq_iff (relative : Text.isStartOf "/" path = false) (written : path ≠ "") :
    joinPath first path = joinPath second path ↔
      trimSlashes first.toList = trimSlashes second.toList ∧ (first = "" ↔ second = "") := by
  -- Only where neither path is empty is the relative one written behind something.
  by_cases atTop : first = "" <;> by_cases otherAtTop : second = ""
  · simp [atTop, otherAtTop]
  · simp [atTop, otherAtTop, (joinPath_ne_self otherAtTop relative written).symm]
  · simp [atTop, otherAtTop, joinPath_ne_self atTop relative written]
  · -- Both paths are cut at the slash in front of the relative one.
    rw [← String.toList_inj, toList_joinPath atTop relative written, toList_joinPath otherAtTop relative written,
      List.append_cancel_right_eq]
    simp [atTop, otherAtTop]

/-! ### Paths along entries -/

/-- Joining paths is associative. -/
instance : Std.Associative joinPath := ⟨joinPath_assoc⟩

/-- The path along some entries and then along others is the path along these, read below the path along those. -/
theorem pathAlong_append (tree : SyntaxTree) (outer inner : List Nat) :
    pathAlong tree (outer ++ inner) = joinPath (pathAlong tree outer) (pathAlong tree inner) := by
  simp only [pathAlong, List.filterMap_append, List.foldl_append]
  generalize (outer.filterMap (pathLiteral? tree)).foldl joinPath "" = before
  -- What is joined along the outer entries is one path, behind which the inner ones are joined.
  calc (inner.filterMap (pathLiteral? tree)).foldl joinPath before
      = (inner.filterMap (pathLiteral? tree)).foldl joinPath (joinPath before "") := by rw [joinPath_empty_right]
    _ = joinPath before ((inner.filterMap (pathLiteral? tree)).foldl joinPath "") := List.foldl_assoc

/-- The route of an entry is named by the path along the entries around it and itself. -/
theorem route_of_mem_routeOf {file : SourceModule} {lineage : Lineage} {symbol : SymbolNode}
    (member : symbol ∈ (routeOf file lineage).symbols) :
    symbol.routePath = some (pathAlong file.tree (lineage.around ++ [lineage.entry])) ∧
      symbol.id = SymbolNode.scopedId .route file.path (pathAlong file.tree (lineage.around ++ [lineage.entry])) := by
  -- An entry without a path or without a component has no symbols.
  unfold routeOf at member
  split at member
  · rw [List.mem_singleton.mp member]
    exact ⟨rfl, rfl⟩
  · cases member

/-- The symbols of a router file are the routes of its entries. -/
theorem symbols_extract {file : SourceModule} {roots : List Nat} (forest : Forest file.tree.nodes roots) {table : Nat}
    (found : table? file.tree = some table) :
    (extract file).symbols = (lineages forest [] table).flatMap fun lineage => (routeOf file lineage).symbols := by
  have listed := entries_eq forest [] table
  change (entries file file.defaultBindings "" table).map _ = _ at listed
  simp only [extract, found, Extraction.joined, listed, List.flatMap_map]

/-- Two entries with one relative path written in them. -/
structure Namesakes (tree : SyntaxTree) (first second : Nat) (literal : String) : Prop where
  first : pathLiteral? tree first = some literal
  second : pathLiteral? tree second = some literal
  relative : Text.isStartOf "/" literal = false
  written : literal ≠ ""

/-- Entries with one relative path, around which lie paths that differ not only in the slashes at their ends, give
routes with different ids and different paths. -/
theorem extract_tells_namesakes_apart (text : String) (root : Cst) (tags : List (String × Span)) (path : String)
    (scope : ImportScope) (table : Nat) (first second : Lineage) (literal : String) :
    let file : SourceModule := ⟨path, Tree.ofScript text root tags, scope⟩
    let inside := lineages (Tree.ofScript_forest text root tags) [] table
    table? file.tree = some table → first ∈ inside → second ∈ inside →
    Namesakes file.tree first.entry second.entry literal →
    trimSlashes (pathAlong file.tree first.around).toList ≠ trimSlashes (pathAlong file.tree second.around).toList →
    ∀ one ∈ (routeOf file first).symbols, ∀ other ∈ (routeOf file second).symbols,
      (one ∈ (extract file).symbols ∧ other ∈ (extract file).symbols) ∧
        one.id ≠ other.id ∧ one.routePath ≠ other.routePath := by
  intro file inside found firstInside secondInside namesakes differ one isOne other isOther
  have apart : pathAlong file.tree (first.around ++ [first.entry]) ≠
      pathAlong file.tree (second.around ++ [second.entry]) := by
    -- Both paths end in the one that is written, so they could only be the same below the same path.
    simp only [pathAlong_concat, namesakes.first, namesakes.second, Option.map_some, Option.getD_some]
    exact fun same => differ ((joinPath_eq_iff namesakes.relative namesakes.written).mp same).1
  -- Both paths and both ids are those along the entries around them.
  obtain ⟨onePath, oneId⟩ := route_of_mem_routeOf isOne
  obtain ⟨otherPath, otherId⟩ := route_of_mem_routeOf isOther
  have listed : (extract file).symbols = inside.flatMap fun lineage => (routeOf file lineage).symbols :=
    symbols_extract (Tree.ofScript_forest text root tags) found
  refine ⟨⟨?_, ?_⟩, ?_, ?_⟩
  · rw [listed]
    exact List.mem_flatMap.mpr ⟨first, firstInside, isOne⟩
  · rw [listed]
    exact List.mem_flatMap.mpr ⟨second, secondInside, isOther⟩
  · -- Ids are built from the path, which can be read back from them.
    rw [oneId, otherId]
    exact (SymbolNode.scopedId_injective .route path).ne apart
  · rw [onePath, otherPath]
    exact fun same => apart (Option.some.inj same)

/-- A table of one route that stands at a place in a text: `children: [{ path: 'x', component: import('./X') }]`. -/
def childrenFrom (start : Nat) : Cst :=
  .pairOf ⟨start, start + 8⟩ (.listed .array (start + 10) (start + 51)
    [.listed .object (start + 11) (start + 50)
      [.pairOf ⟨start + 13, start + 17⟩ (.quoted (start + 19) (start + 22)),
        .pairOf ⟨start + 24, start + 33⟩
          (.callOf (.leaf .importWord (start + 35) (start + 41)) (start + 48) [.quoted (start + 42) (start + 47)])]])

/-- A script that gives some routes a name, from the bracket in front of them to the end of the text. -/
def routerScript (stop : Nat) (routes : List Cst) : Cst :=
  .node .program 0 stop
    [.node .construct 0 stop
      [.mark 0 5,
        .node .declarator 6 stop
          [(Cst.leaf .identifier 6 12).withLabel .name, .mark 13 14,
            (Cst.listed .array 15 stop routes).withLabel .value],
        .mark stop stop]]

/-- Two routes of one name, one below the path `/a` and the other one below no path at all. -/
def namesakesText : String :=
  "const routes = [\x7b path: '/a', children: [\x7b path: 'x', component: import('./X') \x7d] \x7d, " ++
    "\x7b children: [\x7b path: 'x', component: import('./X') \x7d] \x7d]"

/-- The script of these two routes. -/
def namesakesScript : Cst :=
  routerScript 141
    [.listed .object 16 83 [.pairOf ⟨18, 22⟩ (.quoted 24 28), childrenFrom 30],
      .listed .object 85 140 [childrenFrom 87]]

/-- The text is read as this script. -/
theorem parseStrict_namesakes : parseStrict namesakesText = .ok namesakesScript := by decide +kernel

/-- The router file with these two routes. -/
def namesakesFile : SourceModule :=
  ⟨"src/app/router/index.js", Tree.ofScript namesakesText namesakesScript [], ⟨[], .emptyWithCapacity⟩⟩

/-- The path `x` is told apart below a path and below none. -/
theorem extract_tells_namesakes_apart_empty :
    parseStrict namesakesText = .ok namesakesScript ∧ table? namesakesFile.tree = some 18 ∧
      Namesakes namesakesFile.tree 6 14 "x" ∧ pathAlong namesakesFile.tree [9] = "/a" ∧
      pathAlong namesakesFile.tree [17] = "" ∧ ∃ one other, (routeOf namesakesFile ⟨[9], 6⟩).symbols = [one] ∧
        (routeOf namesakesFile ⟨[17], 14⟩).symbols = [other] ∧ one.id ≠ other.id ∧ one.routePath ≠ other.routePath := by
  -- The script is laid down once for all that is read off its tree.
  have shown : (table? namesakesFile.tree, lineages (Tree.ofScript_forest namesakesText namesakesScript []) [] 18,
      pathLiteral? namesakesFile.tree 6, pathLiteral? namesakesFile.tree 14, pathAlong namesakesFile.tree [9],
      pathAlong namesakesFile.tree [17], (routeOf namesakesFile ⟨[9], 6⟩).symbols.length,
      (routeOf namesakesFile ⟨[17], 14⟩).symbols.length) =
      (some 18, [⟨[], 9⟩, ⟨[9], 6⟩, ⟨[], 17⟩, ⟨[17], 14⟩], some "x", some "x", "/a", "", 1, 1) := by cbv
  -- The four parts are evaluated together, and the theorem does the rest.
  simp only [Prod.mk.injEq] at shown
  obtain ⟨found, inside, first, second, below, atTop, isOne, isOther⟩ := shown
  obtain ⟨one, isOne⟩ := List.length_eq_one_iff.mp isOne
  obtain ⟨other, isOther⟩ := List.length_eq_one_iff.mp isOther
  have namesakes : Namesakes namesakesFile.tree 6 14 "x" := ⟨first, second, by decide, by decide⟩
  have differ : trimSlashes (pathAlong namesakesFile.tree [9]).toList ≠
      trimSlashes (pathAlong namesakesFile.tree [17]).toList := by
    rw [below, atTop]
    decide
  have apart := extract_tells_namesakes_apart namesakesText namesakesScript [] namesakesFile.path namesakesFile.scope 18
    ⟨[9], 6⟩ ⟨[17], 14⟩ "x" found (by simp [inside]) (by simp [inside]) namesakes differ
  exact ⟨parseStrict_namesakes, found, namesakes, below, atTop, one, other, isOne, isOther,
    (apart one (isOne ▸ List.mem_singleton_self one) other (isOther ▸ List.mem_singleton_self other)).2⟩

end Routes

end LayerAudit
