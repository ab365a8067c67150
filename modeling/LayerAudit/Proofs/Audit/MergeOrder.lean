import LayerAudit.Proofs.Audit.Ends
import LayerAudit.Proofs.Extraction.Imports

/-!
The graph of an audit merges what its files add in the order of their paths. Whatever is offered first under an id
stays, and a store that comes later is told about.
-/

namespace LayerAudit

/-- The node is the symbol of a package. -/
def Node.isPackage : Node → Bool
  | .file _ => false
  | .symbol node => node.kind = .externalPackage

/-- The symbol in a node that is a store. -/
def Node.store? : Node → Option SymbolNode
  | .file _ => none
  | .symbol node => if node.kind = .store then some node else none

/-- The warning tells about a store whose name is taken. -/
def Warning.isRepeatedStore : Warning → Bool
  | repeatedStore _ _ => true
  | _ => false

/-! ### Stores that are offered again -/

/-- The store in an offered node, if one of the earlier offers has its id. -/
def repeatedStore? (earlier : List Node) (node : Node) : Option SymbolNode :=
  node.store?.filter fun store => earlier.any (·.id == store.id)

/-- The stores among some offered nodes whose ids were offered before. -/
def repeatedStores (offers : List Node) : List SymbolNode :=
  offers.zipIdx.filterMap fun (node, i) => repeatedStore? (offers.take i) node

/-- The last of some offers repeats a store if an earlier one has its id. -/
theorem repeatedStores_concat (offers : List Node) (node : Node) :
    repeatedStores (offers ++ [node]) = repeatedStores offers ++ (repeatedStore? offers node).toList := by
  -- What comes before an earlier offer is the same with the last one and without it.
  have earlier : (offers.zipIdx.filterMap fun (other, i) => repeatedStore? ((offers ++ [node]).take i) other) =
      repeatedStores offers := by
    refine List.filterMap_congr fun (other, i) member => ?_
    have bound := (List.mem_zipIdx' member).1
    simp only [List.take_append_of_le_length (Nat.le_of_lt bound)]
  have last : ([node].zipIdx offers.length).filterMap
      (fun (other, i) => repeatedStore? ((offers ++ [node]).take i) other) = (repeatedStore? offers node).toList := by
    -- The last offer comes behind all the others.
    cases found : repeatedStore? offers node <;> simp [found]
  rw [← earlier, ← last, ← List.filterMap_append]
  simp [repeatedStores, List.zipIdx_append]

/-- The warning about a store whose name is taken. -/
def SymbolNode.taken (store : SymbolNode) : Warning := .repeatedStore store.id store.owner

namespace Audit

/-- A graph holds what was offered first under each id, and the warnings, kept last first, are those about the stores
that were offered again. -/
structure Holds (state : Graph × List Warning) (offered : List Node) : Prop where
  valid : state.1.Valid
  known : ∀ id, state.1.node? id = offered.find? (·.id == id)
  warned : state.2.reverse = (repeatedStores offered).map SymbolNode.taken

variable {state : Graph × List Warning} {offered : List Node}

/-- Nothing was offered at the start. -/
theorem holds_empty : Holds (Graph.empty, []) [] := ⟨Graph.valid_empty, Graph.node?_empty, rfl⟩

/-- After an offer its node is known unless another one has its id. -/
theorem Holds.known_addNode (holds : Holds state offered) (node : Node) (id : String) :
    (state.1.addNode node).1.node? id = (offered ++ [node]).find? (·.id == id) := by
  rw [holds.valid.node?_addNode, holds.known, List.find?_append]
  by_cases same : node.id = id <;> simp [same]

/-- An added file is one more offer. -/
theorem Holds.addFile (holds : Holds state offered) (file : Option FileNode) :
    Holds (Audit.addFile state.1 file, state.2) (offered ++ (file.map Node.file).toList) := by
  cases file with
  -- A file that could not be read offers nothing.
  | none => simpa [Audit.addFile] using holds
  | some node =>
    refine ⟨holds.valid.addNode _, holds.known_addNode _, ?_⟩
    simpa [repeatedStores_concat, repeatedStore?, Node.store?] using holds.warned

/-- An added symbol is one more offer, with a warning if it is a store and comes too late. -/
theorem Holds.addSymbol (holds : Holds state offered) (symbol : SymbolNode) :
    Holds (Audit.addSymbol state symbol) (offered ++ [.symbol symbol]) := by
  -- The graph refuses a symbol exactly if its id was offered before, whoever offered it.
  have refused : (state.1.addNode (.symbol symbol)).2 = !offered.any (·.id == symbol.id) := by
    -- A graph takes a node exactly if its id is not known.
    rw [holds.valid.addNode_accepts, holds.known, ← Option.not_isSome, List.isSome_find?]
    rfl
  have added : Audit.addSymbol state symbol = ((state.1.addNode (.symbol symbol)).1,
      ((repeatedStore? offered (.symbol symbol)).map SymbolNode.taken).toList ++ state.2) := by
    simp only [Audit.addSymbol, refused, Bool.not_not, repeatedStore?, Node.store?]
    -- Only a store is warned about, and only if it was refused.
    by_cases store : symbol.kind = .store
    · cases taken : offered.any (·.id == symbol.id) <;>
        simp only [store, taken, decide_true, Bool.and_true, if_true, Bool.false_eq_true, if_false,
          Option.filter_some] <;>
        rfl
    · simp [store]
  refine ⟨?_, ?_, ?_⟩
  · rw [added]
    exact holds.valid.addNode _
  · rw [added]
    exact holds.known_addNode _
  · -- A new warning is put in front, which is the end of the reversed list.
    rw [added, List.reverse_append, holds.warned, repeatedStores_concat, List.map_append]
    cases repeatedStore? offered (.symbol symbol) <;> rfl

/-- Added symbols are offers in their order. -/
theorem Holds.foldl_addSymbol (holds : Holds state offered) (symbols : List SymbolNode) :
    Holds (symbols.foldl Audit.addSymbol state) (offered ++ symbols.map Node.symbol) := by
  -- The induction carries the whole invariant, since a refusal depends on all that was offered.
  induction symbols generalizing state offered with
  | nil => simpa using holds
  | cons symbol rest ih => simpa using ih (holds.addSymbol symbol)

/-- An added edge offers nothing. -/
theorem Holds.foldl_addEdge (holds : Holds state offered) (edges : List Edge) :
    Holds (edges.foldl Graph.addEdge state.1, state.2) offered := by
  -- An edge may open a place for an id, but a node is known there only when it is offered.
  induction edges generalizing state with
  | nil => exact holds
  | cons edge rest ih =>
    refine @ih (state.1.addEdge edge, state.2) ⟨holds.valid.addEdge edge, fun id => ?_, holds.warned⟩
    rw [holds.valid.node?_addEdge, holds.known]

/-- A merged file offers itself and its symbols. -/
theorem Holds.merge (holds : Holds state offered) (outcome : FileOutcome) :
    Holds (Audit.merge state outcome) (offered ++ outcome.offers) := by
  have merged := ((holds.addFile outcome.file).foldl_addSymbol outcome.extraction.symbols).foldl_addEdge
    outcome.extraction.edges
  rwa [List.append_assoc] at merged

/-- Merged files offer themselves and their symbols, one file after the other. -/
theorem Holds.foldl_merge (holds : Holds state offered) (outcomes : List FileOutcome) :
    Holds (outcomes.foldl Audit.merge state) (offered ++ outcomes.flatMap FileOutcome.offers) := by
  induction outcomes generalizing state offered with
  | nil => simpa using holds
  | cons outcome rest ih => simpa using ih (holds.merge outcome)

end Audit

namespace Setup

/-- The order in which an audit puts together what its files add. -/
structure MergedInOrder [Script.Syntax] (setup : Setup) (order : BindingOrder) (files : FileSystem) (root : String)
    (paths : List String) (audit : Audit) (warnings : List Warning) : Prop where
  edges : audit.graph.edges =
    paths.flatMap fun path => (setup.examine order files root (setup.scopeOf paths) path).extraction.edges
  /-- Each file in turn offers itself and then its symbols. -/
  first : ∀ id, audit.graph.nodes.filter (·.id == id) =
    ((paths.flatMap (setup.offersAt order files root paths)).find? (·.id == id)).toList
  /-- A package belongs to the first file that imports it, unless the id was offered by something else before. -/
  package : ∀ before path after name, paths = before ++ path :: after →
    ⟨path, name, .importsPackage⟩ ∈ (setup.examine order files root (setup.scopeOf paths) path).extraction.edges →
    (∀ earlier ∈ before, ⟨earlier, name, .importsPackage⟩ ∉
      (setup.examine order files root (setup.scopeOf paths) earlier).extraction.edges) →
    (∀ node ∈ before.flatMap (setup.offersAt order files root paths) ++
        ((setup.fileNode? files root path).map Node.file).toList, node.id = name → node.isPackage) →
    audit.graph.nodes.filter (·.id == name) = [.symbol (.package path name)]
  /-- One warning tells about each store whose id was offered before. -/
  repeated : warnings.filter Warning.isRepeatedStore =
    (repeatedStores (paths.flatMap (setup.offersAt order files root paths))).map SymbolNode.taken

section

variable [Script.Syntax] {setup : Setup} {order : BindingOrder} {files : FileSystem} {root path : String}
  {scope : ImportScope} {paths : List String}

/-- A file with some content gives no warning about stores. -/
theorem examineContent_warnings {content : ByteArray} {warning : Warning}
    (found : warning ∈ (setup.examineContent order scope path content).warnings) : warning.isRepeatedStore = false := by
  -- In each case the warnings are known, and none is about a store.
  rcases setup.examineContent_cases order scope path content with
    ⟨_, same⟩ | ⟨_, _, _, ⟨_, _, same⟩ | ⟨error, _, same⟩⟩ <;> rw [same] at found
  · cases found
  · cases found
  · cases List.mem_singleton.mp found
    rfl

/-- Whether a store is repeated shows only when the files are put together. -/
theorem examine_warnings {warning : Warning} (found : warning ∈ (setup.examine order files root scope path).warnings) :
    warning.isRepeatedStore = false := by
  cases outcome : files.read (Location.join root path) with
  | error cause =>
    rw [examine_error outcome] at found
    cases List.mem_singleton.mp found
    rfl
  | ok content =>
    rw [examine_ok outcome] at found
    exact examineContent_warnings found

/-- The files of an audit offer themselves and their symbols. -/
theorem offers_outcomes :
    (setup.outcomes order files root paths).flatMap FileOutcome.offers =
      paths.flatMap (setup.offersAt order files root paths) := by
  rw [outcomes, List.flatMap_map]
  rfl

/-- The warnings about stores are those about the repeated ones. -/
theorem repeated_auditOf :
    (Audit.ofOutcomes setup.policy (setup.outcomes order files root paths)).2.filter Warning.isRepeatedStore =
      (repeatedStores (paths.flatMap (setup.offersAt order files root paths))).map SymbolNode.taken := by
  have merged := (Audit.holds_empty.foldl_merge (setup.outcomes order files root paths)).warned
  rw [List.nil_append, offers_outcomes] at merged
  -- The warnings that come with the files are about reading and parsing them.
  have ofFiles :
      ((setup.outcomes order files root paths).flatMap (·.warnings)).filter Warning.isRepeatedStore = [] := by
    refine List.filter_eq_nil_iff.mpr fun warning member => ?_
    obtain ⟨_, listed, found⟩ := List.mem_flatMap.mp member
    obtain ⟨path, _, rfl⟩ := List.mem_map.mp listed
    simp [examine_warnings found]
  change ((setup.outcomes order files root paths).flatMap (·.warnings) ++
    ((setup.outcomes order files root paths).foldl Audit.merge (Graph.empty, [])).2.reverse).filter _ = _
  rw [List.filter_append, ofFiles, List.nil_append, merged]
  -- The warnings of the merge are all about stores.
  refine List.filter_eq_self.mpr fun warning member => ?_
  obtain ⟨store, _, rfl⟩ := List.mem_map.mp member
  rfl

/-- A file that imports a package offers its symbol first of all symbols with that id. -/
theorem find?_of_importsPackage {name : String}
    (imported : ⟨path, name, .importsPackage⟩ ∈ (setup.examine order files root scope path).extraction.edges) :
    (setup.examine order files root scope path).extraction.symbols.find? (·.id == name) =
      some (.package path name) := by
  -- A file without an extraction has no edges, and otherwise the edge is that of a module.
  rcases setup.examine_extraction order files root scope path with nothing | ⟨_, words, kind, file, rfl, same⟩
  · simp [nothing] at imported
  · rw [same] at imported ⊢
    exact SourceModule.find?_of_importsPackage imported

/-- A file imports each package that it offers. -/
theorem importsPackage_of_mem_offersAt {node : Node} {earlier : String}
    (offered : node ∈ setup.offersAt order files root paths earlier) (isPackage : node.isPackage) :
    ⟨earlier, node.id, .importsPackage⟩ ∈
      (setup.examine order files root (setup.scopeOf paths) earlier).extraction.edges := by
  rcases mem_offersAt.mp offered with ⟨own, _, rfl⟩ | ⟨symbol, found, rfl⟩
  · cases isPackage
  · -- A symbol of this kind comes from an import alone, and the import has its edge.
    rcases setup.examine_extraction order files root (setup.scopeOf paths) earlier with
      nothing | ⟨_, words, kind, file, rfl, same⟩
    · simp [nothing] at found
    · rw [same] at found ⊢
      obtain ⟨named, imported⟩ := SourceModule.eq_package_of_kind found (by simpa [Node.isPackage] using isPackage)
      exact SourceModule.importsPackage_iff.mpr (named ▸ imported)

/-- A package is known by the symbol of the file that first imports it, unless its name was taken before. -/
theorem node?_of_first_import {before after : List String} {name : String} (split : paths = before ++ path :: after)
    (imported : ⟨path, name, .importsPackage⟩ ∈
      (setup.examine order files root (setup.scopeOf paths) path).extraction.edges)
    (firstImport : ∀ earlier ∈ before, ⟨earlier, name, .importsPackage⟩ ∉
      (setup.examine order files root (setup.scopeOf paths) earlier).extraction.edges)
    (free : ∀ node ∈ before.flatMap (setup.offersAt order files root paths) ++
      ((setup.fileNode? files root path).map Node.file).toList, node.id = name → node.isPackage) :
    (setup.auditOf order files root paths).graph.node? name = some (.symbol (.package path name)) := by
  rw [node?_auditOf, flatMap_split split, List.find?_append, List.find?_append]
  -- An earlier package of the name would come from an earlier import.
  have nothingBefore : (before.flatMap (setup.offersAt order files root paths)).find? (·.id == name) = none := by
    refine List.find?_eq_none.mpr fun node member same => ?_
    obtain rfl := beq_iff_eq.mp same
    obtain ⟨earlier, listed, offered⟩ := List.mem_flatMap.mp member
    exact firstImport earlier listed
      (importsPackage_of_mem_offersAt offered (free node (List.mem_append_left _ member) rfl))
  -- The file itself is no package, so it has another id.
  have notItself : ((setup.fileNode? files root path).map Node.file).toList.find? (·.id == name) = none := by
    refine List.find?_eq_none.mpr fun node member same => ?_
    have isPackage := free node (List.mem_append_right _ member) (beq_iff_eq.mp same)
    obtain ⟨own, _, rfl⟩ := Option.map_eq_some_iff.mp (Option.mem_toList.mp member)
    cases isPackage
  -- So the package is the first among its own file's offers, and then among all.
  -- Behind the file itself come its symbols, in which the package is found first.
  have offered : (setup.offersAt order files root paths path).find? (·.id == name) =
      some (.symbol (.package path name)) := by
    rw [offersAt, FileOutcome.offers, examine_file, List.find?_append, notItself, Option.none_or, List.find?_map]
    exact congrArg (Option.map Node.symbol) (find?_of_importsPackage imported)
  rw [nothingBefore, offered]
  rfl

/-- An audit of some paths puts together what their files add in the order of the paths. -/
theorem mergedInOrder_auditOf :
    setup.MergedInOrder order files root paths (setup.auditOf order files root paths)
      (Audit.ofOutcomes setup.policy (setup.outcomes order files root paths)).2 where
  edges := edges_auditOf
  first := fun id => by rw [valid_auditOf.filter_nodes, node?_auditOf]
  package := by
    -- The first node that is offered under the name is the one that is kept.
    intro before path after name split imported firstImport free
    rw [valid_auditOf.filter_nodes, node?_of_first_import split imported firstImport free]
    rfl
  repeated := repeated_auditOf

/-- Every audit that starts comes to an end, and it puts together what the files add in the order of their paths: all
edges of one file after those of another, the first node that is offered for each id, and a warning for each store whose
id was offered before. -/
theorem audit_merges_in_order (found : setup.discover files root = .ok paths) :
    ∃ audit warnings, setup.audit order files root = .ok (audit, warnings) ∧
      setup.MergedInOrder order files root paths audit warnings :=
  ⟨setup.auditOf order files root paths, _, audit_of_discover order found, mergedInOrder_auditOf⟩

end

/-- The audit of two scripts, one of which imports a package with the path of the other, is a case of this. -/
theorem audit_merges_in_order_twoScripts :
    usual.discover (twoScripts claiming .empty) "app" = .ok ["src/a.js", "src/b.js"] ∧
      ∃ audit warnings, usual.audit .sorted (twoScripts claiming .empty) "app" = .ok (audit, warnings) ∧
        usual.MergedInOrder .sorted (twoScripts claiming .empty) "app" ["src/a.js", "src/b.js"] audit warnings :=
  ⟨discover_twoScripts claiming .empty, audit_merges_in_order (discover_twoScripts claiming .empty)⟩

end Setup

end LayerAudit
