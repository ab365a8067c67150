import LayerAudit.Extraction.OfFile
import LayerAudit.Proofs.Extraction.TagOrder
import LayerAudit.Proofs.Tree.Walk

/-!
Where the edges of a file begin and end: at the file, at its symbols, and, for the relations that lead out of it, at
what it imports.
-/

namespace LayerAudit

namespace Relation

/-- The relations whose targets need not be known. -/
def mayDangle : Relation → Bool
  | imports | usesComponent | usesStoreFile | rendersComponent => true
  | _ => false

/-- The relations to what is imported elsewhere in the file. -/
def isUse : Relation → Bool
  | usesComponent | usesStoreFile => true
  | _ => false

end Relation

/-- An edge of a file begins and ends where its relation has it, as far as some symbols go. -/
structure Edge.Anchored (file : SourceModule) (symbols : List SymbolNode) (edge : Edge) : Prop where
  source : edge.source = file.path ∨ edge.source ∈ symbols.map (·.id)
  target : edge.relation.mayDangle = false → edge.target ∈ symbols.map (·.id)
  used : edge.relation.isUse → edge.source = file.path ∧ ∃ entry ∈ file.imports, entry.target.id = edge.target

/-- All edges of an extraction are anchored by its own symbols. -/
def Extraction.Anchored (file : SourceModule) (extraction : Extraction) : Prop :=
  ∀ edge ∈ extraction.edges, edge.Anchored file extraction.symbols

variable {file : SourceModule} {words : Vocabulary}

/-! ### Putting extractions together -/

/-- More symbols anchor as much. -/
theorem Edge.Anchored.mono {symbols more : List SymbolNode} {edge : Edge} (anchored : edge.Anchored file symbols)
    (subset : symbols ⊆ more) : edge.Anchored file more where
  source := anchored.source.imp_right fun member => List.map_subset _ subset member
  target := fun kept => List.map_subset _ subset (anchored.target kept)
  used := anchored.used

namespace Extraction

/-- Symbols are put together in order. -/
@[simp] theorem symbols_append (first second : Extraction) :
    (first ++ second).symbols = first.symbols ++ second.symbols := rfl

/-- Edges are put together in order. -/
@[simp] theorem edges_append (first second : Extraction) : (first ++ second).edges = first.edges ++ second.edges := rfl

/-- An extraction without edges is anchored. -/
theorem anchored_empty : Anchored file {} := fun _ member => nomatch member

/-- Two anchored extractions are anchored together. -/
theorem Anchored.append {first second : Extraction} (left : Anchored file first) (right : Anchored file second) :
    Anchored file (first ++ second) := by
  intro edge member
  rcases List.mem_append.mp member with early | late
  · exact (left edge early).mono (List.subset_append_left ..)
  · exact (right edge late).mono (List.subset_append_right ..)

/-- Anchored extractions are anchored together. -/
theorem anchored_joined {parts : List Extraction} (each : ∀ part ∈ parts, Anchored file part) :
    Anchored file (joined parts) := by
  intro edge member
  obtain ⟨part, listed, found⟩ := List.mem_flatMap.mp member
  refine (each part listed edge found).mono fun symbol extracted => ?_
  exact List.mem_flatMap.mpr ⟨part, listed, extracted⟩

end Extraction

/-! ### Imports -/

namespace SourceModule

/-- The import of a package ends at the symbol of the package. -/
theorem extractImport_anchored (entry : ResolvedImport) : (extractImport file.path entry).Anchored file := by
  intro edge member
  unfold extractImport at member ⊢
  -- Both kinds of targets begin at the file, and only a package has to be known.
  cases target : entry.target with
  | file path =>
    simp only [target, List.mem_singleton] at member
    subst member
    exact ⟨Or.inl rfl, nofun, nofun⟩
  | package name =>
    simp only [target, List.mem_singleton] at member
    subst member
    exact ⟨Or.inl rfl, fun _ => List.mem_singleton.mpr rfl, nofun⟩

/-- The imports of a file are anchored. -/
theorem extractImports_anchored : file.extractImports.Anchored file := by
  refine Extraction.anchored_joined fun part member => ?_
  obtain ⟨entry, _, rfl⟩ := List.mem_map.mp member
  exact extractImport_anchored entry

/-- Every import has an edge from the file to its target. -/
theorem mem_extractImports {entry : ResolvedImport} (member : entry ∈ file.imports) :
    ∃ edge ∈ file.extractImports.edges, edge.source = file.path ∧ edge.target = entry.target.id ∧
      edge.relation ∈ [Relation.imports, Relation.importsPackage] := by
  have own : ∃ edge ∈ (extractImport file.path entry).edges, edge.source = file.path ∧
      edge.target = entry.target.id ∧ edge.relation ∈ [Relation.imports, Relation.importsPackage] := by
    unfold extractImport
    cases entry.target with
    | file path => exact ⟨_, List.mem_singleton.mpr rfl, rfl, rfl, by simp⟩
    | package name => exact ⟨_, List.mem_singleton.mpr rfl, rfl, rfl, by simp⟩
  -- The edge of one import is among those of all imports.
  obtain ⟨edge, found, ends⟩ := own
  exact ⟨edge, List.mem_flatMap.mpr ⟨_, List.mem_map_of_mem member, found⟩, ends⟩

/-- The target of an imported name is that of an import. -/
theorem mem_bindings {binding : String × ImportTarget} (member : binding ∈ file.bindings) :
    ∃ entry ∈ file.imports, entry.target = binding.2 := by
  -- Sorting the names may drop some of them but invents none.
  obtain ⟨entry, listed, bound⟩ := List.mem_flatMap.mp (Sorted.mem_of_mem_ofList member)
  obtain ⟨name, _, rfl⟩ := List.mem_map.mp bound
  exact ⟨entry, listed, rfl⟩

end SourceModule

/-! ### Components -/

namespace Component

/-- Declared names are declared by their own symbols. -/
theorem declarations_anchored (kind : SymbolKind) {relation : Relation} (title : String) (names : List String)
    (declares : relation.isUse = false) :
    (Extraction.joined (names.map (declaration kind relation title file.path))).Anchored file := by
  -- Each name has one symbol and one edge, which ends at that symbol.
  refine Extraction.anchored_joined fun part member => ?_
  obtain ⟨name, _, rfl⟩ := List.mem_map.mp member
  intro edge single
  cases List.mem_singleton.mp single
  exact ⟨Or.inl rfl, fun _ => List.mem_singleton.mpr rfl, fun use => by simp [declares] at use⟩

/-- A file uses stores that it imports. -/
theorem storeUses_anchored {symbols : List SymbolNode} {edge : Edge} (member : edge ∈ storeUses words file) :
    edge.Anchored file symbols := by
  obtain ⟨place, _, found⟩ := List.mem_filterMap.mp member
  -- Only a call whose name is bound has an edge, and its target is the bound one.
  split at found
  · obtain ⟨target, bound, rfl⟩ := Option.map_eq_some_iff.mp found
    obtain ⟨entry, listed, same⟩ := SourceModule.mem_bindings (Sorted.mem_of_get? bound)
    exact ⟨Or.inl rfl, nofun, fun _ => ⟨rfl, entry, listed, congrArg ImportTarget.id same⟩⟩
  · cases found

/-- A file uses components that it imports, in whatever order their names are met. -/
theorem componentUses_anchored {symbols : List SymbolNode} {edge : Edge} (order : BindingOrder)
    (member : edge ∈ componentUses (order.order file) file) : edge.Anchored file symbols := by
  -- A tag leads to the target of a binding, and every binding is that of an import.
  rw [componentUses_eq] at member
  obtain ⟨tag, _, found⟩ := List.mem_filterMap.mp member
  obtain ⟨target, named, rfl⟩ := Option.map_eq_some_iff.mp found
  obtain ⟨binding, bound, _, rfl⟩ := mem_of_targetOf? named
  obtain ⟨entry, listed, same⟩ := SourceModule.mem_bindings ((order.perm file).mem_iff.mp bound)
  exact ⟨Or.inl rfl, nofun, fun _ => ⟨rfl, entry, listed, congrArg ImportTarget.id same⟩⟩

/-- What is extracted from a component is anchored. -/
theorem extract_anchored (order : BindingOrder) : (extract (order.order file) words file).Anchored file :=
  (((Extraction.Anchored.append (fun _ member => storeUses_anchored member)
    (declarations_anchored _ _ _ rfl)).append (declarations_anchored _ _ _ rfl)).append
      fun _ member => componentUses_anchored order member)

end Component

/-! ### Stores -/

namespace Store

namespace Body

/-- An edge leads from a body to a state field or an action of its store. -/
structure Reaches (body : Body) (edge : Edge) : Prop where
  source : edge.source = body.id
  target : (∃ field ∈ body.members.state, edge.target = SymbolNode.scopedId .stateField body.members.store field) ∨
    ∃ action ∈ body.members.actions, edge.target = SymbolNode.scopedId .action body.members.store action.1
  relation : edge.relation ∈ [Relation.readsState, .modifiesState, .calls]

/-- What a body does to its store is no use of an import. -/
theorem Reaches.isUse {body : Body} {edge : Edge} (reaches : body.Reaches edge) : edge.relation.isUse = false := by
  have relation := reaches.relation
  cases shape : edge.relation <;> simp [shape] at relation <;> rfl

/-- The use of a state field is an edge to it. -/
theorem stateUse?_reaches {body : Body} {property : String} {relation : Relation} {edge : Edge}
    (found : body.stateUse? property relation = some edge)
    (access : relation ∈ [Relation.readsState, .modifiesState, .calls]) : body.Reaches edge := by
  unfold stateUse? at found
  -- Only a field of the store has an edge.
  split at found
  · rename_i isField
    cases found
    exact ⟨rfl, Or.inl ⟨property, List.contains_iff_mem.mp isField, rfl⟩, access⟩
  · cases found

/-- The call of an action is an edge to it. -/
theorem callOf?_reaches {body : Body} {property : String} {edge : Edge} (found : body.callOf? property = some edge) :
    body.Reaches edge := by
  unfold callOf? at found
  -- Only another action of the store has an edge.
  split at found
  · rename_i isOther
    cases found
    have listed : property ∈ body.members.actions.map (·.1) :=
      List.contains_iff_mem.mp (Bool.and_eq_true_iff.mp isOther).2
    obtain ⟨action, member, rfl⟩ := List.mem_map.mp listed
    exact ⟨rfl, Or.inr ⟨action, member, rfl⟩, by simp⟩
  · cases found

/-- Meeting a node adds at most one edge, which leads to a state field or an action. -/
theorem meet_edges (body : Body) (tree : SyntaxTree) (place : Nat) (shape : Shape) (found : Found) :
    ∃ added : Option Edge, (body.meet tree place shape found).2.edges = added.toList ++ found.edges ∧
      ∀ edge, added = some edge → body.Reaches edge := by
  -- Only uses and calls of members add anything, and only if the receiver is the store.
  cases shape with
  | member receiver property =>
    simp only [meet]
    split
    · refine ⟨_, rfl, fun edge used => stateUse?_reaches used ?_⟩
      split <;> simp
    · exact ⟨none, rfl, nofun⟩
  | call callee arguments =>
    -- A call adds an edge only if its callee is a member of the receiver.
    simp only [meet]
    split
    · split
      · exact ⟨_, rfl, fun edge called => callOf?_reaches called⟩
      · exact ⟨none, rfl, nofun⟩
    · exact ⟨none, rfl, nofun⟩
  | _ => exact ⟨none, rfl, nofun⟩

/-- All edges from a body lead to state fields and actions. -/
theorem edges_reach {body : Body} {tree : SyntaxTree} {start : Nat} {edge : Edge}
    (member : edge ∈ body.edges tree start) : body.Reaches edge := by
  -- All edges found so far reach the store, and each meeting keeps that.
  let Kept (found : Found) : Prop := ∀ edge ∈ found.edges, body.Reaches edge
  have step (place : Nat) (shape : Shape) (found : Found) (kept : Kept found) :
      Kept (body.meet tree place shape found).2 := by
    intro other listed
    obtain ⟨added, split, reaches⟩ := body.meet_edges tree place shape found
    rw [split] at listed
    rcases List.mem_append.mp listed with new | old
    · exact reaches other (Option.mem_toList.mp new)
    · exact kept other old
  have kept : Kept (tree.visitFrom (body.meet tree) start {}) := SyntaxTree.visitFrom_keeps step start {} nofun
  exact kept edge (List.mem_reverse.mp member)

end Body

variable {members : Members} {symbols : List SymbolNode}

/-- A defined member is a symbol. -/
theorem mem_definitions {kind : SymbolKind} {path store name : String} {names : List String} (member : name ∈ names) :
    SymbolNode.scopedId kind store name ∈
      (Extraction.joined (names.map (definition kind path store))).symbols.map (·.id) := by
  simp only [Extraction.joined, List.flatMap_map, List.map_flatMap]
  exact List.mem_flatMap.mpr ⟨name, member, List.mem_singleton.mpr rfl⟩

/-- A definition leads from the store to the member. -/
theorem definitions_anchored {kind : SymbolKind} {store : String} {names : List String}
    (own : store ∈ symbols.map (·.id))
    (subset : (Extraction.joined (names.map (definition kind file.path store))).symbols ⊆ symbols) :
    ∀ edge ∈ (Extraction.joined (names.map (definition kind file.path store))).edges, edge.Anchored file symbols := by
  intro edge member
  simp only [Extraction.joined, List.flatMap_map] at member
  -- Each member has one edge, which ends at the symbol that is defined with it.
  obtain ⟨name, listed, single⟩ := List.mem_flatMap.mp member
  cases List.mem_singleton.mp single
  exact ⟨Or.inr own, fun _ => List.map_subset _ subset (mem_definitions listed), nofun⟩

/-- The edges from a member of the store are anchored by the members' own symbols. -/
theorem memberEdges_anchored {kind : SymbolKind} {entry : String × Nat}
    (own : SymbolNode.scopedId kind members.store entry.1 ∈ symbols.map (·.id))
    (fields : ∀ field ∈ members.state, SymbolNode.scopedId .stateField members.store field ∈ symbols.map (·.id))
    (actions : ∀ action ∈ members.actions, SymbolNode.scopedId .action members.store action.1 ∈ symbols.map (·.id)) :
    ∀ edge ∈ memberEdges file.tree members kind entry, edge.Anchored file symbols := by
  intro edge member
  unfold memberEdges at member
  -- A member without a body has no edge.
  split at member
  · have reaches := Body.edges_reach member
    refine ⟨Or.inr (reaches.source ▸ own), fun _ => ?_, fun use => by simp [reaches.isUse] at use⟩
    rcases reaches.target with ⟨field, listed, target⟩ | ⟨action, listed, target⟩
    · exact target ▸ fields field listed
    · exact target ▸ actions action listed
  · cases member

/-- What the members of a store amount to is anchored wherever the store and the members are symbols. -/
theorem extractMembers_anchored (own : members.store ∈ symbols.map (·.id))
    (subset : (extractMembers file members).symbols ⊆ symbols) :
    ∀ edge ∈ (extractMembers file members).edges, edge.Anchored file symbols := by
  -- The bodies add edges alone, so the symbols are those of the three sections.
  simp only [extractMembers, Extraction.symbols_append, Extraction.edges_append, List.append_subset] at subset ⊢
  obtain ⟨⟨⟨fields, getters⟩, actions⟩, -⟩ := subset
  -- Each kind of members is defined by its own part of the extraction.
  have fieldIds (field : String) (listed : field ∈ members.state) :
      SymbolNode.scopedId .stateField members.store field ∈ symbols.map (·.id) :=
    List.map_subset _ fields (mem_definitions listed)
  have getterIds (getter : String × Nat) (listed : getter ∈ members.getters) :
      SymbolNode.scopedId .getter members.store getter.1 ∈ symbols.map (·.id) :=
    List.map_subset _ getters (mem_definitions (List.mem_map_of_mem listed))
  have actionIds (action : String × Nat) (listed : action ∈ members.actions) :
      SymbolNode.scopedId .action members.store action.1 ∈ symbols.map (·.id) :=
    List.map_subset _ actions (mem_definitions (List.mem_map_of_mem listed))
  intro edge member
  simp only [List.mem_append] at member
  -- The first three cases are definitions, and the last two are what getters and actions do.
  rcases member with ((state | getter) | action) | body | body
  · exact definitions_anchored own fields edge state
  · exact definitions_anchored own getters edge getter
  · exact definitions_anchored own actions edge action
  · obtain ⟨entry, listed, found⟩ := List.mem_flatMap.mp body
    exact memberEdges_anchored (getterIds entry listed) fieldIds actionIds edge found
  · obtain ⟨entry, listed, found⟩ := List.mem_flatMap.mp body
    exact memberEdges_anchored (actionIds entry listed) fieldIds actionIds edge found

/-- What is extracted from a store file is anchored. -/
theorem extract_anchored (factory : String) : (extract factory file).Anchored file := by
  unfold extract extractCall
  -- Without the call of the factory, or without a name for the store, nothing is extracted.
  split
  · exact Extraction.anchored_empty
  · split
    · exact Extraction.anchored_empty
    · rename_i store _
      dsimp only
      -- The store itself is the first symbol, which anchors the edges to its members as well.
      have itself (edge : Edge) (same : edge = ⟨file.path, store, .defines⟩) (symbols : List SymbolNode)
          (own : store ∈ symbols.map (·.id)) : edge.Anchored file symbols := by
        subst same
        exact ⟨Or.inl rfl, fun _ => own, nofun⟩
      split
      · intro edge member
        exact itself edge (List.mem_singleton.mp member) _ (List.mem_singleton.mpr rfl)
      · -- The store comes first, and its members behind it.
        intro edge member
        rcases List.mem_append.mp member with first | later
        · exact itself edge (List.mem_singleton.mp first) _ (List.mem_cons_self ..)
        · refine extractMembers_anchored ?_ (List.subset_append_right ..) edge later
          exact List.mem_cons_self ..

end Store

/-! ### Routes -/

namespace Routes

/-- A route leads from its own symbol, to which the file leads. -/
theorem extractEntry_anchored (entry : Entry) : (extractEntry file.path entry).Anchored file := by
  unfold extractEntry
  -- A route has two edges: one to its view, and one from the file to the route itself.
  split
  · intro edge member
    rcases List.mem_cons.mp member with rfl | rest
    · exact ⟨Or.inr (List.mem_singleton.mpr rfl), nofun, nofun⟩
    · cases List.mem_singleton.mp rest
      exact ⟨Or.inl rfl, fun _ => List.mem_singleton.mpr rfl, nofun⟩
  · exact Extraction.anchored_empty

/-- What is extracted from a router file is anchored. -/
theorem extract_anchored : (extract file).Anchored file := by
  -- Without a table nothing is extracted.
  unfold extract
  split
  · exact Extraction.anchored_empty
  · refine Extraction.anchored_joined fun part member => ?_
    obtain ⟨entry, _, rfl⟩ := List.mem_map.mp member
    exact extractEntry_anchored entry

end Routes

/-! ### Files -/

/-- What is extracted from a file of any kind is anchored. -/
theorem SourceModule.extract_anchored (order : BindingOrder) (kind : FileKind) :
    (SourceModule.extract order words kind file).Anchored file := by
  refine Extraction.Anchored.append extractImports_anchored ?_
  -- Only these three kinds of files have symbols and edges of their own.
  cases kind with
  | uiComponent => exact Component.extract_anchored order
  | stateStore => exact Store.extract_anchored _
  | routerConfig => exact Routes.extract_anchored
  | _ => exact Extraction.anchored_empty

/-- What a file uses is the target of an import among its edges. -/
theorem SourceModule.extract_used {order : BindingOrder} {kind : FileKind} {edge : Edge}
    (member : edge ∈ (SourceModule.extract order words kind file).edges) (use : edge.relation.isUse) :
    ∃ other ∈ (SourceModule.extract order words kind file).edges, other.source = edge.source ∧
      other.target = edge.target ∧
      other.relation ∈ [Relation.imports, Relation.importsPackage] := by
  -- The import that anchors the use has an edge of its own, ahead of all others.
  obtain ⟨source, entry, listed, target⟩ := (SourceModule.extract_anchored order kind edge member).used use
  obtain ⟨other, found, otherSource, otherTarget, relation⟩ := mem_extractImports listed
  exact ⟨other, List.mem_append_left _ found, otherSource.trans source.symm, otherTarget.trans target, relation⟩

end LayerAudit
