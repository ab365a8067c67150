import LayerAudit.Proofs.Extraction.Ends

/-! A file has an edge to what it imports, and a symbol for a package, only because of an import at its top level. -/

namespace LayerAudit

/-- The relations of a file to what it imports. -/
def Relation.isImport : Relation → Bool
  | imports | importsPackage => true
  | _ => false

/-- The relation of a file to the target of an import. -/
def ImportTarget.relation : ImportTarget → Relation
  | file _ => .imports
  | package _ => .importsPackage

/-- The symbol of a package that a file imports. -/
def SymbolNode.package (path name : String) : SymbolNode :=
  (standalone .externalPackage name path).withPurpose s!"External package \x60{name}\x60"

variable {file : SourceModule} {order : BindingOrder} {words : Vocabulary} {kind : FileKind}

/-! ### Extractions without imports -/

namespace Extraction

/-- No edge leads to an import, and no symbol is a package. -/
structure ImportsNothing (extraction : Extraction) : Prop where
  edges : ∀ edge ∈ extraction.edges, edge.relation.isImport = false
  symbols : ∀ symbol ∈ extraction.symbols, symbol.kind ≠ .externalPackage

/-- The empty extraction imports nothing. -/
theorem importsNothing_empty : ImportsNothing {} := ⟨nofun, nofun⟩

/-- Two extractions that import nothing import nothing together. -/
theorem ImportsNothing.append {first second : Extraction} (left : first.ImportsNothing)
    (right : second.ImportsNothing) :
    (first ++ second).ImportsNothing where
  edges := fun edge member => (List.mem_append.mp member).elim (left.edges edge) (right.edges edge)
  symbols := fun symbol member => (List.mem_append.mp member).elim (left.symbols symbol) (right.symbols symbol)

/-- Extractions that import nothing import nothing together. -/
theorem importsNothing_joined {parts : List Extraction} (each : ∀ part ∈ parts, part.ImportsNothing) :
    (joined parts).ImportsNothing where
  edges := by
    intro edge member
    -- What is joined comes from one of the parts, which imports nothing.
    obtain ⟨part, listed, found⟩ := List.mem_flatMap.mp member
    exact (each part listed).edges edge found
  symbols := by
    intro symbol member
    obtain ⟨part, listed, found⟩ := List.mem_flatMap.mp member
    exact (each part listed).symbols symbol found

/-- Edges alone import nothing if their relations say so. -/
theorem importsNothing_edges {edges : List Edge} (each : ∀ edge ∈ edges, edge.relation.isImport = false) :
    ImportsNothing { edges } := ⟨each, nofun⟩

end Extraction

open Extraction

namespace Component

/-- Declared names are no imports. -/
theorem declarations_importNothing (kind : SymbolKind) (relation : Relation) (title path : String) (names : List String)
    (declares : relation.isImport = false) (declared : kind ≠ .externalPackage) :
    (joined (names.map (declaration kind relation title path))).ImportsNothing := by
  refine importsNothing_joined fun part member => ?_
  obtain ⟨name, _, rfl⟩ := List.mem_map.mp member
  -- A declaration has one edge and one symbol, which are looked at in turn.
  constructor
  · intro edge single
    cases List.mem_singleton.mp single
    exact declares
  · intro symbol single
    cases List.mem_singleton.mp single
    exact declared

/-- The use of a store is no import of it. -/
theorem storeUses_isImport {edge : Edge} (member : edge ∈ storeUses words file) : edge.relation.isImport = false := by
  obtain ⟨place, _, found⟩ := List.mem_filterMap.mp member
  split at found
  · obtain ⟨target, _, rfl⟩ := Option.map_eq_some_iff.mp found
    rfl
  · cases found

/-- The use of a component is no import of it. -/
theorem componentUses_isImport {bindings : List (String × ImportTarget)} {edge : Edge}
    (member : edge ∈ componentUses bindings file) :
    edge.relation.isImport = false := by
  -- The edge is built for a tag, with a relation of its own.
  rw [componentUses_eq] at member
  obtain ⟨tag, _, found⟩ := List.mem_filterMap.mp member
  obtain ⟨target, _, rfl⟩ := Option.map_eq_some_iff.mp found
  rfl

/-- What a component declares and uses is no import. -/
theorem extract_importsNothing (bindings : List (String × ImportTarget)) :
    (extract bindings words file).ImportsNothing :=
  (((importsNothing_edges fun _ member => storeUses_isImport member).append
    (declarations_importNothing .prop .definesProp _ _ _ rfl nofun)).append
      (declarations_importNothing .event .definesEvent _ _ _ rfl nofun)).append
        (importsNothing_edges fun _ member => componentUses_isImport member)

end Component

namespace Store

/-- Defined members are no imports. -/
theorem definitions_importNothing (kind : SymbolKind) {path store : String} (names : List String)
    (defined : kind ≠ .externalPackage) : (joined (names.map (definition kind path store))).ImportsNothing := by
  refine importsNothing_joined fun part member => ?_
  -- A definition has one edge and one symbol as well.
  obtain ⟨name, _, rfl⟩ := List.mem_map.mp member
  constructor
  · intro edge single
    cases List.mem_singleton.mp single
    rfl
  · intro symbol single
    cases List.mem_singleton.mp single
    exact defined

/-- A member of a store imports nothing in its body. -/
theorem memberEdges_isImport {tree : SyntaxTree} {members : Members} {kind : SymbolKind} {entry : String × Nat}
    {edge : Edge} (member : edge ∈ memberEdges tree members kind entry) : edge.relation.isImport = false := by
  unfold memberEdges at member
  split at member
  · -- A body only uses what the store has.
    have relation := (Body.edges_reach member).relation
    cases shape : edge.relation <;> simp [shape] at relation <;> rfl
  · cases member

/-- The members of a store are no imports. -/
theorem extractMembers_importsNothing (members : Members) : (extractMembers file members).ImportsNothing := by
  -- Fields, getters and actions are defined first; then come the edges of their bodies.
  refine (((definitions_importNothing .stateField _ nofun).append (definitions_importNothing .getter _ nofun)).append
    (definitions_importNothing .action _ nofun)).append (importsNothing_edges fun edge member => ?_)
  rcases List.mem_append.mp member with getter | action
  · obtain ⟨entry, _, found⟩ := List.mem_flatMap.mp getter
    exact memberEdges_isImport found
  · obtain ⟨entry, _, found⟩ := List.mem_flatMap.mp action
    exact memberEdges_isImport found

/-- A store file's store is no import. -/
theorem extract_importsNothing (factory : String) : (extract factory file).ImportsNothing := by
  unfold extract extractCall
  split
  · exact importsNothing_empty
  · split
    · exact importsNothing_empty
    · rename_i store _
      dsimp only
      -- The store itself has one symbol and one edge.
      have itself : ImportsNothing
          { symbols := [(SymbolNode.standalone .store store file.path).withPurpose s!"State store \x60{store}\x60"]
            edges := [⟨file.path, store, .defines⟩] } := by
        constructor
        · intro edge single
          cases List.mem_singleton.mp single
          rfl
        · intro symbol single
          cases List.mem_singleton.mp single
          nofun
      split
      · exact itself
      · exact itself.append (extractMembers_importsNothing _)

end Store

namespace Routes

/-- A route is no import. -/
theorem extractEntry_importsNothing (path : String) (entry : Entry) : (extractEntry path entry).ImportsNothing := by
  unfold extractEntry
  split
  · -- A route has two edges and one symbol.
    constructor
    · intro edge member
      rcases List.mem_cons.mp member with rfl | rest
      · rfl
      · cases List.mem_singleton.mp rest
        rfl
    · intro symbol single
      cases List.mem_singleton.mp single
      nofun
  · exact importsNothing_empty

/-- The routes of a router file are no imports. -/
theorem extract_importsNothing : (extract file).ImportsNothing := by
  unfold extract
  split
  · exact importsNothing_empty
  · refine importsNothing_joined fun part member => ?_
    obtain ⟨entry, _, rfl⟩ := List.mem_map.mp member
    exact extractEntry_importsNothing _ entry

end Routes

/-! ### Files -/

namespace SourceModule

/-- Behind the imports of a file comes what it declares, which imports nothing. -/
theorem extract_split (order : BindingOrder) (words : Vocabulary) (kind : FileKind) (file : SourceModule) :
    ∃ declared : Extraction, SourceModule.extract order words kind file = file.extractImports ++ declared ∧
      declared.ImportsNothing := by
  refine ⟨_, rfl, ?_⟩
  cases kind with
  -- Three kinds of files declare something beside their imports.
  | uiComponent => exact Component.extract_importsNothing _
  | stateStore => exact Store.extract_importsNothing _
  | routerConfig => exact Routes.extract_importsNothing
  | _ => exact importsNothing_empty

/-- The edge of an import leads from the file to the target of the import. -/
theorem mem_extractImports_iff {edge : Edge} :
    edge ∈ file.extractImports.edges ↔
      ∃ entry ∈ file.imports, edge = ⟨file.path, entry.target.id, entry.target.relation⟩ := by
  -- One import has one edge, whose relation depends on what is imported.
  have single (entry : ResolvedImport) :
      (extractImport file.path entry).edges = [⟨file.path, entry.target.id, entry.target.relation⟩] := by
    unfold extractImport
    cases entry.target <;> rfl
  simp [extractImports, joined, single]

/-- The symbol of an import is that of an imported package. -/
theorem mem_symbols_extractImports_iff {symbol : SymbolNode} :
    symbol ∈ file.extractImports.symbols ↔
      ∃ entry ∈ file.imports, ∃ name, entry.target = .package name ∧ symbol = .package file.path name := by
  -- Only a package is a symbol.
  have single (entry : ResolvedImport) : symbol ∈ (extractImport file.path entry).symbols ↔
      ∃ name, entry.target = .package name ∧ symbol = .package file.path name := by
    unfold extractImport
    cases entry.target with
    | file path => simp
    | package name => simp [SymbolNode.package]
  simp [extractImports, joined, single]

/-- An edge to an import is that of an import. -/
theorem mem_extractImports_of_isImport {edge : Edge} (found : edge ∈ (SourceModule.extract order words kind file).edges)
    (isImport : edge.relation.isImport) : edge ∈ file.extractImports.edges := by
  -- What a file declares has none of these edges.
  obtain ⟨declared, split, nothing⟩ := extract_split order words kind file
  rw [split] at found
  rcases List.mem_append.mp found with imported | other
  · exact imported
  · simp [nothing.edges edge other] at isImport

/-- The edge to an import leads from the file. -/
theorem source_of_isImport {edge : Edge} (found : edge ∈ (SourceModule.extract order words kind file).edges)
    (isImport : edge.relation.isImport) : edge.source = file.path := by
  obtain ⟨entry, _, rfl⟩ := mem_extractImports_iff.mp (mem_extractImports_of_isImport found isImport)
  rfl

/-- A file imports a package exactly if the symbol of the package is among those of its imports. -/
theorem importsPackage_iff {name : String} :
    ⟨file.path, name, .importsPackage⟩ ∈ (SourceModule.extract order words kind file).edges ↔
      .package file.path name ∈ file.extractImports.symbols := by
  rw [mem_symbols_extractImports_iff]
  constructor
  · intro found
    obtain ⟨entry, listed, same⟩ := mem_extractImports_iff.mp (mem_extractImports_of_isImport found rfl)
    simp only [Edge.mk.injEq, true_and] at same
    -- Only a package has an edge of this relation.
    cases target : entry.target with
    | file path => simp [target, ImportTarget.relation] at same
    | package other =>
      simp only [target, ImportTarget.id, ImportTarget.relation, and_true] at same
      exact ⟨entry, listed, name, by rw [target, same], rfl⟩
  · rintro ⟨entry, listed, other, target, same⟩
    -- Two packages with one symbol have one name.
    obtain rfl : name = other := congrArg SymbolNode.name same
    -- The package is imported, so that its edge is the one that is asked for.
    refine List.mem_append_left _ (mem_extractImports_iff.mpr ⟨entry, listed, ?_⟩)
    rw [target]
    rfl

/-- A symbol of a package is that of a package that the file imports. -/
theorem eq_package_of_kind {symbol : SymbolNode} (found : symbol ∈ (SourceModule.extract order words kind file).symbols)
    (isPackage : symbol.kind = .externalPackage) :
    symbol = .package file.path symbol.id ∧ symbol ∈ file.extractImports.symbols := by
  obtain ⟨declared, split, nothing⟩ := extract_split order words kind file
  rw [split] at found
  -- The symbol comes from an import, since nothing that a file declares is a package.
  rcases List.mem_append.mp found with imported | other
  · obtain ⟨entry, listed, name, target, rfl⟩ := mem_symbols_extractImports_iff.mp imported
    exact ⟨rfl, imported⟩
  · exact absurd isPackage (nothing.symbols symbol other)

/-- The first symbol of a file with the name of a package that the file imports is that of the package. -/
theorem find?_of_importsPackage {name : String}
    (imported : ⟨file.path, name, .importsPackage⟩ ∈ (SourceModule.extract order words kind file).edges) :
    (SourceModule.extract order words kind file).symbols.find? (·.id == name) = some (.package file.path name) := by
  have offered := importsPackage_iff.mp imported
  -- The imports come first, and two packages with one name are the same.
  have found : file.extractImports.symbols.find? (·.id == name) = some (.package file.path name) := by
    -- Some symbol of the imports has the name, so that a search among them finds one.
    have some : (file.extractImports.symbols.find? (·.id == name)).isSome :=
      List.find?_isSome.mpr ⟨_, offered, beq_self_eq_true name⟩
    obtain ⟨symbol, found⟩ := Option.isSome_iff_exists.mp some
    have named : symbol.id = name := by simpa using List.find?_some found
    obtain ⟨_, _, other, _, rfl⟩ := mem_symbols_extractImports_iff.mp (List.mem_of_find?_eq_some found)
    obtain rfl : other = name := named
    exact found
  obtain ⟨declared, split, _⟩ := extract_split order words kind file
  rw [split]
  change (file.extractImports.symbols ++ declared.symbols).find? _ = _
  rw [List.find?_append, found, Option.some_or]

end SourceModule

end LayerAudit
