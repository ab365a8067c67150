import LayerAudit.Proofs.Audit.Findings
import LayerAudit.Proofs.Policy.Dependencies
import Mathlib.Data.List.Chain

/-! Where an audit finds no fault with dependencies, no way along the imports climbs from a layer to a higher one. -/

namespace LayerAudit

/-- A file on a way, with the layer that it lies in. -/
structure Stop where
  path : String
  layer : LayerSpec
  deriving DecidableEq, Repr, Inhabited

/-- A way along the imports of a graph. All of its files lie in layers, and those that are imported on the way are
source modules. -/
structure ImportWay (config : Config) (graph : Graph) (stops : List Stop) : Prop where
  layered : ∀ stop ∈ stops, (Layering.ofSpecs config.layers).layerOf? stop.path = some stop.layer
  linked : stops.IsChain fun importer imported => ⟨importer.path, imported.path, .imports⟩ ∈ graph.edges
  modules : ∀ stop ∈ stops.tail, ∃ extension ∈ config.project.sourceExtensions, Path.HasExtension stop.path extension

/-- What the layers along a way have to obey. -/
structure Descends (config : Config) (stops : List Stop) : Prop where
  ranks : stops.Pairwise fun earlier later => earlier.layer.rank ≥ later.layer.rank
  permitted : stops.IsChain fun importer imported => config.Permits importer.layer.name imported.layer.name
  /-- A way that comes back to its first file never left the rank of that file. -/
  cycle : ∀ first ∈ stops.head?, ∀ last ∈ stops.getLast?, first.path = last.path →
    ∀ stop ∈ stops, stop.layer.rank = first.layer.rank

namespace Setup

section

variable {setup : Setup} {config : Config} {vocabulary : Option Vocabulary} {order : BindingOrder}
  {files : FileSystem} {root : String} {paths : List String} {stops : List Stop}

/-- Where ranks never increase and the last one is the first one, all are the same. -/
theorem rank_eq_of_ends {first last : Stop}
    (ranks : stops.Pairwise fun earlier later => earlier.layer.rank ≥ later.layer.rank)
    (isFirst : first ∈ stops.head?) (isLast : last ∈ stops.getLast?) (same : last.layer.rank = first.layer.rank) :
    ∀ stop ∈ stops, stop.layer.rank = first.layer.rank := by
  intro stop member
  -- Every rank lies between the first one and the last one.
  have atMost : stop.layer.rank ≤ first.layer.rank := by
    obtain ⟨later, rfl⟩ := List.head?_eq_some_iff.mp isFirst
    rcases List.mem_cons.mp member with rfl | after
    · exact Nat.le_refl _
    · exact (List.pairwise_cons.mp ranks).1 stop after
  have atLeast : last.layer.rank ≤ stop.layer.rank := by
    obtain ⟨earlier, rfl⟩ := List.getLast?_eq_some_iff.mp isLast
    rcases List.mem_append.mp member with before | isIt
    · exact (List.pairwise_append.mp ranks).2.2 stop before last (List.mem_singleton.mpr rfl)
    · rw [List.mem_singleton.mp isIt]
  exact Nat.le_antisymm atMost (same ▸ atLeast)

/-- An import between two layers has no finding exactly if it neither climbs nor leads to a layer that is not
permitted. -/
theorem checkDependency_eq_nil_iff [Glob.Syntax] {importer imported : Stop} (goes : setup.GoesBy config)
    (lower : (Layering.ofSpecs config.layers).layerOf? importer.path = some importer.layer)
    (upper : (Layering.ofSpecs config.layers).layerOf? imported.path = some imported.layer)
    (isModule : ∃ extension ∈ config.project.sourceExtensions, Path.HasExtension imported.path extension) :
    setup.policy.checkDependency ⟨importer.path, imported.path, .imports⟩ = [] ↔
      importer.layer.rank ≥ imported.layer.rank ∧ config.Permits importer.layer.name imported.layer.name := by
  -- The allow-lists speak of names, and a layer has the name of a configured one.
  obtain ⟨spec, configured, same⟩ := Layering.exists_slashed_of_layerOf? lower
  have named : spec.name = importer.layer.name := (congrArg LayerSpec.name same).symm
  rw [← goes.layering] at lower upper
  rw [← goes.sourceExtensions] at isModule
  have checked : setup.policy.checkDependency ⟨importer.path, imported.path, .imports⟩ =
      setup.policy.checkLayers ⟨importer.path, imported.path, .imports⟩ importer.layer imported.layer :=
    Policy.checkDependency_eq_checkLayers rfl (Policy.isSourceModule_iff.mpr isModule) lower upper
  rw [checked, Policy.checkLayers_eq_nil_iff, goes.allowed, ← named, Policy.mem_allowLists configured]

variable [Script.Syntax]

/-- Where an audit finds no fault with dependencies, each edge was checked without a finding. -/
theorem checkDependency_of_clean
    (clean : ∀ violation ∈ (setup.auditOf order files root paths).violations, violation.kind ≠ .dependency)
    {edge : Edge} (member : edge ∈ (setup.auditOf order files root paths).graph.edges) :
    setup.policy.checkDependency edge = [] := by
  -- A finding about the edge would stand among those of the audit.
  refine List.eq_nil_iff_forall_not_mem.mpr fun violation found => ?_
  refine clean violation ?_ (Policy.isAbout_of_mem_checkDependency found).is.kind
  rw [violations_auditOf]
  exact List.mem_append_right _ (List.mem_flatten.mpr ⟨_, List.mem_map_of_mem member, found⟩)

variable [Glob.Syntax]

/-- Ways along the imports of an audit without findings about dependencies descend. -/
theorem descends_auditOf (goes : setup.GoesBy config)
    (clean : ∀ violation ∈ (setup.auditOf order files root paths).violations, violation.kind ≠ .dependency)
    (way : ImportWay config (setup.auditOf order files root paths).graph stops) : Descends config stops := by
  -- Each step descends, and so does the whole way.
  -- The step from each file to the next one is an edge of the graph that was checked.
  have steps : stops.IsChain fun importer imported =>
      importer.layer.rank ≥ imported.layer.rank ∧ config.Permits importer.layer.name imported.layer.name := by
    refine way.linked.imp_of_mem_tail_imp fun importer imported from_ to_ linked => ?_
    exact (checkDependency_eq_nil_iff goes (way.layered importer from_)
      (way.layered imported (List.mem_of_mem_tail to_)) (way.modules imported to_)).mp
      (checkDependency_of_clean clean linked)
  -- Descending step by step, ranks do not increase over any distance.
  have ranks : stops.Pairwise fun earlier later => earlier.layer.rank ≥ later.layer.rank :=
    List.pairwise_map.mp (List.isChain_iff_pairwise.mp
      (List.isChain_map_of_isChain (·.layer.rank) (fun _ _ step => step.1) steps))
  refine ⟨ranks, steps.imp fun _ _ step => step.2, ?_⟩
  intro first isFirst last isLast same
  -- A file has one layer, however often the way passes it.
  have sameLayer : last.layer = first.layer := by
    have ofLast := way.layered last (List.mem_of_mem_getLast? isLast)
    rw [← same, way.layered first (List.mem_of_mem_head? isFirst)] at ofLast
    exact (Option.some.inj ofLast).symm
  exact rank_eq_of_ends ranks isFirst isLast (congrArg LayerSpec.rank sameLayer)

variable [Pattern.Syntax]

/-- In an audit without findings about dependencies, no way along imports between layered files, by way of source
modules, climbs to a higher layer; each layer on it is permitted to the one before; and a way that comes back to its
first file stays within layers of one rank. -/
theorem audit_imports_descend {audit : Audit} {warnings : List Warning}
    (made : ofConfig vocabulary config = .ok setup) (done : setup.audit order files root = .ok (audit, warnings))
    (clean : ∀ violation ∈ audit.violations, violation.kind ≠ .dependency)
    (way : ImportWay config audit.graph stops) : Descends config stops := by
  -- The audit is that of the paths that were discovered.
  obtain ⟨paths, _, result⟩ := discover_of_audit done
  have same : audit = setup.auditOf order files root paths := congrArg Prod.fst result
  subst same
  exact descends_auditOf (goesBy_of_ofConfig made) clean way

end

/-! ### A way there and back -/

/-- Two layers of one rank that may import from each other. -/
def peers : Config where
  layers := [⟨"one", 0, "src/a"⟩, ⟨"two", 0, "src/b"⟩]
  dependencies := [("one", ["two"]), ("two", ["one"])]

/-- What an audit with the two layers goes by. -/
def peerSetup : Setup := ((ofConfig (readVocabulary peers).toOption peers).toOption).getD default

/-- Two scripts that import each other. -/
def eachOther : FileSystem := twoScripts "import \"./b.js\"".toByteArray "import \"./a.js\"".toByteArray

/-- One of the scripts. -/
def here : Stop := ⟨"src/a.js", ⟨"one", 0, "src/a"⟩⟩

/-- The other script. -/
def there : Stop := ⟨"src/b.js", ⟨"two", 0, "src/b"⟩⟩

/-- An audit with the two layers can be set up. -/
theorem ofConfig_peers : ofConfig (readVocabulary peers).toOption peers = .ok peerSetup :=
  ofConfig_getD default (by decide +kernel)

/-- Both scripts are discovered. -/
theorem discover_eachOther : peerSetup.discover eachOther "app" = .ok ["src/a.js", "src/b.js"] := by
  -- The layers differ from the usual ones, but the globs do not.
  have selects : peerSetup.selects = usual.selects :=
    (goesBy_of_ofConfig ofConfig_peers).selects_eq.trans goesBy_usual.selects_eq.symm
  have found := discover_twoScripts "import \"./b.js\"".toByteArray "import \"./a.js\"".toByteArray
  simp only [discover, selects] at found ⊢
  exact found

/-- Each script imports the other one. -/
theorem edges_eachOther :
    (peerSetup.auditOf .sorted eachOther "app" ["src/a.js", "src/b.js"]).graph.edges =
      [⟨here.path, there.path, .imports⟩, ⟨there.path, here.path, .imports⟩] := by
  -- The two scripts are read, decoded and parsed; what they import is resolved against each other.
  have vocabulary : peerSetup.vocabulary.isSome := by
    rw [vocabulary_of_ofConfig ofConfig_peers]
    rfl
  have kinds : peerSetup.config.conventions.kindOf "src/a.js" = .utility ∧
      peerSetup.config.conventions.kindOf "src/b.js" = .utility := by
    rw [(goesBy_of_ofConfig ofConfig_peers).settings]
    decide
  have plain : ParsedFile.isComponentPath "src/a.js" = false ∧ ParsedFile.isComponentPath "src/b.js" = false :=
    ⟨rfl, rfl⟩
  have decoded : String.fromUTF8? "import \"./b.js\"".toByteArray = some "import \"./b.js\"" ∧
      String.fromUTF8? "import \"./a.js\"".toByteArray = some "import \"./a.js\"" := by
    decide
  have imports : importShapes? "import \"./b.js\"" = some [.staticImport "./b.js" none []] ∧
      importShapes? "import \"./a.js\"" = some [.staticImport "./a.js" none []] := by
    decide +kernel
  have resolved : (peerSetup.scopeOf ["src/a.js", "src/b.js"]).resolve "src/a.js" "./b.js" = .file "src/b.js" ∧
      (peerSetup.scopeOf ["src/a.js", "src/b.js"]).resolve "src/b.js" "./a.js" = .file "src/a.js" :=
    ⟨resolve_of_mem rfl rfl (by simp), resolve_of_mem rfl rfl (by simp)⟩
  have read := read_twoScripts "import \"./b.js\"".toByteArray "import \"./a.js\"".toByteArray
  rw [edges_auditOf]
  simp only [List.flatMap_cons, List.flatMap_nil, eachOther,
    examine_imports read.1 vocabulary (.inl kinds.1) plain.1 decoded.1 imports.1,
    examine_imports read.2 vocabulary (.inl kinds.2) plain.2 decoded.2 imports.2,
    List.filterMap_cons, List.filterMap_nil, SourceModule.importOf?, resolved]
  rfl

/-- Each script lies in its layer. -/
theorem layered_eachOther :
    (Layering.ofSpecs peers.layers).layerOf? here.path = some here.layer ∧
      (Layering.ofSpecs peers.layers).layerOf? there.path = some there.layer := by
  -- The layers are sorted already, so that they stay as they are configured.
  have sorted : Layering.ofSpecs peers.layers = ⟨peers.layers⟩ :=
    Layering.ofSpecs_of_sorted (by decide) (by decide)
  rw [sorted]
  exact ⟨rfl, rfl⟩

/-- Both scripts are source modules. -/
theorem modules_eachOther :
    (∃ extension ∈ peers.project.sourceExtensions, Path.HasExtension here.path extension) ∧
      ∃ extension ∈ peers.project.sourceExtensions, Path.HasExtension there.path extension :=
  ⟨⟨"js", by decide, "src/a", by decide, by decide⟩, ⟨"js", by decide, "src/b", by decide, by decide⟩⟩

/-- The layers permit both imports. -/
theorem clean_eachOther :
    ∀ violation ∈ (peerSetup.auditOf .sorted eachOther "app" ["src/a.js", "src/b.js"]).violations,
      violation.kind ≠ .dependency := by
  -- Both layers are allowed to each other, in spite of their equal ranks.
  have goes : peerSetup.GoesBy peers := goesBy_of_ofConfig ofConfig_peers
  have first : peerSetup.policy.checkDependency ⟨here.path, there.path, .imports⟩ = [] := by
    refine (checkDependency_eq_nil_iff goes layered_eachOther.1 layered_eachOther.2 modules_eachOther.2).mpr
      ⟨Nat.le_refl 0, Or.inr ⟨["two"], by decide, by decide⟩⟩
  have second : peerSetup.policy.checkDependency ⟨there.path, here.path, .imports⟩ = [] := by
    refine (checkDependency_eq_nil_iff goes layered_eachOther.2 layered_eachOther.1 modules_eachOther.1).mpr
      ⟨Nat.le_refl 0, Or.inr ⟨["one"], by decide, by decide⟩⟩
  intro violation member
  rw [violations_auditOf, edges_eachOther] at member
  rcases List.mem_append.mp member with ofFile | ofEdge
  · -- Whatever is found about a file itself is of another kind.
    obtain ⟨_, listed, found⟩ := List.mem_flatten.mp ofFile
    obtain ⟨path, _, rfl⟩ := List.mem_map.mp listed
    exact (examine_findings goes).kind_ne found
  · simp [first, second] at ofEdge

/-- The way from the one script to the other and back is a case of this. -/
theorem audit_imports_descend_eachOther :
    ofConfig (readVocabulary peers).toOption peers = .ok peerSetup ∧
      ∃ audit warnings, peerSetup.audit .sorted eachOther "app" = .ok (audit, warnings) ∧
        (∀ violation ∈ audit.violations, violation.kind ≠ .dependency) ∧
        ImportWay peers audit.graph [here, there, here] ∧ Descends peers [here, there, here] := by
  have done := audit_of_discover .sorted discover_eachOther
  -- All three stops lie in layers, and each is linked to the next one.
  have way : ImportWay peers (peerSetup.auditOf .sorted eachOther "app" ["src/a.js", "src/b.js"]).graph
      [here, there, here] := by
    constructor
    · simpa using ⟨layered_eachOther.1, layered_eachOther.2, layered_eachOther.1⟩
    · rw [edges_eachOther]
      simp
    · simpa using modules_eachOther.symm
  exact ⟨ofConfig_peers, _, _, done, clean_eachOther, way,
    audit_imports_descend ofConfig_peers done clean_eachOther way⟩

end Setup

end LayerAudit
