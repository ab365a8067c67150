import LayerAudit.Pattern.Reader
import LayerAudit.Proofs.Policy.Dependencies

/-!
What is found about an edge: nothing unless it is checked, else that it climbs if it does, and then that it strays from
the list of its layer if it does. If only one finding is kept for an edge, that is the first of them.
-/

namespace LayerAudit

/-- A list holds the layers that a layer may import from, in increasing order. -/
structure Config.Lists (config : Config) (importer : String) (listed : List String) : Prop where
  increasing : Sorted.Increasing listed
  mem_iff : ∀ imported, imported ∈ listed ↔ config.Permits importer imported

/-- An edge is checked if it is an import of a source module, between two layers. -/
structure Config.Checks (config : Config) (edge : Edge) (importer imported : LayerSpec) : Prop where
  imports : edge.relation = .imports
  ofModule : ∃ extension ∈ config.project.sourceExtensions, Path.HasExtension edge.target extension
  lower : (Layering.ofSpecs config.layers).layerOf? edge.source = some importer
  upper : (Layering.ofSpecs config.layers).layerOf? edge.target = some imported

/-- The configuration with one finding on an edge, or with all of them. -/
def Config.deduplicating (config : Config) (once : Bool) : Config :=
  { config with rules := { config.rules with deduplicateDependencies := once } }

instance (config : Config) (importer imported : String) : Decidable (config.Permits importer imported) :=
  decidable_of_iff (imported = importer ∨ ∃ entry ∈ config.dependencies, entry.1 = importer ∧ imported ∈ entry.2) <|
    or_congr_right
      ⟨fun ⟨entry, listed, same, member⟩ => ⟨entry.2, same ▸ listed, member⟩,
        fun ⟨targets, listed, member⟩ => ⟨(importer, targets), listed, rfl, member⟩⟩

namespace Policy

variable {policy all once : Policy} {config : Config} {edge : Edge} {importer imported : LayerSpec}

/-! ### Allow-lists in order -/

/-- Every list of a table is in increasing order. -/
def ListsIncrease (table : List (String × List String)) : Prop :=
  ∀ layer listed, Sorted.get? layer table = some listed → Sorted.Increasing listed

/-- Allowing more to a layer keeps all lists in order. -/
theorem ListsIncrease.allow {table : List (String × List String)} (increase : ListsIncrease table) (layer : String)
    (targets : List String) : ListsIncrease (allow table layer targets) := by
  -- By the layer that is asked for: the one that is allowed more, or another.
  intro sought listed found
  rw [Policy.allow, Sorted.get?_put] at found
  split at found
  · -- The layer's own list grows from the one before, or from the layer alone.
    rw [← Option.some.inj found]
    refine Sorted.Increasing.addAll ?_ targets
    cases before : Sorted.get? layer table with
    | none => exact List.pairwise_singleton _ _
    | some earlier => exact increase layer earlier before
  · -- The lists of other layers stay as they are.
    exact increase sought listed found

/-- The allow-lists of a configuration are in order. -/
theorem listsIncrease_allowLists (layers : List LayerSpec) (dependencies : List (String × List String)) :
    ListsIncrease (allowLists layers dependencies) := by
  -- The table is built by allowing one entry after another, from the empty table on.
  rw [allowLists_eq_foldl]
  have start : ListsIncrease [] := nofun
  exact List.foldlRecOn _ _ start fun _ increase entry _ => increase.allow entry.1 entry.2

/-- A layer of a configuration has a list, and it holds what the configuration permits to that layer. -/
theorem exists_listed {spec : LayerSpec} (configured : spec ∈ config.layers) :
    ∃ listed, Sorted.get? spec.name (allowLists config.layers config.dependencies) = some listed ∧
      config.Lists spec.name listed := by
  -- Every configured layer has a list, at least the one that names itself.
  obtain ⟨listed, found⟩ := Option.isSome_iff_exists.mp (isSome_allowLists configured)
  refine ⟨listed, found, listsIncrease_allowLists _ _ _ _ found, fun imported => ?_⟩
  have members : imported ∈ (Sorted.get? spec.name (allowLists config.layers config.dependencies)).getD [] ↔
      config.Permits spec.name imported := mem_allowLists configured
  rwa [found, Option.getD_some] at members

/-! ### One finding or all -/

/-- The policy with one finding on an edge, or with all of them. -/
def deduplicating (policy : Policy) (once : Bool) : Policy :=
  { policy with rules := { policy.rules with deduplicateDependencies := once } }

/-- What a configuration says about findings on one edge changes nothing else of its policy. -/
theorem eq_deduplicating [Pattern.Syntax] (readAll : ofConfig (config.deduplicating false) = .ok all)
    (readOnce : ofConfig (config.deduplicating true) = .ok once) :
    all = all.deduplicating false ∧ once = all.deduplicating true := by
  unfold ofConfig at readAll readOnce
  have same (keep : Bool) : (config.deduplicating keep).placement = config.placement := rfl
  -- Reading the placement rules is the only step that may fail.
  rw [same] at readAll readOnce
  cases placement : config.placement.mapM readPlacement with
  | error bad => simp [placement] at readAll
  -- The placement rules are the same, so that both policies have the ones that are read.
  | ok rules =>
    simp only [placement, Except.ok.injEq] at readAll readOnce
    subst readAll readOnce
    exact ⟨rfl, rfl⟩

/-- All findings about an import between two layers: that it climbs, and then that it strays from the list. -/
def findings (policy : Policy) (edge : Edge) (importer imported : LayerSpec) : List Violation :=
  let listed := (Sorted.get? importer.name policy.allowed).getD []
  (if importer.rank < imported.rank then [policy.climbing edge importer imported] else []) ++
    if listed.contains imported.name then [] else [policy.unlisted edge listed importer imported]

/-- All findings about an import between two layers are reported, or only the first of them. -/
theorem checkLayers_eq (policy : Policy) (edge : Edge) (importer imported : LayerSpec) :
    policy.checkLayers edge importer imported =
      if policy.rules.deduplicateDependencies then (policy.findings edge importer imported).take 1
      else policy.findings edge importer imported := by
  unfold checkLayers findings
  cases policy.rules.deduplicateDependencies with
  | false => simp
  | true =>
    -- A climb is the first finding, and without one there is at most the other.
    by_cases climbs : importer.rank < imported.rank
    · simp [climbs]
    · by_cases listed : imported.name ∈ (Sorted.get? importer.name policy.allowed).getD []
      · simp [climbs, listed]
      · simp [climbs, listed]

/-- If one finding is kept for an edge, it is the first. -/
theorem checkDependency_deduplicating (policy : Policy) (edge : Edge) :
    (policy.deduplicating true).checkDependency edge = ((policy.deduplicating false).checkDependency edge).take 1 := by
  -- The same edges are checked, and the same is found about them.
  have sameModule (keep : Bool) : (policy.deduplicating keep).isSourceModule edge.target =
      policy.isSourceModule edge.target := rfl
  have sameLayering (keep : Bool) : (policy.deduplicating keep).layering = policy.layering := rfl
  have sameFindings (keep : Bool) : (policy.deduplicating keep).findings = policy.findings := rfl
  simp only [checkDependency, sameModule, sameLayering]
  split
  · split
    · simp only [checkLayers_eq, sameFindings]
      rfl
    · rfl
  · rfl

/-! ### Every edge -/

/-- Nothing is found about an edge that is not checked. -/
theorem checkDependency_of_unchecked (follows : policy.Follows config)
    (unchecked : ∀ importer imported, ¬config.Checks edge importer imported) : policy.checkDependency edge = [] := by
  -- The policy asks the same questions in turn, and a no to any of them ends the check.
  unfold checkDependency
  split
  · rename_i isImport
    simp only [Bool.and_eq_true, decide_eq_true_eq, isSourceModule_iff, follows.sourceExtensions] at isImport
    rw [follows.layering]
    split
    · -- With a layer at each end it would be checked.
      rename_i importer imported lower upper
      exact absurd ⟨isImport.1, isImport.2, lower, upper⟩ (unchecked importer imported)
    · rfl
  · rfl

/-- All findings about an edge that is checked are that it climbs if it does, and that it strays if it does. -/
theorem findings_of_checked (follows : policy.Follows config) (checked : config.Checks edge importer imported) :
    ∃ listed, Sorted.get? importer.name policy.allowed = some listed ∧ config.Lists importer.name listed ∧
      policy.findings edge importer imported =
        (if importer.rank < imported.rank then [policy.climbing edge importer imported] else []) ++
          if config.Permits importer.name imported.name then []
          else [policy.unlisted edge listed importer imported] := by
  -- The layer has the name of a configured one, and that one has a list.
  obtain ⟨spec, configured, same⟩ := Layering.exists_slashed_of_layerOf? checked.lower
  have named : spec.name = importer.name := (congrArg LayerSpec.name same).symm
  obtain ⟨listed, found, lists⟩ := exists_listed configured
  rw [← follows.allowed, named] at found
  rw [named] at lists
  refine ⟨listed, found, lists, ?_⟩
  unfold findings
  -- The layer's list holds exactly what is permitted to it.
  simp only [found, Option.getD_some, List.contains_iff_mem, lists.mem_iff]

/-- What a policy finds about an edge that is checked: all findings, or the first of them. -/
theorem checkDependency_of_checks (follows : policy.Follows config) (checked : config.Checks edge importer imported) :
    policy.checkDependency edge =
      if policy.rules.deduplicateDependencies then (policy.findings edge importer imported).take 1
      else policy.findings edge importer imported := by
  -- An edge that is checked passes each test of the policy, as that follows the configuration.
  have ofModule : policy.isSourceModule edge.target := by
    rw [isSourceModule_iff, follows.sourceExtensions]
    exact checked.ofModule
  have lower := checked.lower
  have upper := checked.upper
  rw [← follows.layering] at lower upper
  rw [checkDependency_eq_checkLayers checked.imports ofModule lower upper, checkLayers_eq]

/-- What a policy that reports all findings finds about an edge that is checked. -/
theorem checkDependency_of_checked (follows : policy.Follows config) (checked : config.Checks edge importer imported)
    (reportsAll : policy.rules.deduplicateDependencies = false) :
    policy.checkDependency edge = policy.findings edge importer imported := by
  rw [checkDependency_of_checks follows checked, reportsAll]
  rfl

/-- What a policy finds about an edge, with all findings or only one for each edge: nothing about an edge that is no
checked import of a source module between two layers; else first that it climbs, exactly if it does, and then that it
strays from the list of its layer, exactly if it does. That list is always there. One finding is kept exactly where
there is any, and it is the first. -/
theorem checkDependency_finds [Pattern.Syntax] (readAll : ofConfig (config.deduplicating false) = .ok all)
    (readOnce : ofConfig (config.deduplicating true) = .ok once) (edge : Edge) :
    ((∀ importer imported, ¬config.Checks edge importer imported) → all.checkDependency edge = []) ∧
      (∀ importer imported, config.Checks edge importer imported →
        ∃ listed, Sorted.get? importer.name all.allowed = some listed ∧ config.Lists importer.name listed ∧
          all.checkDependency edge =
            (if importer.rank < imported.rank then [all.climbing edge importer imported] else []) ++
              if config.Permits importer.name imported.name then []
              else [all.unlisted edge listed importer imported]) ∧
      once.checkDependency edge = (all.checkDependency edge).take 1 ∧
      (once.checkDependency edge = [] ↔ all.checkDependency edge = []) := by
  -- A policy with all findings and one with the first differ in that alone.
  have follows : all.Follows (config.deduplicating false) := follows_of_ofConfig readAll
  obtain ⟨ofAll, ofOnce⟩ := eq_deduplicating readAll readOnce
  -- Neither what is checked nor what is permitted depends on how many findings are kept.
  have sameChecks (importer imported : LayerSpec) :
      (config.deduplicating false).Checks edge importer imported ↔ config.Checks edge importer imported :=
    ⟨fun ⟨imports, ofModule, lower, upper⟩ => ⟨imports, ofModule, lower, upper⟩,
      fun ⟨imports, ofModule, lower, upper⟩ => ⟨imports, ofModule, lower, upper⟩⟩
  have first : once.checkDependency edge = (all.checkDependency edge).take 1 := by
    rw [ofOnce, checkDependency_deduplicating, ← ofAll]
  refine ⟨fun unchecked => ?_, fun importer imported checked => ?_, first, by simp [first]⟩
  · refine checkDependency_of_unchecked follows fun importer imported checked => ?_
    exact unchecked importer imported ((sameChecks importer imported).mp checked)
  · have alsoChecked := (sameChecks importer imported).mpr checked
    -- In this policy nothing is dropped.
    have reportsAll : all.rules.deduplicateDependencies = false := by rw [ofAll]; rfl
    obtain ⟨listed, found, lists, isFindings⟩ := findings_of_checked follows alsoChecked
    refine ⟨listed, found, ⟨lists.increasing, lists.mem_iff⟩, ?_⟩
    rw [checkDependency_of_checked follows alsoChecked reportsAll, isFindings]
    rfl

/-! ### A climb that strays -/

/-- Two layers, with nothing more to import from than themselves. -/
def steps : Config where
  layers := [⟨"low", 0, "src/low/"⟩, ⟨"high", 1, "src/high/"⟩]
  placement := []
  dependencies := []

/-- The policy with one finding on an edge between the two layers, or with all of them. -/
def stepPolicy (once : Bool) : Policy where
  layering := .ofSpecs steps.layers
  placement := []
  allowed := [("high", ["high"]), ("low", ["low"])]
  sourceExtensions := steps.project.sourceExtensions
  rules := { deduplicateDependencies := once }

/-- An import from the lower layer to the higher one. -/
def upward : Edge := ⟨"src/low/a.js", "src/high/b.js", .imports⟩

/-- The policy with the two layers is read from its configuration. -/
theorem ofConfig_steps [Pattern.Syntax] (once : Bool) :
    ofConfig (steps.deduplicating once) = .ok (stepPolicy once) := by
  have lists : allowLists steps.layers steps.dependencies = [("high", ["high"]), ("low", ["low"])] := by
    decide
  have read : ofConfig (steps.deduplicating once) =
      .ok { stepPolicy once with allowed := allowLists steps.layers steps.dependencies } := rfl
  rw [read, lists]
  rfl

/-- The import is checked. -/
theorem checks_upward : steps.Checks upward ⟨"low", 0, "src/low/"⟩ ⟨"high", 1, "src/high/"⟩ := by
  -- Both layers are in order already, so that the paths are looked up in the list as it is.
  have sorted : Layering.ofSpecs steps.layers = ⟨steps.layers⟩ :=
    Layering.ofSpecs_of_sorted (by decide +kernel) (by decide)
  refine ⟨rfl, ⟨"js", by decide +kernel, "src/high/b", by decide +kernel, by decide⟩, ?_, ?_⟩
  · rw [sorted]
    rfl
  · rw [sorted]
    rfl

/-- The import from the lower layer to the higher one is a case of this: it climbs and strays, and if one finding is
kept, that is the climb. -/
theorem checkDependency_finds_upward :
    ofConfig (steps.deduplicating false) = .ok (stepPolicy false) ∧
      ofConfig (steps.deduplicating true) = .ok (stepPolicy true) ∧
      steps.Checks upward ⟨"low", 0, "src/low/"⟩ ⟨"high", 1, "src/high/"⟩ ∧
      (stepPolicy false).checkDependency upward =
        [(stepPolicy false).climbing upward ⟨"low", 0, "src/low/"⟩ ⟨"high", 1, "src/high/"⟩,
          (stepPolicy false).unlisted upward ["low"] ⟨"low", 0, "src/low/"⟩ ⟨"high", 1, "src/high/"⟩] ∧
      (stepPolicy true).checkDependency upward =
        [(stepPolicy false).climbing upward ⟨"low", 0, "src/low/"⟩ ⟨"high", 1, "src/high/"⟩] := by
  -- The general theorem is applied to the two policies, and its conditions hold of this import.
  obtain ⟨_, checked, first, _⟩ := checkDependency_finds (ofConfig_steps false) (ofConfig_steps true) upward
  obtain ⟨listed, found, _, finds⟩ := checked _ _ checks_upward
  have ofLow : Sorted.get? "low" (stepPolicy false).allowed = some ["low"] := rfl
  have isLow : listed = ["low"] := Option.some.inj (found.symm.trans ofLow)
  have strays : ¬steps.Permits "low" "high" := by decide
  rw [if_pos (by decide), if_neg strays, isLow] at finds
  rw [finds] at first
  exact ⟨ofConfig_steps false, ofConfig_steps true, checks_upward, finds, first⟩

end Policy

end LayerAudit
