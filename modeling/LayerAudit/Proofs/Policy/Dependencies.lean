import LayerAudit.Policy
import LayerAudit.Proofs.Policy.Precedence
import LayerAudit.Proofs.Sorted

/-!
An import between two layers is found fault with exactly if it climbs to a higher layer or its own layer does not permit
it.
-/

namespace LayerAudit

/-- A layer may import from itself and from the layers on its list. -/
def Config.Permits (config : Config) (importer imported : String) : Prop :=
  imported = importer ∨ ∃ targets, (importer, targets) ∈ config.dependencies ∧ imported ∈ targets

/-- The extension of a path is what stands behind its last dot. -/
def Path.HasExtension (path extension : String) : Prop :=
  ∃ stem, path = stem ++ "." ++ extension ∧ '.' ∉ extension.toList

/-! ### Layers of paths -/

namespace Layering

/-- Layers that are in order of their ranks, with forward slashes, are a layering as they are. -/
theorem ofSpecs_of_sorted {specs : List LayerSpec} (plain : ∀ spec ∈ specs, '\\' ∉ spec.start.toList)
    (sorted : specs.Pairwise fun lower upper => lower.rank ≤ upper.rank) : ofSpecs specs = ⟨specs⟩ := by
  have slashed : (specs.map fun spec => { spec with start := Text.slashed spec.start }) = specs := by
    refine (List.map_congr_left fun spec listed => ?_).trans (List.map_id specs)
    simp [Text.slashed_eq_self (plain spec listed)]
  rw [ofSpecs, slashed, List.mergeSort_of_pairwise (by simpa using sorted)]

end Layering

/-- A policy follows a configuration where it checks imports. -/
structure Policy.Follows (policy : Policy) (config : Config) : Prop where
  layering : policy.layering = .ofSpecs config.layers
  allowed : policy.allowed = allowLists config.layers config.dependencies
  sourceExtensions : policy.sourceExtensions = config.project.sourceExtensions
  rules : policy.rules = config.rules

namespace Policy

section

variable [Pattern.Syntax]

/-- A policy is read from a configuration if its placement rules are read from there and it follows the rest. -/
theorem ofConfig_eq_ok_iff {policy : Policy} {config : Config} : ofConfig config = .ok policy ↔
    config.placement.mapM readPlacement = .ok policy.placement ∧ policy.Follows config := by
  obtain ⟨layering, placement, allowed, sourceExtensions, rules⟩ := policy
  unfold ofConfig
  -- The placement rules alone can be wrong.
  cases config.placement.mapM readPlacement with
  | error bad => simp
  | ok read =>
    simp only [Except.ok.injEq, Policy.mk.injEq]
    constructor
    · rintro ⟨rfl, rfl, rfl, rfl, rfl⟩
      exact ⟨rfl, rfl, rfl, rfl, rfl⟩
    · rintro ⟨rfl, rfl, rfl, rfl, rfl⟩
      exact ⟨rfl, rfl, rfl, rfl, rfl⟩

/-- The policy that is read from a configuration follows it. -/
theorem follows_of_ofConfig {policy : Policy} {config : Config} (read : ofConfig config = .ok policy) :
    policy.Follows config := (ofConfig_eq_ok_iff.mp read).2

end

/-! ### Allow-lists -/

/-- The layers that a table permits to a layer. Without an entry that is the layer alone. -/
def permittedBy (table : List (String × List String)) (importer : String) : List String :=
  (Sorted.get? importer table).getD [importer]

/-- Allowing more to one layer changes nothing for the others. -/
theorem mem_permittedBy_allow {table : List (String × List String)} {layer importer imported : String}
    {targets : List String} :
    imported ∈ permittedBy (allow table layer targets) importer ↔
      imported ∈ permittedBy table importer ∨ importer = layer ∧ imported ∈ targets := by
  -- Only the entry of the layer itself is put anew, with what it had before.
  by_cases same : importer = layer
  · subst same
    -- The new entry holds what the layer was permitted before, and the targets.
    simp [permittedBy, allow, Sorted.get?_put, Sorted.mem_addAll, or_comm]
  · simp [permittedBy, allow, Sorted.get?_put, same]

/-- Allowing by a list of entries permits what was permitted before, and what the entries say. -/
theorem mem_permittedBy_foldl {entries table : List (String × List String)} {importer imported : String} :
    imported ∈ permittedBy (entries.foldl (fun table entry => allow table entry.1 entry.2) table) importer ↔
      imported ∈ permittedBy table importer ∨ ∃ targets, (importer, targets) ∈ entries ∧ imported ∈ targets := by
  -- The table grows with every entry, so the statement is about any table to start from.
  induction entries generalizing table with
  | nil => simp
  | cons entry rest ih =>
    rw [List.foldl_cons, ih, mem_permittedBy_allow, or_assoc]
    refine or_congr_right ⟨?_, ?_⟩
    · rintro (⟨rfl, listed⟩ | ⟨targets, member, listed⟩)
      · exact ⟨entry.2, List.mem_cons_self .., listed⟩
      · exact ⟨targets, List.mem_cons_of_mem _ member, listed⟩
    · rintro ⟨targets, member, listed⟩
      rcases List.mem_cons.mp member with rfl | later
      · exact Or.inl ⟨rfl, listed⟩
      · exact Or.inr ⟨targets, later, listed⟩

/-- Every layer that an entry allows something to has an entry then, and none is lost. -/
theorem isSome_get?_foldl {entries table : List (String × List String)} {importer : String} :
    (Sorted.get? importer (entries.foldl (fun table entry => allow table entry.1 entry.2) table)).isSome ↔
      (Sorted.get? importer table).isSome ∨ importer ∈ entries.map (·.1) := by
  induction entries generalizing table with
  | nil => simp
  | cons entry rest ih =>
    -- An entry that is put is there afterwards, under the name of its layer.
    rw [List.foldl_cons, ih, allow, Sorted.get?_put, List.map_cons, List.mem_cons]
    by_cases same : importer = entry.1
    · simp [same]
    · simp [same]

/-- The allow-lists of a configuration grow from nothing, first by an entry for each layer that allows nothing more. -/
theorem allowLists_eq_foldl (layers : List LayerSpec) (dependencies : List (String × List String)) :
    allowLists layers dependencies =
      ((layers.map fun layer => (layer.name, [])) ++ dependencies : List (String × List String)).foldl
        (fun table entry => allow table entry.1 entry.2) [] := by
  rw [List.foldl_append, List.foldl_map, allowLists]

/-- Every layer of a configuration has an entry. -/
theorem isSome_allowLists {config : Config} {spec : LayerSpec} (configured : spec ∈ config.layers) :
    (Sorted.get? spec.name (allowLists config.layers config.dependencies)).isSome := by
  rw [allowLists_eq_foldl, isSome_get?_foldl]
  right
  simpa using Or.inl ⟨spec, configured, rfl⟩

/-- The layers that the policy of a configuration lists for a layer of its own are those that it permits. -/
theorem mem_allowLists {config : Config} {spec : LayerSpec} (configured : spec ∈ config.layers) {imported : String} :
    imported ∈ (Sorted.get? spec.name (allowLists config.layers config.dependencies)).getD [] ↔
      config.Permits spec.name imported := by
  -- The layer has an entry, and what is listed in it is what the table permits.
  obtain ⟨listed, found⟩ := Option.isSome_iff_exists.mp (isSome_allowLists configured)
  have permitted : listed = permittedBy (allowLists config.layers config.dependencies) spec.name := by
    simp [permittedBy, found]
  rw [found, Option.getD_some, permitted, allowLists_eq_foldl, mem_permittedBy_foldl, Config.Permits]
  simp only [permittedBy, Sorted.get?_nil, Option.getD_none, List.mem_singleton]
  refine or_congr_right (exists_congr fun targets => and_congr_left fun member => ?_)
  -- An entry that allows something is none of those that the layers have at first.
  have nonempty : targets ≠ [] := List.ne_nil_of_mem member
  simp [nonempty]

/-! ### One edge -/

variable {policy : Policy} {edge : Edge}

/-- Source modules are told by their extensions. -/
theorem isSourceModule_iff {path : String} :
    policy.isSourceModule path ↔ ∃ extension ∈ policy.sourceExtensions, Path.HasExtension path extension := by
  unfold isSourceModule
  constructor
  · intro isSource
    cases found : Text.cutLast? '.' path.toList with
    -- A path without a dot has no extension, and is no source module.
    | none => simp [found] at isSource
    | some parts =>
      obtain ⟨before, after⟩ := parts
      simp only [found, List.contains_iff_mem] at isSource
      obtain ⟨split, dotless⟩ := Text.cutLast?_split found
      refine ⟨_, isSource, String.ofList before, ?_, by simpa using dotless⟩
      rw [← String.toList_inj]
      simp [split]
  · rintro ⟨extension, listed, stem, rfl, dotless⟩
    -- The last dot of the path is the one before the extension.
    have cut : Text.cutLast? '.' (stem ++ "." ++ extension).toList = some (stem.toList, extension.toList) := by
      simpa using Text.cutLast?_append stem.toList dotless
    rw [cut]
    simpa using listed

/-- Two layers give no finding exactly if the import does not climb and its target is listed. -/
theorem checkLayers_eq_nil_iff {source target : LayerSpec} :
    policy.checkLayers edge source target = [] ↔
      target.rank ≤ source.rank ∧ target.name ∈ (Sorted.get? source.name policy.allowed).getD [] := by
  -- With one of the two findings dropped there is still the other one.
  unfold checkLayers
  by_cases climbs : source.rank < target.rank
  · have above : ¬target.rank ≤ source.rank := Nat.not_le.mpr climbs
    simp only [climbs, above, false_and, iff_false, if_pos]
    split <;> simp
  · -- An import that does not climb gives at most the finding about the list.
    have below : target.rank ≤ source.rank := Nat.not_lt.mp climbs
    simp [climbs, below]

/-- An import of a source module between two layers is checked against their ranks and the list. -/
theorem checkDependency_eq_checkLayers {source target : LayerSpec} (imports : edge.relation = .imports)
    (isSource : policy.isSourceModule edge.target) (lower : policy.layering.layerOf? edge.source = some source)
    (upper : policy.layering.layerOf? edge.target = some target) :
    policy.checkDependency edge = policy.checkLayers edge source target := by
  simp [checkDependency, imports, isSource, lower, upper]

end Policy

end LayerAudit
