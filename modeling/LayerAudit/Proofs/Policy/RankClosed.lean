import LayerAudit.Proofs.Policy.Verdict

/-!
Where each layer is permitted exactly the layers that have no higher rank, the two checks of an import find fault with
the same edges: those that climb. The usual layers and their lists are of this kind.
-/

namespace LayerAudit

/-- Every layer is permitted exactly the layers that have no higher rank. -/
def Config.IsRankClosed (config : Config) : Prop :=
  ∀ importer ∈ config.layers, ∀ imported ∈ config.layers,
    config.Permits importer.name imported.name ↔ imported.rank ≤ importer.rank

instance Config.decidableIsRankClosed (config : Config) : Decidable config.IsRankClosed :=
  inferInstanceAs (Decidable (∀ importer ∈ config.layers, ∀ imported ∈ config.layers,
    config.Permits importer.name imported.name ↔ imported.rank ≤ importer.rank))

variable {config : Config} {policy : Policy} {edge : Edge} {importer imported : LayerSpec}

/-- In a rank-closed configuration an import is permitted exactly if it does not climb. -/
theorem Config.IsRankClosed.permits_iff (closed : config.IsRankClosed)
    (checked : config.Checks edge importer imported) :
    config.Permits importer.name imported.name ↔ ¬importer.rank < imported.rank := by
  -- Both layers have the names and ranks of configured ones.
  obtain ⟨lower, lowerListed, rfl⟩ := Layering.exists_slashed_of_layerOf? checked.lower
  obtain ⟨upper, upperListed, rfl⟩ := Layering.exists_slashed_of_layerOf? checked.upper
  rw [Nat.not_lt]
  exact closed lower lowerListed upper upperListed

namespace Policy

/-- In a rank-closed configuration an import has both findings if it climbs, and otherwise none. -/
theorem findings_of_rankClosed (follows : policy.Follows config) (closed : config.IsRankClosed)
    (checked : config.Checks edge importer imported) :
    ∃ listed, policy.findings edge importer imported =
      if importer.rank < imported.rank then
        [policy.climbing edge importer imported, policy.unlisted edge listed importer imported]
      else [] := by
  obtain ⟨listed, _, _, found⟩ := findings_of_checked follows checked
  refine ⟨listed, ?_⟩
  rw [found]
  -- What climbs is not permitted, and what does not climb is.
  by_cases climbs : importer.rank < imported.rank
  · have strays : ¬config.Permits importer.name imported.name := fun permits =>
      (closed.permits_iff checked).mp permits climbs
    simp [climbs, strays]
  · have permits : config.Permits importer.name imported.name := (closed.permits_iff checked).mpr climbs
    simp [climbs, permits]

/-- The usual layers may import exactly from the layers that have no higher rank. -/
theorem isRankClosed_usual : ({} : Config).IsRankClosed := by decide +kernel

/-- The checks of ranks and of lists agree in every rank-closed configuration, as the usual one is: both find fault
with the imports of source modules by a layer of lower rank, of which the first finding alone is kept where only one is
wanted, and neither with any other edge. -/
theorem checkDependency_of_rankClosed [Pattern.Syntax] :
    ({} : Config).IsRankClosed ∧
      ∀ {config : Config} {policy : Policy}, config.IsRankClosed → ofConfig config = .ok policy → ∀ edge,
        (∀ importer imported, config.Checks edge importer imported → importer.rank < imported.rank →
          ∃ listed, policy.checkDependency edge =
            if config.rules.deduplicateDependencies then [policy.climbing edge importer imported]
            else [policy.climbing edge importer imported, policy.unlisted edge listed importer imported]) ∧
        ((∀ importer imported, config.Checks edge importer imported → ¬importer.rank < imported.rank) →
          policy.checkDependency edge = []) := by
  refine ⟨isRankClosed_usual, fun {config policy} closed read edge => ?_⟩
  have follows : policy.Follows config := follows_of_ofConfig read
  constructor
  · -- Which of the two findings are kept is the same for all edges.
    intro importer imported checked climbs
    obtain ⟨listed, found⟩ := findings_of_rankClosed follows closed checked
    refine ⟨listed, ?_⟩
    rw [checkDependency_of_checks follows checked, follows.rules, found, if_pos climbs]
    rfl
  · intro noneClimbs
    -- An edge that is not checked has no findings, whatever the ranks are.
    by_cases checks : ∃ importer imported, config.Checks edge importer imported
    · obtain ⟨importer, imported, checked⟩ := checks
      obtain ⟨listed, found⟩ := findings_of_rankClosed follows closed checked
      rw [checkDependency_of_checks follows checked, found, if_neg (noneClimbs importer imported checked)]
      exact ite_self _
    · exact checkDependency_of_unchecked follows fun importer imported checked => checks ⟨importer, imported, checked⟩

/-- An import of a feature by the shared code. -/
def risen : Edge := ⟨"src/shared/lib/a.js", "src/features/auth/model/authStore.js", .imports⟩

/-- By the usual settings the import is checked. -/
theorem checks_risen : ({} : Config).Checks risen ⟨"shared", 0, "src/shared/"⟩ ⟨"features", 2, "src/features/"⟩ := by
  have sorted : Layering.ofSpecs ({} : Config).layers = ⟨({} : Config).layers⟩ :=
    Layering.ofSpecs_of_sorted (by decide +kernel) (by decide +kernel)
  refine ⟨rfl, ⟨"js", by decide, "src/features/auth/model/authStore", by decide, by decide⟩,
    ?_, ?_⟩
  · rw [sorted]
    rfl
  · rw [sorted]
    decide

/-- By the usual settings both checks find fault with an import of a feature by the shared code. -/
theorem checkDependency_of_rankClosed_risen :
    ∃ policy, ({} : Config).IsRankClosed ∧ ofConfig {} = .ok policy ∧
      ({} : Config).Checks risen ⟨"shared", 0, "src/shared/"⟩ ⟨"features", 2, "src/features/"⟩ ∧
      (policy.checkDependency risen).length = 2 := by
  have valid : (ofConfig {}).toOption.isSome := rfl
  cases read : ofConfig {} with
  | error bad =>
    rw [read] at valid
    cases valid
  | ok policy =>
    obtain ⟨closed, agree⟩ := checkDependency_of_rankClosed
    -- The import climbs two ranks, and both checks find fault with it.
    obtain ⟨listed, found⟩ := (agree closed read risen).1 _ _ checks_risen (by decide)
    refine ⟨policy, closed, rfl, checks_risen, ?_⟩
    rw [found]
    rfl

end Policy

end LayerAudit
