import LayerAudit.Policy

/-! What the findings of a policy carry: their kind, the file they are about, their grade and the import they reject. -/

namespace LayerAudit

/-- A finding of some kind about a file, with the grade that some rules give it. -/
structure Violation.Is (rules : Rules) (what : ViolationKind) (path : String) (violation : Violation) : Prop where
  kind : violation.kind = what
  file : violation.file = path
  severity : violation.severity = rules.severityOf what

/-- A finding about an import, which it carries. -/
structure Violation.IsAbout (rules : Rules) (found : Edge) (violation : Violation) : Prop where
  is : violation.Is rules .dependency found.source
  edge : violation.edge = some found
  imports : found.relation = .imports

namespace Policy

variable {policy : Policy} {file : FileNode} {edge : Edge} {violation : Violation}

/-- A finding about the place of a file is about that file. -/
theorem is_of_checkPlacement (found : policy.checkPlacement file = some violation) :
    violation.Is policy.rules .placement file.path := by
  -- A file for which a rule applies is found fault with only if its pattern does not match.
  obtain ⟨rule, _, checked⟩ := Option.bind_eq_some_iff.mp found
  split at checked
  · cases checked
  · cases checked
    exact ⟨rfl, rfl, rfl⟩

/-- Two layers give findings about the import between them. -/
theorem isAbout_of_mem_checkLayers {source target : LayerSpec} (imports : edge.relation = .imports)
    (found : violation ∈ policy.checkLayers edge source target) : violation.IsAbout policy.rules edge := by
  have climbing : (policy.climbing edge source target).IsAbout policy.rules edge := ⟨⟨rfl, rfl, rfl⟩, rfl, imports⟩
  have unlisted (listed : List String) : (policy.unlisted edge listed source target).IsAbout policy.rules edge :=
    ⟨⟨rfl, rfl, rfl⟩, rfl, imports⟩
  -- There is no third finding.
  have either : violation = policy.climbing edge source target ∨
      violation = policy.unlisted edge ((Sorted.get? source.name policy.allowed).getD []) source target := by
    unfold checkLayers at found
    grind
  rcases either with rfl | rfl
  · exact climbing
  · exact unlisted _

/-- Every finding about a dependency is about the edge that was checked, which is an import. -/
theorem isAbout_of_mem_checkDependency (found : violation ∈ policy.checkDependency edge) :
    violation.IsAbout policy.rules edge := by
  unfold checkDependency at found
  -- Only an import of a source module is checked, and only between two layers that are known.
  split at found
  · rename_i checked
    have imports : edge.relation = .imports := by
      simp only [Bool.and_eq_true, decide_eq_true_eq] at checked
      exact checked.1
    split at found
    · exact isAbout_of_mem_checkLayers imports found
    · cases found
  · cases found

end Policy

end LayerAudit
