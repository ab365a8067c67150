import LayerAudit.Audit.Setup
import LayerAudit.Proofs.Policy.Dependencies

/-! An audit goes by what its configuration says, and by nothing else. -/

namespace LayerAudit.Setup

/-- An audit goes by a configuration. -/
structure GoesBy [Glob.Syntax] (setup : Setup) (config : Config) : Prop where
  settings : setup.config = config
  layering : setup.policy.layering = .ofSpecs config.layers
  allowed : setup.policy.allowed = Policy.allowLists config.layers config.dependencies
  sourceExtensions : setup.policy.sourceExtensions = config.project.sourceExtensions
  rules : setup.policy.rules = config.rules
  included : readGlobs config.project.included = .ok setup.included
  excluded : readGlobs config.project.excluded = .ok setup.excluded

variable [Glob.Syntax] {setup other : Setup} {config otherConfig : Config} {vocabulary : Option Vocabulary}

/-- Which paths are selected is told by the globs of the configuration alone. -/
theorem GoesBy.selects_eq (goes : setup.GoesBy config) : setup.selects = fun path =>
    ((readGlobs config.project.included).toOption.getD []).any (·.accepts path) &&
      !((readGlobs config.project.excluded).toOption.getD []).any (·.accepts path) := by
  -- Both lists of globs could be read, so that none of them is missing.
  rw [goes.included, goes.excluded]
  rfl

/-- Globs are read if each of them can be. -/
theorem exists_readGlobs_iff {texts : List String} :
    (∃ globs, readGlobs texts = .ok globs) ↔ ∀ text ∈ texts, Glob.Syntax.glob? text ≠ none := by
  induction texts with
  | nil => simp [readGlobs, pure, Except.pure]
  | cons text rest ih =>
    -- Reading stops at the first glob that is invalid.
    rw [List.forall_mem_cons, ← ih]
    unfold readGlobs
    rw [List.mapM_cons]
    cases Glob.Syntax.glob? text with
    | none => simp [bind, Except.bind]
    | some glob =>
      cases rest.mapM (m := Except SetupError) _ <;> simp [bind, Except.bind, pure, Except.pure]

variable [Pattern.Syntax]

/-- An audit can be set up with what the rules and the globs of its configuration are read as, and with nothing else. -/
theorem ofConfig_eq_ok_iff : ofConfig vocabulary config = .ok setup ↔
    Policy.ofConfig config = .ok setup.policy ∧ readGlobs config.project.included = .ok setup.included ∧
      readGlobs config.project.excluded = .ok setup.excluded ∧ setup.config = config ∧
      setup.vocabulary = vocabulary := by
  obtain ⟨settings, policy, included, excluded, words⟩ := setup
  unfold ofConfig readPolicy
  -- The first of the three readings that fails is what is told about.
  cases Policy.ofConfig config with
  | error bad => simp [bind, Except.bind]
  | ok policy =>
    cases readGlobs config.project.included with
    | error bad => simp [bind, Except.bind]
    | ok included =>
      cases readGlobs config.project.excluded with
      | error bad => simp [bind, Except.bind]
      | ok excluded =>
        simp only [bind, Except.bind, pure, Except.pure, Except.ok.injEq, Setup.mk.injEq]
        constructor
        · rintro ⟨rfl, rfl, rfl, rfl, rfl⟩
          exact ⟨rfl, rfl, rfl, rfl, rfl⟩
        · rintro ⟨rfl, rfl, rfl, rfl, rfl⟩
          exact ⟨rfl, rfl, rfl, rfl, rfl⟩

/-- An audit is set up if the placement rules and all globs can be read. -/
theorem exists_ofConfig_iff (vocabulary : Option Vocabulary) : (∃ setup, ofConfig vocabulary config = .ok setup) ↔
    (∃ policy, Policy.ofConfig config = .ok policy) ∧
      (∀ text ∈ config.project.included, Glob.Syntax.glob? text ≠ none) ∧
      ∀ text ∈ config.project.excluded, Glob.Syntax.glob? text ≠ none := by
  rw [← exists_readGlobs_iff, ← exists_readGlobs_iff]
  -- Each of the three readings is independent of the others.
  simp only [ofConfig_eq_ok_iff]
  constructor
  · rintro ⟨setup, policyRead, includedRead, excludedRead, _⟩
    exact ⟨⟨_, policyRead⟩, ⟨_, includedRead⟩, ⟨_, excludedRead⟩⟩
  · rintro ⟨⟨policy, policyRead⟩, ⟨included, includedRead⟩, ⟨excluded, excludedRead⟩⟩
    exact ⟨⟨config, policy, included, excluded, vocabulary⟩, policyRead, includedRead, excludedRead, rfl, rfl⟩

/-- What an audit was set up with is what it goes by. -/
theorem goesBy_of_ofConfig (made : ofConfig vocabulary config = .ok setup) : setup.GoesBy config := by
  obtain ⟨policyRead, includedRead, excludedRead, settings, _⟩ := ofConfig_eq_ok_iff.mp made
  have follows := Policy.follows_of_ofConfig policyRead
  exact ⟨settings, follows.layering, follows.allowed, follows.sourceExtensions, follows.rules, includedRead,
    excludedRead⟩

/-- The names that extraction looks for are the given ones. -/
theorem vocabulary_of_ofConfig (made : ofConfig vocabulary config = .ok setup) : setup.vocabulary = vocabulary :=
  (ofConfig_eq_ok_iff.mp made).2.2.2.2

/-- Where an audit can be set up, it is set up with that. -/
theorem ofConfig_getD (otherwise : Setup) (valid : (ofConfig vocabulary config).toOption.isSome) :
    ofConfig vocabulary config = .ok ((ofConfig vocabulary config).toOption.getD otherwise) := by
  cases outcome : ofConfig vocabulary config with
  | error bad =>
    rw [outcome] at valid
    cases valid
  | ok setup => rfl

end LayerAudit.Setup
