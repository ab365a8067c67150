import LayerAudit.Audit.Outcome
import LayerAudit.Glob.Reader
import LayerAudit.Pattern.Reader
import LayerAudit.Proofs.Audit.Setup
import LayerAudit.Proofs.Pattern.Language

/-!
By the usual settings, exactly those files are found out of place that lie in a feature or a page but not in its
directory for components, and the stores, router files and entry points that do not lie where the application has them.
-/

namespace LayerAudit

/-- A path goes on from a start with the name of one directory and then with an ending. -/
def Path.GoesOn (start ending path : String) : Prop :=
  ∃ name, name ≠ "" ∧ '/' ∉ name.toList ∧ Text.isStartOf (start ++ name ++ ending) path

/-- A file of some kind does not lie where the usual application has it. -/
def Misplaced (kind : FileKind) (path : String) : Prop :=
  match kind with
  | .uiComponent =>
    Text.isStartOf "src/features/" path ∧ ¬Path.GoesOn "src/features/" "/ui/" path ∨
      -- Components of other directories may lie anywhere, the shared ones by the first rule.
      Text.isStartOf "src/pages/" path ∧ ¬Path.GoesOn "src/pages/" "/ui/" path
  | .stateStore => ¬∃ layer ∈ ["entities", "features"], Path.GoesOn ("src/" ++ layer ++ "/") "/model/" path
  | .routerConfig => ¬Text.isStartOf "src/app/router/" path
  | .entryPoint => path ∉ ["src/app/main.js", "src/app/main.mjs", "src/app/main.ts"]
  -- For the other kinds there is no rule.
  | _ => False

/-! ### The usual patterns -/

namespace Pattern

/-- The characters that names of directories are made of. -/
def nameChars : CharSet := .complement (.union .nothing (.single '/'))

/-- A text begins with another one. -/
def startingWith (start : String) : Pattern := ⟨chain (.look .textStart :: literal start)⟩

/-- A text begins with what some nodes lead over, the name of a directory, and an ending. -/
def goingOn (front : List Node) (ending : String) : Pattern :=
  ⟨chain (.look .textStart :: (front ++ .repeated (.one nameChars) 1 none :: literal ending))⟩

/-- The start of the paths of stores: the directory of a layer that has some. -/
def storeFront : List Node := literal "src/" ++ anyOf "entities" ["features"] :: literal "/"

/-- The whole path of an entry point. -/
def entryPattern : Pattern :=
  ⟨chain (.look .textStart :: ((literal "src/app/main." ++ [anyOf "js" ["mjs", "ts"]]) ++ [.look .textEnd]))⟩

variable {path start ending : String} {front : List Node}

/-- The pattern for a start matches if that is how the path begins. -/
theorem matchesIn_startingWith : (startingWith start).matchesIn path ↔ Text.isStartOf start path := by
  rw [startingWith, matchesIn_start_iff (means_literal start), Text.isStartOf, List.isPrefixOf_iff_prefix]
  simp [mem_spelled]

/-- A name of a directory has characters, and none of them is a slash. -/
theorem mem_runs_nameChars {name : String} : name.toList ∈ runs nameChars ↔ name ≠ "" ∧ '/' ∉ name.toList := by
  -- Every character but the slash is in the set.
  have apart (c : Char) : nameChars.contains c ↔ c ≠ '/' := by
    simp [nameChars, CharSet.contains, ← single_contains]
  refine and_congr (by simp) ?_
  simp only [apart]
  exact ⟨fun others member => others _ member rfl, fun absent c member same => absent (same ▸ member)⟩

/-- The pattern with the name of a directory matches if the path goes on like this from one of the starts. -/
theorem matchesIn_goingOn {starts : List String} (means : (chain front).Means (spelled starts)) :
    (goingOn front ending).matchesIn path ↔ ∃ start ∈ starts, Path.GoesOn start ending path := by
  -- The start, the name and the ending come one behind the other.
  have whole := means.chain_append ((means_run nameChars).chain_cons (means_literal ending))
  rw [goingOn, matchesIn_start_iff whole]
  constructor
  · -- What begins the path is taken apart into the start, the name and the ending.
    rintro ⟨_, product, begins⟩
    obtain ⟨_, ⟨start, listed, rfl⟩, _, rest, rfl⟩ := Language.mem_mul.mp product
    obtain ⟨name, member, _, ⟨_, only, rfl⟩, rfl⟩ := Language.mem_mul.mp rest
    obtain rfl := List.mem_singleton.mp only
    have isName : (String.ofList name).toList ∈ runs nameChars := by rwa [String.toList_ofList]
    obtain ⟨some, slashless⟩ := mem_runs_nameChars.mp isName
    refine ⟨start, listed, String.ofList name, some, slashless, ?_⟩
    simpa [Text.isStartOf] using begins
  · rintro ⟨start, listed, name, some, slashless, begins⟩
    have isName : name.toList ∈ runs nameChars := mem_runs_nameChars.mpr ⟨some, slashless⟩
    have rest : name.toList ++ ending.toList ∈ runs nameChars * spelled [ending] :=
      Language.append_mem_mul isName ⟨ending, List.mem_singleton_self ending, rfl⟩
    refine ⟨start.toList ++ (name.toList ++ ending.toList), Language.append_mem_mul ⟨start, listed, rfl⟩ rest, ?_⟩
    simpa [Text.isStartOf] using begins

/-- Stores are looked for in two layers. -/
theorem means_storeFront : (chain storeFront).Means (spelled ["src/entities/", "src/features/"]) := by
  -- The layers stand between what their paths have in common.
  have means := (means_literal "src/").chain_append
    ((means_anyOf "entities" ["features"]).chain_cons (means_literal "/"))
  rw [spelled_mul, spelled_mul] at means
  exact means

/-- An entry point is one of three scripts. -/
theorem matchesIn_entryPattern :
    entryPattern.matchesIn path ↔ path ∈ ["src/app/main.js", "src/app/main.mjs", "src/app/main.ts"] := by
  have extension : (chain [anyOf "js" ["mjs", "ts"]]).Means (spelled ["js", "mjs", "ts"]) :=
    means_anyOf "js" ["mjs", "ts"]
  have means := (means_literal "src/app/main.").chain_append extension
  -- The three endings are the only choice that the pattern leaves.
  rw [entryPattern, matchesIn_whole_iff means, spelled_mul, mem_spelled]
  simp [String.toList_inj]

end Pattern

/-! ### The usual rules -/

namespace PlacementRule

/-- Shared components lie in their directory. -/
def shared : PlacementRule := ⟨⟨.uiComponent, "UI Primitive", "^src/shared/ui/"⟩, .startingWith "src/shared/ui/"⟩

/-- Components of a feature lie in its directory for them. -/
def feature : PlacementRule :=
  ⟨⟨.uiComponent, "Feature Implementation", "^src/features/[^/]+/ui/"⟩,
    .goingOn (Pattern.literal "src/features/") "/ui/"⟩

/-- Components of a page lie in its directory for them. -/
def page : PlacementRule :=
  ⟨⟨.uiComponent, "Page Layout", "^src/pages/[^/]+/ui/"⟩, .goingOn (Pattern.literal "src/pages/") "/ui/"⟩

/-- Stores lie in the model of an entity or a feature. -/
def store : PlacementRule :=
  ⟨⟨.stateStore, "Business Entity State", "^src/(entities|features)/[^/]+/model/"⟩,
    .goingOn Pattern.storeFront "/model/"⟩

/-- The router lies in its directory. -/
def router : PlacementRule :=
  ⟨⟨.routerConfig, "Application Routing", "^src/app/router/"⟩, .startingWith "src/app/router/"⟩

/-- The entry point is the main script of the application. -/
def entry : PlacementRule :=
  ⟨⟨.entryPoint, "Application Entry Point", "^src/app/main\\.(js|mjs|ts)$"⟩, .entryPattern⟩

/-- The usual rules. -/
def usual : List PlacementRule := [shared, feature, page, store, router, entry]

end PlacementRule

/-- The starts of the paths of components for which there is a rule. -/
def componentStarts : List String := ["src/shared/ui/", "src/features/", "src/pages/"]

variable {path : String}

/-- A path has one of these starts at most. -/
theorem not_isStartOf_of_isStartOf {start other : String} (listed : start ∈ componentStarts)
    (otherListed : other ∈ componentStarts) (different : start ≠ other) (inside : Text.isStartOf start path) :
    ¬Text.isStartOf other path := by
  -- Of two starts of one path one begins the other, and none of these begins another one.
  have apart : ∀ start ∈ componentStarts, ∀ other ∈ componentStarts, Text.isStartOf start other → start = other := by
    decide
  intro otherInside
  rcases Text.isStartOf_or_isStartOf inside otherInside with begins | begins
  · exact different (apart start listed other otherListed begins)
  · exact different (apart other otherListed start listed begins).symm

/-- A shared component is not misplaced. -/
theorem not_misplaced_of_shared (shared : Text.isStartOf "src/shared/ui/" path) : ¬Misplaced .uiComponent path := by
  have noFeature : ¬Text.isStartOf "src/features/" path :=
    not_isStartOf_of_isStartOf (by decide) (by decide) (by decide) shared
  have noPage : ¬Text.isStartOf "src/pages/" path :=
    not_isStartOf_of_isStartOf (by decide) (by decide) (by decide) shared
  simp [Misplaced, noFeature, noPage]

namespace Policy

variable {policy : Policy} {file : FileNode} {rule : PlacementRule}

/-- The usual placement rules are read as these. -/
theorem readPlacement_usual : ({} : Config).placement.mapM readPlacement = .ok PlacementRule.usual := by
  decide +kernel

/-- A file to which a usual rule applies is found fault with if the pattern of the rule does not match. -/
theorem isSome_checkPlacement_of_rule (placement : policy.placement = PlacementRule.usual)
    (listed : rule ∈ PlacementRule.usual) (sameKind : rule.spec.kind = file.kind)
    (samePurpose : rule.spec.purpose = file.purpose) :
    (policy.checkPlacement file).isSome ↔ ¬rule.pattern.matchesIn file.path := by
  -- No two of the rules are for the same files.
  have first : ∀ rule ∈ PlacementRule.usual, PlacementRule.usual.find? (fun other =>
      other.spec.kind = rule.spec.kind ∧ other.spec.purpose = rule.spec.purpose) = some rule := by decide
  rw [checkPlacement, placement, ← sameKind, ← samePurpose, first rule listed, Option.bind_some]
  -- The first rule of the kind and the purpose decides by its pattern.
  split <;> simp_all

/-- A file for which no convention names a purpose is not found fault with. -/
theorem checkPlacement_of_plainPurpose (placement : policy.placement = PlacementRule.usual)
    (plain : file.purpose = Conventions.plainPurpose path) : policy.checkPlacement file = none := by
  -- All plain purposes begin in one way, and no rule is for a purpose that begins so.
  have named : ∀ rule ∈ PlacementRule.usual, ¬Text.isStartOf "Represents artifact at " rule.spec.purpose := by
    decide
  have noRule : policy.placement.find? (fun rule => rule.spec.kind = file.kind ∧ rule.spec.purpose = file.purpose) =
      none := by
    rw [placement, List.find?_eq_none]
    intro rule listed fits
    have same : rule.spec.purpose = Conventions.plainPurpose path := (of_decide_eq_true fits).2.trans plain
    exact named rule listed (Text.isStartOf_iff.mpr ⟨path, same⟩)
  rw [checkPlacement, noRule, Option.bind_none]

/-- By the usual rules a component is found fault with if it is misplaced. -/
theorem isSome_checkPlacement_component (placement : policy.placement = PlacementRule.usual)
    (kind : file.kind = .uiComponent) (purpose : file.purpose = ({} : Conventions).purposeOf .uiComponent file.path) :
    (policy.checkPlacement file).isSome ↔ Misplaced .uiComponent file.path := by
  -- The first of the starts that the path has decides about the purpose, and by it about the rule.
  by_cases shared : Text.isStartOf "src/shared/ui/" file.path
  · have same : PlacementRule.shared.spec.purpose = file.purpose := by
      simp [purpose, Conventions.purposeOf, shared, PlacementRule.shared]
    rw [isSome_checkPlacement_of_rule placement (by decide) kind.symm same]
    simp [not_misplaced_of_shared shared, PlacementRule.shared, Pattern.matchesIn_startingWith, shared]
  -- Below the features the rule for them applies, and that for pages cannot.
  by_cases feature : Text.isStartOf "src/features/" file.path
  · have noPage : ¬Text.isStartOf "src/pages/" file.path :=
      not_isStartOf_of_isStartOf (by decide) (by decide) (by decide) feature
    have same : PlacementRule.feature.spec.purpose = file.purpose := by
      simp [purpose, Conventions.purposeOf, shared, feature, PlacementRule.feature]
    rw [isSome_checkPlacement_of_rule placement (by decide) kind.symm same]
    simp [Misplaced, PlacementRule.feature, Pattern.matchesIn_goingOn (Pattern.means_literal _), feature, noPage]
  -- Below the pages only the rule for them is left.
  by_cases page : Text.isStartOf "src/pages/" file.path
  · have same : PlacementRule.page.spec.purpose = file.purpose := by
      simp [purpose, Conventions.purposeOf, shared, feature, page, PlacementRule.page]
    rw [isSome_checkPlacement_of_rule placement (by decide) kind.symm same]
    simp [Misplaced, PlacementRule.page, Pattern.matchesIn_goingOn (Pattern.means_literal _), feature, page]
  · -- Of the other components none has a rule.
    have plain : file.purpose = Conventions.plainPurpose file.path := by
      simp [purpose, Conventions.purposeOf, shared, feature, page]
    simp [checkPlacement_of_plainPurpose placement plain, Misplaced, feature, page]

/-- By the usual rules a file whose purpose is told by its kind and path is found fault with if it is misplaced. -/
theorem isSome_checkPlacement_usual (placement : policy.placement = PlacementRule.usual)
    (purpose : file.purpose = ({} : Conventions).purposeOf file.kind file.path) :
    (policy.checkPlacement file).isSome ↔ Misplaced file.kind file.path := by
  -- The kind decides about the purpose, except for components.
  cases kind : file.kind with
  | uiComponent => exact isSome_checkPlacement_component placement kind (kind ▸ purpose)
  | stateStore =>
    have same : PlacementRule.store.spec.purpose = file.purpose := by rw [purpose, kind]; rfl
    rw [isSome_checkPlacement_of_rule placement (by decide) kind.symm same]
    simp [Misplaced, PlacementRule.store, Pattern.matchesIn_goingOn Pattern.means_storeFront]
  | routerConfig =>
    have same : PlacementRule.router.spec.purpose = file.purpose := by rw [purpose, kind]; rfl
    rw [isSome_checkPlacement_of_rule placement (by decide) kind.symm same]
    simp [Misplaced, PlacementRule.router, Pattern.matchesIn_startingWith]
  | entryPoint =>
    have same : PlacementRule.entry.spec.purpose = file.purpose := by rw [purpose, kind]; rfl
    rw [isSome_checkPlacement_of_rule placement (by decide) kind.symm same]
    simp [Misplaced, PlacementRule.entry, Pattern.matchesIn_entryPattern]
  | utility | styleSheet | staticData | binaryAsset | other =>
    -- Files of the other kinds have no purpose by convention.
    have plain : file.purpose = Conventions.plainPurpose file.path := by rw [purpose, kind]; rfl
    simp [checkPlacement_of_plainPurpose placement plain, Misplaced]

end Policy

namespace Setup

/-- An audit can be set up by the usual settings, and it finds fault with exactly the misplaced files. A shared
component never is one. -/
theorem checkPlacement_iff_misplaced (vocabulary : Option Vocabulary) :
    ∃ setup, ofConfig vocabulary {} = .ok setup ∧ ∀ path content,
      ((setup.policy.checkPlacement (setup.fileNode path content)).isSome ↔
        Misplaced (({} : Conventions).kindOf path) path) ∧
      (({} : Conventions).kindOf path = .uiComponent → Text.isStartOf "src/shared/ui/" path →
        setup.policy.checkPlacement (setup.fileNode path content) = none) := by
  -- The usual settings give a policy, as their patterns can be read.
  have policy : ∃ policy, Policy.ofConfig {} = .ok policy :=
    ⟨⟨_, _, _, _, _⟩, Policy.ofConfig_eq_ok_iff.mpr ⟨Policy.readPlacement_usual, rfl, rfl, rfl, rfl⟩⟩
  obtain ⟨setup, made⟩ := (exists_ofConfig_iff vocabulary).mpr ⟨policy, by decide, by decide +kernel⟩
  obtain ⟨policyRead, _, _, settings, _⟩ := ofConfig_eq_ok_iff.mp made
  have placement : setup.policy.placement = PlacementRule.usual :=
    Except.ok.inj ((Policy.ofConfig_eq_ok_iff.mp policyRead).1.symm.trans Policy.readPlacement_usual)
  refine ⟨setup, made, fun path content => ?_⟩
  -- Kind and purpose of the file are those by the usual conventions.
  have kind : (setup.fileNode path content).kind = ({} : Conventions).kindOf path := by rw [fileNode, settings]
  have purpose : (setup.fileNode path content).purpose =
      ({} : Conventions).purposeOf (setup.fileNode path content).kind path := by rw [kind, fileNode, settings]
  have found := Policy.isSome_checkPlacement_usual placement purpose
  rw [kind] at found
  refine ⟨found, fun component shared => ?_⟩
  rw [component] at found
  exact Option.not_isSome_iff_eq_none.mp (found.not.mpr (not_misplaced_of_shared shared))

/-- A component of a feature that lies beside the directory for components is found fault with, and a shared one is
not. -/
theorem checkPlacement_iff_misplaced_components :
    ∃ setup, ofConfig none {} = .ok setup ∧
      ({} : Conventions).kindOf "src/shared/ui/BaseButton.vue" = .uiComponent ∧
      Text.isStartOf "src/shared/ui/" "src/shared/ui/BaseButton.vue" ∧
      setup.policy.checkPlacement (setup.fileNode "src/shared/ui/BaseButton.vue" .empty) = none ∧
      (setup.policy.checkPlacement (setup.fileNode "src/features/cart/CartBadge.vue" .empty)).isSome := by
  obtain ⟨setup, made, checks⟩ := checkPlacement_iff_misplaced none
  have shared : Text.isStartOf "src/shared/ui/" "src/shared/ui/BaseButton.vue" := rfl
  have component : ({} : Conventions).kindOf "src/shared/ui/BaseButton.vue" = .uiComponent := rfl
  have other : ({} : Conventions).kindOf "src/features/cart/CartBadge.vue" = .uiComponent := rfl
  have misplaced : Misplaced .uiComponent "src/features/cart/CartBadge.vue" := by
    refine Or.inl ⟨by decide, ?_⟩
    rintro ⟨name, _, _, begins⟩
    -- No directory for components is named anywhere in the path.
    have named : "/ui/".toList <:+: "src/features/cart/CartBadge.vue".toList := by
      refine List.IsInfix.trans ?_ (List.isPrefixOf_iff_prefix.mp begins).isInfix
      exact ⟨("src/features/" ++ name).toList, [], by simp⟩
    exact absurd named (by decide)
  have found := (checks "src/features/cart/CartBadge.vue" .empty).1
  rw [other] at found
  have unmoved := (checks "src/shared/ui/BaseButton.vue" .empty).2 component shared
  exact ⟨setup, made, component, shared, unmoved, found.mpr misplaced⟩

end Setup

end LayerAudit
