import LayerAudit.Proofs.Audit.Merge
import LayerAudit.Proofs.Extraction.TagOrder
import LayerAudit.Script.Repair

/-!
Audits that meet the imported names of components in some order. Their edges agree for all orders exactly if no
component has an ambiguous tag.
-/

namespace LayerAudit

namespace BindingOrder

/-- Any order of one file's names belongs to an order of all files' names. -/
theorem exists_order {file : SourceModule} {names : List (String × ImportTarget)} (perm : names.Perm file.bindings) :
    ∃ order : BindingOrder, order.order file = names := by
  classical
  -- The names of all other files stay sorted.
  refine ⟨⟨Function.update SourceModule.bindings file names, fun other => ?_⟩, by simp⟩
  -- For this file the names come as given, and for the others sorted, which is a permutation in both cases.
  by_cases same : other = file
  · subst same
    simpa using perm
  · simp [same]

end BindingOrder

/-- Joined lists are equal exactly if their parts are, provided that these are equally long. -/
theorem flatMap_eq_iff {α β : Type} {f g : α → List β} {list : List α}
    (aligned : ∀ a ∈ list, (f a).length = (g a).length) :
    list.flatMap f = list.flatMap g ↔ ∀ a ∈ list, f a = g a := by
  induction list with
  | nil => simp
  | cons a rest ih =>
    have here := aligned a (List.mem_cons_self ..)
    have later := ih fun b member => aligned b (List.mem_cons_of_mem _ member)
    -- Equally long beginnings can be cut off on both sides.
    rw [List.flatMap_cons, List.flatMap_cons, List.forall_mem_cons, ← later]
    exact ⟨fun same => List.append_inj same here, fun ⟨first, rest⟩ => by rw [first, rest]⟩

namespace Setup

variable [Script.Syntax]

/-- The parsed component at a path, with the names that extraction looks for. -/
def componentAt? (setup : Setup) (files : FileSystem) (root : String) (scope : ImportScope) (path : String) :
    Option (Vocabulary × SourceModule) := do
  let words ← setup.vocabulary
  let content ← contentOf? files root path
  let text ← String.fromUTF8? content
  let parsed ← (ParsedFile.ofContent path text).toOption
  if (setup.fileNode path content).kind = .uiComponent then some (words, ⟨path, parsed.tree, scope⟩) else none

/-- No component that is discovered below a source root has an ambiguous tag. -/
def Unambiguous (setup : Setup) (files : FileSystem) (root : String) : Prop :=
  ∀ paths, setup.discover files root = .ok paths → ∀ path ∈ paths, ∀ words file,
    setup.componentAt? files root (setup.scopeOf paths) path = some (words, file) → Component.Unambiguous file

variable {setup : Setup} {order : BindingOrder} {files : FileSystem} {root path : String} {scope : ImportScope}
  {words : Vocabulary} {file : SourceModule}

/-- A component is extracted as such, and the order of its imported names matters to nothing else. -/
theorem examine_component (found : setup.componentAt? files root scope path = some (words, file)) :
    ∃ outcome : FileOutcome, ∀ order, setup.examine order files root scope path =
      { outcome with extraction := file.extractImports ++ Component.extract (order.order file) words file } := by
  simp only [componentAt?, Option.bind_eq_bind, Option.bind_eq_some_iff] at found
  -- Every stage of the extraction succeeds with what the component was found by.
  obtain ⟨own, vocabulary, content, contained, text, decoded, parsed, outcome, selected⟩ := found
  -- The file is read to the content that was found.
  have read : files.read (Location.join root path) = .ok content := by
    cases given : files.read (Location.join root path) <;> simp_all [contentOf?, Except.toOption]
  have parses : ParsedFile.ofContent path text = .ok parsed := by
    cases given : ParsedFile.ofContent path text <;> simp_all [Except.toOption]
  split at selected
  · rename_i isComponent
    cases selected
    -- The rest of the outcome is told by the file alone, so that it can be given before the order is.
    refine ⟨{ file := some (setup.fileNode path content)
              violations := (setup.policy.checkPlacement (setup.fileNode path content)).toList }, fun order => ?_⟩
    simp [examine_ok read, examineContent, vocabulary, isComponent, FileKind.isParseable, extract, decoded, extractFile,
      parses, SourceModule.extract]
  · cases selected

/-- The edges of a component, where its imported names come in some order. -/
theorem edges_examine_component (order : BindingOrder)
    (found : setup.componentAt? files root scope path = some (words, file)) :
    (setup.examine order files root scope path).extraction.edges =
      file.extractImports.edges ++ (Component.extract (order.order file) words file).edges := by
  obtain ⟨outcome, given⟩ := examine_component found
  rw [given order]
  rfl

/-- Components are files of that kind. -/
theorem kind_of_componentAt? (found : setup.componentAt? files root scope path = some (words, file)) :
    setup.config.conventions.kindOf path = .uiComponent := by
  simp only [componentAt?, Option.bind_eq_bind, Option.bind_eq_some_iff] at found
  obtain ⟨_, _, content, _, _, _, _, _, selected⟩ := found
  split at selected
  · rename_i isComponent
    exact (fileNode_kind content).symm.trans isComponent
  · cases selected

/-- A file of that kind is found as a component if its content is read, decoded and parsed. -/
theorem componentAt?_eq_some {content : ByteArray} {text : String} {tree : SyntaxTree} {usedFallback : Bool}
    (vocabulary : setup.vocabulary = some words) (read : files.read (Location.join root path) = .ok content)
    (decoded : String.fromUTF8? content = some text) (parses : ParsedFile.ofContent path text = .ok ⟨tree, usedFallback⟩)
    (kind : setup.config.conventions.kindOf path = .uiComponent) :
    setup.componentAt? files root scope path = some (words, ⟨path, tree, scope⟩) := by
  simp [componentAt?, vocabulary, contentOf?, read, Except.toOption, decoded, parses, fileNode_kind, kind]

/-- What is extracted does not depend on the order, unless from the tree of a component. -/
theorem extract_other {content : ByteArray} {kind : FileKind}
    (other : ∀ text parsed, String.fromUTF8? content = some text → ParsedFile.ofContent path text = .ok parsed →
      kind ≠ .uiComponent) (first second : BindingOrder) :
    extract first words scope path kind content = extract second words scope path kind content := by
  -- Each stage fails in the same way for both orders, or gives the same to both.
  unfold extract extractFile
  cases decoded : String.fromUTF8? content with
  | none => rfl
  | some text =>
    cases parses : ParsedFile.ofContent path text with
    | error failure => simp only [parses]
    | ok parsed =>
      have := other text parsed decoded parses
      simp only [parses]
      -- Only for components is the order handed on.
      cases kind <;> first | contradiction | rfl

/-- What a file adds does not depend on the order, unless it is a component. -/
theorem examine_other (other : setup.componentAt? files root scope path = none) (first second : BindingOrder) :
    setup.examine first files root scope path = setup.examine second files root scope path := by
  cases read : files.read (Location.join root path) with
  | error cause => rw [examine_error read, examine_error read]
  | ok content =>
    rw [examine_ok read, examine_ok read]
    unfold examineContent
    cases vocabulary : setup.vocabulary with
    | none => rfl
    | some words =>
      have same : extract first words scope path (setup.fileNode path content).kind content =
          extract second words scope path (setup.fileNode path content).kind content := by
        -- Were the file a component that parses, it would be found as one.
        refine extract_other (fun text parsed decoded parses isComponent => ?_) first second
        simp [componentAt?, vocabulary, contentOf?, read, Except.toOption, decoded, parses, isComponent] at other
      simp only [same]

/-! ### Edges by two orders -/

/-- In all orders a file adds the same, apart from its edges. -/
theorem examine_order (first second : BindingOrder) :
    setup.examine first files root scope path =
      { setup.examine second files root scope path with
        extraction.edges := (setup.examine first files root scope path).extraction.edges } := by
  cases found : setup.componentAt? files root scope path with
  | none => rw [examine_other found first second]
  | some component =>
    -- For a component the order shows in the edges alone.
    obtain ⟨outcome, given⟩ := examine_component found
    rw [given first, given second]
    rfl

/-- In all orders a file adds as many edges. -/
theorem length_edges_examine (first second : BindingOrder) :
    (setup.examine first files root scope path).extraction.edges.length =
      (setup.examine second files root scope path).extraction.edges.length := by
  cases found : setup.componentAt? files root scope path with
  | none => rw [examine_other found first second]
  | some component =>
    -- Both orders permute the same names.
    have perm := (first.perm component.2).trans (second.perm component.2).symm
    rw [edges_examine_component first found, edges_examine_component second found, List.length_append,
      List.length_append, Component.length_extract component.1 component.2 perm]

/-- What a file adds does not depend on the order exactly if it is no component with an ambiguous tag. -/
theorem examine_order_free_iff :
    (∀ first second : BindingOrder, (setup.examine first files root scope path).extraction.edges =
        (setup.examine second files root scope path).extraction.edges) ↔
      ∀ words file, setup.componentAt? files root scope path = some (words, file) → Component.Unambiguous file := by
  constructor
  · intro free words file found
    refine (Component.extract_order_free_iff words file).mp fun first second firstPerm secondPerm => ?_
    -- Both orders of this file's names are taken from orders of all names.
    obtain ⟨one, rfl⟩ := BindingOrder.exists_order firstPerm
    obtain ⟨other, rfl⟩ := BindingOrder.exists_order secondPerm
    have same := free one other
    rw [edges_examine_component one found, edges_examine_component other found] at same
    exact List.append_cancel_left same
  · intro unambiguous first second
    cases found : setup.componentAt? files root scope path with
    | none => rw [examine_other found first second]
    | some component =>
      -- The two orders of all names are orders of this file's names.
      have free := (Component.extract_order_free_iff component.1 component.2).mpr (unambiguous _ _ found)
      have same := free _ _ (first.perm component.2) (second.perm component.2)
      rw [edges_examine_component first found, edges_examine_component second found, same]

/-- A file that is no component with an ambiguous tag adds the same in all orders. -/
theorem examine_eq_of_unambiguous
    (unambiguous : ∀ words file, setup.componentAt? files root scope path = some (words, file) →
      Component.Unambiguous file) (first second : BindingOrder) :
    setup.examine first files root scope path = setup.examine second files root scope path := by
  rw [examine_order first second, examine_order_free_iff.mpr unambiguous first second]

/-- The edges of an audit by some order are those of its files. -/
theorem audit_edges (order : BindingOrder) {paths : List String} (found : setup.discover files root = .ok paths) :
    (setup.audit order files root).map (·.1.graph.edges) =
      .ok (paths.flatMap fun path =>
        (setup.examine order files root (setup.scopeOf paths) path).extraction.edges) := by
  simp only [audit, found, Except.map, Audit.edges_ofOutcomes, outcomes, List.flatMap_map]

/-- The edges of an audit do not depend on the order exactly if no component has an ambiguous tag. -/
theorem audit_order_free_iff :
    (∀ first second : BindingOrder, (setup.audit first files root).map (·.1.graph.edges) =
        (setup.audit second files root).map (·.1.graph.edges)) ↔ setup.Unambiguous files root := by
  cases found : setup.discover files root with
  -- Without discovery there is neither an audit nor anything to be ambiguous.
  | error bad => simp [audit, found, Unambiguous]
  | ok paths =>
    -- Files add as many edges by both orders, so the edges agree file by file.
    have edges (first second : BindingOrder) :
        (setup.audit first files root).map (·.1.graph.edges) =
            (setup.audit second files root).map (·.1.graph.edges) ↔
          ∀ path ∈ paths,
            (setup.examine first files root (setup.scopeOf paths) path).extraction.edges =
              (setup.examine second files root (setup.scopeOf paths) path).extraction.edges := by
      rw [audit_edges first found, audit_edges second found, Except.ok.injEq,
        flatMap_eq_iff fun path _ => length_edges_examine first second]
    constructor
    · -- The two orders agree about all files, so that they agree about this one.
      intro free _ same path listed
      cases found.symm.trans same
      exact examine_order_free_iff.mp fun first second => (edges first second).mp (free first second) path listed
    · intro unambiguous first second
      refine (edges first second).mpr fun path listed => ?_
      exact examine_order_free_iff.mpr (unambiguous paths found path listed) first second

/-- Where no component has an ambiguous tag, whole audits do not depend on the order. -/
theorem audit_eq_of_unambiguous (unambiguous : setup.Unambiguous files root) (first second : BindingOrder) :
    setup.audit first files root = setup.audit second files root := by
  cases found : setup.discover files root with
  | error bad => simp only [audit, found]
  | ok paths =>
    -- Each file adds the same by both orders, and so do all of them together.
    have same : setup.outcomes first files root paths = setup.outcomes second files root paths :=
      List.map_congr_left fun path listed =>
        examine_eq_of_unambiguous (unambiguous paths found path listed) first second
    rw [audit_of_discover first found, audit_of_discover second found, same]

/-- The edges of a component do not depend on the order of its imported names exactly if no tag in its template is
ambiguous, and neither do the edges of an audit exactly if this holds of all components that it discovers. -/
theorem edges_order_free_iff_unambiguous (words : Vocabulary) (file : SourceModule) (setup : Setup)
    (files : FileSystem) (root : String) :
    ((∀ first second, first.Perm file.bindings → second.Perm file.bindings →
        (Component.extract first words file).edges = (Component.extract second words file).edges) ↔
      Component.Unambiguous file) ∧
    ((∀ first second : BindingOrder, (setup.audit first files root).map (·.1.graph.edges) =
        (setup.audit second files root).map (·.1.graph.edges)) ↔ setup.Unambiguous files root) :=
  ⟨Component.extract_order_free_iff words file, audit_order_free_iff⟩

end Setup

namespace Component

/-- Imports of two cards under names with one key. -/
def pageScript : String := "\nimport BaseCard from \"new-cards\"\nimport basecard from \"old-cards\"\n"

/-- A page that imports the two cards, and whose template has a tag with their key. -/
def pageText : String := "<script>" ++ pageScript ++ "</script>\n<template>\n<base-card/>\n</template>\n"

/-- The page is parsed to a tree with two imports and one tag. -/
theorem first_page : ∃ tree, ParsedFile.first "src/Page.vue" pageText = .ok tree ∧ elementTags tree = ["base-card"] ∧
    ∀ scope, (SourceModule.mk "src/Page.vue" tree scope).imports =
      [⟨scope.resolve "src/Page.vue" "new-cards", some "BaseCard", ["BaseCard"]⟩,
        ⟨scope.resolve "src/Page.vue" "old-cards", some "basecard", ["basecard"]⟩] := by
  -- The blocks of the page are cut out, and its script is read.
  have blocks : Blocks.ofSource pageText.toList = .ok ⟨pageScript.toList, [("base-card", ⟨96, 106⟩)]⟩ := by
    decide +kernel
  have imports : importShapes? (String.ofList pageScript.toList) =
      some [.staticImport "new-cards" (some "BaseCard") ["BaseCard"],
        .staticImport "old-cards" (some "basecard") ["basecard"]] := by
    decide +kernel
  have isComponent : ParsedFile.isComponentPath "src/Page.vue" = true := rfl
  obtain ⟨tree, parsed, tags, imported⟩ := first_imports isComponent blocks imports
  exact ⟨tree, parsed, tags, imported⟩

/-- Both names of the page, sorted. -/
def pageNames : List (String × ImportTarget) := [("BaseCard", .package "new-cards"), ("basecard", .package "old-cards")]

/-- Where the page imports from two packages, the two names lead to these. -/
theorem bindings_page {tree : SyntaxTree} {scope : ImportScope}
    (imports : (SourceModule.mk "src/Page.vue" tree scope).imports =
      [⟨scope.resolve "src/Page.vue" "new-cards", some "BaseCard", ["BaseCard"]⟩,
        ⟨scope.resolve "src/Page.vue" "old-cards", some "basecard", ["basecard"]⟩])
    (newCards : scope.resolve "src/Page.vue" "new-cards" = .package "new-cards")
    (oldCards : scope.resolve "src/Page.vue" "old-cards" = .package "old-cards") :
    -- Sorted by name, the last import of each name counts.
    (SourceModule.mk "src/Page.vue" tree scope).bindings = pageNames := by
  rw [SourceModule.bindings, imports, newCards, oldCards]
  rfl

/-- Whichever of the names comes last, its card is the one that the page uses. -/
theorem page_edges_depend_on_order :
    ∃ tree, ParsedFile.first "src/Page.vue" pageText = .ok tree ∧
      let page : SourceModule := ⟨"src/Page.vue", tree, ⟨[], .emptyWithCapacity⟩⟩
      ∃ first second, first.Perm page.bindings ∧ second.Perm page.bindings ∧
        ∀ words, (extract first words page).edges ≠ (extract second words page).edges := by
  obtain ⟨tree, parsed, tags, imports⟩ := first_page
  -- Both packages lie outside of the files that are known here.
  have names := bindings_page (imports ⟨[], .emptyWithCapacity⟩) rfl rfl
  have targets : targetOf? pageNames "base-card" = some "old-cards" ∧
      targetOf? pageNames.reverse "base-card" = some "new-cards" := by
    decide +kernel
  -- The sorted order ends with the small letters, the reversed one with the capitals.
  refine ⟨tree, parsed, pageNames, pageNames.reverse, names ▸ .refl _, names ▸ List.reverse_perm _,
    fun words same => ?_⟩
  have equal := (extract_eq_iff words _ (List.reverse_perm _).symm).mp same "base-card" (by simp [tags])
  simp [targets] at equal

end Component

end LayerAudit
