import LayerAudit.Extraction.Component
import LayerAudit.Proofs.Sorted
import LayerAudit.Proofs.Tree.Uses
import Mathlib.Data.List.Basic

/-!
The components that a template uses depend on the order of the imported names exactly where two names that answer to
one tag lead to different targets.
-/

namespace LayerAudit.Component

/-- The tag of an element. -/
def tagOf? : Shape → Option String
  | .element tag => some tag
  | _ => none

/-- The tags in the template of a file, in their order. -/
def elementTags (tree : SyntaxTree) : List String :=
  match tree.template with
  | none => []
  | some template => (tree.walk template).filterMap fun place => (tree.shape? place).bind tagOf?

/-- The target that a tag leads to, where the imported names come in some order. -/
def targetOf? (bindings : List (String × ImportTarget)) (tag : String) : Option String :=
  Sorted.get? (tagKey tag) (tagTable bindings)

/-- The imported names that answer to one tag lead to one target. -/
def Agree (bindings : List (String × ImportTarget)) (tag : String) : Prop :=
  ∀ first ∈ bindings, ∀ second ∈ bindings, tagKey first.1 = tagKey tag → tagKey second.1 = tagKey tag →
    first.2.id = second.2.id

/-- The imported names agree about every tag in the template of a file. -/
def Unambiguous (file : SourceModule) : Prop := ∀ tag ∈ elementTags file.tree, Agree file.bindings tag

variable {bindings first second : List (String × ImportTarget)} {words : Vocabulary} {file : SourceModule}
  {tag target : String}

/-! ### The tags of a template -/

/-- The tag of a node shows in its outline. -/
theorem tagOf?_outlineAt (tree : SyntaxTree) (place : Nat) :
    (tree.shape? place).bind tagOf? = tagOf? (Tree.outlineAt tree.nodes place).shape := by
  rw [Tree.outlineAt, SyntaxTree.shape?]
  -- An outline keeps the tag of an element, and no other shape has one.
  cases tree.nodes[place]? with
  | none => rfl
  | some node =>
    obtain ⟨shape, span⟩ := node
    cases shape <;> rfl

/-- The outline of a template has the tags of its elements. -/
theorem tags_template (span : Script.Span) (tags : List (String × Script.Span)) :
    (((Outline.mk (.template []) span (tags.map fun tag => .mk (.element tag.1) tag.2 [])).marked false).map
      Prod.snd).filterMap (tagOf? ∘ Outline.shape) = tags.map (·.1) := by
  have element (tag : String × Script.Span) :
      (((Outline.mk (.element tag.1) tag.2 []).marked false).map Prod.snd).filterMap (tagOf? ∘ Outline.shape) =
        [tag.1] :=
    rfl
  -- The template itself has no tag.
  rw [Outline.marked, List.map_cons, Outline.map_snd_markedBelow, List.filterMap_cons_none rfl, List.flatMap_map,
    List.filterMap_flatMap]
  simp only [element]
  exact List.map_eq_flatMap.symm

/-- The tags in the template of a file are those that its blocks tell. -/
theorem elementTags_ofScript (text : String) (root : Script.Cst) (tags : List (String × Script.Span)) :
    elementTags (Tree.ofScript text root tags) = tags.map (·.1) := by
  cases tags with
  | nil => rfl
  | cons first rest =>
    -- With a first tag there is a template, which is the second root of the tree.
    have forest := Tree.ofScript_forest text root (first :: rest)
    have shown := (List.cons.inj (Tree.map_outlineAt_roots text root (first :: rest))).2
    cases template : (Tree.ofScript text root (first :: rest)).template with
    | none => simp [template, Tree.templateOutlines, List.getLast?_cons] at shown
    | some place =>
      -- The template is one node with an element for each tag, and a walk from it meets the elements behind it.
      simp only [template, Tree.templateOutlines, List.head?_cons, List.getLast?_cons, Option.toList_some,
        List.map_cons, List.map_nil, List.cons.injEq, and_true] at shown
      have inside : place < (Tree.ofScript text root (first :: rest)).nodes.size :=
        forest.root_lt (by simp [SyntaxTree.roots, template])
      have told := tags_template ⟨first.2.start, (rest.getLast?.getD first).2.stop⟩ (first :: rest)
      rw [List.map_cons, ← shown, ← Tree.map_outlineAt_preorder forest inside, List.filterMap_map] at told
      simp only [elementTags, template, SyntaxTree.walk_eq_preorder forest inside, tagOf?_outlineAt]
      exact told

/-- A component whose script has imports alone is parsed to a tree with these imports and the tags of its template. -/
theorem first_imports [Script.Syntax] {path content : String} {script : List Char} {shapes : List Shape}
    {tags : List (String × Script.Span)} (isComponent : ParsedFile.isComponentPath path = true)
    (blocks : Blocks.ofSource content.toList = .ok ⟨script, tags⟩)
    (imports : importShapes? (String.ofList script) = some shapes) :
    ∃ tree, ParsedFile.first path content = .ok tree ∧ elementTags tree = tags.map (·.1) ∧
      ∀ scope, (SourceModule.mk path tree scope).imports = shapes.filterMap (SourceModule.importOf? scope path) := by
  unfold importShapes? at imports
  cases parsed : Script.parseStrict (String.ofList script) with
  | error failure => simp [parsed] at imports
  | ok root =>
    simp only [parsed, Option.ite_none_right_eq_some, Option.some.injEq] at imports
    obtain ⟨⟨isProgram, statements⟩, rfl⟩ := imports
    -- A component is read through its blocks, and its script has imports alone.
    refine ⟨Tree.ofScript (String.ofList script) root tags, ?_, elementTags_ofScript _ _ _, fun scope => ?_⟩
    · simp only [ParsedFile.first, isComponent, if_true, blocks, parsed]
    · exact SourceModule.imports_ofScript isProgram statements tags

/-! ### One tag -/

/-- A file uses what the tags in its template lead to. -/
theorem componentUses_eq (bindings : List (String × ImportTarget)) (file : SourceModule) :
    componentUses bindings file =
      (elementTags file.tree).filterMap fun tag =>
        (targetOf? bindings tag).map (⟨file.path, ·, .usesComponent⟩) := by
  unfold componentUses elementTags
  cases file.tree.template with
  | none => rfl
  -- A walk over the template meets the tags in their order.
  | some template =>
    rw [List.filterMap_filterMap]
    refine congrArg (List.filterMap · _) (funext fun place => ?_)
    cases file.tree.shape? place with
    | none => rfl
    | some shape => cases shape <;> rfl

/-- A tag leads somewhere exactly if an imported name answers to it. -/
theorem targetOf?_isSome : (targetOf? bindings tag).isSome ↔ ∃ binding ∈ bindings, tagKey binding.1 = tagKey tag := by
  rw [targetOf?, tagTable, Sorted.get?_ofList, Sorted.get?_isSome]
  simp

/-- A tag leads to the target of an imported name that answers to it. -/
theorem mem_of_targetOf? (found : targetOf? bindings tag = some target) :
    ∃ binding ∈ bindings, tagKey binding.1 = tagKey tag ∧ binding.2.id = target := by
  rw [targetOf?, tagTable, Sorted.get?_ofList] at found
  obtain ⟨binding, member, entry⟩ := List.mem_map.mp (List.mem_reverse.mp (Sorted.mem_of_get? found))
  exact ⟨binding, member, congrArg Prod.fst entry, congrArg Prod.snd entry⟩

/-- The last imported name that answers to a tag tells where it leads. -/
theorem targetOf?_concat {binding : String × ImportTarget} (answers : tagKey binding.1 = tagKey tag) :
    targetOf? (bindings ++ [binding]) tag = some binding.2.id := by
  simp [targetOf?, tagTable, Sorted.get?_ofList, Sorted.get?_cons, answers]

/-- Whether a tag leads anywhere does not depend on the order. -/
theorem targetOf?_isSome_perm (perm : first.Perm second) :
    (targetOf? first tag).isSome = (targetOf? second tag).isSome := by
  rw [Bool.eq_iff_iff, targetOf?_isSome, targetOf?_isSome]
  simp only [perm.mem_iff]

/-- Where a tag leads does not depend on the order exactly if the imported names agree about it. -/
theorem targetOf?_order_free_iff :
    (∀ first second, first.Perm bindings → second.Perm bindings → targetOf? first tag = targetOf? second tag) ↔
      Agree bindings tag := by
  constructor
  · intro free one oneMember other otherMember oneAnswers otherAnswers
    -- Each of the two names comes last in some order, and counts there.
    have last (binding : String × ImportTarget) (member : binding ∈ bindings) :
        (bindings.erase binding ++ [binding]).Perm bindings :=
      List.perm_append_comm.trans (List.perm_cons_erase member).symm
    have same := free _ _ (last one oneMember) (last other otherMember)
    rw [targetOf?_concat oneAnswers, targetOf?_concat otherAnswers] at same
    -- Both orders give the same target, and each gives that of its last name.
    exact Option.some.inj same
  · intro agree first second firstPerm secondPerm
    -- Either the tag leads nowhere in both orders, or to two names that agree.
    have both : (targetOf? first tag).isSome = (targetOf? second tag).isSome :=
      targetOf?_isSome_perm (firstPerm.trans secondPerm.symm)
    cases firstFound : targetOf? first tag with
    | none =>
      rw [firstFound] at both
      exact (Option.isNone_iff_eq_none.mp (by simpa using both.symm)).symm
    -- In the other order the tag leads somewhere as well, and there the names agree.
    | some firstTarget =>
      rw [firstFound] at both
      obtain ⟨secondTarget, secondFound⟩ := Option.isSome_iff_exists.mp both.symm
      obtain ⟨one, oneMember, oneAnswers, rfl⟩ := mem_of_targetOf? firstFound
      obtain ⟨other, otherMember, otherAnswers, rfl⟩ := mem_of_targetOf? secondFound
      rw [secondFound, agree one (firstPerm.mem_iff.mp oneMember) other (secondPerm.mem_iff.mp otherMember)
        oneAnswers otherAnswers]

/-! ### One file -/

/-- Lists of what is there are equal exactly if the same is there, provided that it is there in the same places. -/
theorem filterMap_eq_iff {α β : Type} {f g : α → Option β} {list : List α}
    (aligned : ∀ a ∈ list, (f a).isSome = (g a).isSome) :
    list.filterMap f = list.filterMap g ↔ ∀ a ∈ list, f a = g a := by
  induction list with
  | nil => simp
  -- Nothing is added on either side, or something on both, which has to be the same.
  | cons a rest ih =>
    have here := aligned a (List.mem_cons_self ..)
    have later := ih fun b member => aligned b (List.mem_cons_of_mem _ member)
    cases left : f a <;> cases right : g a <;> simp_all

/-- The used components come after all else that a file has, none of which depends on the order. -/
theorem edges_extract (words : Vocabulary) (file : SourceModule) :
    ∃ before, ∀ bindings, (extract bindings words file).edges = before ++ componentUses bindings file :=
  ⟨_, fun _ => rfl⟩

/-- In all orders a file has as many edges. -/
theorem length_extract (words : Vocabulary) (file : SourceModule) (perm : first.Perm second) :
    (extract first words file).edges.length = (extract second words file).edges.length := by
  -- The same tags lead somewhere in both orders.
  obtain ⟨before, split⟩ := edges_extract words file
  rw [split, split, List.length_append, List.length_append, componentUses_eq, componentUses_eq,
    List.length_filterMap_eq_countP, List.length_filterMap_eq_countP]
  simp only [Option.isSome_map, targetOf?_isSome_perm perm]

/-- Two orders give the same edges exactly if they give every tag the same target. -/
theorem extract_eq_iff (words : Vocabulary) (file : SourceModule) (perm : first.Perm second) :
    (extract first words file).edges = (extract second words file).edges ↔
      ∀ tag ∈ elementTags file.tree, targetOf? first tag = targetOf? second tag := by
  obtain ⟨before, split⟩ := edges_extract words file
  -- What comes before the used components is the same in both orders.
  rw [split, split, List.append_cancel_left_eq, componentUses_eq, componentUses_eq,
    filterMap_eq_iff fun tag _ => by simp only [Option.isSome_map, targetOf?_isSome_perm perm]]
  -- An edge to a component tells its target.
  have toEdge : Function.Injective (⟨file.path, ·, .usesComponent⟩ : String → Edge) := by
    intro one other same
    simpa using same
  simp only [(Option.map_injective toEdge).eq_iff]

/-- The edges of a component do not depend on the order of the imported names exactly if these are unambiguous. -/
theorem extract_order_free_iff (words : Vocabulary) (file : SourceModule) :
    (∀ first second, first.Perm file.bindings → second.Perm file.bindings →
      (extract first words file).edges = (extract second words file).edges) ↔ Unambiguous file := by
  constructor
  · intro free tag member
    refine targetOf?_order_free_iff.mp fun first second firstPerm secondPerm => ?_
    have same := free first second firstPerm secondPerm
    exact (extract_eq_iff words file (firstPerm.trans secondPerm.symm)).mp same tag member
  · intro unambiguous first second firstPerm secondPerm
    refine (extract_eq_iff words file (firstPerm.trans secondPerm.symm)).mpr fun tag member => ?_
    exact targetOf?_order_free_iff.mpr (unambiguous tag member) first second firstPerm secondPerm

end LayerAudit.Component
