import LayerAudit.Extraction.OfFile

/-! A script of import statements keeps them in its syntax tree, so what is extracted from it are its imports. -/

namespace LayerAudit

open Script

/-- What holds of the result, if there is one, holds of the one that there is. -/
theorem exists_ok_of_any {ε α : Type} {outcome : Except ε α} {holds : α → Bool}
    (any : outcome.toOption.any holds = true) : ∃ result, outcome = .ok result ∧ holds result = true := by
  cases outcome with
  | error failure => cases any
  | ok result => exact ⟨result, rfl, any⟩

namespace Tree

variable {text : String}

/-- The parts of a node are its children, in their order. -/
theorem map_parts (node : Cst) : (parts node).map (·.1) = node.children := by
  -- A part is a child with the proof that it is smaller, on which nothing depends.
  rw [parts, List.map_map]
  exact List.attach_map_subtype_val node.children

/-- The named parts of a node are its named children. -/
theorem map_namedParts (node : Cst) : (namedParts node).map (·.1) = node.namedChildren := by
  have named : (fun part : Part node => part.1.isNamed) = Cst.isNamed ∘ (·.1) := rfl
  rw [namedParts, named, ← List.filter_map, map_parts]
  rfl

/-- The part with a label is the child with it. -/
theorem map_part? (node : Cst) (label : Label) : (part? node label).map (·.1) = node.child? label := by
  rw [part?, Cst.child?, ← map_parts node, List.find?_map]
  rfl

/-- An import statement is laid down as one node. -/
def importNode (text : String) (statement : Cst) : TreeNode := ⟨importShape text statement, statement.span⟩

/-- Lowering an import statement lays down its node alone. -/
theorem lower_import {node : Cst} (isImport : node.role = .importStatement) (nodes : Array TreeNode) :
    lower text node nodes = (nodes.size, nodes.push (importNode text node)) := by
  rw [lower, isImport]
  rfl

/-- Lowering import statements lays down one node for each, in their order. -/
theorem lowerAll_imports {node : Cst} (list : List (Part node))
    (imports : ∀ part ∈ list, part.1.role = .importStatement) (nodes : Array TreeNode) :
    lowerAll text node list nodes =
      (List.range' nodes.size list.length, nodes ++ (list.map fun part => importNode text part.1).toArray) := by
  -- Statements are laid down one by one, each at the place behind the nodes that are there.
  induction list generalizing nodes with
  | nil =>
    rw [lowerAll]
    simp
    rfl
  | cons part rest ih =>
    have first : lower text part.1 nodes = (nodes.size, nodes.push (importNode text part.1)) :=
      lower_import (imports part (List.mem_cons_self ..)) nodes
    have later := ih (fun other member => imports other (List.mem_cons_of_mem _ member))
      (nodes.push (importNode text part.1))
    -- The rest is laid down behind the first part.
    have step : lowerAll text node (part :: rest) nodes =
        ((lower text part.1 nodes).1 :: (lowerAll text node rest (lower text part.1 nodes).2).1,
          (lowerAll text node rest (lower text part.1 nodes).2).2) := by
      rw [lowerAll]
      rfl
    rw [step, first, later]
    simp [List.range'_succ]

/-- The elements of a template are laid down behind what is there already. -/
theorem layTags_extends (tags : List (String × Span)) (nodes : Array TreeNode) :
    ∃ more, (layTags tags nodes).2 = nodes ++ more := by
  induction tags generalizing nodes with
  | nil => exact ⟨#[], (Array.append_empty).symm⟩
  | cons tag rest ih =>
    -- One element comes directly behind the nodes that are there, and the rest behind it.
    obtain ⟨more, same⟩ := ih (nodes.push ⟨.element tag.1, tag.2⟩)
    exact ⟨#[⟨.element tag.1, tag.2⟩] ++ more, by rw [← Array.append_assoc, Array.append_singleton, ← same]; rfl⟩

/-- A template is laid down behind what is there already. -/
theorem layTemplate_extends (tags : List (String × Span)) (nodes : Array TreeNode) :
    ∃ more, (layTemplate tags nodes).2 = nodes ++ more := by
  unfold layTemplate
  -- Without tags nothing is laid down.
  cases tags.head? with
  | none => exact ⟨#[], (Array.append_empty).symm⟩
  | some first =>
    cases tags.getLast? with
    | none => exact ⟨#[], (Array.append_empty).symm⟩
    | some last =>
      -- The node of the template itself comes last.
      obtain ⟨more, same⟩ := layTags_extends tags nodes
      refine ⟨more.push ⟨.template (layTags tags nodes).1, ⟨first.2.start, last.2.stop⟩⟩, ?_⟩
      rw [Array.append_push, ← same]
      rfl

/-- The tree of a script of imports begins with one node for each of them, and the script itself behind them. -/
theorem ofScript_imports (text : String) {root : Cst} (isProgram : root.role = .program)
    (imports : ∀ statement ∈ root.namedChildren, statement.role = .importStatement) (tags : List (String × Span)) :
    (ofScript text root tags).program = root.namedChildren.length ∧
      ∃ more, (ofScript text root tags).nodes =
        (root.namedChildren.map (importNode text)).toArray.push
          ⟨.program (List.range root.namedChildren.length), root.span⟩ ++ more := by
  -- The statements take the first places, as many as there are.
  have below : lowerAll text root (namedParts root) #[] =
      (List.range root.namedChildren.length, (root.namedChildren.map (importNode text)).toArray) := by
    have partsImport (part : Part root) (member : part ∈ namedParts root) : part.1.role = .importStatement :=
      imports part.1 (map_namedParts root ▸ List.mem_map_of_mem member)
    rw [lowerAll_imports _ partsImport, ← map_namedParts root, List.map_map, List.length_map]
    simp [List.range_eq_range', Function.comp_def]
  -- The program itself comes directly behind its statements.
  have lowered : lower text root #[] =
      (root.namedChildren.length, (root.namedChildren.map (importNode text)).toArray.push
        ⟨.program (List.range root.namedChildren.length), root.span⟩) := by
    rw [lower, isProgram]
    simp only [bind, StateT.bind, below, lay]
    rw [List.size_toArray, List.length_map]
  rw [ofScript, lowered]
  exact ⟨rfl, layTemplate_extends tags _⟩

end Tree

namespace SourceModule

variable {text path : String} {scope : ImportScope} {root : Cst}

/-- What a shape brings in, if it is an import. -/
def importOf? (scope : ImportScope) (path : String) : Shape → Option ResolvedImport
  | .staticImport specifier byDefault bindings => some ⟨scope.resolve path specifier, byDefault, bindings⟩
  | _ => none

/-- The imports of a file are those among the shapes of its statements. -/
theorem imports_eq (file : SourceModule) :
    -- Both sides read the shapes of the statements; only imports among them give something.
    file.imports = (file.tree.statements.filterMap file.tree.shape?).filterMap (importOf? file.scope file.path) := by
  rw [imports, List.filterMap_filterMap]
  congr 1
  funext place
  cases file.tree.shape? place with
  | none => rfl
  | some shape => cases shape <;> rfl

/-- A script of imports has those imports, whatever the tags of the template are. -/
theorem imports_ofScript (isProgram : root.role = .program)
    (imports : ∀ statement ∈ root.namedChildren, statement.role = .importStatement) (tags : List (String × Span)) :
    (SourceModule.mk path (Tree.ofScript text root tags) scope).imports =
      (root.namedChildren.map (Tree.importShape text)).filterMap (importOf? scope path) := by
  rw [imports_eq]
  congr 1
  obtain ⟨program, more, nodes⟩ := Tree.ofScript_imports text isProgram imports tags
  -- The places of the statements count up from zero, in step with the statements.
  have statements : (Tree.ofScript text root tags).statements = List.range root.namedChildren.length := by
    simp [SyntaxTree.statements, SyntaxTree.shape?, program, nodes, Array.getElem?_append]
  have shapes (place : Nat) (early : place < root.namedChildren.length) : (Tree.ofScript text root tags).shape? place =
      (root.namedChildren.map (Tree.importShape text))[place]? := by
    have inside : place < root.namedChildren.length + 1 := Nat.lt_succ_of_lt early
    simp [SyntaxTree.shape?, nodes, Array.getElem?_append, inside, early, Tree.importNode]
  -- Every place of a statement shows the shape of that statement.
  have shown : (List.range root.namedChildren.length).map (Tree.ofScript text root tags).shape? =
      (root.namedChildren.map (Tree.importShape text)).map some := by
    refine List.ext_getElem (by simp) fun place inside _ => ?_
    have early : place < root.namedChildren.length := by simpa using inside
    simp [shapes place early, early]
  rw [statements, ← Function.id_comp (Tree.ofScript text root tags).shape?, ← List.filterMap_map, shown,
    List.filterMap_map]
  simp

end SourceModule

variable [Script.Syntax] {order : BindingOrder}

/-- What is extracted from a script without damage is extracted from its own tree. -/
theorem extractFile_of_parseStrict {words : Vocabulary} {scope : ImportScope} {path content : String} {kind : FileKind}
    {root : Cst} (plain : ParsedFile.isComponentPath path = false) (parsed : Script.parseStrict content = .ok root) :
    extractFile order words scope path kind content =
      .ok (SourceModule.extract order words kind ⟨path, Tree.ofScript content root [], scope⟩, false) := by
  simp [extractFile, ParsedFile.ofContent, ParsedFile.first, plain, parsed]

/-- The shapes of the statements of a script without damage, if all of them are imports. -/
def importShapes? (content : String) : Option (List Shape) :=
  match Script.parseStrict content with
  | .ok root =>
    if root.role = .program ∧ ∀ statement ∈ root.namedChildren, statement.role = .importStatement then
      some (root.namedChildren.map (Tree.importShape content))
    else none
  | .error _ => none

/-- From a script of imports that declares nothing those imports are extracted. -/
theorem extractFile_imports {words : Vocabulary} {scope : ImportScope} {path content : String} {kind : FileKind}
    {shapes : List Shape} (plain : ParsedFile.isComponentPath path = false)
    (declaresNothing : kind = .utility ∨ kind = .entryPoint) (imports : importShapes? content = some shapes) :
    extractFile order words scope path kind content =
      .ok (.joined ((shapes.filterMap (SourceModule.importOf? scope path)).map (SourceModule.extractImport path)),
        false) := by
  unfold importShapes? at imports
  cases parsed : Script.parseStrict content with
  | error failure => simp [parsed] at imports
  | ok root =>
    -- The text is read without damage, and every statement of it is an import.
    simp only [parsed, Option.ite_none_right_eq_some, Option.some.injEq] at imports
    obtain ⟨⟨isProgram, statements⟩, rfl⟩ := imports
    -- Files of these kinds declare nothing behind their imports.
    have extracted (file : SourceModule) : SourceModule.extract order words kind file = file.extractImports := by
      have same : SourceModule.extract order words kind file = Extraction.append file.extractImports {} := by
        rcases declaresNothing with rfl | rfl <;> rfl
      rw [same]
      simp [Extraction.append]
    rw [extractFile_of_parseStrict plain parsed, extracted, SourceModule.extractImports,
      SourceModule.imports_ofScript isProgram statements []]

end LayerAudit
