import LayerAudit.Proofs.Extraction.StoreUses

/-!
Which fields an action of a store is told to change. A field is told to be changed where it is the very target of an
assignment or an update. Where an assignment takes a value apart and writes to the field in a pattern, the field is told
to be read.
-/

open LayerAudit.Tree

namespace LayerAudit

open Script SyntaxTree

namespace Store

variable {text : String} {use : Use}

/-- A use of a field of the state gives one edge, which tells a change if the use is a target. -/
theorem useEdge?_field {body : Body} {field : String} (isField : field ∈ body.members.state)
    (isProperty : storeProperty? text body.parameter use.node = some field) :
    body.useEdge? text use = some ⟨body.id, SymbolNode.scopedId .stateField body.members.store field,
      if use.mark = .target then .modifiesState else .readsState⟩ := by
  -- The property is found to be a field, and only its mark is asked then.
  simp [Body.useEdge?, isProperty, Body.fieldEdge?, isField]

/-- The uses in the body of a function are those of the nodes of its body that are lowered. -/
theorem map_node_bodyUses (text : String) (function : Cst) :
    (bodyUses text function).map Use.node =
      (part? function .body).toList.flatMap fun body => kept .alone body.1 := by
  -- The body is lowered as a part that stands alone, and each of its uses belongs to one node.
  rw [bodyUses, List.map_flatMap]
  exact List.flatMap_congr fun body _ => map_node_uses text .free .alone body.1

/-- An action that is a function gives the edges of the nodes in the body of a function of the script, those that are
lowered, each once and in their order. Where the receiver's property is a field of the state, the edge tells a change if
the node is the target of an assignment or an update, and a read otherwise. So of the nodes that are written to exactly
those are told to be changed that are not written to in a pattern or behind a type in angle brackets. -/
theorem actionEdges_modify_iff_direct (text : String) (root : Cst) (tags : List (String × Span)) (members : Members)
    (entry : String × Nat) (parameters : List String) (start : Nat)
    (isFunction : (ofScript text root tags).shape? entry.2 = some (.function parameters start)) :
    ∃ action ∈ kept .alone root, (action.role = .function ∨ action.role = .method) ∧
      outlineAt (ofScript text root tags).nodes entry.2 = outlineOf text .alone action ∧
      let body := bodyOf members .action entry.1 (parameterNames text action)
      memberEdges (ofScript text root tags) members .action entry =
          (bodyUses text action).filterMap (body.useEdge? text) ∧
        (bodyUses text action).map Use.node =
          (part? action .body).toList.flatMap (fun part => kept .alone part.1) ∧
        ∀ use ∈ bodyUses text action, ∀ field ∈ members.state, storeProperty? text none use.node = some field →
          let edge (relation : Relation) : Edge :=
            ⟨body.id, SymbolNode.scopedId .stateField members.store field, relation⟩
          body.useEdge? text use = some (edge (if use.mark = .target then .modifiesState else .readsState)) ∧
            (use.mark ≠ .free → (body.useEdge? text use = some (edge .modifiesState) ↔ use.mark ≠ .indirect)) := by
  -- The function in the tree is one that the script keeps.
  obtain ⟨action, isKept, isOne, lowered, gives⟩ := memberEdges_uses members .action isFunction
  refine ⟨action, isKept, isOne, lowered, gives, map_node_bodyUses text action, ?_⟩
  intro use _ field isField isProperty edge
  have told : (bodyOf members .action entry.1 (parameterNames text action)).useEdge? text use =
      some (edge (if use.mark = .target then .modifiesState else .readsState)) := useEdge?_field isField isProperty
  refine ⟨told, fun isWritten => ?_⟩
  rw [told]
  -- A use that is written to is either a target or inside a pattern.
  cases mark : use.mark with
  | free => exact absurd mark isWritten
  | target => simp
  | indirect => simp [edge]

/-- A function that writes to a field of its store, first directly and then in a pattern. -/
def takingText : String := "function go() \x7b this.n = 1; [this.n] = [2] \x7d"

/-- The tree of the function. -/
def takingFunction : Cst :=
  .declared 44 (.leaf .identifier 9 11) (.listed .construct 11 13 [])
    -- The marks of the assignments and the ends of the statements are nodes as well.
    (.bodyOver 14 44
      [.ended (.assigned (.ownProperty 16 22) (.leaf .number 25 26)) 27,
        .ended (.assigned (.node .construct 28 36 [.mark 28 29, (Cst.ownProperty 29 35).withLabel .left, .mark 35 36])
          (.listed .array 39 42 [.leaf .number 40 41])) 42])

/-- The tree of the script. -/
def takingScript : Cst := .node .program 0 44 [takingFunction]

/-- The text is read as this script. -/
theorem parseStrict_taking : Script.parseStrict takingText = .ok takingScript := by decide +kernel

/-- The store of this function. -/
def takingStore : Members := ⟨"s", ["n"], [], [("go", 13)]⟩

/-- The function is the only one that is lowered. -/
theorem eq_takingFunction {action : Cst} (isKept : action ∈ kept .alone takingScript)
    (isOne : action.role = .function ∨ action.role = .method) : action = takingFunction := by
  -- Of all the nodes that are kept, one alone has the role of a function.
  have only : (kept .alone takingScript).filter (fun node => node.role = .function ∨ node.role = .method) =
      [takingFunction] := by cbv
  exact List.mem_singleton.mp (only ▸ List.mem_filter.mpr ⟨isKept, decide_eq_true isOne⟩)

/-- Of the two properties that are written to, the one that is a target is told to be changed and the one in a pattern
is not. -/
theorem actionEdges_modify_iff_direct_taking :
    Script.parseStrict takingText = .ok takingScript ∧
      (ofScript takingText takingScript []).shape? 13 = some (.function [] 12) ∧
      (bodyUses takingText takingFunction).filterMap
          (fun use => (storeProperty? takingText none use.node).map fun field => (use.mark, field)) =
        [(.target, "n"), (.indirect, "n")] ∧
      let body := bodyOf takingStore .action "go" (parameterNames takingText takingFunction)
      memberEdges (ofScript takingText takingScript []) takingStore .action ("go", 13) =
          (bodyUses takingText takingFunction).filterMap (body.useEdge? takingText) ∧
        ∀ use ∈ bodyUses takingText takingFunction, storeProperty? takingText none use.node = some "n" →
          use.mark ≠ .free →
            (body.useEdge? takingText use = some ⟨body.id, "s#state.n", .modifiesState⟩ ↔ use.mark ≠ .indirect) := by
  -- The place of the function in the tree is read off by evaluation.
  have isFunction : (ofScript takingText takingScript []).shape? 13 = some (.function [] 12) := by cbv
  obtain ⟨action, isKept, isOne, _, gives, _, told⟩ :=
    actionEdges_modify_iff_direct takingText takingScript [] takingStore ("go", 13) [] 12 isFunction
  -- The function of the script is the one that the theorem speaks of.
  obtain rfl := eq_takingFunction isKept isOne
  refine ⟨parseStrict_taking, isFunction, by cbv, gives, fun use member isProperty isWritten => ?_⟩
  exact (told use member "n" (List.mem_singleton_self _) isProperty).2 isWritten

/-- Both assignments write to the field, but only the first one is told to change it. -/
theorem actionEdges_read_in_pattern :
    Script.parseStrict takingText = .ok takingScript ∧
      (bodyUses takingText takingFunction).filterMap
        (fun use => (storeProperty? takingText none use.node).map fun field => (use.mark, field)) =
          [(.target, "n"), (.indirect, "n")] ∧
      (ofScript takingText takingScript []).shape? 13 = some (.function [] 12) ∧
      memberEdges (ofScript takingText takingScript []) takingStore .action ("go", 13) =
        [⟨"s#actions.go", "s#state.n", .modifiesState⟩, ⟨"s#actions.go", "s#state.n", .readsState⟩] := by
  -- The two edges differ in nothing but what they tell.
  refine ⟨parseStrict_taking, by cbv, by cbv, by cbv⟩

end Store

end LayerAudit
