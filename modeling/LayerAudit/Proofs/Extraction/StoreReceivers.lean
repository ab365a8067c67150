import LayerAudit.Proofs.Extraction.StoreUses

/-!
Through which parameter a getter sees the store. Only the plain names among the formal parameters are known, and the
first of them is taken. It is the first formal parameter unless a pattern stands in front of it.
-/

open LayerAudit.Tree

namespace LayerAudit

open Script SyntaxTree

namespace Store

/-- The formal parameters of a function in their order, each with its name if it is a plain one. -/
def formalNames (text : String) (function : Cst) : List (Option String) :=
  -- A single parameter without parentheses has a part of its own.
  ((function.child? .parameter).map fun name => some (textOf text name.span)).toList ++
    (((function.child? .parameters).map Cst.namedChildren).getD []).map fun parameter =>
      let target := (parameter.child? .pattern).getD parameter
      if target.role == .identifier then some (textOf text target.span) else none

/-- What is known of the parameters are their plain names. -/
theorem parameterNames_eq (text : String) (function : Cst) :
    parameterNames text function = (formalNames text function).filterMap id := by
  -- Of both kinds of parameters, the plain names are kept in their order.
  rw [parameterNames, formalNames, List.filterMap_append, List.filterMap_map]
  cases function.child? .parameter <;> rfl

/-- A getter that is a function gives the edges of the uses in the body of a function of the script, in which it sees
the store through the first plain name among the formal parameters. In front of that one stand only parameters that are
no plain names. So it is the name of the first formal parameter exactly if that one is a plain name or none is. -/
theorem getterEdges_receiver_iff_first (text : String) (root : Cst) (tags : List (String × Span)) (members : Members)
    (entry : String × Nat) (parameters : List String) (start : Nat)
    (isFunction : (ofScript text root tags).shape? entry.2 = some (.function parameters start)) :
    ∃ getter ∈ kept .alone root, (getter.role = .function ∨ getter.role = .method) ∧
      outlineAt (ofScript text root tags).nodes entry.2 = outlineOf text .alone getter ∧
      ∃ receiver : Option String,
        memberEdges (ofScript text root tags) members .getter entry = (bodyUses text getter).filterMap
            (Body.useEdge? ⟨members, SymbolNode.scopedId .getter members.store entry.1, entry.1, receiver⟩ text) ∧
          (∀ name, receiver = some name ↔ ∃ earlier later,
            formalNames text getter = earlier ++ some name :: later ∧ ∀ formal ∈ earlier, formal = none) ∧
          (receiver = (formalNames text getter).head?.join ↔
            (formalNames text getter).head?.join.isSome ∨ ∀ formal ∈ formalNames text getter, formal = none) := by
  -- The getter is a function of the script, with the edges of the uses in its body.
  obtain ⟨getter, isKept, isOne, lowered, gives⟩ := memberEdges_uses members .getter isFunction
  refine ⟨getter, isKept, isOne, lowered, (formalNames text getter).findSome? id, ?_, ?_, ?_⟩
  · -- Only getters see the store through a parameter, and it is the first of the known ones.
    rw [gives, bodyOf, if_pos rfl, parameterNames_eq, List.head?_filterMap]
  · intro name
    simp [List.findSome?_eq_some_iff]
  · -- The first formal parameter is either a plain name or dropped.
    cases formalNames text getter with
    | nil => simp
    | cons first later =>
      cases first with
      | some name => simp
      | none => simp

/-- A function that takes its first argument apart, and reads a field off the second one. -/
def pairText : String := "function both(\x7b m \x7d, state) \x7b return state.n \x7d"

/-- The tree of the function. -/
def pairFunction : Cst :=
  .declared 46 (.leaf .identifier 9 13)
    (.listed .construct 13 27
      -- The first parameter is a pattern of one entry.
      [.node .construct 14 19
          [(Cst.node .construct 14 19 [.mark 14 15, (Cst.leaf .construct 16 17).withLabel .left, .mark 18 19]).withLabel
            .pattern],
        .node .construct 21 26 [(Cst.leaf .identifier 21 26).withLabel .pattern]])
    (.bodyOver 28 46
      [.node .returnStatement 30 44 [.mark 30 36, .memberOf (.leaf .identifier 37 42) 44, .mark 44 44]])

/-- The tree of the script. -/
def pairScript : Cst := .node .program 0 46 [pairFunction]

/-- The text is read as this script. -/
theorem parseStrict_pair : Script.parseStrict pairText = .ok pairScript := by decide +kernel

/-- The store of this function. -/
def pairStore : Members := ⟨"s", ["n"], [("both", 4)], []⟩

/-- The function is the only one that is lowered. -/
theorem eq_pairFunction {getter : Cst} (isKept : getter ∈ kept .alone pairScript)
    (isOne : getter.role = .function ∨ getter.role = .method) : getter = pairFunction := by
  -- Of all the nodes that are kept, one alone has the role of a function.
  have only : (kept .alone pairScript).filter (fun node => node.role = .function ∨ node.role = .method) =
      [pairFunction] := by cbv
  exact List.mem_singleton.mp (only ▸ List.mem_filter.mpr ⟨isKept, decide_eq_true isOne⟩)

/-- The first formal parameter is a pattern, so the getter sees the store through the second one. -/
theorem getterEdges_receiver_iff_first_pair :
    Script.parseStrict pairText = .ok pairScript ∧
      (ofScript pairText pairScript []).shape? 4 = some (.function ["state"] 3) ∧
      formalNames pairText pairFunction = [none, some "state"] ∧
      memberEdges (ofScript pairText pairScript []) pairStore .getter ("both", 4) =
        (bodyUses pairText pairFunction).filterMap
          (Body.useEdge? ⟨pairStore, SymbolNode.scopedId .getter "s" "both", "both", some "state"⟩ pairText) := by
  -- The shape of the function and its formal parameters are read off by evaluation.
  have isFunction : (ofScript pairText pairScript []).shape? 4 = some (.function ["state"] 3) := by cbv
  have formal : formalNames pairText pairFunction = [none, some "state"] := by cbv
  obtain ⟨getter, isKept, isOne, _, receiver, gives, named, _⟩ :=
    getterEdges_receiver_iff_first pairText pairScript [] pairStore ("both", 4) ["state"] 3 isFunction
  -- The function of the script is the one that the theorem speaks of, and its receiver is the second name.
  obtain rfl := eq_pairFunction isKept isOne
  obtain rfl : receiver = some "state" := (named "state").mpr ⟨[none], [], formal, by simp⟩
  exact ⟨parseStrict_pair, isFunction, formal, gives⟩

/-- The first parameter is no plain name, and the field is read through the second one. -/
theorem getterEdges_through_second :
    Script.parseStrict pairText = .ok pairScript ∧ formalNames pairText pairFunction = [none, some "state"] ∧
      (ofScript pairText pairScript []).shape? 4 = some (.function ["state"] 3) ∧
      memberEdges (ofScript pairText pairScript []) pairStore .getter ("both", 4) =
        [⟨"s#getters.both", "s#state.n", .readsState⟩] := by
  refine ⟨parseStrict_pair, by cbv, by cbv, by cbv⟩

end Store

end LayerAudit
