import LayerAudit.Proofs.Tree.Calls

/-!
The calls of imported store hooks in a component. A call gives an edge to the file of its store if it stands in a part of
the script that lowering keeps. One in a default of a parameter, for instance, is dropped with the parameters.
-/

open LayerAudit.Tree

namespace LayerAudit

open Script SyntaxTree

/-! ### Edges from calls -/

namespace Component

/-- The edge to the file of a store that a call gives, if its callee is an imported hook. -/
def hookUse? (words : Vocabulary) (file : SourceModule) (call : Called) : Option Edge :=
  call.callee.bind fun name =>
    if callRole words name = .storeHook then
      (Sorted.get? name file.bindings).map fun target => ⟨file.path, target.id, .usesStoreFile⟩
    else none

/-- The edges to the files of stores come from the calls that a walk over the script tells. -/
theorem storeUses_eq (words : Vocabulary) (file : SourceModule) :
    storeUses words file =
      ((file.tree.walk file.tree.program).filterMap (calledAt? file.tree.nodes)).filterMap (hookUse? words file) := by
  unfold storeUses
  rw [List.filterMap_filterMap]
  -- Both sides look at the same places, so that one place is enough.
  refine List.filterMap_congr fun place _ => ?_
  unfold callAt? calledAt? shape?
  cases file.tree.nodes[place]? with
  | none => rfl
  | some node =>
    obtain ⟨shape, span⟩ := node
    cases shape with
    | call callee arguments =>
      -- The name of the callee is read in the same way on both sides.
      have same : file.tree.identifierAt? callee = nameAt? file.tree.nodes callee := by
        unfold identifierAt? nameAt? shape?
        cases file.tree.nodes[callee]? with
        | none => rfl
        | some node =>
          obtain ⟨shape, span⟩ := node
          cases shape <;> rfl
      simp only [Option.map_some, same, Option.bind_some, hookUse?]
      cases nameAt? file.tree.nodes callee with
      | none => rfl
      | some name =>
        simp only [Option.map_some, Option.bind_some]
        -- A name that is not imported has no role, and one with another role gives no edge.
        cases role : callRole words name <;> simp
    | _ => rfl

end Component

/-! ### Met calls -/

/-- A walk over the script of a tree meets a call that covers some bytes. -/
def SyntaxTree.MeetsCall (tree : SyntaxTree) (span : Span) : Prop :=
  ∃ place ∈ tree.walk tree.program, ∃ callee arguments, tree.nodes[place]? = some ⟨.call callee arguments, span⟩

/-- A call is met if a walk tells a call with its range. -/
theorem SyntaxTree.meetsCall_iff (tree : SyntaxTree) (span : Span) :
    tree.MeetsCall span ↔
      span ∈ ((tree.walk tree.program).filterMap (calledAt? tree.nodes)).map Called.span := by
  constructor
  · rintro ⟨place, member, callee, arguments, found⟩
    -- The place tells a call with its own range, and whatever the callee is called.
    have tells : calledAt? tree.nodes place = some ⟨span, nameAt? tree.nodes callee⟩ := by rw [calledAt?, found]
    exact List.mem_map.mpr ⟨_, List.mem_filterMap.mpr ⟨place, member, tells⟩, rfl⟩
  · intro listed
    obtain ⟨call, member, rfl⟩ := List.mem_map.mp listed
    -- What a walk tells is met, at the place that tells it.
    obtain ⟨place, walked, tells⟩ := List.mem_filterMap.mp member
    unfold calledAt? at tells
    split at tells
    · rename_i callee arguments span found
      cases tells
      exact ⟨place, walked, callee, arguments, found⟩
    · cases tells

/-- A walk over a script meets a call of it exactly if the call stands in a part that lowering keeps: the calls that it
tells are those that are kept, in their order, each with its own range and with the name of its callee. From these come
the edges of a component to the files of its stores, one for each kept call of an imported hook. -/
theorem meetsCall_iff_kept (text : String) (root : Cst) (tags : List (String × Span)) :
    (∀ call ∈ root.openCalls, (ofScript text root tags).MeetsCall call.span ↔
        call.span ∈ (keptCalls .alone root).map Cst.span) ∧
      ((ofScript text root tags).walk (ofScript text root tags).program).filterMap
          (calledAt? (ofScript text root tags).nodes) = (keptCalls .alone root).map (called text) ∧
      ∀ (words : Vocabulary) (path : String) (scope : ImportScope),
        Component.storeUses words ⟨path, ofScript text root tags, scope⟩ =
          (keptCalls .alone root).filterMap fun call =>
            Component.hookUse? words ⟨path, ofScript text root tags, scope⟩ (called text call) := by
  have told := walk_calls text root tags
  refine ⟨fun call _ => ?_, told, fun words path scope => ?_⟩
  · -- The ranges are those of the calls that are told.
    rw [meetsCall_iff, told, List.map_map]
    rfl
  · rw [Component.storeUses_eq, told, List.filterMap_map]
    rfl

/-! ### A call that is lost -/

/-- A script in which a default of a parameter calls an imported hook. -/
def defaultedScript : String :=
  "import { useCartStore } from './store.js'\nfunction total(cart = useCartStore()) \x7b return cart.total \x7d"

/-- What is called is a name. -/
def callsName (text name : String) (call : Cst) : Bool :=
  (call.child? .function).any fun callee => callee.role == .identifier && textOf text callee.span == name

/-- The script is accepted, and calls the hook outside of any dynamic import. No walk over its tree meets the call, and
no edge leads to the file of the store, whatever the hooks are and wherever imports lead. -/
theorem storeUses_misses_default : ∃ root, Script.parseStrict defaultedScript = .ok root ∧
    ∃ call ∈ root.openCalls, callsName defaultedScript "useCartStore" call = true ∧ ∀ tags,
      ¬(ofScript defaultedScript root tags).MeetsCall call.span ∧
        ∀ (words : Vocabulary) (path : String) (scope : ImportScope),
          Component.storeUses words ⟨path, ofScript defaultedScript root tags, scope⟩ = [] := by
  -- The reader gives the tree, and all that is asked of it is evaluated at once.
  have read : (Script.parseStrict defaultedScript).toOption.any (fun root =>
      root.role == .program && root.namedChildren.all isSilent &&
        root.openCalls.any (callsName defaultedScript "useCartStore")) = true := by decide +kernel
  obtain ⟨root, accepted, checked⟩ := exists_ok_of_any read
  simp only [Bool.and_eq_true, beq_iff_eq, List.all_eq_true, List.any_eq_true] at checked
  obtain ⟨⟨isProgram, silent⟩, call, isOpen, isHook⟩ := checked
  -- The default is dropped with the parameters, and nothing else in the script is a call.
  have none : keptCalls .alone root = [] := keptCalls_of_silent isProgram silent
  refine ⟨root, accepted, call, isOpen, isHook, fun tags => ⟨fun met => ?_, fun words path scope => ?_⟩⟩
  · -- A call that is met would be told, and none is.
    rw [meetsCall_iff, walk_calls, none] at met
    exact List.not_mem_nil met
  · rw [Component.storeUses_eq, walk_calls, none]
    rfl

end LayerAudit
