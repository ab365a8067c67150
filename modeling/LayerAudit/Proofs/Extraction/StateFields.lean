import LayerAudit.Extraction.Store
import LayerAudit.Proofs.Extraction.Ends
import LayerAudit.Proofs.Tree.Traversal
import LayerAudit.Script.Repair
import LayerAudit.Script.Written
import Mathlib

/-!
The state of a store that is handed back by a function. The object is looked for by the first return statement with a
value, wherever it stands. If functions inside the body hand back values before the function itself does, then the first
of these values is taken for the state.
-/

namespace LayerAudit

open SyntaxTree

namespace Shape

/-- The node is a function. -/
def isFunction : Shape → Bool
  | .function .. => true
  | _ => false

/-- The node is a return statement. -/
def isReturn : Shape → Bool
  | .returned _ => true
  | _ => false

end Shape

namespace Store

/-! ### Return statements -/

section

variable (tree : SyntaxTree) (body : Nat)

/-- A place in a body lies in a function inside the body. -/
def isNested (place : Nat) : Bool :=
  (tree.walk body).any fun inner => (tree.shape? inner).any Shape.isFunction && (tree.walk inner).contains place

/-- The return statements of a body that belong to no function inside it. -/
def ownReturns : List Nat :=
  (tree.walk body).filter fun place => (tree.shape? place).any Shape.isReturn && !isNested tree body place

/-- The return statements with a value that stand before a place in a body and belong to functions inside it. -/
def nestedReturnsBefore (place : Nat) : List Nat :=
  ((tree.walk body).takeWhile (· != place)).filter fun earlier =>
    (tree.shape? earlier).any returnsValue && isNested tree body earlier

/-- The named keys of what is handed back at a place. Only objects have any. -/
def returnedKeys (place : Nat) : List String :=
  match tree.shape? place with
  | some (.returned (some argument)) => (tree.entries argument).map (·.1)
  | _ => []

end

/-- A store whose state is a function with a body that is no object itself, in which one return statement belongs to the
function and hands back an object. -/
structure ReturnsState (factory : String) (tree : SyntaxTree) (store : String) (body own object : Nat) : Prop where
  /-- The body is that of the function under the key for the state, in the options of the store. -/
  isBody : ∃ name options more state parameters, factoryArguments? factory tree = some (name :: options :: more) ∧
    storeName? tree name = some store ∧ (tree.shape? options).any Shape.isObject = true ∧
    tree.valueOf? options "state" = some state ∧ tree.shape? state = some (.function parameters body)
  isBlock : (tree.shape? body).any Shape.isObject = false
  isOnly : ownReturns tree body = [own]
  handsBack : tree.shape? own = some (.returned (some object))
  isObject : (tree.shape? object).any Shape.isObject = true

/-- What is no object has no entries. -/
theorem entries_of_not_isObject {tree : SyntaxTree} {place : Nat}
    (isOther : ¬(tree.shape? place).any Shape.isObject = true) : tree.entries place = [] := by
  unfold SyntaxTree.entries
  split
  · rename_i isObject
    simp [isObject, Shape.isObject] at isOther
  · rfl

namespace ReturnsState

variable {factory store : String} {tree : SyntaxTree} {body own object : Nat}

/-- The first return statement with a value in the body is that of a nested function if one stands before the function's
own. -/
theorem find?_returnsValue (returns : ReturnsState factory tree store body own object) :
    (tree.walk body).find? (fun place => (tree.shape? place).any returnsValue) =
      some ((nestedReturnsBefore tree body own).headD own) := by
  -- The function's own return statement is met in the body, and what is met before it is the front.
  have isOwn : own ∈ ownReturns tree body := returns.isOnly ▸ List.mem_singleton_self own
  obtain ⟨before, behind, split, absent⟩ := List.eq_append_cons_of_mem (List.mem_of_mem_filter isOwn)
  -- All return statements in front of the function's own belong to nested functions.
  have nested : ∀ place ∈ before, ((tree.shape? place).any returnsValue && isNested tree body place) =
      (tree.shape? place).any returnsValue := by
    intro place member
    by_cases inside : isNested tree body place = true
    · rw [inside, Bool.and_true]
    · have walked : place ∈ tree.walk body := split ▸ List.mem_append_left _ member
      have notOwn : place ∉ ownReturns tree body := by
        rw [returns.isOnly, List.mem_singleton]
        exact fun same => absent (same ▸ member)
      -- A return statement outside of all of them would be the function's own.
      have noReturn : (tree.shape? place).any Shape.isReturn ≠ true := fun isReturn =>
        notOwn (List.mem_filter.mpr ⟨walked, by simp [isReturn, inside]⟩)
      cases found : tree.shape? place with
      | none => rfl
      | some shape =>
        cases shape with
        | returned argument => simp [found, Shape.isReturn] at noReturn
        | _ => rfl
  -- Up to the function's own one, the walk meets exactly the front.
  have front : (tree.walk body).takeWhile (· != own) = before := by
    have apart : ∀ place ∈ before, (place != own) = true := by
      intro place member
      exact bne_iff_ne.mpr fun same => absent (same ▸ member)
    rw [split, List.takeWhile_append_of_pos apart, List.takeWhile_cons_of_neg (by simp), List.append_nil]
  have handsBack : (tree.shape? own).any returnsValue = true := by simp [returns.handsBack, returnsValue]
  -- The first with a value is in the front or, if nothing there has a value, the function's own.
  rw [nestedReturnsBefore, front, List.filter_congr nested, split, List.find?_append, List.find?_cons, handsBack,
    ← List.head?_filter]
  cases before.filter fun place => (tree.shape? place).any returnsValue <;> rfl

/-- What is taken for the state are the named keys that the first of these return statements hands back. -/
theorem state_membersOf (returns : ReturnsState factory tree store body own object) {options state : Nat}
    {parameters : List String} (isState : tree.valueOf? options "state" = some state)
    (isFunction : tree.shape? state = some (.function parameters body)) :
    (membersOf tree store options).state =
      returnedKeys tree ((nestedReturnsBefore tree body own).headD own) := by
  have first := returns.find?_returnsValue
  generalize (nestedReturnsBefore tree body own).headD own = place at first ⊢
  -- What the search finds hands back a value.
  obtain ⟨argument, isReturn⟩ : ∃ argument, tree.shape? place = some (.returned (some argument)) := by
    have isValue : (tree.shape? place).any returnsValue = true := by simpa using List.find?_some first
    obtain ⟨shape, found, isValue⟩ := Option.any_eq_true _ _ |>.mp isValue
    cases shape with
    | returned argument =>
      cases argument with
      | none => cases isValue
      | some argument => exact ⟨argument, found⟩
    | _ => cases isValue
  -- The body is a block, so that the search decides, and only an object is taken.
  have handedBack : returnedObject? tree body =
      (some argument).filter fun a => (tree.shape? a).any Shape.isObject := by
    have isBlock := returns.isBlock
    unfold returnedObject?
    split
    · rename_i isObject
      simp [isObject, Shape.isObject] at isBlock
    · simp [find?_eq, first, isReturn]
  simp only [membersOf, isState, Option.bind_some, stateObject?, isFunction, handedBack, isReturn, returnedKeys]
  -- Only an object has entries, so nothing is lost where none is handed back.
  by_cases isObject : (tree.shape? argument).any Shape.isObject = true
  · rw [Option.filter_some, if_pos isObject]
    rfl
  · rw [Option.filter_some, if_neg isObject, entries_of_not_isObject isObject]
    rfl

end ReturnsState

/-! ### Symbols -/

/-- Members of one kind as symbols of a store. -/
def memberSymbols (kind : SymbolKind) (store path : String) (names : List String) : List SymbolNode :=
  names.map fun name => SymbolNode.within kind store name path

/-- The definitions of some members give their symbols. -/
theorem symbols_definitions (kind : SymbolKind) (path store : String) (names : List String) :
    (Extraction.joined (names.map (definition kind path store))).symbols = memberSymbols kind store path names := by
  simp only [Extraction.joined, List.flatMap_map, memberSymbols]
  exact List.map_eq_flatMap.symm

/-- The members of a store as symbols: fields, then getters, then actions. -/
theorem symbols_extractMembers (file : SourceModule) (members : Members) :
    (extractMembers file members).symbols =
      memberSymbols .stateField members.store file.path members.state ++
        memberSymbols .getter members.store file.path (members.getters.map (·.1)) ++
          memberSymbols .action members.store file.path (members.actions.map (·.1)) := by
  simp only [extractMembers, Extraction.symbols_append, symbols_definitions, List.append_nil]

/-- Members of another kind are no state fields. -/
theorem filter_memberSymbols (kind : SymbolKind) (store path : String) (names : List String) :
    (memberSymbols kind store path names).filter (·.kind = .stateField) =
      if kind = .stateField then memberSymbols kind store path names else [] := by
  -- A kind is the same for all of the symbols, so that all of them are kept or none.
  split
  · rename_i isField
    exact List.filter_eq_self.mpr (by simp [memberSymbols, SymbolNode.within, isField])
  · rename_i isOther
    exact List.filter_eq_nil_iff.mpr (by simp [memberSymbols, SymbolNode.within, isOther])

/-- Symbols of members tell their names. -/
theorem memberSymbols_injective (kind : SymbolKind) (store path : String) :
    Function.Injective (memberSymbols kind store path) := by
  refine List.map_injective_iff.mpr fun first second same => ?_
  exact congrArg SymbolNode.name same

/-- The symbols of state fields in what is extracted from a file. -/
def fieldSymbols (factory : String) (file : SourceModule) : List SymbolNode :=
  (extract factory file).symbols.filter (·.kind = .stateField)

/-- A store with options has the fields of its members as symbols. -/
theorem fieldSymbols_eq {factory store : String} {file : SourceModule} {name options : Nat} {more : List Nat}
    (called : factoryArguments? factory file.tree = some (name :: options :: more))
    (named : storeName? file.tree name = some store) (isObject : (file.tree.shape? options).any Shape.isObject = true) :
    fieldSymbols factory file =
      memberSymbols .stateField store file.path (membersOf file.tree store options).state := by
  -- The store comes first, and its members behind it in three sections.
  have hasOptions : (extract factory file).symbols =
      (SymbolNode.standalone .store store file.path).withPurpose s!"State store \x60{store}\x60" ::
        (extractMembers file (membersOf file.tree store options)).symbols := by
    simp [extract, called, extractCall, named, Option.filter_some, isObject]
  -- The store itself, its getters and its actions are no fields.
  simp [fieldSymbols, hasOptions, symbols_extractMembers, filter_memberSymbols, SymbolNode.standalone,
    SymbolNode.withPurpose, membersOf]

/-- If a store's state is a function in which one return statement of its own hands back an object, then the fields of
the state are the named keys of what the first return statement with a value hands back. These are the keys of that
object exactly if no function inside hands back a value before, or the first that does hands back the same keys. -/
theorem fieldSymbols_iff_first_return {factory store : String} {file : SourceModule} {body own object : Nat}
    (returns : ReturnsState factory file.tree store body own object) :
    let keys := (file.tree.entries object).map (·.1)
    let earlier := nestedReturnsBefore file.tree body own
    (fieldSymbols factory file = memberSymbols .stateField store file.path keys ↔
        ∀ first ∈ earlier.head?, returnedKeys file.tree first = keys) ∧
      fieldSymbols factory file =
        memberSymbols .stateField store file.path (returnedKeys file.tree (earlier.headD own)) ∧
      ∀ place ∈ earlier, isNested file.tree body place = true := by
  intro keys earlier
  obtain ⟨name, options, more, state, parameters, called, named, isObject, isState, isFunction⟩ := returns.isBody
  -- The first return statement with a value decides, whichever function it belongs to.
  have extracted : fieldSymbols factory file =
      memberSymbols .stateField store file.path (returnedKeys file.tree (earlier.headD own)) := by
    rw [fieldSymbols_eq called named isObject, returns.state_membersOf isState isFunction]
  -- The function's own return statement hands back the object.
  have ownKeys : returnedKeys file.tree own = keys := by rw [returnedKeys, returns.handsBack]
  refine ⟨?_, extracted, fun place member => ?_⟩
  · rw [extracted, (memberSymbols_injective .stateField store file.path).eq_iff]
    -- Without an earlier return statement the function's own one counts.
    cases earlier with
    | nil => simp [ownKeys]
    | cons first rest => simp
  · -- Those before it are nested by the way they were chosen.
    have both := (List.mem_filter.mp member).2
    exact (Bool.and_eq_true_iff.mp both).2

/-- A store of one field, whose state is a function that goes through something before it hands back the object. The
function inside returns nothing. -/
def silentText : String :=
  "defineStore('s', \x7b state() \x7b each(() => \x7b return ; \x7d); return \x7b n: 0 \x7d \x7d \x7d)"

/-- The same store, but the function inside returns a number. -/
def valuedText : String :=
  "defineStore('s', \x7b state() \x7b each(() => \x7b return 1 \x7d); return \x7b n: 0 \x7d \x7d \x7d)"

/-- The tree of either script, given what stands behind the word in the return statement inside. -/
def goingScript (returned : List Script.Cst) : Script.Cst :=
  -- The function inside stands in the arguments of a call.
  let inner : Script.Cst :=
    .node .function 34 52
      [(Script.Cst.listed .construct 34 36 []).withLabel .parameters, .mark 37 39,
        (Script.Cst.node .construct 40 52
          [.mark 40 41, .node .returnStatement 42 50 (.mark 42 48 :: returned), .mark 51 52]).withLabel .body]
  -- The state itself is a method, whose body goes through something and then hands back an object.
  let state : Script.Cst :=
    .node .method 19 72
      [(Script.Cst.leaf .propertyName 19 24).withLabel .name,
          (Script.Cst.listed .construct 24 26 []).withLabel .parameters,
        (Script.Cst.bodyOver 27 72
          [.ended (.callOf (.leaf .identifier 29 33) 53 [inner]) 54,
            .node .returnStatement 55 70
              [.mark 55 61, .listed .object 62 70 [.pairOf ⟨64, 65⟩ (.leaf .number 67 68)],
                .mark 70 70]]).withLabel .body]
  .node .program 0 75
    [.ended (.callOf (.leaf .identifier 0 11) 75 [.quoted 12 15, .listed .object 17 74 [state]]) 75]

/-- The tree of the script in which the function inside returns nothing. -/
def silentScript : Script.Cst := goingScript [.mark 49 50]

/-- The tree of the script in which it returns a number. -/
def valuedScript : Script.Cst := goingScript [.leaf .number 49 50, .mark 50 50]

/-- The file in which the function inside returns nothing. -/
def silentFile : SourceModule :=
  ⟨"src/entities/s/model/sStore.js", Tree.ofScript silentText silentScript [], ⟨[], .emptyWithCapacity⟩⟩

/-- The file in which it returns a number. -/
def valuedFile : SourceModule :=
  ⟨"src/entities/s/model/sStore.js", Tree.ofScript valuedText valuedScript [], ⟨[], .emptyWithCapacity⟩⟩

/-- The last return statement is the only one of the function itself, whatever the other one returns. -/
theorem returnsState_files :
    ReturnsState "defineStore" silentFile.tree "s" 12 11 10 ∧
      ReturnsState "defineStore" valuedFile.tree "s" 13 12 11 := by
  -- Each script is laid down once for all that is read off its tree.
  have silent : (factoryArguments? "defineStore" silentFile.tree, storeName? silentFile.tree 1,
      (silentFile.tree.shape? 15).any Shape.isObject, silentFile.tree.valueOf? 15 "state", silentFile.tree.shape? 13,
      (silentFile.tree.shape? 12).any Shape.isObject, ownReturns silentFile.tree 12, silentFile.tree.shape? 11,
      (silentFile.tree.shape? 10).any Shape.isObject) =
      (some [1, 15], some "s", true, some 13, some (.function [] 12), false, [11],
        some (.returned (some 10)), true) := by
    cbv
  have valued : (factoryArguments? "defineStore" valuedFile.tree, storeName? valuedFile.tree 1,
      (valuedFile.tree.shape? 16).any Shape.isObject, valuedFile.tree.valueOf? 16 "state", valuedFile.tree.shape? 14,
      (valuedFile.tree.shape? 13).any Shape.isObject, ownReturns valuedFile.tree 13, valuedFile.tree.shape? 12,
      (valuedFile.tree.shape? 11).any Shape.isObject) =
      (some [1, 16], some "s", true, some 14, some (.function [] 13), false, [12],
        some (.returned (some 11)), true) := by
    cbv
  simp only [Prod.mk.injEq] at silent valued
  obtain ⟨called, named, isOptions, isState, isFunction, isBlock, isOnly, handsBack, isObject⟩ := silent
  refine ⟨⟨⟨1, 15, [], 13, [], called, named, isOptions, isState, isFunction⟩,
    isBlock, isOnly, handsBack, isObject⟩, ?_⟩
  obtain ⟨called, named, isOptions, isState, isFunction, isBlock, isOnly, handsBack, isObject⟩ := valued
  exact ⟨⟨1, 16, [], 14, [], called, named, isOptions, isState, isFunction⟩, isBlock, isOnly, handsBack, isObject⟩

/-- A function inside that returns nothing leaves the state its field. -/
theorem fieldSymbols_iff_first_return_silent :
    Script.parseStrict silentText = .ok silentScript ∧
      ReturnsState "defineStore" silentFile.tree "s" 12 11 10 ∧
      fieldSymbols "defineStore" silentFile = memberSymbols .stateField "s" silentFile.path ["n"] := by
  refine ⟨by decide +kernel, returnsState_files.1, ?_⟩
  -- The theorem tells which return statement decides, and its keys are evaluated.
  rw [(fieldSymbols_iff_first_return returnsState_files.1).2.1]
  cbv

/-- A function inside that returns a number takes the field away. -/
theorem fieldSymbols_lose_field :
    Script.parseStrict valuedText = .ok valuedScript ∧
      ReturnsState "defineStore" valuedFile.tree "s" 13 12 11 ∧
      (valuedFile.tree.entries 11).map (·.1) = ["n"] ∧ fieldSymbols "defineStore" valuedFile = [] := by
  -- The body of the state is unpacked, so that the general lemma applies to its parts.
  obtain ⟨name, options, more, state, parameters, called, named, isObject, isState, isFunction⟩ :=
    returnsState_files.2.isBody
  refine ⟨by decide +kernel, returnsState_files.2, by cbv, ?_⟩
  rw [fieldSymbols_eq called named isObject, returnsState_files.2.state_membersOf isState isFunction]
  cbv

end Store

end LayerAudit
