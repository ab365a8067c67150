import LayerAudit.Classify
import LayerAudit.Proofs.Policy.Dependencies
import LayerAudit.Tree.Source

/-!
Three tests tell the type of a file from its path: its kind, whether imports of it are checked, and whether it is split
into blocks. They agree on a path unless it has one of their extensions in disguise: with nothing before it, or in
capital letters.
-/

namespace LayerAudit

namespace Path

/-- The last segment of a path is a stem, a dot and an extension. -/
structure Named (path stem extension : String) : Prop where
  split : lastSegment (Text.slashed path) = stem ++ "." ++ extension
  dotless : '.' ∉ extension.toList

/-- An extension with its capital letters written small. -/
def inSmall (extension : String) : String := String.ofList (Text.smallLatin extension.toList)

/-- A file name with a stem has one of some extensions, whether or not in small letters. -/
def HasType (extensions : List String) (path : String) : Prop :=
  ∃ stem extension, Named path stem extension ∧ stem ≠ "" ∧ inSmall extension ∈ extensions

/-- A path has one of some extensions in disguise: nothing stands before it in the file name, or it is not written in
small letters. -/
def Disguises (extensions : List String) (path : String) : Prop :=
  (∃ extension ∈ extensions, Named path "" extension) ∨
    ∃ stem extension, Named path stem extension ∧ stem ≠ "" ∧ extension ∉ extensions ∧ inSmall extension ∈ extensions

/-- An extension is plain if it is in small letters and has no character at which a path is cut. -/
structure IsPlainExtension (extension : String) : Prop where
  small : inSmall extension = extension
  dotless : '.' ∉ extension.toList
  slashless : '/' ∉ extension.toList
  backslashless : '\\' ∉ extension.toList

instance (extension : String) : Decidable (IsPlainExtension extension) :=
  decidable_of_iff (inSmall extension = extension ∧ '.' ∉ extension.toList ∧ '/' ∉ extension.toList ∧
      '\\' ∉ extension.toList)
    ⟨fun ⟨small, dotless, slashless, backslashless⟩ => ⟨small, dotless, slashless, backslashless⟩,
      fun ⟨small, dotless, slashless, backslashless⟩ => ⟨small, dotless, slashless, backslashless⟩⟩

variable {path stem extension : String} {extensions : List String}

/-! ### The name of a file -/

/-- A file name is cut at its last dot. -/
theorem named_iff : Named path stem extension ↔
    Text.cutLast? '.' (lastSegment (Text.slashed path)).toList = some (stem.toList, extension.toList) := by
  constructor
  · -- Behind the dot of an extension there is no other one, so that it is the last.
    intro ⟨split, dotless⟩
    simpa [split] using Text.cutLast?_append stem.toList dotless
  · intro cut
    obtain ⟨split, dotless⟩ := Text.cutLast?_split cut
    refine ⟨?_, dotless⟩
    rw [← String.toList_inj, split]
    simp

/-- A file name has one stem and one extension. -/
theorem Named.unique {otherStem otherExtension : String} (named : Named path stem extension)
    (otherNamed : Named path otherStem otherExtension) : stem = otherStem ∧ extension = otherExtension := by
  have same := (named_iff.mp named).symm.trans (named_iff.mp otherNamed)
  simpa [String.toList_inj] using same

/-- What a path ends in without a slash, its last segment ends in. -/
theorem suffix_lastSegment_iff {ending : List Char} (slashless : '/' ∉ ending) :
    ending <:+ (lastSegment path).toList ↔ ending <:+ path.toList := by
  unfold lastSegment
  cases cut : Text.cutLast? '/' path.toList with
  -- Without a slash the path is its last segment.
  | none => exact Iff.rfl
  | some parts =>
    obtain ⟨before, after⟩ := parts
    obtain ⟨split, _⟩ := Text.cutLast?_split cut
    have last : '/' :: after <:+ path.toList := ⟨before, split.symm⟩
    rw [String.toList_ofList]
    refine ⟨fun ends => (ends.trans (List.suffix_cons _ _)).trans last, fun ends => ?_⟩
    -- The ending cannot reach back to the slash before the last segment.
    rcases List.suffix_or_suffix_of_suffix ends last with short | long
    · rcases List.suffix_cons_iff.mp short with whole | inside
      · exact absurd (whole ▸ List.mem_cons_self ..) slashless
      · exact inside
    · exact absurd (long.subset (List.mem_cons_self ..)) slashless

/-- Writing backslashes as slashes does not change whether a path ends in a text without both. -/
theorem suffix_slashed_iff {ending : List Char} (slashless : '/' ∉ ending) (backslashless : '\\' ∉ ending) :
    ending <:+ (Text.slashed path).toList ↔ ending <:+ path.toList := by
  have kept : Text.slashed (String.ofList ending) = String.ofList ending :=
    Text.slashed_eq_self (by simpa using backslashless)
  rw [Text.slashed, String.toList_ofList, List.suffix_map_iff]
  constructor
  · rintro ⟨original, ends, rfl⟩
    -- A character that comes out neither as a slash nor as a backslash was the same before.
    have same : original.map (fun c => if c = '\\' then '/' else c) = original.map id := by
      refine List.map_congr_left fun c member => ?_
      split
      · rename_i isBackslash
        have slash : '/' ∈ original.map fun c => if c = '\\' then '/' else c :=
          List.mem_map.mpr ⟨c, member, if_pos isBackslash⟩
        exact absurd slash slashless
      · rfl
    rwa [same, List.map_id]
  · intro ends
    exact ⟨ending, ends, by simpa [Text.slashed, String.ofList_inj] using kept.symm⟩

/-- A text is a stem, a dot and an extension exactly if it ends in the dot and the extension. -/
theorem exists_stem_iff {text : String} :
    (∃ stem, text = stem ++ "." ++ extension) ↔ '.' :: extension.toList <:+ text.toList := by
  constructor
  · rintro ⟨stem, rfl⟩
    exact ⟨stem.toList, by simp⟩
  · rintro ⟨stem, split⟩
    refine ⟨String.ofList stem, ?_⟩
    rw [← String.toList_inj, ← split]
    simp

/-- The extension of a path is that of its file name. -/
theorem hasExtension_iff (plain : IsPlainExtension extension) :
    HasExtension path extension ↔ ∃ stem, Named path stem extension := by
  have slashless : '/' ∉ '.' :: extension.toList := by simpa using plain.slashless
  have backslashless : '\\' ∉ '.' :: extension.toList := by simpa using plain.backslashless
  calc
    HasExtension path extension ↔ '.' :: extension.toList <:+ path.toList := by
      simp [HasExtension, plain.dotless, exists_stem_iff]
    _ ↔ '.' :: extension.toList <:+ (lastSegment (Text.slashed path)).toList := by
      rw [suffix_lastSegment_iff slashless, suffix_slashed_iff slashless backslashless]
    _ ↔ ∃ stem, Named path stem extension := by
      rw [← exists_stem_iff]
      exact exists_congr fun stem => ⟨fun split => ⟨split, plain.dotless⟩, Named.split⟩

/-- What holds of some stem and extension of a path holds of those that it has. -/
theorem Named.exists_iff {holds : String → String → Prop} (named : Named path stem extension) :
    (∃ stem extension, Named path stem extension ∧ holds stem extension) ↔ holds stem extension := by
  constructor
  · rintro ⟨otherStem, otherExtension, otherNamed, held⟩
    -- The path is cut in one way only.
    obtain ⟨rfl, rfl⟩ := named.unique otherNamed
    exact held
  · exact fun held => ⟨stem, extension, named, held⟩

/-- The type of a path goes by its extension exactly if it does not have one in disguise. -/
theorem hasType_iff_hasExtension (plain : ∀ extension ∈ extensions, IsPlainExtension extension) :
    (HasType extensions path ↔ ∃ extension ∈ extensions, HasExtension path extension) ↔
      ¬Disguises extensions path := by
  have ofName : (∃ extension ∈ extensions, HasExtension path extension) ↔
      ∃ stem extension, Named path stem extension ∧ extension ∈ extensions := by
    rw [exists_comm]
    refine exists_congr fun extension => ?_
    rw [exists_and_right, and_comm]
    exact and_congr_left fun listed => hasExtension_iff (plain extension listed)
  have bare : (∃ extension ∈ extensions, Named path "" extension) ↔
      ∃ stem extension, Named path stem extension ∧ stem = "" ∧ extension ∈ extensions := by
    simp [and_comm]
  rw [HasType, Disguises, ofName, bare]
  -- All three speak of the one way in which the file name is cut.
  by_cases cut : ∃ stem extension, Named path stem extension
  · obtain ⟨stem, extension, named⟩ := cut
    simp only [named.exists_iff]
    -- A listed extension is its own small form.
    have small (listed : extension ∈ extensions) : inSmall extension ∈ extensions := by
      rwa [(plain extension listed).small]
    -- A file name without a stem has no type, and disguises each listed extension that it has.
    by_cases empty : stem = ""
    · simp [empty]
    · simp only [empty, ne_eq, not_false_eq_true, true_and, false_and, false_or, not_and]
      refine ⟨fun same unlisted isSmall => unlisted (same.mp isSmall), fun undisguised => ⟨fun isSmall => ?_, small⟩⟩
      exact Decidable.byContradiction fun unlisted => undisguised unlisted isSmall
  · -- Without an extension a path has no type and nothing to disguise.
    simp only [not_exists] at cut
    simp [cut]

end Path

namespace Conventions

variable {policy : Policy} {path : String}

/-- The extension that tells the kind of a path, in small letters. -/
def extensionOf (path : String) : String := Path.inSmall (splitName (Path.lastSegment (Text.slashed path))).2

/-- A path has an extension that tells its kind exactly if its file name has a stem, and that extension in small
letters. -/
theorem extensionOf_mem_iff {extensions : List String} (nonempty : "" ∉ extensions) :
    extensionOf path ∈ extensions ↔ Path.HasType extensions path := by
  have nothing : Path.inSmall "" = "" := rfl
  unfold extensionOf splitName
  cases cut : Text.cutLast? '.' (Path.lastSegment (Text.slashed path)).toList with
  -- A name without a dot has no extension to tell its kind.
  | none =>
    have noType : ¬Path.HasType extensions path := fun ⟨_, _, named, _⟩ => by simp [Path.named_iff.mp named] at cut
    simp [nothing, nonempty, noType]
  | some parts =>
    obtain ⟨stem, extension⟩ := parts
    have named : Path.Named path (String.ofList stem) (String.ofList extension) := by simp [Path.named_iff, cut]
    rw [Path.HasType, named.exists_iff]
    cases stem with
    | nil =>
      -- A name that is an extension alone counts as a name without one.
      simp [nothing, nonempty]
    | cons => simp

/-- A script is parsed, and it is no component. -/
theorem scriptKind_cases (conventions : Conventions) (path stem : String) :
    (conventions.scriptKind path stem).isParseable ∧ conventions.scriptKind path stem ≠ .uiComponent := by
  unfold scriptKind
  dsimp only
  split_ifs <;> decide

/-- What the extension of a path says about its kind. -/
theorem kindOf_cases (conventions : Conventions) (path : String) :
    (conventions.kindOf path = .uiComponent ↔ extensionOf path ∈ ["vue"]) ∧
      ((conventions.kindOf path).isParseable ↔ extensionOf path ∈ ["js", "mjs", "ts", "vue"]) := by
  obtain ⟨parsed, noComponent⟩ := scriptKind_cases conventions (Text.slashed path)
    (splitName (Path.lastSegment (Text.slashed path))).1
  have isExtension : Path.inSmall (splitName (Path.lastSegment (Text.slashed path))).2 = extensionOf path := rfl
  unfold Path.inSmall at isExtension
  unfold kindOf
  simp only [isExtension]
  split
  case h_3 | h_4 | h_5 =>
    -- The extensions of scripts.
    rename_i script
    simp [script, parsed, noComponent]
  case h_13 => simp_all [FileKind.isParseable]
  all_goals
    rename_i other
    simp [other, FileKind.isParseable]

/-- The files that are split into blocks are those with the extension of components. -/
theorem isComponentPath_iff :
    ParsedFile.isComponentPath path ↔ ∃ extension ∈ ["vue"], Path.HasExtension path extension := by
  have ending : ".vue".toList = '.' :: "vue".toList := rfl
  rw [ParsedFile.isComponentPath, Text.isEndOf, List.isSuffixOf_iff_suffix, ending, ← Path.exists_stem_iff]
  simp [Path.HasExtension]

/-- With the usual extensions, the files that are parsed are those that imports are checked of exactly where the path
has none of the extensions in disguise, and the components are those that are split into blocks exactly where it does
not disguise the extension of components. -/
theorem kindOf_agrees_iff (usual : policy.sourceExtensions = ({} : Project).sourceExtensions)
    (conventions : Conventions) (path : String) :
    (((conventions.kindOf path).isParseable ↔ policy.isSourceModule path) ↔
        ¬Path.Disguises ["js", "mjs", "ts", "vue"] path) ∧
      ((conventions.kindOf path = .uiComponent ↔ ParsedFile.isComponentPath path) ↔ ¬Path.Disguises ["vue"] path) := by
  have extensions : ({} : Project).sourceExtensions = ["js", "mjs", "ts", "vue"] := rfl
  have plainModules : ∀ extension ∈ ["js", "mjs", "ts", "vue"], Path.IsPlainExtension extension := by decide
  have plainComponent : ∀ extension ∈ ["vue"], Path.IsPlainExtension extension := by decide
  obtain ⟨component, parsed⟩ := kindOf_cases conventions path
  rw [extensionOf_mem_iff (by decide)] at component parsed
  constructor
  · rw [parsed, Policy.isSourceModule_iff, usual, extensions]
    exact Path.hasType_iff_hasExtension plainModules
  · rw [component, isComponentPath_iff]
    exact Path.hasType_iff_hasExtension plainComponent

/-- A component with its extension in capital letters. -/
def shouted : String := "src/shared/ui/BaseButton.VUE"

/-- A file whose name is an extension alone. -/
def bare : String := "src/.vue"

/-- A policy with the usual extensions and nothing else. -/
def onlyExtensions : Policy := ⟨⟨[]⟩, [], [], ({} : Project).sourceExtensions, {}⟩

/-- A component in capital letters is parsed, but not in blocks, and no import of it is checked. An extension alone
makes no component, but would be split into blocks, and imports of it are checked. -/
theorem kindOf_disagrees :
    (({} : Conventions).kindOf shouted = .uiComponent ∧ FileKind.isParseable .uiComponent ∧
        ParsedFile.isComponentPath shouted = false ∧ onlyExtensions.isSourceModule shouted = false) ∧
      ({} : Conventions).kindOf bare = .other ∧ FileKind.isParseable .other = false ∧
        ParsedFile.isComponentPath bare = true ∧ onlyExtensions.isSourceModule bare = true := by
  decide

/-- That the tests differ on the two files is a case of this: both disguise the extension of components. -/
theorem kindOf_agrees_iff_disguised :
    onlyExtensions.sourceExtensions = ({} : Project).sourceExtensions ∧
      Path.Disguises ["js", "mjs", "ts", "vue"] shouted ∧ Path.Disguises ["vue"] bare := by
  have usual : onlyExtensions.sourceExtensions = ({} : Project).sourceExtensions := rfl
  -- The tests give different answers on the two files, so that these cannot be without disguise.
  have parsedUnchecked :
      ¬((({} : Conventions).kindOf shouted).isParseable ↔ onlyExtensions.isSourceModule shouted) := by
    decide
  have splitUnparsed : ¬(({} : Conventions).kindOf bare = .uiComponent ↔ ParsedFile.isComponentPath bare) := by
    decide
  exact ⟨usual, Classical.not_not.mp fun plain => parsedUnchecked ((kindOf_agrees_iff usual {} shouted).1.mpr plain),
    Classical.not_not.mp fun plain => splitUnparsed ((kindOf_agrees_iff usual {} bare).2.mpr plain)⟩

end Conventions

end LayerAudit
