import LayerAudit.Proofs.Import.Spelling

/-!
A specifier that is relative or begins with an alias denotes a path, and its target is the first known file among those
that the path may stand for: the path itself, the path with an ending, or an index file in the directory of that path.
For every directory but the root these are the files that are looked for.
-/

namespace LayerAudit

namespace Path

variable {path name : String}

/-- The path of a file in a directory. -/
def within (directory name : String) : String := normalize (directory ++ "/" ++ name)

/-- A name behind a path comes last in the normal form. -/
theorem normalSegments_slash (only : segments name = [name]) (plain : IsPlain name) :
    normalSegments (path ++ "/" ++ name) = normalSegments path ++ [name] := by
  -- A plain name is one more segment, whatever came before it.
  have entered (place : List String) : follow place name = name :: place := by
    simp [follow, plain.nonempty, plain.notHere, plain.notAbove]
  simp [normalSegments, segments_slash, only, entered]

/-- In any directory but the root the name of a file stands behind a slash. -/
theorem within_eq (normal : normalize path = path) (inner : path ≠ "") (only : segments name = [name])
    (plain : IsPlain name) : within path name = path ++ "/" ++ name := by
  -- A path without segments is the root.
  have someSegments : normalSegments path ≠ [] := by
    intro nothing
    refine inner ?_
    rw [← normal, normalize, nothing]
    rfl
  have joined : within path name = normalize path ++ "/" ++ name := by
    rw [within, normalize, normalSegments_slash only plain, Text.joinWith,
      String.intercalate_append_of_ne_nil someSegments (List.cons_ne_nil _ _), String.intercalate_singleton]
    rfl
  rw [joined, normal]

end Path

namespace ImportScope

variable {scope : ImportScope} {importer specifier path : String}

/-! ### What a specifier denotes -/

/-- A specifier in a file denotes a path: by the way from the directory of the file, or by the longest alias. -/
inductive Denotes (scope : ImportScope) (importer specifier : String) : String → Prop
  -- From the root the directory of the importer is empty, and the way begins with a slash that counts for nothing.
  | relative (dotted : Text.isStartOf "." specifier) :
    Denotes scope importer specifier (Path.normalize (Path.directory importer ++ "/" ++ specifier))
  -- Of several aliases the longest one counts, wherever it is listed.
  | aliased (start place rest : String) (dotless : Text.isStartOf "." specifier = false)
    (listed : (start, place) ∈ scope.aliases) (split : specifier = start ++ rest)
    (longest : ∀ other ∈ scope.aliases, Text.isStartOf other.1 specifier → other.1.length ≤ start.length) :
    Denotes scope importer specifier (Path.normalize (place ++ rest))

/-- A denoted path is in normal form. -/
theorem Denotes.normal (denotes : scope.Denotes importer specifier path) : Path.normalize path = path := by
  cases denotes <;> exact Path.normalize_eq_iff_walk?.mpr (Path.walk?_normalize _)

/-- Every specifier that is relative or begins with an alias denotes a path. -/
theorem exists_denotes (importer : String)
    (led : Text.isStartOf "." specifier ∨ ∃ entry ∈ scope.aliases, Text.isStartOf entry.1 specifier) :
    ∃ path, scope.Denotes importer specifier path := by
  by_cases dotted : Text.isStartOf "." specifier
  · exact ⟨_, .relative dotted⟩
  · -- Of the aliases that the specifier begins with, one is longest.
    obtain ⟨entry, listed, starts⟩ := led.resolve_left dotted
    obtain ⟨winner, member, _, largest⟩ := exists_longest (scope.aliases.filter (Text.isStartOf ·.1 specifier)) none
      (List.ne_nil_of_mem (List.mem_filter.mpr ⟨listed, starts⟩))
    obtain ⟨winnerListed, winnerStarts⟩ := List.mem_filter.mp member
    obtain ⟨rest, split⟩ := Text.isStartOf_iff.mp winnerStarts
    have longest : ∀ other ∈ scope.aliases, Text.isStartOf other.1 specifier → other.1.length ≤ winner.1.length := by
      intro other otherListed otherStarts
      exact (Text.start_length_le_iff otherStarts winnerStarts).mpr
        (largest other (List.mem_filter.mpr ⟨otherListed, otherStarts⟩))
    exact ⟨_, .aliased winner.1 winner.2 rest (by simpa using dotted) winnerListed split longest⟩

/-- The target is what the denoted path is completed to. -/
theorem Denotes.resolve_eq (denotes : scope.Denotes importer specifier path) (ordered : Sorted.Ordered scope.aliases) :
    scope.resolve importer specifier = .file (scope.complete path) := by
  cases denotes with
  | relative dotted =>
    rw [resolve, if_pos dotted]
    refine congrArg (fun path => ImportTarget.file (scope.complete path)) ?_
    split
    · -- From the root the way begins with an empty segment, which leads nowhere.
      rename_i inRoot
      have nowhere : ∀ stack, Path.walk? "" stack = some stack := fun stack => rfl
      refine Path.normalize_eq_iff_walk?.mpr fun stack => ?_
      rw [inRoot, Path.walk?_slash, nowhere, Option.bind_some]
    · rfl
  | aliased start place rest dotless listed split longest =>
    subst split
    exact resolve_alias (aliasOf?_eq_some ordered listed (Text.isStartOf_iff.mpr ⟨rest, rfl⟩) longest) dotless importer

/-! ### The files that a path may stand for -/

/-- A path, and the path with each of the endings of modules. -/
def spelledOut (path : String) : List String := path :: [".js", ".ts", ".mjs", ".vue"].map (path ++ ·)

/-- The index files in a directory. -/
def indexFiles (path : String) : List String := ["index.js", "index.ts"].map (Path.within path)

/-- The first known file that a path may stand for, else the path itself. -/
def firstKnown (scope : ImportScope) (path : String) : String :=
  ((spelledOut path ++ indexFiles path).find? scope.known.contains).getD path

/-- A path is completed to the first known one of these, where index files are behind a slash. -/
theorem complete_eq (scope : ImportScope) (path : String) :
    scope.complete path = ((spelledOut path ++ ["/index.js", "/index.ts"].map (path ++ ·)).find?
      scope.known.contains).getD path := by
  unfold complete spelledOut endings
  -- The path itself is looked for first, apart from its endings.
  split
  · rename_i known
    simp [known]
  · rename_i unknown
    simp [unknown]

/-- An index file of the root is overlooked, or one behind a slash is taken for it. -/
structure OverlooksIndex (scope : ImportScope) (path : String) : Prop where
  isRoot : path = ""
  /-- An earlier file would be found before it. -/
  noEarlier : ∀ file ∈ spelledOut "", file ∉ scope.known
  known : ∃ file ∈ ["index.js", "index.ts", "/index.js", "/index.ts"], file ∈ scope.known

/-- In every directory but the root the index files are looked for behind a slash. -/
theorem indexFiles_eq (normal : Path.normalize path = path) (inner : path ≠ "") :
    indexFiles path = ["/index.js", "/index.ts"].map (path ++ ·) := by
  -- Both names are plain segments, so that they come last in the normal form of the path.
  have names : ∀ name ∈ ["index.js", "index.ts"], Path.segments name = [name] ∧ Path.IsPlain name := by
    decide +kernel
  have behindSlash : ∀ name ∈ ["index.js", "index.ts"], Path.within path name = path ++ ("/" ++ name) := by
    intro name member
    rw [Path.within_eq normal inner (names name member).1 (names name member).2, String.append_assoc]
  rw [indexFiles, List.map_congr_left behindSlash]
  rfl

/-- In the root they have no slash before their names. -/
theorem indexFiles_root : indexFiles "" = ["index.js", "index.ts"] := rfl

/-- A path is completed to the first known file that it may stand for unless an index file of the root is overlooked. -/
theorem complete_eq_firstKnown_iff (normal : Path.normalize path = path) :
    scope.complete path = scope.firstKnown path ↔ ¬scope.OverlooksIndex path := by
  -- For the root and for all other directories, different files are looked for.
  by_cases inner : path ≠ ""
  · have same : scope.complete path = scope.firstKnown path := by
      rw [complete_eq, firstKnown, indexFiles_eq normal inner]
    simp only [same, true_iff]
    exact fun overlooks => inner overlooks.isRoot
  · obtain rfl : path = "" := Decidable.not_not.mp inner
    rw [complete_eq, firstKnown, indexFiles_root, List.find?_append, List.find?_append]
    cases earlier : (spelledOut "").find? scope.known.contains with
    | some file =>
      -- Both searches end before they come to index files.
      refine iff_of_true rfl fun overlooks => ?_
      refine overlooks.noEarlier file (List.mem_of_find?_eq_some earlier) ?_
      simpa using List.find?_some earlier
    | none =>
      have noEarlier : ∀ file ∈ spelledOut "", file ∉ scope.known := by simpa using earlier
      have isKnown : scope.OverlooksIndex "" ↔
          ∃ file ∈ ["index.js", "index.ts", "/index.js", "/index.ts"], file ∈ scope.known :=
        ⟨OverlooksIndex.known, fun known => ⟨rfl, noEarlier, known⟩⟩
      rw [isKnown]
      -- The searches go through different files, so they end alike only where both find none.
      by_cases js : "index.js" ∈ scope.known <;> by_cases ts : "index.ts" ∈ scope.known <;>
        by_cases slashJs : "/index.js" ∈ scope.known <;> by_cases slashTs : "/index.ts" ∈ scope.known <;>
        simp [js, ts, slashJs, slashTs]

/-! ### Targets -/

/-- Every specifier that is relative or begins with an alias denotes a path. Its target is the first known file that the
path may stand for, else the path itself, exactly if no index file of the root is overlooked. -/
theorem resolve_firstKnown_iff (ordered : Sorted.Ordered scope.aliases)
    (led : Text.isStartOf "." specifier ∨ ∃ entry ∈ scope.aliases, Text.isStartOf entry.1 specifier)
    (importer : String) :
    (∃ path, scope.Denotes importer specifier path) ∧
      ∀ path, scope.Denotes importer specifier path →
        (scope.resolve importer specifier = .file (scope.firstKnown path) ↔ ¬scope.OverlooksIndex path) := by
  refine ⟨exists_denotes importer led, fun path denotes => ?_⟩
  rw [denotes.resolve_eq ordered, ImportTarget.file.injEq]
  exact complete_eq_firstKnown_iff denotes.normal

/-- A project with an index file in its root and one below it. -/
def indexedScope : ImportScope where
  aliases := [("@/", "src/")]
  known := {"index.js", "src/entities/user/index.ts"}

/-- A script in the root that imports its own directory is not led to the index file there. -/
theorem resolve_overlooks_root_index :
    indexedScope.Denotes "main.js" "./" "" ∧ indexedScope.firstKnown "" = "index.js" ∧
      indexedScope.resolve "main.js" "./" = .file "" := by
  have toRoot : Path.normalize (Path.directory "main.js" ++ "/" ++ "./") = "" := rfl
  have denotes : indexedScope.Denotes "main.js" "./" "" := toRoot ▸ .relative rfl
  have firstKnown : indexedScope.firstKnown "" = "index.js" := by
    simp [firstKnown, spelledOut, indexFiles_root, indexedScope]
  have nothing : indexedScope.complete "" = "" := by
    simp [complete, endings, indexedScope]
  have ordered : Sorted.Ordered indexedScope.aliases := List.pairwise_singleton _ _
  exact ⟨denotes, firstKnown, by rw [denotes.resolve_eq ordered, nothing]⟩

/-- From a directory below the root the index file is found, as it is not overlooked there. -/
theorem resolve_firstKnown_iff_indexed :
    Sorted.Ordered indexedScope.aliases ∧
      (∃ entry ∈ indexedScope.aliases, Text.isStartOf entry.1 "@/entities/user") ∧
      indexedScope.Denotes "src/app/main.js" "@/entities/user" "src/entities/user" ∧
      ¬indexedScope.OverlooksIndex "src/entities/user" ∧
      indexedScope.resolve "src/app/main.js" "@/entities/user" = .file "src/entities/user/index.ts" := by
  have ordered : Sorted.Ordered indexedScope.aliases := List.pairwise_singleton _ _
  have aliased : ∃ entry ∈ indexedScope.aliases, Text.isStartOf entry.1 "@/entities/user" := by decide
  have toDirectory : Path.normalize ("src/" ++ "entities/user") = "src/entities/user" := rfl
  have denotes : indexedScope.Denotes "src/app/main.js" "@/entities/user" "src/entities/user" :=
    -- The alias leads to a directory that is none of the known files, so that its index file is looked for.
    toDirectory ▸ .aliased "@/" "src/" "entities/user" rfl (List.mem_singleton.mpr rfl)
      rfl (by decide)
  have found : ¬indexedScope.OverlooksIndex "src/entities/user" := fun overlooks =>
    absurd overlooks.isRoot (by decide)
  have firstKnown : indexedScope.firstKnown "src/entities/user" = "src/entities/user/index.ts" := by
    simp [firstKnown, spelledOut, indexFiles_eq denotes.normal, indexedScope]
  obtain ⟨_, reaches⟩ := resolve_firstKnown_iff ordered (Or.inr aliased) "src/app/main.js"
  exact ⟨ordered, aliased, denotes, found, firstKnown ▸ (reaches _ denotes).mpr found⟩

end ImportScope

end LayerAudit
