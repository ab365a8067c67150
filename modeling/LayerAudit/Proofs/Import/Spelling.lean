import LayerAudit.Import.Target
import LayerAudit.Proofs.Path.Normal
import LayerAudit.Proofs.Sorted

/-!
A file can be imported by the way up to the root and down again, or by an alias of the directory where that way begins.
Both spellings have one target, which does not depend on the importing file either.
-/

namespace LayerAudit

namespace ImportScope

open LayerAudit.Path (IsNormal ascent depth)

variable {scope : ImportScope} {importer specifier : String} {entry : String × String}

/-! ### Specifiers that start in a directory -/

/-- From any file the way up to the root and on along a path has the target that the path has from the root. -/
theorem resolve_ascent (normal : IsNormal importer) (path : String) :
    scope.resolve importer (ascent (depth importer) ++ path) = .file (scope.complete (Path.normalize path)) := by
  have relative : Text.isStartOf "." (ascent (depth importer) ++ path) = true := by
    unfold ascent
    split
    · -- From a file in the root there is no way up, and the path begins with a single dot.
      simp [Text.isStartOf, String.toList_append]
    · rename_i deep
      obtain ⟨above, same⟩ := Nat.exists_eq_succ_of_ne_zero deep
      simp [same, List.replicate_succ, String.join_cons, Text.isStartOf, List.isPrefixOf]
  rw [resolve, if_pos relative]
  -- Both paths are the same walk, as all directories that lead to the file are left again.
  refine congrArg (fun path => ImportTarget.file (scope.complete path))
    (Path.normalize_eq_iff_walk?.mpr fun stack => ?_)
  rcases normal.directory_cases with ⟨inRoot, flat⟩ | ⟨below, deep, plain⟩
  · rw [if_pos inRoot, flat]
    simpa using Path.walk?_ascent [] path stack
  · -- Down into the directories of the importer, and as many steps up again.
    rw [if_neg below, Path.walk?_slash, Path.walk?_plain plain, Option.bind_some, ← deep, ← List.length_reverse,
      Path.walk?_ascent]

/-! ### Specifiers that start with an alias -/

/-- The longer of the best alias so far and one more. Of two that are equally long the later one counts. -/
def longer (best : Option (String × String)) (entry : String × String) : Option (String × String) :=
  match best with
  | some b => if entry.1.utf8ByteSize < b.1.utf8ByteSize then some b else some entry
  | none => some entry

/-- Of some aliases one is found that is longest. -/
theorem exists_longest (aliases : List (String × String)) (best : Option (String × String))
    (nonempty : best.toList ++ aliases ≠ []) :
    ∃ winner ∈ best.toList ++ aliases, aliases.foldl longer best = some winner ∧
      ∀ other ∈ best.toList ++ aliases, other.1.utf8ByteSize ≤ winner.1.utf8ByteSize := by
  induction aliases generalizing best with
  | nil =>
    -- Without any alias there is none that is longest.
    cases best with
    | none => exact absurd rfl nonempty
    | some best => exact ⟨best, by simp, rfl, by simp⟩
  | cons entry rest ih =>
    -- The first alias takes the lead, or leaves it to the best one.
    obtain ⟨leader, leads, isOne, notShorter⟩ : ∃ leader, longer best entry = some leader ∧
        leader ∈ best.toList ++ [entry] ∧
        ∀ other ∈ best.toList ++ [entry], other.1.utf8ByteSize ≤ leader.1.utf8ByteSize := by
      cases best with
      | none => exact ⟨entry, rfl, by simp, by simp⟩
      | some best =>
        by_cases shorter : entry.1.utf8ByteSize < best.1.utf8ByteSize
        · exact ⟨best, by simp [longer, shorter], by simp, by simpa using Nat.le_of_lt shorter⟩
        · exact ⟨entry, by simp [longer, shorter], by simp, by simpa using Nat.not_lt.mp shorter⟩
    -- Of the leader and the others one is longest, and no alias before it was longer.
    obtain ⟨winner, member, found, longest⟩ := ih (some leader) (by simp)
    refine ⟨winner, ?_, by rw [List.foldl_cons, leads, found], ?_⟩
    · grind
    · grind

/-- The longest alias that a specifier starts with is the one that counts. -/
theorem aliasOf?_eq_some (ordered : Sorted.Ordered scope.aliases) (listed : entry ∈ scope.aliases)
    (starts : Text.isStartOf entry.1 specifier)
    (longest : ∀ other ∈ scope.aliases, Text.isStartOf other.1 specifier → other.1.length ≤ entry.1.length) :
    scope.aliasOf? specifier = some entry := by
  have candidate : entry ∈ scope.aliases.filter (Text.isStartOf ·.1 specifier) := List.mem_filter.mpr ⟨listed, starts⟩
  obtain ⟨winner, member, found, largest⟩ := exists_longest (scope.aliases.filter (Text.isStartOf ·.1 specifier)) none
    (List.ne_nil_of_mem candidate)
  obtain ⟨winnerListed, winnerStarts⟩ := List.mem_filter.mp member
  -- The longest of all and the longest of those with that start are equally long, and so the same text.
  have same : entry.1 = winner.1 := Text.start_eq_of_size starts winnerStarts (longest winner winnerListed winnerStarts)
    (largest entry candidate)
  -- No two aliases have the same start.
  have value : some entry.2 = some winner.2 := by
    rw [← ordered.get?_of_mem listed, same, ordered.get?_of_mem winnerListed]
  show (scope.aliases.filter (Text.isStartOf ·.1 specifier)).foldl longer none = some entry
  rw [found]
  exact congrArg some (Prod.ext same.symm (Option.some.inj value).symm)

/-- A specifier that starts with an alias has the target of the path that stands for it. -/
theorem resolve_alias {start place rest : String} (found : scope.aliasOf? (start ++ rest) = some (start, place))
    (notRelative : Text.isStartOf "." (start ++ rest) = false) (importer : String) :
    scope.resolve importer (start ++ rest) = .file (scope.complete (Path.normalize (place ++ rest))) := by
  have behind : String.ofList ((start ++ rest).toList.drop start.length) = rest := by
    rw [String.toList_append, ← String.length_toList, List.drop_left, String.ofList_toList]
  simp only [resolve, notRelative, Bool.false_eq_true, if_false, found, behind]

/-! ### Both spellings -/

/-- From every file that has a path of names, the way up to the root and down again reaches each known file, and what
lies below the source directory has one target, whether a specifier starts with that way or with the alias. -/
theorem resolve_spellings (scope : ImportScope) {importer : String} (normal : IsNormal importer) :
    (∀ file, scope.known.contains file → IsNormal file →
      scope.resolve importer (ascent (depth importer) ++ file) = .file file) ∧
    ∀ rest, Sorted.Ordered scope.aliases → ("@/", "src/") ∈ scope.aliases →
      (∀ other ∈ scope.aliases, Text.isStartOf other.1 ("@/" ++ rest) → other.1.length ≤ "@/".length) →
      scope.resolve importer (ascent (depth importer) ++ "src/" ++ rest) = scope.resolve importer ("@/" ++ rest) := by
  constructor
  · intro file known fileNormal
    -- A known file is found under its own path before any ending is tried.
    rw [resolve_ascent normal, fileNormal.normalize_eq, complete, if_pos known]
  · intro rest ordered listed longest
    have starts : Text.isStartOf "@/" ("@/" ++ rest) = true := by simp [Text.isStartOf]
    have notRelative : Text.isStartOf "." ("@/" ++ rest) = false := by simp [Text.isStartOf, List.isPrefixOf]
    -- Both paths begin in the source directory, and lead to the target in the same way.
    rw [String.append_assoc, resolve_ascent normal,
      resolve_alias (aliasOf?_eq_some ordered listed starts longest) notRelative]

/-- Imports by a page that lies four directories deep. -/
def pageScope : ImportScope where
  aliases := [("@/", "src/"), ("~/", "src/shared/")]
  known := {"src/shared/ui/BaseButton.vue"}

/-- The page reaches a component in both spellings, also with detours and backslashes on the way. -/
theorem resolve_spellings_page :
    IsNormal "src/pages/home/ui/HomePage.vue" ∧ depth "src/pages/home/ui/HomePage.vue" = 4 ∧
      pageScope.known.contains "src/shared/ui/BaseButton.vue" ∧ IsNormal "src/shared/ui/BaseButton.vue" ∧
      pageScope.resolve "src/pages/home/ui/HomePage.vue" (ascent 4 ++ "src/shared/ui/BaseButton.vue") =
        .file "src/shared/ui/BaseButton.vue" ∧
      Sorted.Ordered pageScope.aliases ∧ ("@/", "src/") ∈ pageScope.aliases ∧
      (∀ other ∈ pageScope.aliases, Text.isStartOf other.1 ("@/" ++ "pages\\..//shared/ui/BaseButton") →
        other.1.length ≤ "@/".length) ∧
      pageScope.resolve "src/pages/home/ui/HomePage.vue" (ascent 4 ++ "src/" ++ "pages\\..//shared/ui/BaseButton") =
        pageScope.resolve "src/pages/home/ui/HomePage.vue" ("@/" ++ "pages\\..//shared/ui/BaseButton") := by
  have normal : IsNormal "src/pages/home/ui/HomePage.vue" := by decide
  have deep : depth "src/pages/home/ui/HomePage.vue" = 4 := by decide +kernel
  have fileNormal : IsNormal "src/shared/ui/BaseButton.vue" := by decide +kernel
  have known : pageScope.known.contains "src/shared/ui/BaseButton.vue" := by simp [pageScope]
  have ordered : Sorted.Ordered pageScope.aliases := List.pairwise_pair.mpr (show "@/" < "~/" by decide)
  have listed : ("@/", "src/") ∈ pageScope.aliases := List.mem_cons_self ..
  have longest : ∀ other ∈ pageScope.aliases, Text.isStartOf other.1 ("@/" ++ "pages\\..//shared/ui/BaseButton") →
      other.1.length ≤ "@/".length := by
    decide +kernel
  obtain ⟨reaches, agree⟩ := resolve_spellings pageScope normal
  rw [deep] at reaches agree
  exact ⟨normal, deep, known, fileNormal, reaches _ known fileNormal, ordered, listed, longest,
    agree _ ordered listed longest⟩

end ImportScope

end LayerAudit
