import LayerAudit.Proofs.Audit.BindingOrder
import LayerAudit.Proofs.Audit.Findings

/-!
What a file contains bears on its own part of an audit, and on no other file, exactly if no other component has an
ambiguous tag: where such a tag leads is decided anew in each audit.
-/

namespace LayerAudit

/-- Nothing can be extracted from the bytes of a file: they are no text, or a text that does not parse. -/
inductive Illegible [Script.Syntax] (path : String) (content : ByteArray) : Prop
  | notText : String.fromUTF8? content = none → Illegible path content
  | unparseable {text : String} {failure : Unparseable} : String.fromUTF8? content = some text →
      ParsedFile.ofContent path text = .error failure → Illegible path content

/-- The finding is about reading, placing or parsing a file, which is not the one at a path. -/
def Violation.isOfOther (path : String) (violation : Violation) : Bool :=
  violation.kind ≠ .dependency && violation.file ≠ path

namespace Setup

section

variable [Script.Syntax]

/-- The edges extracted from a file, once for each time that its path is listed. -/
def edgesOf (setup : Setup) (order : BindingOrder) (files : FileSystem) (root : String) (paths : List String)
    (path : String) : List Edge :=
  (List.replicate (paths.count path)
    (setup.examine order files root (setup.scopeOf paths) path).extraction.edges).flatten

/-- The same paths are discovered in two trees, and all of them but one have the same content in both. -/
structure DifferOnlyAt (setup : Setup) (before after : FileSystem) (root file : String) (paths : List String) :
    Prop where
  discovered : setup.discover before root = .ok paths
  rediscovered : setup.discover after root = .ok paths
  /-- The one file may be readable in either tree or in none, and whatever it holds may be legible or not. -/
  same : ∀ path ∈ paths, path ≠ file → before.read (Location.join root path) = after.read (Location.join root path)

/-- What the audits of two trees have in common that differ in one file. Each audit meets the imported names in an order
of its own. -/
structure IsolatedAt (setup : Setup) (one another : BindingOrder) (before after : FileSystem) (root file : String)
    (paths : List String) (first second : Audit) : Prop where
  outcomes : ∀ path ∈ paths, path ≠ file →
    setup.examine one before root (setup.scopeOf paths) path =
      setup.examine another after root (setup.scopeOf paths) path
  /-- The edges differ in one place alone. -/
  edges : ∃ ahead behind,
    first.graph.edges = ahead ++ setup.edgesOf one before root paths file ++ behind ∧
      second.graph.edges = ahead ++ setup.edgesOf another after root paths file ++ behind
  /-- An illegible file has no edges in that place. -/
  illegible : ∀ order, ∀ files ∈ [before, after], ∀ content, files.read (Location.join root file) = .ok content →
    Illegible file content → setup.edgesOf order files root paths file = []
  findings : first.violations.filter (·.isOfOther file) = second.violations.filter (·.isOfOther file)

/-- No component at one of the paths has an ambiguous tag, except for that of a file. -/
def UnambiguousBeside (setup : Setup) (files : FileSystem) (root file : String) (paths : List String) : Prop :=
  ∀ path ∈ paths, path ≠ file → ∀ words source,
    setup.componentAt? files root (setup.scopeOf paths) path = some (words, source) → Component.Unambiguous source

end

/-! ### The place of a file -/

/-- In a sorted list all occurrences of a path stand together. -/
theorem exists_run_of_sorted {paths : List String} (sorted : paths.Pairwise (· ≤ ·)) (path : String) :
    ∃ earlier later, paths = earlier ++ List.replicate (paths.count path) path ++ later ∧
      path ∉ earlier ∧ path ∉ later := by
  -- A path that leads the list either opens the one run of its occurrences or belongs to it.
  induction paths with
  | nil => exact ⟨[], [], rfl, List.not_mem_nil, List.not_mem_nil⟩
  | cons head rest ih =>
    obtain ⟨least, restSorted⟩ := List.pairwise_cons.mp sorted
    obtain ⟨earlier, later, split, notEarlier, notLater⟩ := ih restSorted
    by_cases same : head = path
    · subst same
      by_cases again : head ∈ rest
      · -- Whatever stands between two occurrences is neither less nor greater than the path.
        have nothing : earlier = [] := by
          refine List.eq_nil_iff_forall_not_mem.mpr fun other member => ?_
          have repeated : head ∈ List.replicate (rest.count head) head :=
            List.mem_replicate.mpr ⟨(Nat.pos_iff_ne_zero.mp (List.count_pos_iff.mpr again)), rfl⟩
          rw [split, List.append_assoc] at restSorted
          have atMost : other ≤ head :=
            (List.pairwise_append.mp restSorted).2.2 other member head (List.mem_append_left _ repeated)
          have atLeast : head ≤ other := least other (split ▸ List.mem_append_left _ (List.mem_append_left _ member))
          exact notEarlier (String.le_antisymm atLeast atMost ▸ member)
        refine ⟨[], later, ?_, List.not_mem_nil, notLater⟩
        rw [List.count_cons_self, List.replicate_succ, List.nil_append, List.cons_append]
        simpa only [nothing, List.nil_append] using congrArg (head :: ·) split
      · -- This was the only occurrence.
        refine ⟨[], rest, ?_, List.not_mem_nil, again⟩
        rw [List.count_cons_self, List.count_eq_zero_of_not_mem again]
        rfl
    · -- Another path in front only moves the run.
      refine ⟨head :: earlier, later, ?_, ?_, notLater⟩
      · rw [List.count_cons_of_ne same, List.cons_append, List.cons_append, ← split]
      · exact fun member => (List.mem_cons.mp member).elim (fun named => same named.symm) notEarlier

section

variable [Script.Syntax] {setup : Setup} {order one another : BindingOrder} {files before after : FileSystem}
  {root file path : String} {scope : ImportScope} {paths : List String}

/-- The edges of an audit are those of the files before a file, those of the file itself, and those of the files after
it. -/
theorem edges_around {earlier later : List String}
    (split : paths = earlier ++ List.replicate (paths.count file) file ++ later) :
    (setup.auditOf order files root paths).graph.edges =
      (earlier.flatMap fun path => (setup.examine order files root (setup.scopeOf paths) path).extraction.edges) ++
        setup.edgesOf order files root paths file ++
        later.flatMap fun path => (setup.examine order files root (setup.scopeOf paths) path).extraction.edges := by
  have parted (added : String → List Edge) : paths.flatMap added =
      -- The occurrences stand together, so that their parts do as well.
      earlier.flatMap added ++ (List.replicate (paths.count file) (added file)).flatten ++ later.flatMap added := by
    have appended := congrArg (List.flatMap added) split
    rwa [List.flatMap_append, List.flatMap_append, List.flatMap_replicate] at appended
  rw [edges_auditOf, parted]
  rfl

/-! ### What a file bears on -/

/-- Nothing is extracted from an illegible file. -/
theorem extraction_of_illegible {content : ByteArray} (bad : Illegible path content) :
    (setup.examineContent order scope path content).extraction = {} := by
  -- Of all that a file may add, only the case of a successful extraction has one.
  have failed (words : Vocabulary) (kind : FileKind) (extraction : Extraction) :
      extract order words scope path kind content ≠ .ok extraction := by
    cases bad with
    | notText undecoded => simp [extract, undecoded]
    | unparseable decoded unparsed => simp [extract, decoded, extractFile, unparsed]
  -- Only a successful extraction adds one, and this one fails.
  rcases setup.examineContent_cases order scope path content with
    ⟨_, same⟩ | ⟨words, _, _, ⟨extraction, extracted, same⟩ | ⟨_, _, same⟩⟩ <;> rw [same]
  exact absurd extracted (failed words _ extraction)

/-- Files that read alike add the same. -/
theorem examine_congr (same : before.read (Location.join root path) = after.read (Location.join root path)) :
    setup.examine order before root scope path = setup.examine order after root scope path := by
  -- Beside the discovered paths, which are in the scope, nothing but its own content bears on a file.
  simp only [examine, same]

/-- A component is found in files that read alike or in neither. -/
theorem componentAt?_congr (same : before.read (Location.join root path) = after.read (Location.join root path)) :
    setup.componentAt? before root scope path = setup.componentAt? after root scope path := by
  simp only [componentAt?, contentOf?, same]

variable [Glob.Syntax] {config : Config} {vocabulary : Option Vocabulary}

/-- All findings that a file adds are about that file. -/
theorem findings_about_other (goes : setup.GoesBy config) :
    (setup.examine order files root scope file).violations.filter (·.isOfOther file) = [] := by
  refine List.filter_eq_nil_iff.mpr fun violation member => ?_
  simp [Violation.isOfOther, ((examine_findings goes).is member).file]

/-- Audits of trees that differ in one file differ in the part of that file alone, if all other files add the same. -/
theorem isolatedAt_auditOf (goes : setup.GoesBy config) (differ : setup.DifferOnlyAt before after root file paths)
    (outcomes : ∀ path ∈ paths, path ≠ file →
      setup.examine one before root (setup.scopeOf paths) path =
        setup.examine another after root (setup.scopeOf paths) path) :
    setup.IsolatedAt one another before after root file paths (setup.auditOf one before root paths)
      (setup.auditOf another after root paths) := by
  constructor
  · exact outcomes
  · obtain ⟨earlier, later, split, notEarlier, notLater⟩ :=
      exists_run_of_sorted (sorted_of_discover differ.discovered) file
    -- Neither the files before the place nor those after it are the one that differs.
    have same {part : List String} (inside : part ⊆ paths) (apart : file ∉ part) :
        (part.flatMap fun path => (setup.examine another after root (setup.scopeOf paths) path).extraction.edges) =
          part.flatMap fun path => (setup.examine one before root (setup.scopeOf paths) path).extraction.edges := by
      refine List.flatMap_congr fun path member => ?_
      rw [outcomes path (inside member) fun named => apart (named ▸ member)]
    have first : earlier ⊆ paths := by grind
    have last : later ⊆ paths := by grind
    refine ⟨_, _, edges_around split, ?_⟩
    rw [edges_around split, same first notEarlier, same last notLater]
  · intro order files _ content read bad
    have nothing : (setup.examine order files root (setup.scopeOf paths) file).extraction = {} := by
      rw [examine_ok read, extraction_of_illegible bad]
    simp [edgesOf, nothing]
  · have apart (violation : Violation) (other : violation.isOfOther file) : violation.kind ≠ .dependency := by
      simp only [Violation.isOfOther, Bool.and_eq_true, decide_eq_true_eq] at other
      exact other.1
    rw [filter_violations_auditOf apart, filter_violations_auditOf apart]
    -- The file that differs adds no findings about others, and the others add the same in both trees.
    refine List.flatMap_congr fun path listed => ?_
    by_cases named : path = file
    · rw [named, findings_about_other goes, findings_about_other goes]
    · rw [outcomes path listed named]

variable [Pattern.Syntax]

/-- Where two trees differ in one file, both audits come to an end. They differ in the part of that file alone, in
whatever orders they meet the imported names, exactly if no other component has an ambiguous tag: then all other files
give the same, the edges differ in one place, where an illegible file has none, and the findings about reading, placing
and parsing the other files are the same. -/
theorem audit_isolates_file_iff_unambiguous (made : ofConfig vocabulary config = .ok setup)
    (differ : setup.DifferOnlyAt before after root file paths) :
    (∀ one another : BindingOrder, ∃ first firstWarnings second secondWarnings,
      setup.audit one before root = .ok (first, firstWarnings) ∧
        setup.audit another after root = .ok (second, secondWarnings) ∧
        setup.IsolatedAt one another before after root file paths first second) ↔
      setup.UnambiguousBeside before root file paths := by
  have goes := goesBy_of_ofConfig made
  constructor
  · -- In all pairs of orders the other files add the same edges to both trees, and so to one tree in both orders.
    intro isolates path listed other words source found
    refine examine_order_free_iff.mp (fun one another => ?_) words source found
    obtain ⟨_, _, _, _, _, _, isolated⟩ := isolates one another
    rw [isolated.outcomes path listed other, examine_congr (differ.same path listed other).symm]
  · -- Without an ambiguous tag each of the other files adds the same in any order.
    intro unambiguous one another
    refine ⟨setup.auditOf one before root paths, _, setup.auditOf another after root paths, _,
      audit_of_discover one differ.discovered, audit_of_discover another differ.rediscovered,
      isolatedAt_auditOf goes differ fun path listed other => ?_⟩
    rw [examine_congr (differ.same path listed other)]
    refine examine_eq_of_unambiguous (fun words source found => ?_) one another
    exact unambiguous path listed other words source ((componentAt?_congr (differ.same path listed other)).trans found)

end

/-! ### A page beside a script -/

/-- A content whose one byte begins no character. -/
def undecodable : ByteArray := ⟨#[0xFF]⟩

/-- The entries of an application of a page and a script. -/
def pageEntries (page script : ByteArray) : List (String × FileEntry) :=
  [("src", .directory [("Page.vue", .file page), ("z.js", .file script)])]

/-- The paths of the page and the script. -/
def pagePaths : List String := ["src/Page.vue", "src/z.js"]

section

variable (page script : ByteArray)

/-- The page and the script are read under their paths. -/
theorem read_pageEntries :
    (application (pageEntries page script) []).read (Location.join "app" "src/Page.vue") = .ok page ∧
      (application (pageEntries page script) []).read (Location.join "app" "src/z.js") = .ok script := by
  have well : (FileEntry.directory (pageEntries page script)).WellFormed := by
    have names : IsEntryName "src" ∧ IsEntryName "Page.vue" ∧ IsEntryName "z.js" := by decide
    obtain ⟨src, first, second⟩ := names
    refine .single src (.directory (List.pairwise_pair.mpr (show "Page.vue" < "z.js" by decide)) ?_ ?_)
    · simp [first, second]
    · simp [FileEntry.WellFormed.file]
  -- The names on the way are joined to the paths under which the files are listed.
  have pageThere : (FileEntry.directory (pageEntries page script)).at? ["src", "Page.vue"] = some (.file page) := by
    simp [pageEntries, Sorted.get?_cons]
  have scriptThere : (FileEntry.directory (pageEntries page script)).at? ["src", "z.js"] = some (.file script) := by
    simp [pageEntries, Sorted.get?_cons]
  exact ⟨read_application well pageThere rfl, read_application well scriptThere rfl⟩

/-- The page and the script are discovered. -/
theorem discover_pageEntries : usual.discover (application (pageEntries page script) []) "app" = .ok pagePaths := by
  have written : writtenPath ["src", "Page.vue"] = "src/Page.vue" ∧ writtenPath ["src", "z.js"] = "src/z.js" :=
    ⟨rfl, rfl⟩
  have selected : pagePaths.filter usual.selects = pagePaths := by
    rw [goesBy_usual.selects_eq]
    decide +kernel
  refine discover_application (by decide) ?_
  simpa [pageEntries, FileEntry.leavesOf, FileEntry.leaves, written, pagePaths] using selected

end

/-- The script is no component, so a page may change without any change in it. -/
theorem audit_isolates_file_iff_unambiguous_page :
    ofConfig (readVocabulary {}).toOption {} = .ok usual ∧
      Illegible "src/Page.vue" undecodable ∧
      usual.DifferOnlyAt (application (pageEntries Component.pageText.toByteArray .empty) [])
        (application (pageEntries undecodable .empty) []) "app" "src/Page.vue" pagePaths ∧
      usual.UnambiguousBeside (application (pageEntries Component.pageText.toByteArray .empty) []) "app" "src/Page.vue"
        pagePaths ∧
      ∀ one another : BindingOrder, ∃ first firstWarnings second secondWarnings,
        usual.audit one (application (pageEntries Component.pageText.toByteArray .empty) []) "app" =
            .ok (first, firstWarnings) ∧
          usual.audit another (application (pageEntries undecodable .empty) []) "app" = .ok (second, secondWarnings) ∧
          usual.IsolatedAt one another (application (pageEntries Component.pageText.toByteArray .empty) [])
            (application (pageEntries undecodable .empty) []) "app" "src/Page.vue" pagePaths first second := by
  -- The page is the only file whose content differs.
  have differ : usual.DifferOnlyAt (application (pageEntries Component.pageText.toByteArray .empty) [])
      (application (pageEntries undecodable .empty) []) "app" "src/Page.vue" pagePaths := by
    refine ⟨discover_pageEntries _ _, discover_pageEntries _ _, fun path listed other => ?_⟩
    obtain rfl : path = "src/z.js" := by simpa [pagePaths, other] using listed
    rw [(read_pageEntries _ _).2, (read_pageEntries _ _).2]
  have unambiguous : usual.UnambiguousBeside (application (pageEntries Component.pageText.toByteArray .empty) []) "app"
      "src/Page.vue" pagePaths := by
    -- The one other file is a script by its kind, so that it is no component.
    intro path listed other words source found
    obtain rfl : path = "src/z.js" := by simpa [pagePaths, other] using listed
    have kind : usual.config.conventions.kindOf "src/z.js" ≠ .uiComponent := by
      rw [kindOf_usual]
      decide
    exact absurd (kind_of_componentAt? found) kind
  exact ⟨ofConfig_usual, .notText rfl, differ, unambiguous,
    (audit_isolates_file_iff_unambiguous ofConfig_usual differ).mpr unambiguous⟩

/-- The page is found as a component with an ambiguous tag. -/
theorem ambiguous_page (script : ByteArray) : ∃ words source,
    usual.componentAt? (application (pageEntries Component.pageText.toByteArray script) []) "app"
      (usual.scopeOf pagePaths) "src/Page.vue" = some (words, source) ∧
      ¬Component.Unambiguous source := by
  obtain ⟨tree, parsed, tags, imports⟩ := Component.first_page
  obtain ⟨words, vocabulary⟩ := Option.isSome_iff_exists.mp vocabulary_usual
  have kind : usual.config.conventions.kindOf "src/Page.vue" = .uiComponent := kindOf_usual _
  have decoded : String.fromUTF8? Component.pageText.toByteArray = some Component.pageText := by decide +kernel
  -- No alias leads to either package. Nothing more is asked of the scope.
  have packages : (usual.scopeOf pagePaths).resolve "src/Page.vue" "new-cards" = .package "new-cards" ∧
      (usual.scopeOf pagePaths).resolve "src/Page.vue" "old-cards" = .package "old-cards" := by
    rw [scopeOf, goesBy_usual.settings]
    decide +kernel
  generalize usual.scopeOf pagePaths = scope at packages
  have names := Component.bindings_page (imports scope) packages.1 packages.2
  -- The page is read without falling back on its script.
  have whole : ParsedFile.ofContent "src/Page.vue" Component.pageText = .ok ⟨tree, false⟩ := by
    simp only [ParsedFile.ofContent, parsed]
  refine ⟨words, ⟨"src/Page.vue", tree, scope⟩, ?_, fun unambiguous => ?_⟩
  · exact componentAt?_eq_some vocabulary (read_pageEntries _ script).1 decoded whole kind
  · -- The two cards are different targets.
    have agree := unambiguous "base-card" (by simp [tags])
    rw [names] at agree
    have keys : Component.tagKey "BaseCard" = Component.tagKey "base-card" ∧
        Component.tagKey "basecard" = Component.tagKey "base-card" := by
      decide +kernel
    have same := agree ("BaseCard", .package "new-cards") (by decide) ("basecard", .package "old-cards") (by decide)
      keys.1 keys.2
    exact absurd same (by decide)

/-- Although the script has no edges, whether it is legible or not, an audit of the page beside one of them may differ in
an edge of the page from an audit of the page beside the other one. -/
theorem page_edges_differ_between_audits : ∃ one another : BindingOrder, ∃ first firstWarnings second secondWarnings,
    usual.DifferOnlyAt (application (pageEntries Component.pageText.toByteArray .empty) [])
        (application (pageEntries Component.pageText.toByteArray undecodable) []) "app" "src/z.js" pagePaths ∧
      usual.audit one (application (pageEntries Component.pageText.toByteArray .empty) []) "app" =
        .ok (first, firstWarnings) ∧
      usual.audit another (application (pageEntries Component.pageText.toByteArray undecodable) []) "app" =
        .ok (second, secondWarnings) ∧
      ¬usual.IsolatedAt one another (application (pageEntries Component.pageText.toByteArray .empty) [])
        (application (pageEntries Component.pageText.toByteArray undecodable) []) "app" "src/z.js" pagePaths
        first second := by
  -- The script is the only file whose content differs.
  have differ : usual.DifferOnlyAt (application (pageEntries Component.pageText.toByteArray .empty) [])
      (application (pageEntries Component.pageText.toByteArray undecodable) []) "app" "src/z.js" pagePaths := by
    refine ⟨discover_pageEntries _ _, discover_pageEntries _ _, fun path listed other => ?_⟩
    obtain rfl : path = "src/Page.vue" := by simpa [pagePaths, other] using listed
    rw [(read_pageEntries _ _).1, (read_pageEntries _ _).1]
  obtain ⟨words, source, found, ambiguous⟩ := ambiguous_page .empty
  -- In some pair of orders the page has other edges.
  have varies : ¬∀ one another : BindingOrder,
      (usual.examine one (application (pageEntries Component.pageText.toByteArray .empty) []) "app"
          (usual.scopeOf pagePaths) "src/Page.vue").extraction.edges =
        (usual.examine another (application (pageEntries Component.pageText.toByteArray .empty) []) "app"
          (usual.scopeOf pagePaths) "src/Page.vue").extraction.edges :=
    fun free => ambiguous (examine_order_free_iff.mp free words source found)
  simp only [not_forall] at varies
  obtain ⟨one, another, different⟩ := varies
  refine ⟨one, another, _, _, _, _, differ, audit_of_discover one differ.discovered,
    audit_of_discover another differ.rediscovered, fun isolated => different ?_⟩
  -- Were the audits isolated, the page would add the same edges in both.
  have same := isolated.outcomes "src/Page.vue" (by decide) (by decide)
  rw [same, examine_congr (differ.same "src/Page.vue" (by decide) (by decide))]

end Setup

end LayerAudit
