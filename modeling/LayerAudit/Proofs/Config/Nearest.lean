import LayerAudit.Config.Load
import LayerAudit.Proofs.Files.Lineage
import LayerAudit.Toml.Document

/-!
Where the settings of a directory come from. Going up from the directory step by step, the first file of the usual name
counts, whether settings can be taken from it or not. A link of that name counts only if it leads somewhere.
-/

namespace LayerAudit.Config

open Location

/-- Up from a path this is the nearest directory with something under the usual name. -/
def IsNearest (files : FileSystem) (first directory : String) : Prop :=
  ∃ steps, iterate? parent? steps first = some directory ∧ files.contains (join directory fileName) = true ∧
    ∀ fewer < steps, ∀ nearer, iterate? parent? fewer first = some nearer →
      files.contains (join nearer fileName) = false

section

variable {files : FileSystem} {directory path other first : String} {steps : Nat}

/-- Something can have the usual name. -/
theorem isEntryName_fileName : IsEntryName fileName := by decide

/-- Every directory of the lineage is reached step by step, or stands for one that is. -/
theorem exists_reached (listed : (lineage first)[steps]? = some directory) :
    ∃ reached, iterate? parent? steps first = some reached := by
  cases steps with
  | zero => exact ⟨first, rfl⟩
  | succ steps => exact ⟨directory, by rw [iterate?_parent?, listed]⟩

/-- Every directory that is reached step by step is in the lineage, or is stood for by one that is. -/
theorem exists_listed (above : iterate? parent? steps first = some directory) :
    ∃ listed, (lineage first)[steps]? = some listed := by
  cases steps with
  | zero => exact exists_head_lineage first
  | succ steps => exact ⟨directory, by rw [← iterate?_parent?, above]⟩

/-- Where the search begins: at the directory itself or, if that is not there, at its path as it is written. -/
def start (files : FileSystem) (directory : String) : String := (files.canonical? directory).getD directory

/-- The search goes through the lineage of the path where it begins. -/
theorem nearest?_eq (files : FileSystem) (directory : String) : nearest? files directory =
    ((lineage (start files directory)).map (join · fileName)).find? files.contains := rfl

/-- In the lineage something is under the usual name exactly if it is in the directory that is reached step by step. -/
theorem contains_join {reached : String} (listed : (lineage first)[steps]? = some directory)
    (above : iterate? parent? steps first = some reached) :
    files.contains (join directory fileName) = files.contains (join reached fileName) := by
  unfold FileSystem.contains FileSystem.entry?
  rw [FileSystem.locate_join_of_lineage files true isEntryName_fileName listed above]

/-- The search through the lineage finds what is the nearest step by step. -/
theorem exists_nearest?_eq_some {nearest : String} (isNearest : IsNearest files (start files directory) nearest) :
    ∃ path, nearest? files directory = some path ∧
      files.locate true path = files.locate true (join nearest fileName) := by
  obtain ⟨steps, reached, there, nearer⟩ := isNearest
  obtain ⟨listed, isListed⟩ := exists_listed reached
  obtain ⟨inside, here⟩ := List.getElem?_eq_some_iff.mp isListed
  refine ⟨join listed fileName, ?_,
    FileSystem.locate_join_of_lineage files true isEntryName_fileName isListed reached⟩
  -- The search is for the first path of a list, so that the place of the directory in the lineage is used.
  have mapped : steps < ((lineage (start files directory)).map (join · fileName)).length := by
    rw [List.length_map]
    exact inside
  rw [nearest?_eq, List.find?_eq_some_iff_getElem]
  refine ⟨?_, steps, mapped, ?_, fun fewer less => ?_⟩
  · -- The path of this directory is found.
    rw [contains_join isListed reached, there]
  · rw [List.getElem_map, here]
  · -- Each directory before it was reached in fewer steps, where there is nothing of the name.
    have before := List.getElem?_eq_getElem (Nat.lt_trans less inside)
    obtain ⟨other, between⟩ := exists_reached before
    rw [List.getElem_map, contains_join before between, nearer fewer less other between]
    rfl

variable [Toml.Syntax]

/-- Paths to the same spot lead to settings alike. -/
theorem load_eq_of_locate (same : files.locate true path = files.locate true other) :
    (load files path).toOption = (load files other).toOption := by
  -- The text of a file depends on where its path leads only.
  have read : files.read path = files.read other := by rw [FileSystem.read, FileSystem.read, same]
  unfold load
  rw [read]
  cases files.read other with
  | error failure => rfl
  | ok content =>
    dsimp only
    cases String.fromUTF8? content with
    | none => rfl
    | some text =>
      dsimp only
      cases ofToml? text <;> rfl

/-- The nearest file counts, whether settings can be taken from it or not. -/
theorem loadNearest_of_isNearest {nearest : String} (isNearest : IsNearest files (start files directory) nearest) :
    match load files (join nearest fileName) with
    | .ok config => loadNearest files directory = (config, none)
    | .error _ => ∃ warning, loadNearest files directory = ({}, some warning) := by
  obtain ⟨path, found, leads⟩ := exists_nearest?_eq_some isNearest
  have same := load_eq_of_locate leads
  rw [loadNearest, found]
  dsimp only
  -- The path that is found may be written in another way than the directory that is reached, but leads to the same
  -- file. So one of them gives settings exactly if the other does.
  cases ofNearest : load files (join nearest fileName) with
  | ok config =>
    cases ofPath : load files path with
    | ok other =>
      rw [ofNearest, ofPath] at same
      cases same
      rfl
    | error warning =>
      rw [ofNearest, ofPath] at same
      cases same
  | error reason =>
    cases ofPath : load files path with
    | ok other =>
      rw [ofNearest, ofPath] at same
      cases same
    | error warning => exact ⟨warning, rfl⟩

/-- Without any file of the usual name the search finds nothing. -/
theorem loadNearest_of_nowhere (nowhere : ∀ steps above, iterate? parent? steps (start files directory) = some above →
    files.contains (join above fileName) = false) : loadNearest files directory = ({}, none) := by
  have none : nearest? files directory = none := by
    rw [nearest?_eq, List.find?_eq_none]
    -- Every directory in the lineage is reached by some steps, where nothing is under the name.
    intro path member
    obtain ⟨listed, isListed, rfl⟩ := List.mem_map.mp member
    obtain ⟨steps, isListed⟩ := List.mem_iff_getElem?.mp isListed
    obtain ⟨reached, above⟩ := exists_reached isListed
    rw [contains_join isListed above, nowhere steps reached above]
    decide
  rw [loadNearest, none]

/-- The settings of a directory are those in the nearest file of the usual name, in the directory or one above it: this
file is found going up step by step, which comes to an end. If no settings can be taken from it, then the usual settings
hold with one warning, whatever is farther up. Without any file of that name they hold without a warning. Paths are texts
and every directory may be searched; nothing is said about names that are no text, or about a file that permissions
hide. -/
theorem loadNearest_of_steps (files : FileSystem) (directory : String) :
    (∃ steps, iterate? parent? steps (start files directory) = none) ∧
      (∀ nearest, IsNearest files (start files directory) nearest →
        match load files (join nearest fileName) with
        | .ok config => loadNearest files directory = (config, none)
        | .error _ => ∃ warning, loadNearest files directory = ({}, some warning)) ∧
      ((∀ steps above, iterate? parent? steps (start files directory) = some above →
        files.contains (join above fileName) = false) → loadNearest files directory = ({}, none)) :=
  ⟨exists_iterate?_parent?_eq_none _, fun _ => loadNearest_of_isNearest, loadNearest_of_nowhere⟩

end

/-! ### A link that leads nowhere -/

/-- An application whose file with settings is a link to nothing, below a directory with settings of its own. -/
def strayLink : FileSystem where
  root := .directory
    [(".adherence.toml", .file "report.version = \"2.0.0\"".toUTF8),
      ("app", .directory [(".adherence.toml", .link "nowhere.toml")])]
  workingDirectory := []

/-- Where the paths lead that are looked at. -/
theorem locate_strayLink :
    strayLink.locate true "app" =
        .ok (.taken ["app"] (.directory [(".adherence.toml", .link "nowhere.toml")])) ∧
      strayLink.locate false "/app/.adherence.toml" =
        .ok (.taken ["app", ".adherence.toml"] (.link "nowhere.toml")) ∧
      strayLink.locate true "/app/.adherence.toml" = .ok (.free ["app", "nowhere.toml"] false) ∧
      strayLink.locate true "/.adherence.toml" =
        .ok (.taken [".adherence.toml"] (.file "report.version = \"2.0.0\"".toUTF8)) := by
  -- Only closed texts are compared here, apart from the walk through the tree.
  have absolute : Text.isStartOf "/" "/app/.adherence.toml" = true ∧ Text.isStartOf "/" "/.adherence.toml" = true ∧
      Text.isStartOf "/" "app" = false ∧ Text.isStartOf "/" "nowhere.toml" = false := by
    decide
  have segments : segments "/app/.adherence.toml" = ["", "app", ".adherence.toml"] ∧
      segments "/.adherence.toml" = ["", ".adherence.toml"] ∧ segments "app" = ["app"] ∧
      segments "nowhere.toml" = ["nowhere.toml"] :=
    ⟨rfl, rfl, rfl, rfl⟩
  have short : "app".utf8ByteSize = 3 ∧ ".adherence.toml".utf8ByteSize = 15 ∧ "nowhere.toml".utf8ByteSize = 12 := by
    decide
  simp [FileSystem.locate, absolute, segments, FileSystem.follow, short, FileSystem.longestName, FileSystem.mostLinks,
    strayLink, FileEntry.at?, Sorted.get?_cons]

/-- The settings above the link. -/
def laterVersion : Config := { report := { version := "2.0.0" } }

/-- The search begins at the directory of the application. -/
theorem start_strayLink : start strayLink "app" = "/app" := by
  rw [start, FileSystem.canonical?, locate_strayLink.1]
  rfl

/-- The directory above the application is the root directory. -/
theorem steps_strayLink : iterate? parent? 0 "/app" = some "/app" ∧ iterate? parent? 1 "/app" = some "/" ∧
    join "/app" fileName = "/app/.adherence.toml" ∧ join "/" fileName = "/.adherence.toml" :=
  ⟨rfl, rfl, rfl, rfl⟩

/-- Settings can be taken from the file in the root directory, but not from the link. -/
theorem load_strayLink : (load strayLink "/app/.adherence.toml").toOption = none ∧
    load strayLink "/.adherence.toml" = .ok laterVersion := by
  obtain ⟨-, -, missing, there⟩ := locate_strayLink
  have text : String.fromUTF8? "report.version = \"2.0.0\"".toUTF8 = some "report.version = \"2.0.0\"" := by
    rfl
  have settings : ofToml? "report.version = \"2.0.0\"" = some laterVersion := by decide +kernel
  constructor
  · -- The link leads to a free place, where no file can be read.
    simp [load, FileSystem.read, missing, Except.toOption]
  · rw [load, FileSystem.read, there]
    simp only [text, settings]

/-- The link leads nowhere, so the file in the root directory is the nearest. -/
theorem isNearest_strayLink : IsNearest strayLink (start strayLink "app") "/" := by
  obtain ⟨-, -, missing, there⟩ := locate_strayLink
  obtain ⟨here, up, inApp, inRoot⟩ := steps_strayLink
  rw [start_strayLink]
  refine ⟨1, up, ?_, fun fewer less nearer reached => ?_⟩
  · rw [inRoot, FileSystem.contains, FileSystem.entry?, there]
    rfl
  · -- The only directory before is the application, in which the link counts as nothing.
    obtain rfl : fewer = 0 := by omega
    obtain rfl : "/app" = nearer := Option.some.inj (here.symm.trans reached)
    rw [inApp, FileSystem.contains, FileSystem.entry?, missing]
    rfl

/-- The settings of the root directory hold for the application. -/
theorem loadNearest_strayLink :
    IsNearest strayLink (start strayLink "app") "/" ∧ loadNearest strayLink "app" = (laterVersion, none) := by
  have loaded := (loadNearest_of_steps strayLink "app").2.1 "/" isNearest_strayLink
  rw [steps_strayLink.2.2.2, load_strayLink.2] at loaded
  exact ⟨isNearest_strayLink, loaded⟩

/-- It is not so that the nearest entry of the usual name counts, whatever it is. A link that leads nowhere is an entry
from which no settings can be taken, but it is passed over: those of a directory above hold, without a warning. -/
theorem not_forall_nearest_entry_counts :
    ¬∀ (files : FileSystem) (directory : String) (steps : Nat) (nearest : String),
      iterate? parent? steps (start files directory) = some nearest →
        (∃ place entry, files.locate false (join nearest fileName) = .ok (.taken place entry)) →
          (∀ fewer < steps, ∀ nearer, iterate? parent? fewer (start files directory) = some nearer →
            ¬∃ place entry, files.locate false (join nearer fileName) = .ok (.taken place entry)) →
            (load files (join nearest fileName)).toOption = none →
              ∃ warning, loadNearest files directory = ({}, some warning) := by
  intro counts
  obtain ⟨here, -, inApp, inRoot⟩ := steps_strayLink
  obtain ⟨-, link, -⟩ := locate_strayLink
  obtain ⟨unloadable, loaded⟩ := load_strayLink
  obtain ⟨warning, warned⟩ := counts strayLink "app" 0 "/app" (start_strayLink ▸ here) ⟨_, _, inApp ▸ link⟩
    (fun fewer less => absurd less (Nat.not_lt_zero fewer)) (inApp ▸ unloadable)
  -- The search goes on to the root directory and finds settings there.
  have passed := loadNearest_of_isNearest isNearest_strayLink
  rw [inRoot, loaded] at passed
  exact absurd (congrArg Prod.snd (passed.symm.trans warned)) nofun

end LayerAudit.Config
