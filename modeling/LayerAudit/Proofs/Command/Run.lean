import LayerAudit.Command.Run
import LayerAudit.Proofs.Audit.Discovery
import LayerAudit.Proofs.Audit.Findings
import LayerAudit.Proofs.Command.Reader
import LayerAudit.Proofs.Report.Document
import LayerAudit.Toml.Document

/-!
An audit that cannot start changes nothing. Every other one writes its document, if that is possible, and nothing else,
and its findings decide about the exit code.
-/

namespace LayerAudit

namespace Request

section

variable {request : Request} {order : BindingOrder} {files : FileSystem} {config other : Config} {setup : Setup}
  {audit : Audit} {bound : Option Severity}

/-- The gate is asked for, and some finding is at its grade or above. -/
def Trips (request : Request) (audit : Audit) : Prop :=
  ∃ text bound violation, request.bound = some text ∧ Severity.ofText? text = some bound ∧
    violation ∈ audit.violations ∧ bound.rank ≤ violation.severity.rank

/-- The gate is not passed exactly if it trips. -/
theorem passes_eq_false_iff (read : request.readBound = .ok bound) :
    bound.all (Report.passes audit) = false ↔ request.Trips audit := by
  -- Without a gate every audit passes, and a gate with an unknown grade is not read.
  unfold readBound at read
  cases given : request.bound with
  | none =>
    simp only [given, Except.ok.injEq] at read
    simp [← read, Trips, given]
  | some text =>
    cases grade : Severity.ofText? text with
    | none => simp [given, grade] at read
    | some asked =>
      simp only [given, grade, Except.ok.injEq] at read
      simp [← read, Trips, given, grade, Report.passes, Report.failingCount]

/-- An audit is set up unless a pattern or a glob is invalid. -/
theorem exists_setup_iff [Pattern.Syntax] [Glob.Syntax] : (∃ setup, Request.setup config = .ok setup) ↔
    (∃ words, config.conventions.vocabulary = .ok words) ∧ (∃ policy, Policy.ofConfig config = .ok policy) ∧
      (∀ text ∈ config.project.included, Glob.Syntax.glob? text ≠ none) ∧
      ∀ text ∈ config.project.excluded, Glob.Syntax.glob? text ≠ none := by
  unfold Request.setup Setup.readVocabulary
  -- The vocabulary is read first, and then what an audit is set up with.
  cases config.conventions.vocabulary with
  | error bad => simp
  | ok words =>
    rw [← Setup.exists_ofConfig_iff (some words)]
    cases made : Setup.ofConfig (some words) config <;> simp [made]

/-- The files of an audit are examined if the root is a directory. -/
theorem exists_audit_iff [Script.Syntax] (setup : Setup) (order : BindingOrder) :
    (∃ audit warnings, setup.audit order files request.root = .ok (audit, warnings)) ↔
      files.isDirectory request.root := by
  rw [← Setup.exists_discover_iff setup]
  unfold Setup.audit
  cases setup.discover files request.root with
  | error bad => simp
  | ok paths => exact iff_of_true ⟨_, _, rfl⟩ ⟨_, rfl⟩

variable [Toml.Syntax]

/-- An audit goes by the settings in the file that is asked for, or by the nearest ones. -/
inductive Settled (request : Request) (files : FileSystem) : Config → Prop
  | asked {path config} (given : request.config = some path) (loaded : Config.load files path = .ok config) :
    Settled request files config
  | nearest (noFile : request.config = none) : Settled request files (Config.loadNearest files request.root).1

/-- There are no two settings to go by. -/
theorem Settled.unique (settled : request.Settled files config) (otherSettled : request.Settled files other) :
    config = other := by
  -- The request tells which of the two it is.
  cases settled with
  | asked given loaded =>
    cases otherSettled with
    | asked otherGiven otherLoaded =>
      cases Option.some.inj (given.symm.trans otherGiven)
      exact Except.ok.inj (loaded.symm.trans otherLoaded)
    | nearest noFile => cases given.symm.trans noFile
  | nearest noFile =>
    cases otherSettled with
    | asked given _ => cases given.symm.trans noFile
    | nearest => rfl

/-- The settings can be read, or the file that is asked for is wrong. -/
theorem readConfig_cases (request : Request) (files : FileSystem) :
    (∃ path error, request.config = some path ∧ Config.load files path = .error error ∧
      request.readConfig files = .error (.settings error)) ∨
    ∃ config warnings, request.Settled files config ∧ request.readConfig files = .ok (config, warnings) := by
  unfold readConfig
  -- Without a file that is asked for there are always settings to go by.
  cases given : request.config with
  | none => exact Or.inr ⟨_, _, .nearest given, rfl⟩
  | some path =>
    cases loaded : Config.load files path with
    | error error => exact Or.inl ⟨path, error, rfl, loaded, by simp [loaded]⟩
    | ok config => exact Or.inr ⟨config, [], .asked given loaded, by simp [loaded]⟩

variable [Pattern.Syntax] [Glob.Syntax]

/-- Something that an audit cannot start with. -/
inductive Fault (request : Request) (files : FileSystem) : Prop
  /-- The text for the gate is no grade. -/
  | grade {text} (given : request.bound = some text) (unknown : Severity.ofText? text = none)
  /-- No settings can be taken from the file that is asked for. -/
  | settings {path error} (given : request.config = some path) (failed : Config.load files path = .error error)
  | hook {config bad} (settled : request.Settled files config) (invalid : config.conventions.vocabulary = .error bad)
  | placement {config bad} (settled : request.Settled files config) (invalid : Policy.ofConfig config = .error bad)
  | glob {config text} (settled : request.Settled files config)
    (listed : text ∈ config.project.included ∨ text ∈ config.project.excluded) (invalid : Glob.Syntax.glob? text = none)
  | root (noDirectory : files.isDirectory request.root = false)

/-- Settings that no audit can be set up with are a fault. -/
theorem Settled.fault {error : RunError} (settled : request.Settled files config)
    (failed : Request.setup config = .error error) : request.Fault files := by
  -- Of what is needed to set up an audit, something is missing.
  have noSetup : ¬∃ setup, Request.setup config = .ok setup := by simp [failed]
  rw [exists_setup_iff] at noSetup
  cases words : config.conventions.vocabulary with
  | error bad => exact .hook settled words
  | ok words =>
    cases policy : Policy.ofConfig config with
    | error bad => exact .placement settled policy
    | ok policy =>
      simp only [words, policy, Except.ok.injEq, exists_eq', true_and, not_and_or, not_forall, not_not] at noSetup
      rcases noSetup with ⟨text, listed, invalid⟩ | ⟨text, listed, invalid⟩
      · exact .glob settled (Or.inl listed) invalid
      · exact .glob settled (Or.inr listed) invalid

/-- An audit of some files is set up with what the settings say. -/
def Uses (request : Request) (files : FileSystem) (setup : Setup) : Prop :=
  ∃ config, request.Settled files config ∧ Request.setup config = .ok setup

/-- There are no two setups to use. -/
theorem Uses.unique {otherSetup : Setup} (uses : request.Uses files setup) (also : request.Uses files otherSetup) :
    setup = otherSetup := by
  obtain ⟨config, settled, made⟩ := uses
  obtain ⟨otherConfig, otherSettled, otherMade⟩ := also
  cases settled.unique otherSettled
  exact Except.ok.inj (made.symm.trans otherMade)

variable [Script.Syntax]

/-- What an audit comes to if nothing is wrong. -/
structure Examined (request : Request) (order : BindingOrder) (files : FileSystem) (setup : Setup) (audit : Audit) :
    Prop where
  made : request.Uses files setup
  done : ∃ warnings, setup.audit order files request.root = .ok (audit, warnings)

/-- An audit of some files comes to one result. -/
theorem Examined.unique {otherSetup : Setup} {otherAudit : Audit} (examined : request.Examined order files setup audit)
    (again : request.Examined order files otherSetup otherAudit) : setup = otherSetup ∧ audit = otherAudit := by
  obtain rfl := examined.made.unique again.made
  obtain ⟨_, done⟩ := examined.done
  obtain ⟨_, otherDone⟩ := again.done
  exact ⟨rfl, (Prod.ext_iff.mp (Except.ok.inj (done.symm.trans otherDone))).1⟩

/-- Nothing is wrong where the gate has a grade and the files are examined. -/
theorem Examined.noFault (examined : request.Examined order files setup audit) (read : request.readBound = .ok bound) :
    ¬request.Fault files := by
  -- Everything was read, so that none of the readings is a fault.
  obtain ⟨⟨config, settled, made⟩, warnings, done⟩ := examined
  obtain ⟨⟨words, vocabulary⟩, ⟨policy, placement⟩, included, excluded⟩ := exists_setup_iff.mp ⟨setup, made⟩
  intro fault
  -- A fault in settings is one in those that were read here, as an audit goes by one config only.
  cases fault with
  | grade given unknown => simp [readBound, given, unknown] at read
  | settings given failed =>
    cases settled with
    | asked same loaded =>
      cases Option.some.inj (same.symm.trans given)
      cases loaded.symm.trans failed
    | nearest noFile => cases noFile.symm.trans given
  | hook also invalid =>
    cases settled.unique also
    cases vocabulary.symm.trans invalid
  | placement also invalid =>
    cases settled.unique also
    cases placement.symm.trans invalid
  | glob also listed invalid =>
    cases settled.unique also
    rcases listed with listed | listed
    · exact included _ listed invalid
    · exact excluded _ listed invalid
  | root noDirectory =>
    have directory := (exists_audit_iff setup order).mp ⟨audit, warnings, done⟩
    cases directory.symm.trans noDirectory

/-- An audit fails with a fault and changes nothing, or its files are examined and the result is written. -/
theorem run_cases (request : Request) (order : BindingOrder) (files : FileSystem) (seconds : Int) (colored : Bool) :
    (request.Fault files ∧ ∃ warnings error, request.run order files seconds colored = .ofError files warnings error) ∨
    ∃ bound setup audit warnings, request.readBound = .ok bound ∧ request.Examined order files setup audit ∧
      request.run order files seconds colored = request.conclude files seconds colored bound setup audit warnings := by
  unfold run
  -- The five stages come one after the other, and each one can fail.
  cases read : request.readBound with
  | error error =>
    refine Or.inl ⟨?_, [], error, rfl⟩
    -- Only a text that is no grade fails here.
    unfold readBound at read
    split at read
    · cases read
    · rename_i text given
      split at read
      · cases read
      · exact .grade given ‹_›
  | ok bound =>
    rcases readConfig_cases request files with ⟨path, error, given, failed, stage⟩ | ⟨config, warnings, settled, stage⟩
    · exact Or.inl ⟨.settings given failed, [], _, by rw [stage]⟩
    · rw [stage]
      cases made : Request.setup config with
      | error error => exact Or.inl ⟨settled.fault made, warnings, error, by simp [made]⟩
      | ok setup =>
        cases done : setup.audit order files request.root with
        | error bad =>
          -- An audit fails on a root that is no directory, and on nothing else.
          refine Or.inl ⟨.root (eq_false_of_ne_true fun directory => ?_), warnings, .root bad, ?_⟩
          · simpa [done] using (exists_audit_iff setup order).mpr directory
          · simp [made, examine, done]
        | ok result =>
          have examined : request.Examined order files setup result.1 := ⟨⟨config, settled, made⟩, result.2, done⟩
          refine Or.inr ⟨bound, setup, result.1, warnings ++ result.2.map Warning.message, rfl, examined, ?_⟩
          simp [made, examine, done]

/-- What a run leaves behind that wrote its document. -/
structure Ran (request : Request) (files : FileSystem) (seconds : Int) (bound : Option Severity) (setup : Setup)
    (audit : Audit) (outcome : Outcome) : Prop where
  wellFormed : outcome.files.WellFormed
  wrote : Report.Wrote files outcome.files (request.target setup.config)
    (request.document setup audit seconds ++ "\n").toUTF8
  again : Report.Writable outcome.files (request.target setup.config)
  code : outcome.code = exitCode bound audit

/-- Where the document can be written, it is written. -/
theorem ran_of_writable (well : files.WellFormed) (read : request.readBound = .ok bound)
    (examined : request.Examined order files setup audit)
    (writable : Report.Writable files (request.target setup.config))
    (seconds : Int) (colored : Bool) :
    request.Ran files seconds bound setup audit (request.run order files seconds colored) := by
  rcases run_cases request order files seconds colored with
    ⟨fault, _⟩ | ⟨otherBound, otherSetup, otherAudit, warnings, otherRead, otherExamined, outcome⟩
  · exact absurd fault (examined.noFault read)
  · -- What this run has examined is what is known to be examined.
    obtain rfl := Except.ok.inj (read.symm.trans otherRead)
    obtain ⟨rfl, rfl⟩ := examined.unique otherExamined
    obtain ⟨after, done, wellAfter, wrote, again⟩ := writable.writes well (request.document setup audit seconds)
    rw [outcome, conclude, done]
    exact ⟨wellAfter, wrote, again, rfl⟩

/-- The files after a run are those after writing its document, also if that fails. -/
theorem files_of_run (read : request.readBound = .ok bound) (examined : request.Examined order files setup audit)
    (seconds : Int) (colored : Bool) : (request.run order files seconds colored).files =
      (Report.writeDocument files (request.target setup.config) (request.document setup audit seconds)).1 := by
  -- Without a fault the run goes on to write its document.
  rcases run_cases request order files seconds colored with
    ⟨fault, _⟩ | ⟨otherBound, otherSetup, otherAudit, warnings, otherRead, otherExamined, outcome⟩
  · exact absurd fault (examined.noFault read)
  · obtain ⟨rfl, rfl⟩ := examined.unique otherExamined
    rw [outcome, conclude]
    split <;> simp [*, Outcome.ofError]

/-- A run that succeeds has written its document. -/
theorem writable_of_run {seconds : Int} {colored : Bool}
    (success : (request.run order files seconds colored).code ≠ 2) :
    ∃ bound setup audit, request.readBound = .ok bound ∧ request.Examined order files setup audit ∧
      Report.Writable files (request.target setup.config) := by
  -- A fault ends with a code of its own, which is excluded.
  rcases run_cases request order files seconds colored with
    ⟨_, warnings, error, outcome⟩ | ⟨bound, setup, audit, warnings, read, examined, outcome⟩
  · exact absurd (by rw [outcome, Outcome.ofError]) success
  · refine ⟨bound, setup, audit, read, examined,
      Report.writable_of_writeDocument (request.document setup audit seconds) ?_⟩
    rw [outcome, conclude] at success
    -- Writing succeeded, since its failure would have the code that is excluded.
    split at success
    · exact absurd rfl success
    · rename_i written
      exact congrArg Prod.snd written

/-- What an audit does: with a fault nothing, and otherwise it writes its document, if that is possible, and tells by
its exit code whether the gate trips. -/
structure FailsOrWrites (request : Request) (order : BindingOrder) (files : FileSystem) (seconds : Int)
    (outcome : Outcome) : Prop where
  failure : request.Fault files → outcome.code = 2 ∧ outcome.files = files
  success : ¬request.Fault files → ∃ setup audit, request.Examined order files setup audit ∧
    (Report.Writable files (request.target setup.config) →
      Report.Wrote files outcome.files (request.target setup.config)
          (request.document setup audit seconds ++ "\n").toUTF8 ∧
        (request.Trips audit → outcome.code = 1) ∧ (¬request.Trips audit → outcome.code = 0))

/-- An audit fails without a change, or writes its document and nothing else. -/
theorem failsOrWrites_run (well : files.WellFormed) (request : Request) (order : BindingOrder) (seconds : Int)
    (colored : Bool) :
    request.FailsOrWrites order files seconds (request.run order files seconds colored) := by
  rcases run_cases request order files seconds colored with
    ⟨fault, warnings, error, outcome⟩ | ⟨bound, setup, audit, warnings, read, examined, _⟩
  · exact ⟨fun _ => by simp [outcome, Outcome.ofError], fun noFault => absurd fault noFault⟩
  · refine ⟨fun fault => absurd fault (examined.noFault read), fun _ => ⟨setup, audit, examined, fun writable => ?_⟩⟩
    have ran := ran_of_writable well read examined writable seconds colored
    rw [ran.code]
    refine ⟨ran.wrote, fun trips => ?_, fun holds => ?_⟩
    · -- A gate that trips is one, and the findings alone decide.
      rw [exitCode, (passes_eq_false_iff read).mpr trips]
      rfl
    · have passes : bound.all (Report.passes audit) = true := by
        simpa using mt (passes_eq_false_iff read).mp holds
      rw [exitCode, passes]
      rfl

end

end Request

/-- A call of the program for an audit fails without a change, or writes its document and nothing else. -/
theorem Command.audit_fails_or_writes [Script.Syntax] [Pattern.Syntax] [Glob.Syntax] [Toml.Syntax] {files : FileSystem}
    {arguments : List String} {command : Command} (well : files.WellFormed)
    (fit : ofArguments? arguments = some command) (plain : AsksAudit (words arguments)) (order : BindingOrder)
    (seconds : Int) (colored : Bool) : ∃ request : Request, command = .audit request ∧
      request.SaidBy (words arguments) ∧
      request.FailsOrWrites order files seconds (runArguments arguments order files seconds colored) := by
  obtain ⟨request, rfl, said⟩ := exists_request fit plain
  refine ⟨request, rfl, said, ?_⟩
  rw [runArguments, fit]
  exact Request.failsOrWrites_run well request order seconds colored

/-! ### An application without settings -/

open Setup (application locate_application)

variable {entries beside : List (String × FileEntry)}

/-- Settings for the application are looked for in it and in the root directory. -/
theorem settingsPaths_application (entries beside : List (String × FileEntry)) :
    (Location.lineage (((application entries beside).canonical? "app").getD "app")).map
      (Location.join · Config.fileName) = ["/app/.adherence.toml", "/.adherence.toml"] := by
  -- The directory is at the place that its name tells.
  have start : (application entries beside).canonical? "app" = some ("/" ++ Text.joinWith "/" ["app"]) := by
    simp only [FileSystem.canonical?, locate_application]
  rw [start]
  rfl

/-- Where there is no file with settings, looking for one ends in a free place. -/
theorem locate_settings_application (noSettings : Sorted.get? Config.fileName entries = none)
    (noneBeside : Sorted.get? Config.fileName beside = none) :
    (application entries beside).locate true "/app/.adherence.toml" = .ok (.free ["app", ".adherence.toml"] false) ∧
      (application entries beside).locate true "/.adherence.toml" = .ok (.free [".adherence.toml"] false) := by
  have absolute : Text.isStartOf "/" "/app/.adherence.toml" = true ∧ Text.isStartOf "/" "/.adherence.toml" = true := by
    decide
  have segments : Location.segments "/app/.adherence.toml" = ["", "app", ".adherence.toml"] ∧
      Location.segments "/.adherence.toml" = ["", ".adherence.toml"] := by
    decide
  have short : "app".utf8ByteSize = 3 ∧ ".adherence.toml".utf8ByteSize = 15 := by decide
  rw [Config.fileName] at noSettings noneBeside
  -- The first path leads through the application, the second one stays above it.
  simp [FileSystem.locate, absolute, segments, FileSystem.follow, short, FileSystem.longestName, application,
    Sorted.get?_cons, noSettings, noneBeside]

/-- Without a file with settings the usual ones are the nearest. -/
theorem loadNearest_application (noSettings : Sorted.get? Config.fileName entries = none)
    (noneBeside : Sorted.get? Config.fileName beside = none) :
    Config.loadNearest (application entries beside) "app" = ({}, none) := by
  obtain ⟨inside, above⟩ := locate_settings_application noSettings noneBeside
  have paths := settingsPaths_application entries beside
  -- On neither path is there a file.
  simp only [Config.loadNearest, Config.nearest?, paths, List.find?_cons, List.find?_nil, FileSystem.contains,
    FileSystem.entry?, inside, above, Option.isSome_none]

/-- The usual settings are those that an audit goes by without a file. -/
theorem Request.setup_usual : Request.setup {} = .ok Setup.usual := by
  have readable : (Setup.readVocabulary {}).toOption.isSome := rfl
  have made := Setup.ofConfig_usual
  unfold Request.setup
  -- The usual hooks are read, and the usual rules and globs were read before.
  cases read : Setup.readVocabulary {} with
  | error bad =>
    rw [read] at readable
    cases readable
  | ok words =>
    rw [read] at made
    simp only [Except.toOption] at made
    simp only [made]

/-- An application without settings goes by the usual ones. -/
theorem Request.examined_application [Script.Syntax] (request : Request) (order : BindingOrder) {paths : List String}
    (noSettings : Sorted.get? Config.fileName entries = none)
    (noneBeside : Sorted.get? Config.fileName beside = none) (root : request.root = "app")
    (noFile : request.config = none) (found : Setup.usual.discover (application entries beside) "app" = .ok paths) :
    request.Examined order (application entries beside) Setup.usual
      (Setup.usual.auditOf order (application entries beside) "app" paths) := by
  -- The request names no file, so that the nearest settings count, and there are none.
  have nearest : request.Settled (application entries beside)
      (Config.loadNearest (application entries beside) request.root).1 := .nearest noFile
  rw [root, loadNearest_application noSettings noneBeside] at nearest
  refine ⟨⟨{}, nearest, setup_usual⟩, ?_⟩
  rw [root, Setup.audit_of_discover order found]
  exact ⟨_, rfl⟩

/-- There is nothing under the path of a document beside the application. -/
theorem locate_beside (throughLast : Bool) (entries : List (String × FileEntry)) :
    (application entries []).locate throughLast "doc.json" = .ok (.free ["doc.json"] false) := by
  have path : Text.joinWith "/" ([] ++ ["doc.json"]) = "doc.json" := rfl
  rw [← path]
  exact FileSystem.locate_free throughLast (by decide) ⟨_, FileEntry.at?_nil _⟩
    (by simp [application, Sorted.get?_cons])

/-- A document beside the application becomes one more file there. -/
theorem writeDocument_beside (entries : List (String × FileEntry)) (text : String) :
    Report.writeDocument (application entries []) "doc.json" text =
      ((application entries []).put ["doc.json"] (.file (text ++ "\n").toUTF8), none) := by
  -- The document lies in the directory from which the run starts.
  have parent : Location.parent? "doc.json" = some "" := rfl
  have above : (Location.lineage "").filter (fun p => p ≠ "" ∧ p ≠ "/") = [] := rfl
  simp only [Report.writeDocument, Report.ensureParent, parent, FileSystem.ensureDirectories, above,
    FileSystem.ensureLineage, FileSystem.write, locate_beside, Bool.false_eq_true, if_false]

/-- The request for an audit of the application with a gate, whose document goes beside it. -/
def Request.gated : Request where
  root := "app"
  output := some "doc.json"
  bound := some "error"

/-- Two empty scripts can be audited, and the document is written beside the application. -/
theorem Command.audit_fails_or_writes_twoScripts :
    (Setup.twoScripts .empty .empty).WellFormed ∧
      ofArguments? ["app", "doc.json", "--fail-on", "error"] = some (.audit .gated) ∧
      AsksAudit (words ["app", "doc.json", "--fail-on", "error"]) ∧
      ∃ request : Request, Command.audit .gated = .audit request ∧
        request.SaidBy (words ["app", "doc.json", "--fail-on", "error"]) ∧
        request.FailsOrWrites .sorted (Setup.twoScripts .empty .empty) 0
          (runArguments ["app", "doc.json", "--fail-on", "error"] .sorted (Setup.twoScripts .empty .empty) 0 false) ∧
        ¬request.Fault (Setup.twoScripts .empty .empty) ∧
        Report.Writable (Setup.twoScripts .empty .empty) (request.target Setup.usual.config) := by
  have fit : ofArguments? ["app", "doc.json", "--fail-on", "error"] = some (.audit .gated) := rfl
  have plain : AsksAudit (words ["app", "doc.json", "--fail-on", "error"]) := by decide
  have well := Setup.wellFormed_application (Setup.wellFormed_twoEntries .empty .empty)
  -- The theorem gives the request and what the run does; that it has no fault is shown by examining it.
  obtain ⟨request, same, said, outcome⟩ := audit_fails_or_writes well fit plain .sorted 0 false
  obtain rfl := Command.audit.inj same
  refine ⟨well, fit, plain, _, rfl, said, outcome, ?_, ?_⟩
  · have read : Request.gated.readBound = .ok (some .error) := rfl
    have examined := Request.examined_application .gated .sorted rfl rfl rfl rfl
      (Setup.discover_twoScripts .empty .empty)
    exact examined.noFault read
  · exact Report.writable_of_writeDocument "" (congrArg Prod.snd (writeDocument_beside _ _))

end LayerAudit
