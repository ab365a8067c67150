import LayerAudit.Audit.Basic
import LayerAudit.Command.Reader
import LayerAudit.Config.Load
import LayerAudit.Config.Usual
import LayerAudit.Report.Document
import LayerAudit.Report.Terminal

/-!
What a command does to the files, and what it shows. An audit writes one document, and only when nothing is wrong with
the settings and the source root.
-/

namespace LayerAudit

/-- Why a command fails. -/
inductive RunError
  /-- The text for the gate is no grade. -/
  | unknownGrade (text : String)
  | settings (error : ConfigError)
  | setup (error : SetupError)
  | root (bad : BadRoot)
  | document (error : Report.WriteError)
  /-- A file with settings is there already. -/
  | settingsPresent (path : String)
  | settingsUnwritten (path : String) (cause : FileFailure)
  deriving DecidableEq, Repr, Inhabited

/-- The text of an error, with its causes. -/
def RunError.message : RunError → String
  -- These two have no cause of their own. The others name it behind the text of what failed.
  | unknownGrade text => s!"unknown severity: {text}"
  | settings error => error.fullMessage
  -- Only the pattern for hooks is read for the extraction. Other patterns belong to the policy.
  | setup (.hook bad) => "failed to initialize Vue analyzer: " ++ bad.message
  | setup error => error.message
  | root bad => bad.message
  | document error => error.fullMessage
  | settingsPresent path => s!"{path} already exists. Use --force to overwrite."
  | settingsUnwritten path cause => s!"failed to write {path}: {cause.message}"

/-- What a command leaves behind. -/
structure Outcome where
  /-- The exit code: 0 for success, 1 for a gate that is not passed, 2 for an error. -/
  code : Nat
  /-- What is shown on the standard output. -/
  shown : String := ""
  /-- What is told on the error channel. -/
  told : List String := []
  files : FileSystem
  deriving Inhabited

/-- The outcome of an error. -/
def Outcome.ofError (files : FileSystem) (warnings : List String) (error : RunError) : Outcome where
  code := 2
  told := warnings ++ ["Error: " ++ error.message]
  files

namespace Request

/-- The grade of the gate. -/
def readBound (request : Request) : Except RunError (Option Severity) :=
  match request.bound with
  -- Without a gate there is nothing to read.
  | none => .ok none
  | some text =>
    match Severity.ofText? text with
    | some bound => .ok (some bound)
    | none => .error (.unknownGrade text)

/-- The warning about a nearest file that no settings can be taken from. -/
def settingsWarning (error : ConfigError) : String :=
  s!"failed to load config from '{error.path}': {error.fullMessage}. Using defaults."

/-- The settings, with the warnings about them. A file that is asked for has to be right. -/
def readConfig [Toml.Syntax] (request : Request) (files : FileSystem) : Except RunError (Config × List String) :=
  match request.config with
  -- A file that is asked for either loads or ends the run.
  | some path =>
    match Config.load files path with
    | .ok config => .ok (config, [])
    | .error error => .error (.settings error)
  | none =>
    -- The nearest file may fail. Then the usual settings hold, and one warning tells so.
    let (config, error) := Config.loadNearest files request.root
    .ok (config, error.toList.map settingsWarning)

/-- What an audit with some settings goes by. -/
def setup [Pattern.Syntax] [Glob.Syntax] (config : Config) : Except RunError Setup :=
  -- The names for the extraction are read first, so their error comes before one of the policy or of a glob.
  match Setup.readVocabulary config with
  | .error error => .error (.setup error)
  | .ok words =>
    match Setup.ofConfig (some words) config with
    | .error error => .error (.setup error)
    | .ok setup => .ok setup

/-- The audit that is asked for, with its warnings. -/
def examine [Script.Syntax] (request : Request) (order : BindingOrder) (files : FileSystem) (setup : Setup) :
    Except RunError (Audit × List Warning) :=
  match setup.audit order files request.root with
  | .error bad => .error (.root bad)
  | .ok result => .ok result

/-- Where the document goes. -/
def target (request : Request) (config : Config) : String :=
  request.output.getD (Location.join request.root config.report.output)

/-- The text of the document at a point in time. -/
def document (request : Request) (setup : Setup) (audit : Audit) (seconds : Int) : String :=
  Report.documentText (Report.document audit setup.policy setup.config.report seconds) request.isCompact

/-- The verdict of the gate, if there is one. -/
def verdict (colored : Bool) (bound : Option Severity) (audit : Audit) : String :=
  match bound with
  | some bound => Report.verdictText colored audit bound
  | none => ""

/-- The exit code of an audit whose document is written. -/
def exitCode (bound : Option Severity) (audit : Audit) : Nat := if bound.all (Report.passes audit) then 0 else 1

/-- Write the document of an audit, then show its summary and the verdict. -/
def conclude (request : Request) (files : FileSystem) (seconds : Int) (colored : Bool) (bound : Option Severity)
    (setup : Setup) (audit : Audit) (warnings : List String) : Outcome :=
  -- Files that were made on the way stay, also when the document itself cannot be written.
  let path := request.target setup.config
  match Report.writeDocument files path (request.document setup audit seconds) with
  | (files, some error) => .ofError files warnings (.document error)
  | (files, none) =>
    { code := exitCode bound audit
      shown := Report.summaryText colored audit path ++ verdict colored bound audit
      told := warnings
      files }

variable [Script.Syntax] [Pattern.Syntax] [Glob.Syntax] [Toml.Syntax]

/-- Do an audit, in which imported names are met in some order. -/
def run (request : Request) (order : BindingOrder) (files : FileSystem) (seconds : Int) (colored : Bool) : Outcome :=
  -- The gate, the settings, the setup and the source root, in this order. The first error ends the run.
  match request.readBound with
  | .error error => .ofError files [] error
  | .ok bound =>
    match request.readConfig files with
    | .error error => .ofError files [] error
    | .ok (config, warnings) =>
      match setup config with
      | .error error => .ofError files warnings error
      | .ok setup =>
        match request.examine order files setup with
        | .error error => .ofError files warnings error
        | .ok (audit, more) =>
          -- Warnings about the settings come before those about files.
          request.conclude files seconds colored bound setup audit (warnings ++ more.map Warning.message)

end Request

namespace Command

/-- Make a file with the usual settings in a directory. -/
def createSettings (root : String) (overwrite : Bool) (files : FileSystem) : Outcome :=
  let path := Location.join root Config.fileName
  -- An earlier file is kept, unless it may be overwritten.
  if files.contains path && !overwrite then .ofError files [] (.settingsPresent path)
  else
    match files.write path Config.usualText.toUTF8 with
    | .error cause => .ofError files [] (.settingsUnwritten path cause)
    | .ok files => { code := 0, shown := s!"Created {path} with default configuration.\n", files }

variable [Script.Syntax] [Pattern.Syntax] [Glob.Syntax] [Toml.Syntax]

/-- What a command does, at a point in time. Only an audit meets imported names in some order. -/
def run (command : Command) (order : BindingOrder) (files : FileSystem) (seconds : Int) (colored : Bool) : Outcome :=
  match command with
  -- Both texts are known beforehand, and no file is looked at.
  | help => { code := 0, shown := helpText, files }
  | version => { code := 0, shown := versionText, files }
  | create root overwrite => createSettings root overwrite files
  | audit request => request.run order files seconds colored

/-- What a call of the program does, at a point in time. Arguments that do not fit together change nothing. -/
def runArguments (arguments : List String) (order : BindingOrder) (files : FileSystem) (seconds : Int)
    (colored : Bool) : Outcome :=
  match ofArguments? arguments with
  | some command => command.run order files seconds colored
  | none => { code := 2, told := ["error: the arguments do not fit together", usageText], files }

end Command

end LayerAudit
