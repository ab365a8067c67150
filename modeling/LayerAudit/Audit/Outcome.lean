import LayerAudit.Audit.Setup
import LayerAudit.Classify
import LayerAudit.Digest.Sha256
import LayerAudit.Files.System

/-! What one file adds to an audit. Whatever is wrong with a file becomes a finding about it and concerns no other. -/

namespace LayerAudit

/-- What is wrong with a file. -/
inductive FileError
  | unreadable (path : String) (cause : FileFailure)
  /-- The bytes of the file are no text. -/
  | notText (path : String)
  | unparseable (path : String) (failure : Unparseable)
  deriving DecidableEq, Repr, Inhabited

/-- The text of an error. -/
def FileError.message : FileError → String
  | unreadable path cause => s!"failed to read {path}: {cause.message}"
  | notText path => s!"{path} is not valid UTF-8"
  | unparseable path failure => failure.message path

/-- What an audit tells about beside its findings. -/
inductive Warning
  | unread (error : FileError)
  | unanalyzed (error : FileError)
  /-- A store with a name that is taken already. -/
  | repeatedStore (id owner : String)
  deriving DecidableEq, Repr, Inhabited

/-- The text of a warning. -/
def Warning.message : Warning → String
  | unread error => error.message
  | unanalyzed error => "vue analyzer: " ++ error.message
  | repeatedStore id owner => s!"store \x60{id}\x60 in {owner} is already defined; keeping the first definition"

/-- What one file adds. -/
structure FileOutcome where
  file : Option FileNode := none
  extraction : Extraction := {}
  violations : List Violation := []
  warnings : List Warning := []
  deriving DecidableEq, Repr, Inhabited

namespace Setup

variable [Script.Syntax]

/-- The finding about an error of a file. -/
def violationOf (setup : Setup) (kind : ViolationKind) (path : String) (error : FileError) : Violation where
  kind
  severity := setup.config.rules.severityOf kind
  file := path
  message := error.message

/-- The node of a file with some content. -/
def fileNode (setup : Setup) (path : String) (content : ByteArray) : FileNode :=
  -- The kind decides how the purpose is read off the path. The layer depends on the path alone.
  let kind := setup.config.conventions.kindOf path
  { id := path
    path
    hash := Digest.sha256 content
    kind
    purpose := setup.config.conventions.purposeOf kind path
    layer := (setup.policy.layering.layerOf? path).map (·.name) }

/-- What is extracted from the bytes of a file. -/
def extract (order : BindingOrder) (words : Vocabulary) (scope : ImportScope) (path : String) (kind : FileKind)
    (content : ByteArray) : Except FileError Extraction :=
  -- Bytes that are no text are an error of the contents, while the file itself is known.
  match String.fromUTF8? content with
  | none => .error (.notText path)
  | some text =>
    match extractFile order words scope path kind text with
    | .error failure => .error (.unparseable path failure)
    | .ok (extraction, _) => .ok extraction

/-- What a file with some content adds. -/
def examineContent (setup : Setup) (order : BindingOrder) (scope : ImportScope) (path : String)
    (content : ByteArray) : FileOutcome :=
  let file := setup.fileNode path content
  -- The placement is checked whether or not the contents can be read.
  let placement := (setup.policy.checkPlacement file).toList
  match setup.vocabulary with
  | some words =>
    -- Without a vocabulary, and for kinds that hold no script, nothing is extracted.
    if file.kind.isParseable then
      match extract order words scope path file.kind content with
      | .ok extraction => { file := some file, extraction, violations := placement }
      | .error error =>
        { file := some file
          violations := placement ++ [setup.violationOf .parsing path error]
          -- An error of the contents adds a finding and a warning, and keeps the node of the file.
          warnings := [.unanalyzed error] }
    else { file := some file, violations := placement }
  | none => { file := some file, violations := placement }

/-- What a file below a source root adds. -/
def examine (setup : Setup) (order : BindingOrder) (files : FileSystem) (root : String) (scope : ImportScope)
    (path : String) : FileOutcome :=
  let place := Location.join root path
  match files.read place with
  | .error cause =>
    -- A file that cannot be read has no node, since its bytes are needed for the hash.
    let error := FileError.unreadable place cause
    { violations := [setup.violationOf .reading path error], warnings := [.unread error] }
  | .ok content => setup.examineContent order scope path content

end Setup

end LayerAudit
