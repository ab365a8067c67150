import LayerAudit.Config.Decode
import LayerAudit.Files.System

/-! Where settings come from: a given file, or the nearest file of the usual name in a directory and those above it. -/

namespace LayerAudit

/-- Why no settings can be taken from a file. -/
inductive ConfigError
  /-- The file cannot be read, for a reason of the file system unless its bytes are no text. -/
  | unreadable (path : String) (cause : Option FileFailure)
  | malformed (path : String)
  deriving DecidableEq, Repr, Inhabited

/-- The file that an error is about. -/
def ConfigError.path : ConfigError → String
  | unreadable path _ => path
  | malformed path => path

/-- The text of an error. -/
def ConfigError.message : ConfigError → String
  | unreadable path _ => s!"failed to read config file '{path}'"
  | malformed path =>
    s!"failed to parse '{path}'. Run \x60adherence --init\x60 to create a valid config file"

/-- The text of an error with its cause. -/
def ConfigError.fullMessage (error : ConfigError) : String :=
  match error with
  | unreadable _ (some cause) => error.message ++ ": " ++ cause.message
  | unreadable _ none => error.message ++ ": stream did not contain valid UTF-8"
  | malformed _ => error.message

namespace Config

variable [Toml.Syntax]

/-- The usual name of a file with settings. -/
def fileName : String := ".adherence.toml"

/-- The settings in a file. -/
def load (files : FileSystem) (path : String) : Except ConfigError Config :=
  match files.read path with
  -- A file that cannot be opened and one that is no text are told apart by the cause.
  | .error failure => .error (.unreadable path (some failure))
  | .ok content =>
    match String.fromUTF8? content with
    | none => .error (.unreadable path none)
    | some text =>
      match ofToml? text with
      | none => .error (.malformed path)
      | some config => .ok config

/-- The nearest file of the usual name, in a directory or one above it. A directory that is not there is searched as it
is written. -/
def nearest? (files : FileSystem) (directory : String) : Option String :=
  let start := (files.canonical? directory).getD directory
  ((Location.lineage start).map fun above => Location.join above fileName).find? files.contains

/-- The settings for a directory, and the error if there is a nearest file but no settings can be taken from it. Then, and
where there is no file at all, the usual settings hold. -/
def loadNearest (files : FileSystem) (directory : String) : Config × Option ConfigError :=
  match nearest? files directory with
  -- Without a file there is nothing to warn about.
  | none => ({}, none)
  | some path =>
    match load files path with
    | .ok config => (config, none)
    -- What can be read above the nearest file does not count.
    | .error error => ({}, some error)

end Config

end LayerAudit
