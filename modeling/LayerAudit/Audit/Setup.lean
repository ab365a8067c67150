import LayerAudit.Extraction.OfFile
import LayerAudit.Glob.Basic
import LayerAudit.Policy

/-! Everything that is fixed before the first file is looked at. -/

namespace LayerAudit

/-- Why an audit cannot start. -/
inductive SetupError
  | hook (bad : BadHookPattern)
  | placement (bad : BadPlacement)
  | glob (text : String)
  deriving DecidableEq, Repr, Inhabited

/-- The text of an error. -/
def SetupError.message : SetupError → String
  | hook bad => bad.message
  | placement bad => bad.message
  | glob text => s!"invalid glob '{text}'"

/-- What an audit goes by. -/
structure Setup where
  config : Config
  policy : Policy
  included : List Glob
  excluded : List Glob
  /-- The names that extraction looks for, if contents are analyzed at all. -/
  vocabulary : Option Vocabulary
  deriving Repr, Inhabited

namespace Setup

/-- Read some globs. -/
def readGlobs [Glob.Syntax] (texts : List String) : Except SetupError (List Glob) :=
  texts.mapM fun text =>
    match Glob.Syntax.glob? text with
    | some glob => .ok glob
    | none => .error (.glob text)

/-- The names that extraction looks for. -/
def readVocabulary [Pattern.Syntax] (config : Config) : Except SetupError Vocabulary :=
  match config.conventions.vocabulary with
  | .ok vocabulary => .ok vocabulary
  | .error bad => .error (.hook bad)

/-- The placement rules and the allow-lists. -/
def readPolicy [Pattern.Syntax] (config : Config) : Except SetupError Policy :=
  match Policy.ofConfig config with
  | .ok policy => .ok policy
  | .error bad => .error (.placement bad)

/-- What an audit with some settings goes by, apart from the names that extraction looks for. -/
def ofConfig [Pattern.Syntax] [Glob.Syntax] (vocabulary : Option Vocabulary) (config : Config) :
    Except SetupError Setup := do
  -- In this order, so that of several errors the one of the policy is told, then the one of the first bad glob.
  let policy ← readPolicy config
  let included ← readGlobs config.project.included
  let excluded ← readGlobs config.project.excluded
  return { config, policy, included, excluded, vocabulary }

/-- A path is one of those to be analyzed. -/
def selects (setup : Setup) (path : String) : Bool :=
  setup.included.any (·.accepts path) && !setup.excluded.any (·.accepts path)

end Setup

end LayerAudit
