import LayerAudit.Extraction.Component
import LayerAudit.Extraction.Routes
import LayerAudit.Extraction.Store
import LayerAudit.Tree.Source

/-! The extraction from a file of some kind: its imports, and what files of its kind declare. -/

namespace LayerAudit

/-- The hook pattern of the conventions is no pattern. -/
structure BadHookPattern where
  pattern : String
  deriving DecidableEq, Repr, Inhabited

/-- The text about a bad hook pattern. -/
def BadHookPattern.message (bad : BadHookPattern) : String := s!"invalid store hook pattern: {bad.pattern}"

/-- The vocabulary of some conventions. -/
def Conventions.vocabulary [Pattern.Syntax] (conventions : Conventions) : Except BadHookPattern Vocabulary :=
  -- The pattern is the only one of these settings that can be bad.
  match Pattern.Syntax.pattern? conventions.storeHookPattern with
  | none => .error ⟨conventions.storeHookPattern⟩
  | some storeHook => .ok
    { propsMacro := conventions.propsMacro
      emitsMacro := conventions.emitsMacro
      storeFactory := conventions.storeFactory
      storeHook }

/-- What is extracted from a parsed file of some kind, where its imported names are met in some order. -/
def SourceModule.extract (order : BindingOrder) (words : Vocabulary) (kind : FileKind) (file : SourceModule) :
    Extraction :=
  file.extractImports ++
    match kind with
    | .uiComponent => Component.extract (order.order file) words file
    | .stateStore => Store.extract words.storeFactory file
    | .routerConfig => Routes.extract file
    -- Files of other kinds only have imports.
    | _ => {}

/-- What is extracted from the content of a file, and whether only the second parse succeeded. -/
def extractFile [Script.Syntax] (order : BindingOrder) (words : Vocabulary) (scope : ImportScope) (path : String)
    (kind : FileKind) (content : String) : Except Unparseable (Extraction × Bool) :=
  match ParsedFile.ofContent path content with
  | .error failure => .error failure
  | .ok parsed => .ok (SourceModule.extract order words kind ⟨path, parsed.tree, scope⟩, parsed.usedFallback)

end LayerAudit
