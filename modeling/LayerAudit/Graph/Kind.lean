/-!
The closed vocabularies of the graph: kinds of files, kinds of symbols and relations, each with its written name.
A written name is read back by looking it up among all members of its vocabulary.
-/

namespace LayerAudit

/-- What a discovered file is for, as far as its path tells. -/
inductive FileKind
  | uiComponent | stateStore | routerConfig | entryPoint | utility
  | styleSheet | staticData | binaryAsset | other
  deriving DecidableEq, Repr, Inhabited

namespace FileKind

/-- Every kind of file. -/
def all : List FileKind :=
  [uiComponent, stateStore, routerConfig, entryPoint, utility, styleSheet, staticData, binaryAsset, other]

/-- The written name of a kind. -/
def name : FileKind → String
  | uiComponent => "UIComponent"
  | stateStore => "StateStore"
  | routerConfig => "RouterConfig"
  | entryPoint => "EntryPoint"
  | utility => "Utility"
  | styleSheet => "StyleSheet"
  | staticData => "StaticData"
  | binaryAsset => "BinaryAsset"
  | other => "Other"

/-- The kind with a written name. -/
def ofName? (text : String) : Option FileKind := all.find? (·.name == text)

/-- Files of this kind hold script, whole or in a block, and are parsed. -/
def isParseable : FileKind → Bool
  | uiComponent | stateStore | routerConfig | entryPoint | utility => true
  | styleSheet | staticData | binaryAsset | other => false

end FileKind

/-- What a named element of a file is. -/
inductive SymbolKind
  | prop | event | stateField | getter | action | route | externalPackage | store
  deriving DecidableEq, Repr, Inhabited

namespace SymbolKind

/-- Every kind of symbol. -/
def all : List SymbolKind :=
  [prop, event, stateField, getter, action, route, externalPackage, store]

/-- The written name of a kind. -/
def name : SymbolKind → String
  | prop => "Prop"
  | event => "Event"
  | stateField => "StateField"
  | getter => "Getter"
  | action => "Action"
  | route => "Route"
  | externalPackage => "ExternalPackage"
  | store => "Store"

/-- The kind with a written name. -/
def ofName? (text : String) : Option SymbolKind := all.find? (·.name == text)

/-- The section that a symbol's id names between its scope and its name. -/
def sectionName : SymbolKind → String
  | prop => "props"
  | event => "emits"
  | stateField => "state"
  | getter => "getters"
  | action => "actions"
  | route => "routes"
  | externalPackage => "packages"
  | store => "stores"

end SymbolKind

/-- What a directed edge says about its two ends. -/
inductive Relation
  | imports | importsPackage | defines | definesProp | definesEvent | definesRoute
  | usesComponent | usesStoreFile | rendersComponent | readsState | modifiesState | calls
  deriving DecidableEq, Repr, Inhabited

namespace Relation

/-- Every relation. -/
def all : List Relation :=
  [imports, importsPackage, defines, definesProp, definesEvent, definesRoute,
    usesComponent, usesStoreFile, rendersComponent, readsState, modifiesState, calls]

/-- The written name of a relation. -/
def name : Relation → String
  | imports => "IMPORTS"
  | importsPackage => "IMPORTS_PACKAGE"
  | defines => "DEFINES"
  | definesProp => "DEFINES_PROP"
  | definesEvent => "DEFINES_EVENT"
  | definesRoute => "DEFINES_ROUTE"
  | usesComponent => "USES_COMPONENT"
  | usesStoreFile => "USES_STORE_FILE"
  | rendersComponent => "RENDERS_COMPONENT"
  | readsState => "READS_STATE"
  | modifiesState => "MODIFIES_STATE"
  | calls => "CALLS"

/-- The relation with a written name. -/
def ofName? (text : String) : Option Relation := all.find? (·.name == text)

end Relation

end LayerAudit
