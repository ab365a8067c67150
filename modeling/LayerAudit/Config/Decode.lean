import LayerAudit.Config.Basic
import LayerAudit.Toml.Value

/-!
Settings from the tables of a configuration document. A missing setting keeps its usual value and an unknown one is
passed over, but a setting of the wrong form refuses the whole document.
-/

namespace LayerAudit

namespace Config

open Toml (Value)

/-! ### Values -/

/-- A text. -/
def text? : Value → Option String
  | .text value => some value
  | _ => none

/-- A whole number from 0 on that fits in 32 bits. -/
def number? : Value → Option Nat
  | .integer value => if 0 ≤ value ∧ value.toNat < UInt32.size then some value.toNat else none
  | _ => none

/-- A truth value. -/
def truth? : Value → Option Bool
  | .truth value => some value
  | _ => none

/-- A list of things of one form. -/
def list? {α : Type} (read? : Value → Option α) : Value → Option (List α)
  | .list elements => elements.mapM read?
  | _ => none

/-- A table of things of one form, sorted by name. -/
def table? {α : Type} (read? : Value → Option α) : Value → Option (List (String × α))
  | .table fields => do
    let entries ← fields.mapM fun field => do return (field.1, ← read? field.2)
    return Sorted.ofList entries
  | _ => none

/-- One of some names: a text, or the only key of a table with nothing in it. -/
def name? {α : Type} (ofName? : String → Option α) : Value → Option α
  | .text value => ofName? value
  | .table [(name, .table [])] => ofName? name
  | .table [(name, .list [])] => ofName? name
  | _ => none

/-! ### Records -/

/-- A record as named values: a table, or a list with the values of the fields in their order. -/
def record? (names : List String) : Value → Option (List (String × Value))
  | .table fields => some fields
  | .list elements => some (names.zip elements)
  | _ => none

/-- A field that has to be there. -/
def needed? {α : Type} (read? : Value → Option α) (name : String) (fields : List (String × Value)) : Option α :=
  (fields.lookup name).bind read?

/-- A field that keeps its usual value if it is missing. -/
def fieldOr? {α : Type} (read? : Value → Option α) (name : String) (usual : α) (fields : List (String × Value)) :
    Option α :=
  match fields.lookup name with
  | some value => read? value
  | none => some usual

/-- Which files are analyzed. -/
def project? (value : Value) : Option Project := do
  -- The names stand in the order of the fields, as a list may leave them out.
  let fields ← record? ["include", "exclude", "aliases", "source_extensions"] value
  let usual : Project := {}
  return {
    included := ← fieldOr? (list? text?) "include" usual.included fields
    excluded := ← fieldOr? (list? text?) "exclude" usual.excluded fields
    aliases := ← fieldOr? (table? text?) "aliases" usual.aliases fields
    sourceExtensions := ← fieldOr? (list? text?) "source_extensions" usual.sourceExtensions fields }

/-- The names by which files are recognized. -/
def conventions? (value : Value) : Option Conventions := do
  let fields ← record? ["shared_ui_prefix", "features_prefix", "pages_prefix", "store_suffixes", "store_factory",
    "store_hook_pattern", "props_macro", "emits_macro"] value
  let usual : Conventions := {}
  return {
    sharedUi := ← fieldOr? text? "shared_ui_prefix" usual.sharedUi fields
    features := ← fieldOr? text? "features_prefix" usual.features fields
    pages := ← fieldOr? text? "pages_prefix" usual.pages fields
    storeSuffixes := ← fieldOr? (list? text?) "store_suffixes" usual.storeSuffixes fields
    storeFactory := ← fieldOr? text? "store_factory" usual.storeFactory fields
    storeHookPattern := ← fieldOr? text? "store_hook_pattern" usual.storeHookPattern fields
    propsMacro := ← fieldOr? text? "props_macro" usual.propsMacro fields
    emitsMacro := ← fieldOr? text? "emits_macro" usual.emitsMacro fields }

/-- A layer. -/
def layer? (value : Value) : Option LayerSpec := do
  let fields ← record? ["name", "rank", "prefix"] value
  return {
    -- Nothing about a layer has a usual value.
    name := ← needed? text? "name" fields
    rank := ← needed? number? "rank" fields
    start := ← needed? text? "prefix" fields }

/-- A placement rule. -/
def placement? (value : Value) : Option PlacementSpec := do
  let fields ← record? ["file_kind", "purpose", "pattern"] value
  return {
    -- The kind is one of the written names; the texts of the other fields are looked into later.
    kind := ← needed? (name? FileKind.ofName?) "file_kind" fields
    purpose := ← needed? text? "purpose" fields
    pattern := ← needed? text? "pattern" fields }

/-- How findings are graded. -/
def rules? (value : Value) : Option Rules := do
  let fields ← record? ["severities", "deduplicate_dependency_violations"] value
  let usual : Rules := {}
  return {
    severities := ← fieldOr? (table? (name? Severity.ofName?)) "severities" usual.severities fields
    deduplicateDependencies := ←
      fieldOr? truth? "deduplicate_dependency_violations" usual.deduplicateDependencies fields }

/-- What is stamped into the document. -/
def report? (value : Value) : Option ReportSpec := do
  let fields ← record? ["schema", "protocol", "version", "output"] value
  let usual : ReportSpec := {}
  return {
    schema := ← fieldOr? text? "schema" usual.schema fields
    protocol := ← fieldOr? text? "protocol" usual.protocol fields
    version := ← fieldOr? text? "version" usual.version fields
    output := ← fieldOr? text? "output" usual.output fields }

/-- All settings, from the named values of a document. -/
def ofFields? (fields : List (String × Value)) : Option Config := do
  let usual : Config := {}
  return {
    project := ← fieldOr? project? "project" usual.project fields
    conventions := ← fieldOr? conventions? "conventions" usual.conventions fields
    layers := ← fieldOr? (list? layer?) "layers" usual.layers fields
    placement := ← fieldOr? (list? placement?) "placement" usual.placement fields
    dependencies := ← fieldOr? (table? (list? text?)) "dependencies" usual.dependencies fields
    rules := ← fieldOr? rules? "rules" usual.rules fields
    report := ← fieldOr? report? "report" usual.report fields }

/-- All settings, from the text of a document. -/
def ofToml? [Toml.Syntax] (text : String) : Option Config := (Toml.Syntax.table? text).bind ofFields?

end Config

end LayerAudit
