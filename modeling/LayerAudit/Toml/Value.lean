/-! Values of a configuration document. -/

namespace LayerAudit.Toml

/-- A value. Numbers with a fraction and points in time are only told apart from all else. -/
inductive Value
  | text (value : String)
  | integer (value : Int)
  | truth (value : Bool)
  | fraction
  | moment
  | list (elements : List Value)
  /-- Named values, no name twice. -/
  | table (fields : List (String × Value))
  deriving Repr, Inhabited

/-- The syntax of configuration documents: the table that a text describes. -/
class Syntax where
  table? : String → Option (List (String × Value))

end LayerAudit.Toml
