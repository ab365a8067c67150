import LayerAudit.Toml.Value

/-!
Tables while they are put together. A table may be opened by a header, implied by the header of a table below it, or
made by a key with dots; these differ in who may still add to the table.
-/

namespace LayerAudit.Toml

/-- How a table came to be. -/
inductive Origin
  | header | implied | dotted
  deriving DecidableEq, Repr, Inhabited

/-- What a name stands for while a document is read. -/
inductive Entry
  /-- A finished value, to which nothing is added. -/
  | value (value : Value)
  | table (origin : Origin) (fields : List (String × Entry))
  /-- The tables under a repeated header, last first. -/
  | tables (elements : List (List (String × Entry)))
  deriving Inhabited

/-- Named entries, no name twice. -/
abbrev Fields := List (String × Entry)

/-- Put an entry under a name. -/
def Fields.put (name : String) (entry : Entry) : Fields → Fields
  | [] => [(name, entry)]
  | field :: rest => if field.1 = name then (name, entry) :: rest else field :: Fields.put name entry rest

/-- Change the table at the end of a path. Tables that are missing on the way are made, by a key with dots or by a
header. A key with dots does not enter the tables of headers. -/
def changeAt (dotted : Bool) (change : Origin → Fields → Option Fields) :
    List String → Origin → Fields → Option Fields
  | [], origin, fields => change origin fields
  | name :: path, _, fields =>
    match fields.lookup name with
    | none => do
      -- What is missing on the way is made, and it remembers by whom.
      let origin := if dotted then .dotted else .implied
      return fields.put name (.table origin (← changeAt dotted change path origin []))
    | some (.table origin inner) =>
      -- A key with dots adds to no table that has a header of its own.
      if dotted && origin = .header then none
      else do return fields.put name (.table origin (← changeAt dotted change path origin inner))
    -- Under a repeated header the last table is meant.
    | some (.tables (last :: others)) => do
      return fields.put name (.tables ((← changeAt dotted change path .header last) :: others))
    -- A value is no table, and so has nothing inside.
    | _ => none

/-- Put a value under a key with dots. Only tables that such keys made take it at the end of a longer path. -/
def putValue (path : List String) (value : Value) (fields : Fields) : Option Fields :=
  match path.getLast? with
  | none => none
  | some name =>
    changeAt true (fun origin inner =>
      -- The last table on a longer way has to be one that such keys have made.
      if 1 < path.length && origin != .dotted then none
      else if (inner.lookup name).isSome then none
      else some (inner.put name (.value value))) path.dropLast .header fields

/-- Put values under keys with dots, one after the other. -/
def putValues (entries : List (List String × Value)) (fields : Fields) : Option Fields :=
  entries.foldlM (fun fields entry => putValue entry.1 entry.2 fields) fields

mutual

/-- The finished value of an entry. -/
def Entry.close : Entry → Value
  | .value value => value
  | .table _ fields => .table (closeAll fields)
  | .tables elements => .list (closeEach elements []) 

/-- The finished values of named entries. -/
def closeAll : List (String × Entry) → List (String × Value)
  | [] => []
  | (name, entry) :: rest => (name, entry.close) :: closeAll rest

/-- The finished tables of a repeated header, in front of those behind them. -/
def closeEach : List (List (String × Entry)) → List Value → List Value
  | [], behind => behind
  | fields :: earlier, behind => closeEach earlier (.table (closeAll fields) :: behind)

end

/-- A part of a document: the table that it opens, and the values in it. -/
structure Section where
  /-- The header opens one more table under a name, instead of the only one. -/
  repeated : Bool
  path : List String
  entries : List (List String × Value)
  deriving Repr, Inhabited

/-- Add a part to the tables before it. A header may take over a table that was only implied so far. -/
def addSection (document : Fields) (part : Section) : Option Fields :=
  match part.path.getLast? with
  -- The first part of a document has no header.
  | none => putValues part.entries document
  | some name =>
    changeAt false (fun _ outer =>
      match outer.lookup name with
      | none => do
        let fields ← putValues part.entries []
        return outer.put name (if part.repeated then .tables [fields] else .table .header fields)
      -- A table that was implied by another header may be opened once.
      | some (.table .implied inner) =>
        if part.repeated then none
        else do return outer.put name (.table .header (← putValues part.entries inner))
      -- A repeated header adds one more table.
      | some (.tables elements) =>
        if part.repeated then do return outer.put name (.tables ((← putValues part.entries []) :: elements))
        else none
      -- A name that stands for anything else is taken.
      | _ => none) part.path.dropLast .header document

end LayerAudit.Toml
