/-!
Association lists and sets of texts that are kept in increasing order of their keys.
Texts are ordered by code points, which is also the order of their bytes.
-/

namespace LayerAudit.Sorted

variable {β : Type}

/-- Put a value under a key, in place of an earlier value under the same key. -/
def put (key : String) (value : β) : List (String × β) → List (String × β)
  | [] => [(key, value)]
  | entry :: rest =>
    if key < entry.1 then (key, value) :: entry :: rest
    -- An earlier value under the key gives way.
    else if key = entry.1 then (key, value) :: rest
    else entry :: put key value rest

/-- The entries in the order of their keys; of two entries with one key the later counts. -/
def ofList (entries : List (String × β)) : List (String × β) :=
  entries.foldl (fun sorted entry => put entry.1 entry.2 sorted) []

/-- The value under a key. -/
def get? (key : String) (entries : List (String × β)) : Option β := entries.lookup key

/-- Add a member to a set. -/
def add (member : String) : List String → List String
  | [] => [member]
  | first :: rest =>
    if member < first then member :: first :: rest
    -- A member that is there already is not added again.
    else if member = first then first :: rest
    else first :: add member rest

/-- Add all the given members to a set. -/
def addAll (members set : List String) : List String := members.foldl (fun s m => add m s) set

end LayerAudit.Sorted
