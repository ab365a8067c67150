import LayerAudit.Script.Cst

/-!
Nodes by the bytes that they cover. Where a construct has marks at its ends and between its parts, these are put in, so
that the tree that a short text is read as can be written down by its constructs.
-/

namespace LayerAudit.Script.Cst

/-- A node without a part in its parent. -/
def node (role : Role) (start stop : Nat) (children : List Cst) : Cst := mk { role, span := ⟨start, stop⟩ } children

/-- A node with nothing below it. -/
def leaf (role : Role) (start stop : Nat) : Cst := node role start stop []

/-- A token that is no construct. One that covers nothing ends a statement of which the end is not written. -/
def mark (start stop : Nat) : Cst := leaf .token start stop

/-- Nodes with a comma behind each but the last one. -/
def parted : List Cst → List Cst
  | [] => []
  | [last] => [last]
  | item :: rest => item :: mark item.span.stop (item.span.stop + 1) :: parted rest

/-- Nodes between brackets. -/
def listed (role : Role) (start stop : Nat) (items : List Cst) : Cst :=
  node role start stop (mark start (start + 1) :: (parted items ++ [mark (stop - 1) stop]))

/-- A text between quotes. -/
def quoted (start stop : Nat) : Cst :=
  node .string start stop
    (mark start (start + 1) ::
      ((if start + 2 = stop then [] else [leaf .construct (start + 1) (stop - 1)]) ++ [mark (stop - 1) stop]))

/-- An entry of an object, from its key to the end of its value. -/
def pairOf (key : Span) (value : Cst) : Cst :=
  node .pair key.start value.span.stop
    [withLabel .key (leaf .propertyName key.start key.stop), mark key.stop (key.stop + 1), withLabel .value value]

/-- A property of an object. -/
def memberOf (object : Cst) (stop : Nat) : Cst :=
  node .member object.span.start stop
    [withLabel .object object, mark object.span.stop (object.span.stop + 1),
      withLabel .property (leaf .propertyName (object.span.stop + 1) stop)]

/-- A property of the receiver. -/
def ownProperty (start stop : Nat) : Cst := memberOf (leaf .this start (start + 4)) stop

/-- A call with some arguments. -/
def callOf (callee : Cst) (stop : Nat) (arguments : List Cst) : Cst :=
  node .call callee.span.start stop
    [withLabel .function callee, withLabel .arguments (listed .construct callee.span.stop stop arguments)]

/-- An assignment of a value, with one blank on either side of the sign. -/
def assigned (target value : Cst) : Cst :=
  node .assignment target.span.start value.span.stop
    [withLabel .left target, mark (target.span.stop + 1) (target.span.stop + 2), withLabel .right value]

/-- An expression with the end of its statement. -/
def ended (expression : Cst) (stop : Nat) : Cst :=
  node .construct expression.span.start stop [expression, mark expression.span.stop stop]

/-- The body of a declared function or a method. -/
def bodyOver (start stop : Nat) (statements : List Cst) : Cst :=
  node .construct start stop (mark start (start + 1) :: (statements ++ [mark (stop - 1) stop, mark stop stop]))

/-- The declaration of a function, from the start of a text to its end. -/
def declared (stop : Nat) (name parameters body : Cst) : Cst :=
  node .function 0 stop
    [mark 0 8, withLabel .name name, withLabel .parameters parameters, withLabel .body body, mark stop stop]

end LayerAudit.Script.Cst
