import LayerAudit.Script.Grammar.Statements

/-! The grammars that follow more and more nesting. -/

namespace LayerAudit.Script.Grammar

/-- The grammar that follows one level of nesting more than the given one. -/
def step (g : Grammar) : Grammar :=
  -- parentheses and constructions hold atoms again, which are one level further down
  let atom := Parse.atom g (Parse.atom g Parse.exhausted)
  { statement := Parse.statement g
    expression := Parse.choice g
    operand := Parse.operandOf g atom
    infixed := Parse.infixChain g
    reference := Parse.referenceOf g atom
    pattern := Parse.anyPattern g
    anyType := Parse.typeChoice g
    plainType := Parse.typeWithBrackets g
    markup := Parse.element g }

/-- The grammar that follows so many levels of nesting. -/
def level : Nat → Grammar
  | 0 => bare
  | n + 1 => step (level n)

end LayerAudit.Script.Grammar
