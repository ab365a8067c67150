import LayerAudit.Text.Blank
import LayerAudit.Text.CaseMap
import LayerAudit.Text.Word

/-! Sets of characters as a pattern describes them. -/

namespace LayerAudit

/-- A described set of characters. -/
inductive CharSet
  | nothing
  /-- All characters from one to another. -/
  | range (first last : Char)
  /-- White space of any script. -/
  | blank
  /-- Decimal digits of any script. -/
  | digit
  /-- Characters of words of any script. -/
  | word
  /-- The characters about which a table says one of some things. -/
  | tagged (table : Text.Table) (tags : List String)
  | union (a b : CharSet)
  | common (a b : CharSet)
  | complement (a : CharSet)
  /-- The characters that differ from a member in letter case only. -/
  | caseless (a : CharSet)
  deriving DecidableEq, Repr, Inhabited

namespace CharSet

/-- Membership in a described set. -/
def contains : CharSet → Char → Bool
  | nothing, _ => false
  | range first last, c => first ≤ c && c ≤ last
  | blank, c => Text.isBlank c
  | digit, c => Text.isDigit c
  | word, c => Text.isWord c
  | tagged table tags, c => tags.contains (table.tagOf c)
  | union a b, c => a.contains c || b.contains c
  | common a b, c => a.contains c && b.contains c
  | complement a, c => !a.contains c
  -- The orbit of a character holds those that differ from it in letter case only, and itself.
  | caseless a, c => (Text.caseOrbit c).any a.contains

/-- The set of one character. -/
def single (c : Char) : CharSet := range c c

/-- The union of several sets. -/
def unions (sets : List CharSet) : CharSet := sets.foldl union nothing

/-- The members of the first set that are not in the second. -/
def minus (a b : CharSet) : CharSet := common a (complement b)

/-- The members of exactly one of two sets. -/
def unshared (a b : CharSet) : CharSet := union (minus a b) (minus b a)

/-- The sets that have a name of their own, all within the first 128 code points. -/
def ofName? : String → Option CharSet
  | "alnum" => some (unions [range '0' '9', range 'A' 'Z', range 'a' 'z'])
  | "alpha" => some (unions [range 'A' 'Z', range 'a' 'z'])
  | "ascii" => some (range '\x00' '\x7F')
  | "blank" => some (unions [single '\t', single ' '])
  | "cntrl" => some (unions [range '\x00' '\x1F', single '\x7F'])
  | "digit" => some (range '0' '9')
  | "graph" => some (range '!' '~')
  | "lower" => some (range 'a' 'z')
  | "print" => some (range ' ' '~')
  | "punct" => some (unions [range '!' '/', range ':' '@', range '[' '\x60', range '\x7B' '~'])
  | "space" => some (unions [range '\t' '\r', single ' '])
  | "upper" => some (range 'A' 'Z')
  | "word" => some (unions [range '0' '9', range 'A' 'Z', single '_', range 'a' 'z'])
  | "xdigit" => some (unions [range '0' '9', range 'A' 'F', range 'a' 'f'])
  | _ => none

end CharSet

end LayerAudit
