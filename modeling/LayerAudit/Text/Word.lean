import LayerAudit.Text.Unicode

/-! Digits, letters and word characters of any script. The first 128 code points need no table. -/

namespace LayerAudit.Text

/-- A decimal digit of any script. -/
def isDigit (c : Char) : Bool :=
  if c.toNat < 128 then c.isDigit else Table.category.tagOf c == "Nd"

/-- A letter of any script, or something that is used like one. -/
def isAlphabetic (c : Char) : Bool :=
  if c.toNat < 128 then c.isAlpha
  else ("Nl" :: letterTags).contains (Table.category.tagOf c) || (Table.further.tagOf c).toList.contains 'a'

/-- A number of any script. -/
def isNumeric (c : Char) : Bool :=
  if c.toNat < 128 then c.isDigit else numberTags.contains (Table.category.tagOf c)

/-- A character that may stand inside a word of any script: a letter, a mark, a decimal digit, a connecting sign, or one
of the two joiners. -/
def isWord (c : Char) : Bool :=
  if c.toNat < 128 then c.isAlphanum || c == '_'
  else isAlphabetic c || ("Nd" :: "Pc" :: markTags).contains (Table.category.tagOf c) || c == '\u200C' || c == '\u200D'

end LayerAudit.Text
