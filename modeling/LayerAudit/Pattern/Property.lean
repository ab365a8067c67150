import LayerAudit.Pattern.CharSet

/-!
Sets of characters by a property that the Unicode standard gives them: a general category, a writing system, or one of a
few properties that characters have or lack. Ages, breaks and the finer properties of the standard are no names here.
-/

namespace LayerAudit.CharSet

/-- A name without what does not count in it: letter case, blanks, hyphens, low lines, and the word is at its start. -/
def plainName (name : List Char) : String :=
  let isPrefixed := Text.smallLatin (name.take 2) == ['i', 's']
  let counted := (if isPrefixed then name.drop 2 else name).filter fun c =>
    c.toNat < 128 && c != ' ' && c != '-' && c != '_'
  -- The name of a property that is not among these would otherwise be that of a category.
  if isPrefixed && Text.smallLatin counted == ['c'] then "isc" else String.ofList (Text.smallLatin counted)

/-- The names of general categories and of groups of them. -/
def categoryNames : List (List String × List String) :=
  [(["l", "letter"], Text.letterTags),
   (["lc", "casedletter"], ["Lu", "Ll", "Lt"]),
   (["lu", "uppercaseletter"], ["Lu"]),
   (["ll", "lowercaseletter"], ["Ll"]),
   (["lt", "titlecaseletter"], ["Lt"]),
   (["lm", "modifierletter"], ["Lm"]),
   (["lo", "otherletter"], ["Lo"]),
   (["m", "mark", "combiningmark"], Text.markTags),
   (["mn", "nonspacingmark"], ["Mn"]),
   (["mc", "spacingmark"], ["Mc"]),
   (["me", "enclosingmark"], ["Me"]),
   (["n", "number"], Text.numberTags),
   (["nd", "digit", "decimalnumber"], ["Nd"]),
   (["nl", "letternumber"], ["Nl"]),
   (["no", "othernumber"], ["No"]),
   (["p", "punct", "punctuation"], ["Pc", "Pd", "Ps", "Pe", "Pi", "Pf", "Po"]),
   (["pc", "connectorpunctuation"], ["Pc"]),
   (["pd", "dashpunctuation"], ["Pd"]),
   (["ps", "openpunctuation"], ["Ps"]),
   (["pe", "closepunctuation"], ["Pe"]),
   (["pi", "initialpunctuation"], ["Pi"]),
   (["pf", "finalpunctuation"], ["Pf"]),
   (["po", "otherpunctuation"], ["Po"]),
   (["s", "symbol"], ["Sm", "Sc", "Sk", "So"]),
   (["sm", "mathsymbol"], ["Sm"]),
   (["sc", "currencysymbol"], ["Sc"]),
   (["sk", "modifiersymbol"], ["Sk"]),
   (["so", "othersymbol"], ["So"]),
   (["z", "separator"], ["Zs", "Zl", "Zp"]),
   (["zs", "spaceseparator"], ["Zs"]),
   (["zl", "lineseparator"], ["Zl"]),
   (["zp", "paragraphseparator"], ["Zp"]),
   (["c", "other"], ["Cc", "Cf", "Cn", "Co", "Cs"]),
   (["cc", "cntrl", "control"], ["Cc"]),
   (["cf", "format"], ["Cf"]),
   (["cn", "unassigned"], ["Cn"]),
   (["co", "privateuse"], ["Co"])]

/-- The set that the name of a general category stands for. -/
def ofCategory? (name : String) : Option CharSet :=
  match name with
  | "any" => some (complement nothing)
  | "ascii" => some (range '\x00' '\x7F')
  | "assigned" => some (complement (tagged .category ["Cn"]))
  | _ => (categoryNames.find? fun entry => entry.1.contains name).map fun entry => tagged .category entry.2

/-- The set that the name of a writing system stands for. -/
def ofWriting? (name : String) : Option CharSet :=
  (Text.writingNames.find? fun entry => plainName entry.1.toList == name || entry.2.contains name).map fun entry =>
    tagged .writing [entry.1]

/-- The set that the name of another property stands for. -/
def ofTrait? : String → Option CharSet
  | "alpha" | "alphabetic" =>
    some (union (tagged .category ("Nl" :: Text.letterTags)) (tagged .further ["a", "al", "au"]))
  | "lower" | "lowercase" => some (union (tagged .category ["Ll"]) (tagged .further ["l", "al"]))
  | "upper" | "uppercase" => some (union (tagged .category ["Lu"]) (tagged .further ["u", "au"]))
  | "wspace" | "space" | "whitespace" => some blank
  | "ahex" | "asciihexdigit" => some (unions [range '0' '9', range 'A' 'F', range 'a' 'f'])
  | "joinc" | "joincontrol" => some (range '\u200C' '\u200D')
  | _ => none

/-- The set that a name on its own stands for. -/
def ofProperty? (name : List Char) : Option CharSet :=
  let name := plainName name
  (ofTrait? name).or ((ofCategory? name).or (ofWriting? name))

/-- The set of the characters for which a named property has a value. -/
def ofPropertyValue? (property value : List Char) : Option CharSet :=
  match plainName property with
  | "gc" | "generalcategory" => ofCategory? (plainName value)
  | "sc" | "script" => ofWriting? (plainName value)
  | _ => none

end LayerAudit.CharSet
