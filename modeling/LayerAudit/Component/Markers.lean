import LayerAudit.Text.Blank
import LayerAudit.Text.CaseMap

/-!
The markers that divide a component file: opening and closing tags of its blocks, and comments. A marker is measured at
the front of a text, in characters; successive markers never overlap.
-/

namespace LayerAudit.Component

/-- The text behind a word at the front of a text, in any letter case. -/
def behindWord? : List Char → List Char → Option (List Char)
  | [], s => some s
  | _ :: _, [] => none
  | w :: word, c :: rest => if Text.foldCase c == w then behindWord? word rest else none

/-- The length of an opening tag at the front of a text: a blank and any text may follow the name. -/
def openingLength? (name : List Char) (s : List Char) : Option Nat :=
  (behindWord? ('<' :: name) s).bind fun rest =>
    match rest with
    | [] => none
    | c :: attributes =>
      -- The name stands alone.
      if c == '>' then some (name.length + 2)
      -- Behind the name all counts up to the first closing bracket, whatever it is part of.
      else if Text.isBlank c then
        let length := (attributes.takeWhile (· != '>')).length
        if length < attributes.length then some (name.length + length + 3) else none
      else none

/-- The length of a closing tag at the front of a text: blanks may follow the name. -/
def closingLength? (name : List Char) (s : List Char) : Option Nat :=
  (behindWord? ('<' :: '/' :: name) s).bind fun rest =>
    let blanks := (rest.takeWhile Text.isBlank).length
    if (rest.drop blanks).head? == some '>' then some (name.length + blanks + 3) else none

/-- The length of the text up to the end of a mark. -/
def lengthTo? (mark : List Char) : List Char → Option Nat
  | [] => none
  | c :: rest => if mark.isPrefixOf (c :: rest) then some mark.length else (lengthTo? mark rest).map (· + 1)

/-- The length of a comment at the front of a text. -/
def commentLength? (s : List Char) : Option Nat :=
  if ['<', '!', '-', '-'].isPrefixOf s then (lengthTo? ['-', '-', '>'] (s.drop 4)).map (· + 4) else none

/-- The number of successive markers of a text; some characters at its front may belong to one already. -/
def countMarkers (length? : List Char → Option Nat) : Nat → List Char → Nat
  | _, [] => 0
  -- What belongs to a marker begins no other one.
  | skipped + 1, _ :: rest => countMarkers length? skipped rest
  | 0, c :: rest =>
    match length? (c :: rest) with
    | some n => 1 + countMarkers length? (n - 1) rest
    | none => countMarkers length? 0 rest

/-- The texts before and behind the first marker. -/
def splitAtMarker? (length? : List Char → Option Nat) : List Char → Option (List Char × List Char)
  | [] => none
  | c :: rest =>
    match length? (c :: rest) with
    | some n => some ([], (c :: rest).drop n)
    | none => (splitAtMarker? length? rest).map fun (before, behind) => (c :: before, behind)

/-- The text before the last of the successive markers, of which some characters may be passed already. -/
def beforeLast? (length? : List Char → Option Nat) : Nat → List Char → Option (List Char)
  | _, [] => none
  | skipped + 1, c :: rest => (beforeLast? length? skipped rest).map (c :: ·)
  | 0, c :: rest =>
    match length? (c :: rest) with
    -- If no marker comes later, this one is the last.
    | some n => some (((beforeLast? length? (n - 1) rest).map (c :: ·)).getD [])
    | none => (beforeLast? length? 0 rest).map (c :: ·)

end LayerAudit.Component
