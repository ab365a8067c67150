import LayerAudit.Component.Markers
import LayerAudit.Script.Cst
import LayerAudit.Text.Basic

/-!
The blocks of a component file: the texts of its script blocks, and the element tags of its template block. Comments
and quoted attribute values hide the tags inside them.
-/

namespace LayerAudit.Component

open Script (Span)

/-- The parts of a component file that are analyzed. -/
structure Blocks where
  /-- The texts of all script blocks, joined by line ends. -/
  script : List Char
  /-- The names of the template's elements, with the bytes from the bracket to the end of the name. -/
  tags : List (String × Span)
  deriving DecidableEq, Repr, Inhabited

/-- Why a component file has no blocks. -/
inductive BlockError
  | unclosedScript
  | unclosedTemplate
  deriving DecidableEq, Repr, Inhabited

namespace BlockError

/-- The text of an error. -/
def message : BlockError → String
  | unclosedScript => "unclosed <script> block"
  | unclosedTemplate => "unclosed <template> block"

end BlockError

/-- The name of script blocks. -/
def scriptName : List Char := "script".toList

/-- The name of template blocks. -/
def templateName : List Char := "template".toList

/-- The texts of the successive script blocks. An unclosed block reaches the end of the text if that is allowed, and
is no block otherwise. -/
def scriptTexts (lenient : Bool) : Nat → List Char → List (List Char)
  | _, [] => []
  | skipped + 1, _ :: rest => scriptTexts lenient skipped rest
  | 0, c :: rest =>
    match openingLength? scriptName (c :: rest) with
    -- No block begins here.
    | none => scriptTexts lenient 0 rest
    | some opening =>
      let content := (c :: rest).drop opening
      match splitAtMarker? (closingLength? scriptName) content with
      -- Behind a closed block the next one is looked for.
      | some (script, behind) =>
        script :: scriptTexts lenient ((c :: rest).length - behind.length - 1) rest
      | none =>
        -- An unclosed block is the last one, as it reaches to the end.
        if lenient then content :: scriptTexts lenient rest.length rest
        else scriptTexts lenient 0 rest

/-- Texts with line ends between them. -/
def joinLines (texts : List (List Char)) : List Char := ['\n'].intercalate texts

/-- The script of a component, with the rest of the file for a block that is not closed. -/
def lenientScript (source : List Char) : List Char := joinLines (scriptTexts true 0 source)

/-! ### Tags -/

/-- A letter that starts the name of an element. -/
def startsTag (c : Char) : Bool := c.isAlpha

/-- A character inside the name of an element. -/
def continuesTag (c : Char) : Bool := c.isAlphanum || c == '_' || c == '.' || c == ':' || c == '-'

/-- The length of an equals sign with the quoted value behind it. -/
def valueLength? : List Char → Option Nat
  | '=' :: rest =>
    let blanks := (rest.takeWhile Text.isBlank).length
    match rest.drop blanks with
    | quote :: value =>
      if quote == '"' || quote == '\'' then
        let length := (value.takeWhile (· != quote)).length
        -- A quote that is never closed is no value.
        if length < value.length then some (blanks + length + 3) else none
      else none
    | [] => none
  | _ => none

/-- The tags of a text without comments that starts at an offset, of which some characters may be passed already. -/
def tagsIn : Nat → List Char → Nat → List (String × Span)
  | _, [], _ => []
  | skipped + 1, c :: rest, offset => tagsIn skipped rest (offset + c.utf8Size)
  | 0, c :: rest, offset =>
    -- A bracket with a letter behind it begins a tag; the name is passed over with it.
    if c == '<' && rest.head?.any startsTag then
      let name := rest.takeWhile continuesTag
      (String.ofList name, ⟨offset, offset + name.length + 1⟩) :: tagsIn name.length rest (offset + 1)
    else
      match valueLength? (c :: rest) with
      -- What stands in quotes is passed over, tags and all.
      | some n => tagsIn (n - 1) rest (offset + c.utf8Size)
      | none => tagsIn 0 rest (offset + c.utf8Size)

/-- The pieces of a text between its successive comments, each with its offset. -/
def betweenComments : Nat → List Char → Nat → List Char → Nat → List (List Char × Nat)
  | _, piece, start, [], _ => [(piece.reverse, start)]
  | skipped + 1, piece, start, c :: rest, offset =>
    -- At the end of a comment the next piece begins.
    betweenComments skipped piece (if skipped = 0 then offset + c.utf8Size else start) rest (offset + c.utf8Size)
  | 0, piece, start, c :: rest, offset =>
    match commentLength? (c :: rest) with
    | some n => (piece.reverse, start) :: betweenComments (n - 1) [] offset rest (offset + c.utf8Size)
    | none => betweenComments 0 (c :: piece) start rest (offset + c.utf8Size)

/-- The tags of a template's text that starts at an offset. -/
def templateTags (body : List Char) (offset : Nat) : List (String × Span) :=
  (betweenComments 0 [] offset body offset).flatMap fun (piece, start) => tagsIn 0 piece start

/-! ### Blocks -/

/-- The blocks of a component file. Every script block and the template block have to be closed. -/
def Blocks.ofSource (source : List Char) : Except BlockError Blocks :=
  let scripts := scriptTexts false 0 source
  -- Each opening tag is to have a block of its own.
  if countMarkers (openingLength? scriptName) 0 source != scripts.length then .error .unclosedScript
  else
    match splitAtMarker? (openingLength? templateName) source with
    -- A file without a template has no tags.
    | none => .ok ⟨joinLines scripts, []⟩
    | some (_, behind) =>
      -- The template reaches to the last closing tag, as templates may stand inside of it.
      match beforeLast? (closingLength? templateName) 0 behind with
      | none => .error .unclosedTemplate
      | some body =>
        let offset := Text.byteSize source - Text.byteSize behind
        .ok ⟨joinLines scripts, templateTags body offset⟩

end LayerAudit.Component
