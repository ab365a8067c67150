import LayerAudit.Proofs.Component.Scripts
import LayerAudit.Proofs.Text

/-!
The template of a component reaches from the first opening tag of its name to the last closing tag, wherever these stand
in the file. So a block is read as it was written exactly if no such tag opens in front of it and none closes behind it;
a script beside it is what can disturb this.
-/

namespace LayerAudit

namespace Component

variable {Marker : List Char → Prop} {name before behind body pre post source s : List Char}

/-! ### The text of the template -/

/-- The text of a template with its offset: from the first opening tag to the last closing tag behind it. -/
def templateText? (source : List Char) : Option (List Char × Nat) :=
  (splitAtMarker? (openingLength? templateName) source).bind fun (_, behind) =>
    (beforeLast? (closingLength? templateName) 0 behind).map fun body =>
      (body, Text.byteSize source - Text.byteSize behind)

/-- A template that is found is what the tags are taken from. -/
theorem template_of_templateText? {offset : Nat} (found : templateText? source = some (body, offset)) :
    Blocks.template source = .ok (templateTags body offset) := by
  unfold templateText? at found
  rw [Option.bind_eq_some_iff] at found
  obtain ⟨⟨before, behind⟩, split, found⟩ := found
  obtain ⟨last, ended, same⟩ := Option.map_eq_some_iff.mp found
  obtain ⟨rfl, rfl⟩ := Prod.mk.inj same
  simp [Blocks.template, split, ended]

/-- The first opening tag of a template, if there is one, has a closing tag behind it. -/
def TemplateClosed (source : List Char) : Prop :=
  ∀ before tag behind, Opening templateName tag → NoneBegins (Opening templateName) before (tag ++ behind) →
    source = before ++ (tag ++ behind) → ¬Lacks (Closing templateName) behind

/-- A file without a template is closed in this sense. -/
theorem templateClosed_of_lacks (lacks : Lacks (Opening templateName) source) : TemplateClosed source := by
  rintro before tag behind opens - rfl
  exact absurd ⟨before, behind, by simp⟩ (lacks tag opens)

/-- The tags of a template are found exactly if it is closed, and there are none if no template is opened. -/
theorem exists_template_iff : (∃ tags, Blocks.template source = .ok tags) ↔ TemplateClosed source := by
  have openings := measures_opening templateName
  have closings := measures_closing templateName
  unfold Blocks.template
  rcases openings.exists_first source with lacks | ⟨before, tag, behind, opens, none, rfl⟩
  · -- Nothing opens a template: there are no tags, and nothing needs to be closed.
    rw [openings.splitAtMarker?_eq_none_iff.mpr lacks]
    exact iff_of_true ⟨[], rfl⟩ (templateClosed_of_lacks lacks)
  · have split := openings.splitAtMarker?_append opens none
    rw [split]
    constructor
    · -- The first opening tag is the only one in front of which none begins.
      rintro ⟨tags, found⟩ other otherTag otherBehind otherOpens otherNone same
      rw [same, openings.splitAtMarker?_append otherOpens otherNone] at split
      obtain ⟨rfl, rfl⟩ := Prod.mk.inj (Option.some.inj split)
      intro lacks
      simp [closings.beforeLast?_eq_none_iff.mpr lacks] at found
    · -- If it is closed there is a last closing tag, and the text up to it is found.
      intro closed
      have holds := closed before tag behind opens none rfl
      cases last : beforeLast? (closingLength? templateName) 0 behind with
      | none => exact absurd (closings.beforeLast?_eq_none_iff.mp last) holds
      | some body =>
        simp only [last]
        exact ⟨_, rfl⟩

/-- A block as it is written: a text between an opening and a closing tag. -/
structure Block (name : List Char) where
  opening : List Char
  text : List Char
  closing : List Char
  opens : Opening name opening
  closes : Closing name closing

namespace Block

/-- A text between tags of the bare name. -/
def bare (spells : Spells name name) (text : List Char) : Block name where
  opening := '<' :: (name ++ ['>'])
  text := text
  closing := '<' :: '/' :: (name ++ ['>'])
  opens := opening_word spells
  closes := closing_word spells

/-- The block in a file. -/
def written (block : Block name) : List Char := block.opening ++ (block.text ++ block.closing)

/-- A block ends with a bracket. -/
theorem exists_written_eq (block : Block name) : ∃ front, block.written = front ++ ['>'] := by
  obtain ⟨word, blanks, -, -, closing⟩ := block.closes
  exact ⟨block.opening ++ (block.text ++ '<' :: '/' :: (word ++ blanks)), by simp [written, closing]⟩

end Block

/-- In a file with a template block some text is read as its template. It is the one of the block exactly if no template
is opened in front of the block and none is closed behind it. -/
theorem exists_templateText? (block : Block templateName) (pre post : List Char) :
    ∃ body offset, templateText? (pre ++ (block.written ++ post)) = some (body, offset) ∧
      ((body = block.text ∧ offset = Text.byteSize (pre ++ block.opening)) ↔
        Lacks (Opening templateName) pre ∧ Lacks (Closing templateName) post) := by
  have measures := measures_closing templateName
  obtain ⟨before, behind, split, suffix, first⟩ := (endsOnce_opening isBlockName_template).exists_split
    (measures_opening templateName) block.opens pre (block.text ++ (block.closing ++ post))
  -- The block is written out, so that its opening tag is found in the file.
  have source : pre ++ (block.written ++ post) = pre ++ (block.opening ++ (block.text ++ (block.closing ++ post))) := by
    simp [Block.written]
  rw [source]
  -- The closing tag of the block stands behind the first opening tag, so that there is a last one.
  obtain ⟨body, last⟩ : ∃ body, beforeLast? (closingLength? templateName) 0 behind = some body := by
    rw [← Option.isSome_iff_exists, Option.isSome_iff_ne_none]
    intro nothing
    have lacks := measures.beforeLast?_eq_none_iff.mp nothing
    have inside : block.closing <:+: block.text ++ (block.closing ++ post) := ⟨block.text, post, by simp⟩
    exact lacks block.closing block.closes (inside.trans suffix.isInfix)
  refine ⟨body, _, by simp only [templateText?, split, Option.bind_some, last, Option.map_some]; rfl, ?_⟩
  rw [← first]
  constructor
  · rintro ⟨rfl, offset⟩
    -- Where the text begins tells what stands behind the first opening tag.
    obtain rfl : block.text ++ (block.closing ++ post) = behind := by
      refine Text.eq_of_suffix_of_byteSize suffix ?_
      obtain ⟨marker, -, -, whole⟩ := (measures_opening templateName).splitAtMarker?_eq_some_iff.mp split
      have size := congrArg Text.byteSize whole
      simp only [Text.byteSize_append] at size offset ⊢
      omega
    exact ⟨rfl, (beforeLast?_eq_iff isBlockName_template block.closes _ _).mp last⟩
  · -- With nothing that disturbs the block, its own closing tag is the last one behind the first opening tag.
    rintro ⟨rfl, lacks⟩
    rw [beforeLast?_append isBlockName_template block.closes lacks, Option.some.injEq] at last
    refine ⟨last.symm, ?_⟩
    simp only [Text.byteSize_append]
    omega

/-! ### Places of tags -/

/-- A tag further on in a file. -/
def shiftTag (offset : Nat) (tag : String × Script.Span) : String × Script.Span :=
  (tag.1, ⟨tag.2.start + offset, tag.2.stop + offset⟩)

/-- The tags of a text stand as much further on as the text does. -/
theorem tagsIn_shift (skipped : Nat) (s : List Char) (start offset : Nat) :
    tagsIn skipped s (start + offset) = (tagsIn skipped s start).map (shiftTag offset) := by
  induction s generalizing skipped start with
  | nil => cases skipped <;> rfl
  | cons c rest ih =>
    -- One character on is one character on from both places.
    have next : start + offset + c.utf8Size = start + c.utf8Size + offset := Nat.add_right_comm ..
    have nextByte : start + offset + 1 = start + 1 + offset := Nat.add_right_comm ..
    cases skipped with
    | succ skipped => rw [tagsIn, tagsIn, next, ih]
    | zero =>
      unfold tagsIn
      split
      · -- A tag begins here: it moves, and so do those behind its name.
        simp only [List.map_cons, nextByte, ih, shiftTag]
        congr 3
        omega
      · split <;> rw [next, ih]

/-- The pieces of a text stand as much further on as the text does. -/
theorem betweenComments_shift (skipped : Nat) (piece s : List Char) (start place offset : Nat) :
    betweenComments skipped piece (start + offset) s (place + offset) =
      (betweenComments skipped piece start s place).map fun (piece, start) => (piece, start + offset) := by
  induction s generalizing skipped piece start place with
  | nil => cases skipped <;> rfl
  | cons c rest ih =>
    have next : place + offset + c.utf8Size = place + c.utf8Size + offset := Nat.add_right_comm ..
    cases skipped with
    | succ skipped =>
      unfold betweenComments
      rw [next, ← ih]
      split <;> rfl
    | zero =>
      unfold betweenComments
      -- A comment begins here, and ends the piece; all that is left begins with an empty piece.
      split
      · rw [next, ih, List.map_cons]
      · rw [next, ih]

/-- The tags of a template in a file are the tags of its text, further on by where the text begins. -/
theorem templateTags_shift (body : List Char) (offset : Nat) :
    templateTags body offset = (templateTags body 0).map (shiftTag offset) := by
  -- First the pieces move, and then the tags in each of them.
  have pieces := betweenComments_shift 0 [] body 0 0 offset
  rw [Nat.zero_add] at pieces
  unfold templateTags
  rw [pieces, List.map_flatMap, List.flatMap_map]
  exact List.flatMap_congr fun piece _ => tagsIn_shift 0 piece.1 piece.2 offset

/-! ### Scripts as they are written -/

/-- A script block that is read as it is written: its text closes nothing, and opens nothing that ends in it or with its
closing tag. -/
structure Block.StandsAlone (block : Block scriptName) : Prop where
  opensNothing : Lacks (Opening scriptName) (block.text ++ block.closing)
  closesNothing : Lacks (Closing scriptName) block.text

namespace Block.StandsAlone

variable {block : Block scriptName} (alone : block.StandsAlone)
include alone

/-- One opening tag is counted in such a block. -/
theorem count_written (rest : List Char) : countMarkers (openingLength? scriptName) 0 (block.written ++ rest) =
    1 + countMarkers (openingLength? scriptName) 0 rest := by
  have measures := measures_opening scriptName
  obtain ⟨front, closing, -⟩ := endsOnce_closing isBlockName_script block.closing block.closes
  -- Behind the opening tag no other one begins, up to the end of the block.
  have none : NoneBegins (Opening scriptName) (block.text ++ block.closing) rest := by
    have lacks := alone.opensNothing
    rw [closing, ← List.append_assoc] at lacks ⊢
    exact (noneBegins_ended_iff (endsOnce_opening isBlockName_script) measures.ne_nil _ rest).mpr lacks
  rw [Block.written, List.append_assoc, measures.countMarkers_marker block.opens, measures.countMarkers_gap none]

/-- The text of such a block is a script. -/
theorem texts_written (lenient : Bool) (rest : List Char) :
    scriptTexts lenient 0 (block.written ++ rest) = block.text :: scriptTexts lenient 0 rest := by
  have measures := measures_closing scriptName
  have none := noneBegins_closing isBlockName_script alone.closesNothing (bracket_first block.closes.head? rest)
  rw [Block.written, List.append_assoc, List.append_assoc]
  exact scriptTexts_closed block.opens (measures.splitAtMarker?_append block.closes none)

/-- In a file with no other script its text is the script. -/
theorem ofSource_eq (free : NoneBegins (Opening scriptName) pre (block.written ++ post))
    (lacks : Lacks (Opening scriptName) post) : Blocks.ofSource (pre ++ (block.written ++ post)) =
      (Blocks.template (pre ++ (block.written ++ post))).map fun tags => ⟨block.text, tags⟩ := by
  have measures := measures_opening scriptName
  have texts : scriptTexts false 0 (pre ++ (block.written ++ post)) = [block.text] := by
    rw [scriptTexts_gap free, alone.texts_written, scriptTexts_lacks lacks]
  have count : countMarkers (openingLength? scriptName) 0 (pre ++ (block.written ++ post)) = 1 := by
    rw [measures.countMarkers_gap free, alone.count_written, measures.countMarkers_lacks lacks]
  rw [Blocks.ofSource_eq, texts, count]
  simp [joinLines]

end Block.StandsAlone

/-! ### A script beside the template -/

/-- Around a text that ends with a bracket, plain text begins no marker. -/
theorem noneBegins_around_iff (ends : EndsOnce Marker) (ne_nil : ¬Marker [])
    (bracketed : ∀ marker, Marker marker → marker.head? = some '<') (beforePlain : '<' ∉ before)
    (behindPlain : '<' ∉ behind) (ended : ∃ front, s = front ++ ['>']) (rest : List Char) :
    NoneBegins Marker (before ++ (s ++ behind)) rest ↔ Lacks Marker s := by
  obtain ⟨front, rfl⟩ := ended
  rw [noneBegins_append_iff, noneBegins_append_iff, noneBegins_ended_iff ends ne_nil]
  constructor
  · rintro ⟨-, lacks, -⟩
    exact lacks
  · intro lacks
    -- Brackets stand only in the text itself, so that no marker begins in the plain text around it.
    exact ⟨noneBegins_of_not_mem bracketed beforePlain _, lacks, noneBegins_of_not_mem bracketed behindPlain _⟩

/-- No bracket stands in the empty text. -/
theorem plain_nil : '<' ∉ ([] : List Char) := List.not_mem_nil

/-- A component of a script block and a template block, with other text around them. -/
structure TwoBlocks where
  script : Block scriptName
  template : Block templateName
  scriptFirst : Bool
  before : List Char
  between : List Char
  behind : List Char
  beforePlain : '<' ∉ before
  betweenPlain : '<' ∉ between
  behindPlain : '<' ∉ behind

namespace TwoBlocks

variable (component : TwoBlocks)

/-- The file up to the template block. -/
def front : List Char :=
  if component.scriptFirst then component.before ++ (component.script.written ++ component.between)
  else component.before

/-- The file behind the template block. -/
def back : List Char :=
  if component.scriptFirst then component.behind
  else component.between ++ (component.script.written ++ component.behind)

/-- The whole file. -/
def file : List Char := component.front ++ (component.template.written ++ component.back)

/-- Where the text of the template block begins. -/
def offset : Nat := Text.byteSize (component.front ++ component.template.opening)

/-- The script block opens no template in front of the template block, and closes none behind it. -/
def Undisturbed : Prop :=
  if component.scriptFirst then Lacks (Opening templateName) component.script.written
  else Lacks (Closing templateName) component.script.written

/-- No script is opened in the file but by the script block, which is not closed early. -/
structure HasOneScript : Prop where
  script : component.script.StandsAlone
  template : Lacks (Opening scriptName) component.template.written

/-- The tags of the template block alone, at their places in the file. -/
def ownTags : List (String × Script.Span) :=
  (templateTags component.template.text 0).map (shiftTag component.offset)

/-- A component of texts between bare tags. -/
def ofTexts (scriptFirst : Bool) (script template : List Char) : TwoBlocks where
  script := .bare spells_script script
  template := .bare spells_template template
  scriptFirst := scriptFirst
  before := []
  between := []
  behind := []
  beforePlain := plain_nil
  betweenPlain := plain_nil
  behindPlain := plain_nil

/-- The template block is the one that is read exactly if the script block does not disturb it. -/
theorem undisturbed_iff :
    Lacks (Opening templateName) component.front ∧ Lacks (Closing templateName) component.back ↔
      component.Undisturbed := by
  have openings := measures_opening templateName
  have closings := measures_closing templateName
  rw [← openings.noneBegins_iff, ← closings.noneBegins_iff]
  unfold front back Undisturbed
  split
  · -- The script stands in front, and only its own text could open a template.
    rw [noneBegins_around_iff (endsOnce_opening isBlockName_template) openings.ne_nil (fun _ => Opening.head?)
      component.beforePlain component.betweenPlain component.script.exists_written_eq]
    exact and_iff_left (noneBegins_plain component.behindPlain []).2
  · -- The script stands behind, and only its own text could close one.
    rw [noneBegins_around_iff (endsOnce_closing isBlockName_template) closings.ne_nil (fun _ => Closing.head?)
      component.betweenPlain component.behindPlain component.script.exists_written_eq]
    exact and_iff_right (noneBegins_plain component.beforePlain []).1

/-- In a file with one script the template decides whether there are blocks. -/
theorem HasOneScript.ofSource_eq {component : TwoBlocks} (one : component.HasOneScript) :
    Blocks.ofSource component.file =
      (Blocks.template component.file).map fun tags => ⟨component.script.text, tags⟩ := by
  have openings := measures_opening scriptName
  have ends := endsOnce_opening isBlockName_script
  have bracketed : ∀ tag, Opening scriptName tag → tag.head? = some '<' := fun _ => Opening.head?
  have ended := component.template.exists_written_eq
  -- The file is taken apart around the script block instead of the template block.
  cases first : component.scriptFirst with
  -- The script comes first, with plain text in front; the template block opens no script.
  | true =>
    have split : component.file = component.before ++ (component.script.written ++
        (component.between ++ (component.template.written ++ component.behind))) := by simp [file, front, back, first]
    rw [split]
    refine one.script.ofSource_eq (noneBegins_plain component.beforePlain _).1 ?_
    exact openings.noneBegins_iff.mp ((noneBegins_around_iff ends openings.ne_nil bracketed
      component.betweenPlain component.behindPlain ended []).mpr one.template)
  | false =>
    have split : component.file = (component.before ++ (component.template.written ++ component.between)) ++
        (component.script.written ++ component.behind) := by simp [file, front, back, first]
    rw [split]
    refine one.script.ofSource_eq ?_ (openings.noneBegins_iff.mp (noneBegins_plain component.behindPlain []).1)
    exact (noneBegins_around_iff ends openings.ne_nil bracketed component.beforePlain component.betweenPlain ended
      _).mpr one.template

end TwoBlocks

/-- Some text of a component is read as its template. It is the text of the template block, at its place, exactly if the
script block opens no template in front of it and closes none behind it. The tags are those of the text that is read,
further on by where it begins; and there are blocks if no other script is opened. -/
theorem TwoBlocks.reads_template_iff (component : TwoBlocks) :
    ∃ body offset, templateText? component.file = some (body, offset) ∧
      ((body = component.template.text ∧ offset = component.offset) ↔ component.Undisturbed) ∧
      (∀ blocks, Blocks.ofSource component.file = .ok blocks →
        blocks.tags = (templateTags body 0).map (shiftTag offset)) ∧
      (component.HasOneScript →
        ∃ blocks, Blocks.ofSource component.file = .ok blocks ∧ blocks.script = component.script.text) := by
  obtain ⟨body, offset, found, same⟩ := exists_templateText? component.template component.front component.back
  have template := template_of_templateText? found
  refine ⟨body, offset, found, same.trans component.undisturbed_iff, ?_, ?_⟩
  · -- Whatever the scripts are, blocks have the tags of the text that is read.
    intro blocks read
    rw [← templateTags_shift]
    rw [file, Blocks.ofSource_eq, template] at read
    split at read
    · obtain rfl := Except.ok.inj read
      rfl
    · cases read
  · intro one
    rw [one.ofSource_eq, file, template]
    exact ⟨_, rfl, rfl⟩

/-- A script without strings in front of a template. -/
def TwoBlocks.plainScript : TwoBlocks := ofTexts true "const a = 1".toList "<A/>".toList

/-- Its template is read as it is written. -/
theorem TwoBlocks.reads_template_iff_plainScript :
    templateText? plainScript.file = some (plainScript.template.text, plainScript.offset) ∧
      ∃ blocks, Blocks.ofSource plainScript.file = .ok blocks ∧ blocks.tags = plainScript.ownTags := by
  obtain ⟨body, offset, found, own, tags, one⟩ := reads_template_iff plainScript
  have undisturbed : plainScript.Undisturbed := by
    show Lacks (Opening templateName) plainScript.script.written
    decide
  have hasOne : plainScript.HasOneScript := ⟨⟨by decide, by decide +kernel⟩, by decide +kernel⟩
  obtain ⟨blocks, read, -⟩ := one hasOne
  obtain ⟨sameBody, sameOffset⟩ := own.mpr undisturbed
  rw [sameBody, sameOffset] at found tags
  exact ⟨found, blocks, read, tags blocks read⟩

/-- A script in front of the template that writes an opening tag of one in a string. -/
def TwoBlocks.opensInString : TwoBlocks := ofTexts true "const t = '<template>'".toList "<A/>".toList

/-- A script behind the template that writes a closing tag of one in a string. -/
def TwoBlocks.closesInString : TwoBlocks := ofTexts false "const t = '</template>'".toList "<A/>".toList

/-- Both components have one script and one template, and of both a tag outside the template is reported. -/
theorem TwoBlocks.reads_tags_from_script :
    (opensInString.HasOneScript ∧ opensInString.ownTags = [("A", ⟨49, 51⟩)] ∧
      Blocks.ofSource opensInString.file =
        .ok ⟨opensInString.script.text, [("template", ⟨39, 48⟩), ("A", ⟨49, 51⟩)]⟩) ∧
    (closesInString.HasOneScript ∧ closesInString.ownTags = [("A", ⟨10, 12⟩)] ∧
      Blocks.ofSource closesInString.file =
        .ok ⟨closesInString.script.text, [("A", ⟨10, 12⟩), ("script", ⟨25, 32⟩)]⟩) := by
  have first : opensInString.HasOneScript := ⟨⟨by decide, by decide +kernel⟩, by decide⟩
  have second : closesInString.HasOneScript := ⟨⟨by decide +kernel, by decide⟩, by decide⟩
  exact ⟨⟨first, by decide, by decide +kernel⟩, second, by decide, by decide⟩

end Component

end LayerAudit
