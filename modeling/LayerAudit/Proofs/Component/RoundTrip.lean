import LayerAudit.Proofs.Component.StartTag

/-!
Scripts that are written into a file are read from it again, joined by line ends. What stands behind the first closing
bracket of a start tag is read as part of its script, so the scripts come back exactly if no value holds such a bracket.
-/

namespace LayerAudit.Component

/-! ### Joined texts -/

/-- A text in front of others stands in front of a line end. -/
theorem joinLines_cons_cons (text next : List Char) (rest : List (List Char)) :
    joinLines (text :: next :: rest) = text ++ '\n' :: joinLines (next :: rest) := by
  simp [joinLines, List.intercalate]

/-- What is put in front of the texts makes the joined text as much longer. -/
theorem length_joinLines_append {α : Type} (front text : α → List Char) (items : List α) :
    (joinLines (items.map fun item => front item ++ text item)).length =
      (items.flatMap front).length + (joinLines (items.map text)).length := by
  induction items with
  | nil => rfl
  -- A line end comes in only between two texts.
  | cons item rest ih =>
    cases rest with
    | nil => simp [joinLines, List.intercalate]
    | cons next rest =>
      simp only [List.map_cons, List.flatMap_cons, joinLines_cons_cons, List.length_append, List.length_cons] at ih ⊢
      omega

/-- Texts are joined to the same text with and without something in front of them exactly if there is nothing. -/
theorem joinLines_append_eq_iff {α : Type} (front text : α → List Char) (items : List α) :
    joinLines (items.map fun item => front item ++ text item) = joinLines (items.map text) ↔
      ∀ item ∈ items, front item = [] := by
  constructor
  · -- Texts of one length leave no room for anything in front.
    intro same
    have lengths := length_joinLines_append front text items
    rw [same] at lengths
    exact List.flatMap_eq_nil_iff.mp (List.length_eq_zero_iff.mp (by omega))
  · intro nothing
    refine congrArg joinLines (List.map_congr_left fun item listed => ?_)
    rw [nothing item listed, List.nil_append]

/-! ### Scripts as they are written -/

/-- If a tag that opens in the text of a block ends with its closing tag, then there are fewer blocks than opening tags
from there on. -/
theorem Block.length_scriptTexts_lt (block : Block scriptName) (closesNothing : Lacks (Closing scriptName) block.text)
    (opens : ¬Lacks (Opening scriptName) (block.text ++ block.closing)) (rest : List Char) :
    (scriptTexts false 0 (block.written ++ rest)).length <
      countMarkers (openingLength? scriptName) 0 (block.written ++ rest) := by
  have openings := measures_opening scriptName
  -- Behind its own tag the block is cut into sections, as any text is.
  obtain ⟨sections, before, more, split, none, cut⟩ :=
    exists_sectioned scriptName (block.text ++ (block.closing ++ rest))
  have whole : block.written ++ rest = block.opening ++ (before ++ more) := by simp [Block.written, ← split]
  -- The section of the block ends in its text, where nothing is closed.
  have lacks : Lacks (Closing scriptName) before := by
    -- Either the section ends in the text, or it reaches into the closing tag or behind it.
    rcases List.append_eq_append_iff.mp split with ⟨gap, rfl, same⟩ | ⟨gap, text, -⟩
    · refine absurd ?_ opens
      have inText := (noneBegins_append_iff.mp none).1
      rw [← same] at inText
      have inClosing := block.closes.noneBegins_opening isBlockName_script isBlockName_script []
      refine openings.noneBegins_iff.mp (noneBegins_append_iff.mpr ⟨?_, inClosing⟩)
      simpa using inText.shorten
    · exact closesNothing.infix (text ▸ (List.prefix_append before gap).isInfix)
  have next : Sections scriptName (block.opening ++ (before ++ more)) ((block.opening, before) :: sections) :=
    .next block.opens none cut
  rw [whole, next.count]
  exact next.length_scriptTexts_lt ⟨_, List.mem_cons_self .., lacks⟩

/-- The closing tag of a script. -/
def scriptEnd : List Char := '<' :: '/' :: (scriptName ++ ['>'])

/-- A script between its start tag and its closing tag, with other text behind it. -/
structure WrittenScript where
  tag : StartTag (Spells scriptName)
  content : List Char
  behind : List Char
  plain : '<' ∉ behind

namespace WrittenScript

variable {scripts : List WrittenScript}

/-- The script in a file. -/
def written (script : WrittenScript) : List Char :=
  script.tag.written ++ (script.content ++ (scriptEnd ++ script.behind))

/-- The file of some scripts. -/
def file (scripts : List WrittenScript) : List Char := scripts.flatMap written

/-- The block that is read, which begins with what is left of the start tag. -/
def block (script : WrittenScript) : Block scriptName where
  opening := script.tag.opening
  text := script.tag.surplus ++ script.content
  closing := scriptEnd
  opens := script.tag.opens
  closes := closing_word spells_script

/-- A file begins with the block of its first script. -/
theorem file_cons (script : WrittenScript) (rest : List WrittenScript) :
    file (script :: rest) = script.block.written ++ (script.behind ++ file rest) := by
  simp [file, written, block, Block.written, script.tag.written_eq]

/-- Plain text behind a script changes neither the count nor the texts. -/
theorem behind_passed (script : WrittenScript) (rest : List Char) :
    countMarkers (openingLength? scriptName) 0 (script.behind ++ rest) =
        countMarkers (openingLength? scriptName) 0 rest ∧
      scriptTexts false 0 (script.behind ++ rest) = scriptTexts false 0 rest := by
  have none : NoneBegins (Opening scriptName) script.behind rest := (noneBegins_plain script.plain rest).1
  exact ⟨(measures_opening scriptName).countMarkers_gap none, scriptTexts_gap none⟩

/-- Scripts that stand alone are counted, and their texts are read. -/
theorem read_file (alone : ∀ script ∈ scripts, script.block.StandsAlone) :
    countMarkers (openingLength? scriptName) 0 (file scripts) = scripts.length ∧
      scriptTexts false 0 (file scripts) = scripts.map fun script => script.block.text := by
  induction scripts with
  | nil => exact ⟨rfl, rfl⟩
  | cons script rest ih =>
    -- The first script gives one block, and what stands behind it none.
    have first := alone script (List.mem_cons_self ..)
    obtain ⟨count, texts⟩ := ih fun other listed => alone other (List.mem_cons_of_mem _ listed)
    obtain ⟨passedCount, passedTexts⟩ := script.behind_passed (file rest)
    rw [file_cons, first.count_written, first.texts_written, passedCount, passedTexts, count, texts]
    exact ⟨Nat.add_comm .., rfl⟩

/-- If a script does not stand alone though it closes nothing, then there are fewer blocks than opening tags. -/
theorem length_scriptTexts_lt (closeNothing : ∀ script ∈ scripts, Lacks (Closing scriptName) script.block.text)
    (notAlone : ¬∀ script ∈ scripts, script.block.StandsAlone) :
    (scriptTexts false 0 (file scripts)).length < countMarkers (openingLength? scriptName) 0 (file scripts) := by
  induction scripts with
  | nil => exact absurd (fun script listed => absurd listed List.not_mem_nil) notAlone
  -- The scripts are taken from the front; the first that does not stand alone decides.
  | cons script rest ih =>
    have closes := closeNothing script (List.mem_cons_self ..)
    rw [file_cons]
    by_cases opens : Lacks (Opening scriptName) (script.block.text ++ script.block.closing)
    · -- The first script stands alone, so that another one does not.
      have first : script.block.StandsAlone := ⟨opens, closes⟩
      have fewer := ih (fun other listed => closeNothing other (List.mem_cons_of_mem _ listed)) fun others =>
        notAlone fun other listed => (List.mem_cons.mp listed).elim (fun same => same ▸ first) (others other)
      obtain ⟨passedCount, passedTexts⟩ := script.behind_passed (file rest)
      rw [first.count_written, first.texts_written, passedCount, passedTexts, List.length_cons]
      omega
    · exact script.block.length_scriptTexts_lt closes opens _

/-- In a file whose scripts stand alone, the template decides whether there are blocks, and their texts are joined. -/
theorem ofSource_file (alone : ∀ script ∈ scripts, script.block.StandsAlone) : Blocks.ofSource (file scripts) =
    (Blocks.template (file scripts)).map fun tags =>
      ⟨joinLines (scripts.map fun script => script.tag.surplus ++ script.content), tags⟩ := by
  obtain ⟨count, texts⟩ := read_file alone
  rw [Blocks.ofSource_eq, count, texts, List.length_map, if_pos rfl]
  rfl

/-- Other files whose scripts close nothing are refused. -/
theorem ofSource_file_unclosed (closeNothing : ∀ script ∈ scripts, Lacks (Closing scriptName) script.block.text)
    (notAlone : ¬∀ script ∈ scripts, script.block.StandsAlone) :
    Blocks.ofSource (file scripts) = .error .unclosedScript := by
  have fewer := length_scriptTexts_lt closeNothing notAlone
  rw [Blocks.ofSource_eq, if_neg (by omega)]

/-- A script of whose start tag nothing is left stands alone if its content closes nothing, and opens nothing that its
closing tag ends. -/
theorem standsAlone_iff {script : WrittenScript} (nothing : script.tag.surplus = []) : script.block.StandsAlone ↔
    Lacks (Opening scriptName) (script.content ++ scriptEnd) ∧ Lacks (Closing scriptName) script.content := by
  -- With nothing left of the tag, the block's text is the content.
  have text : script.block.text = script.content := by rw [block, nothing, List.nil_append]
  constructor
  · rintro ⟨opensNothing, closesNothing⟩
    rw [text] at opensNothing closesNothing
    exact ⟨opensNothing, closesNothing⟩
  · rintro ⟨opensNothing, closesNothing⟩
    refine ⟨?_, ?_⟩ <;> rw [text]
    · exact opensNothing
    · exact closesNothing

end WrittenScript

open WrittenScript

/-- Scripts whose contents close nothing are read as they were written, and nothing is closed within the blocks that
are read, exactly if no value in a start tag holds a closing bracket, no tag that is begun in a content is ended by the
closing tag, and the file has no template or a closed one. -/
theorem ofSource_joins_contents_iff (scripts : List WrittenScript)
    (closeNothing : ∀ script ∈ scripts, Lacks (Closing scriptName) script.content) :
    ((∀ script ∈ scripts, Lacks (Closing scriptName) (script.tag.surplus ++ script.content)) ∧
      ∃ tags, Blocks.ofSource (file scripts) = .ok ⟨joinLines (scripts.map WrittenScript.content), tags⟩) ↔
      (∀ script ∈ scripts, ∀ value ∈ script.tag.values, '>' ∉ value.text) ∧
      (∀ script ∈ scripts, Lacks (Opening scriptName) (script.content ++ scriptEnd)) ∧
      TemplateClosed (file scripts) := by
  -- The contents come back exactly if nothing is left of any start tag.
  have joined := joinLines_append_eq_iff (fun script => script.tag.surplus) WrittenScript.content scripts
  constructor
  · rintro ⟨blocksClose, tags, read⟩
    -- A script that does not stand alone would have the file refused.
    have alone : ∀ script ∈ scripts, script.block.StandsAlone := by
      by_contra notAlone
      rw [ofSource_file_unclosed blocksClose notAlone] at read
      cases read
    rw [ofSource_file alone] at read
    cases template : Blocks.template (file scripts) with
    | error error =>
      rw [template] at read
      cases read
    | ok found =>
      rw [template] at read
      -- The joined texts are those of the contents only if nothing stands in front of them.
      have nothing := joined.mp (congrArg Blocks.script (Except.ok.inj read))
      exact ⟨fun script listed => script.tag.surplus_eq_nil_iff.mp (nothing script listed),
        fun script listed => ((standsAlone_iff (nothing script listed)).mp (alone script listed)).1,
        exists_template_iff.mp ⟨found, template⟩⟩
  · -- Where nothing is left of the start tags, the blocks are the scripts as they were written.
    rintro ⟨noEnd, opensNothing, closed⟩
    have nothing : ∀ script ∈ scripts, script.tag.surplus = [] := fun script listed =>
      script.tag.surplus_eq_nil_iff.mpr (noEnd script listed)
    have alone : ∀ script ∈ scripts, script.block.StandsAlone := fun script listed =>
      (standsAlone_iff (nothing script listed)).mpr ⟨opensNothing script listed, closeNothing script listed⟩
    obtain ⟨tags, template⟩ := exists_template_iff.mpr closed
    refine ⟨fun script listed => (alone script listed).closesNothing, tags, ?_⟩
    rw [ofSource_file alone, template, ← joined.mpr nothing]
    rfl

/-- A script with one attribute, in front of a line end. -/
def scriptWith (entry : Attribute) (content : List Char) : WrittenScript where
  tag := { name := scriptName, attributes := [entry], blanks := [], isName := spells_script, blank := blank_nil }
  content := content
  behind := ['\n']
  plain := by decide

/-- A script in TypeScript. -/
def typedScript (content : List Char) : WrittenScript :=
  scriptWith (.quoted "lang".toList "ts".toList (by decide) (by decide) (by decide)) content

/-- A script with a type parameter that is bounded by a map. -/
def genericScript (content : List Char) : WrittenScript :=
  scriptWith (.quoted "generic".toList "T extends Map<string, A>".toList (by decide) (by decide)
    (by decide +kernel)) content

/-- Two scripts in TypeScript are read as they were written. -/
theorem ofSource_joins_contents_iff_typed :
    ∃ tags, Blocks.ofSource (file [typedScript "const a = 1".toList, typedScript "const b = 2".toList]) =
      .ok ⟨"const a = 1\nconst b = 2".toList, tags⟩ := by
  -- Neither script holds a template.
  have closed : TemplateClosed (file [typedScript "const a = 1".toList, typedScript "const b = 2".toList]) :=
    templateClosed_of_lacks (by decide +kernel)
  exact ((ofSource_joins_contents_iff _ (by decide)).mpr
    ⟨by decide +kernel, by decide, closed⟩).2

/-- A bracket in a value, a tag that is begun in a string, and a template that is opened in one: of these scripts, none
of which holds a tag of a script, none is read as it was written. -/
theorem ofSource_alters_written_scripts :
    (Lacks (Opening scriptName) "const a = 1".toList ∧ Lacks (Closing scriptName) "const a = 1".toList ∧
      Blocks.ofSource (file [genericScript "const a = 1".toList]) = .ok ⟨"\">const a = 1".toList, []⟩) ∧
    (Lacks (Opening scriptName) "const a = '<script '".toList ∧
      Lacks (Closing scriptName) "const a = '<script '".toList ∧
      Blocks.ofSource (file [typedScript "const a = '<script '".toList]) = .error .unclosedScript) ∧
    (Lacks (Opening scriptName) "const a = '<template>'".toList ∧
      Lacks (Closing scriptName) "const a = '<template>'".toList ∧
      Blocks.ofSource (file [typedScript "const a = '<template>'".toList]) = .error .unclosedTemplate) := by
  refine ⟨⟨?_, ?_, ?_⟩, ⟨?_, ?_, ?_⟩, ?_, ?_, ?_⟩ <;> decide

end LayerAudit.Component
