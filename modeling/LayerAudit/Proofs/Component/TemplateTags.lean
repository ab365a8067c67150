import LayerAudit.Proofs.Component.Comments

/-!
The tags of a template are the start tags in it, if no value of an attribute holds the beginning of a comment and each
quote behind an equals sign in the text is closed there. Comments are cut out first, so that a comment that begins in a
value hides what follows; and a quote that is left open in the text hides what stands in front of the next one.
-/

namespace LayerAudit.Component

variable {text run rest : List Char}

/-! ### Text -/

/-- An equals sign with an opening quote behind it, from which blanks may part it. -/
def ValueStart (start : List Char) : Prop :=
  ∃ blanks quote, (∀ c ∈ blanks, Text.isBlank c) ∧ (quote = '"' ∨ quote = '\'') ∧ start = '=' :: (blanks ++ [quote])

/-- A text in which each quote behind an equals sign is closed, as it is read from the left. -/
inductive Settled : List Char → Prop
  | nil : Settled []
  | char {c : Char} {rest : List Char} (none : ∀ start, ValueStart start → ¬start <+: c :: rest)
    (others : Settled rest) : Settled (c :: rest)
  | value {marker rest : List Char} (isValue : IsValue marker) (others : Settled rest) : Settled (marker ++ rest)

/-- A text without equals signs is settled. -/
theorem settled_of_not_mem (noEquals : '=' ∉ text) : Settled text := by
  induction text with
  | nil => exact .nil
  | cons c text ih =>
    -- Only an equals sign begins a value, and the text has none.
    refine .char ?_ (ih fun member => noEquals (List.mem_cons_of_mem _ member))
    rintro start ⟨blanks, quote, -, -, rfl⟩ ⟨behind, same⟩
    exact noEquals ((List.cons.inj same).1 ▸ List.mem_cons_self ..)

/-- A settled text is passed in front of a bracket and at the end. -/
theorem tagsIn_text (settled : Settled text) (plain : '<' ∉ text) (follows : ∀ c ∈ rest.head?, c = '<')
    (offset : Nat) : tagsIn 0 (text ++ rest) offset = tagsIn 0 rest (offset + Text.byteSize text) := by
  induction settled generalizing offset with
  | nil => rfl
  | @char c text none others ih =>
    have isOther : c ≠ '<' := fun same => plain (same ▸ List.mem_cons_self ..)
    -- A value that is found here would begin in the text, as no opening quote lies behind it.
    have noValue : valueLength? (c :: (text ++ rest)) = Option.none := by
      rw [measures_value.eq_none_iff]
      rintro marker ⟨blanks, quote, value, blank, isQuote, -, rfl⟩ ⟨behind, same⟩
      have isStart : ValueStart ('=' :: (blanks ++ [quote])) := ⟨blanks, quote, blank, isQuote, rfl⟩
      have same : '=' :: (blanks ++ [quote]) ++ (value ++ quote :: behind) = (c :: text) ++ rest := by
        simpa using same
      rcases List.append_eq_append_iff.mp same with ⟨more, front, -⟩ | ⟨more, front, split⟩
      · exact none _ isStart ⟨more, front.symm⟩
      · cases more with
        | nil => exact none _ isStart (by simp [front])
        | cons d more =>
          -- What would begin the value reaches over the bracket that follows.
          obtain rfl : d = '<' := follows d (by simp [split])
          have inside : '<' ∈ '=' :: (blanks ++ [quote]) := by simp [front]
          have quoteIsOther : '<' ≠ quote := by rintro rfl; simp at isQuote
          simp [(not_mem_blanks blank).1, quoteIsOther] at inside
    rw [List.cons_append, tagsIn_char (fun same => absurd same isOther) noValue, Text.byteSize, ← Nat.add_assoc]
    exact ih (fun member => plain (List.mem_cons_of_mem _ member)) _
  -- A value is passed as a whole, and the rest of the text is settled as well.
  | @value marker text isValue others ih =>
    rw [List.append_assoc, tagsIn_value isValue, Text.byteSize_append, ← Nat.add_assoc]
    exact ih (fun member => plain (List.mem_append_right _ member)) _

/-- From a settled text at the end nothing is taken. -/
theorem tagsIn_end (settled : Settled text) (plain : '<' ∉ text) (offset : Nat) : tagsIn 0 text offset = [] := by
  have passed : tagsIn 0 (text ++ []) offset = [] := tagsIn_text settled plain (by simp) offset
  rwa [List.append_nil] at passed

/-! ### Markup -/

/-- What may stand between the texts of a template. -/
inductive Markup
  | comment (text : List Char) (closed : ¬commentEnd <:+: text)
  | startTag (tag : StartTag IsElementName) (selfClosing : Bool)
  | endTag (name blanks : List Char) (isName : IsElementName name) (blank : ∀ c ∈ blanks, Text.isBlank c)

namespace Markup

/-- Markup in a file. -/
def written : Markup → List Char
  | comment text _ => commentStart ++ (text ++ commentEnd)
  | startTag tag selfClosing => '<' :: (tag.name ++ (tag.details ++ if selfClosing then ['/', '>'] else ['>']))
  | endTag name blanks _ _ => '<' :: '/' :: (name ++ (blanks ++ ['>']))

/-- The name of a start tag. -/
def startName? : Markup → Option String
  | startTag tag _ => some (String.ofList tag.name)
  | _ => none

/-- The values of a start tag. -/
def values : Markup → List QuotedValue
  | startTag tag _ => tag.values
  | _ => []

/-- A start tag at its place in a file. -/
def tagsAt : Markup → Nat → List (String × Script.Span)
  | startTag tag _, offset => [(String.ofList tag.name, ⟨offset, offset + tag.name.length + 1⟩)]
  | _, _ => []

/-- The names of the placed tags are those of the start tags. -/
theorem names_tagsAt (markup : Markup) (offset : Nat) :
    (markup.tagsAt offset).map Prod.fst = markup.startName?.toList := by
  cases markup <;> rfl

/-- Markup begins with a bracket. -/
theorem head?_written (markup : Markup) : markup.written.head? = some '<' := by
  cases markup <;> rfl

end Markup

/-- A bracket begins no comment if no exclamation mark follows. -/
theorem noComment_bracket {c : Char} {s : List Char} (isOther : c ≠ '!')
    (none : NoneBegins (Eq commentStart) (c :: s) rest) : NoneBegins (Eq commentStart) ('<' :: c :: s) rest := by
  refine noneBegins_cons_iff.mpr ⟨?_, none⟩
  rintro marker rfl ⟨behind, same⟩
  exact isOther (List.cons.inj (List.cons.inj same).2).1.symm

/-- A blank or the end of the tag stops the name of a start tag. -/
theorem StartTag.exists_stop (tag : StartTag IsElementName) {close : List Char}
    (isClose : close = ['/', '>'] ∨ close = ['>']) :
    ∃ c more, tag.details ++ close = c :: more ∧ continuesTag c = false := by
  have blank := tag.isBlank_of_head?_details
  cases details : tag.details with
  -- Without attributes the first character of the end stops the name.
  | nil => rcases isClose with rfl | rfl <;> exact ⟨_, _, rfl, by decide⟩
  | cons c more => exact ⟨c, more ++ close, rfl, continuesTag_of_isBlank (blank c (by simp [details]))⟩

/-- From a start tag whose values hold no comment one tag is taken. -/
theorem scanned_startTag (tag : StartTag IsElementName) (selfClosing : Bool)
    (noComment : ∀ value ∈ tag.values, ¬commentStart <:+: value.text) :
    Scanned (Markup.startTag tag selfClosing).written (Markup.startTag tag selfClosing).tagsAt := by
  obtain ⟨close, ending, isClose⟩ : ∃ close, (if selfClosing then ['/', '>'] else ['>']) = close ∧
      (close = ['/', '>'] ∨ close = ['>']) := ⟨_, rfl, by cases selfClosing <;> simp⟩
  -- Attributes without comments are passed, and so is the end of the tag.
  have tail : Passed (tag.details ++ close) := by
    refine (tag.passed_details noComment).append (passed_plain ?_ ?_) <;> rcases isClose with rfl | rfl <;> decide
  obtain ⟨c, more, split, stop⟩ := tag.exists_stop isClose
  have written : (Markup.startTag tag selfClosing).written = '<' :: (tag.name ++ (tag.details ++ close)) := by
    rw [Markup.written, ending]
  rw [written]
  constructor
  · -- No comment begins at the bracket, as a letter follows it, and none begins in what follows.
    intro rest
    have none := (tag.isName.passed.append tail).noComment rest
    obtain ⟨first, name, isName, starts, -⟩ := tag.isName
    have isOther : first ≠ '!' := by
      rintro rfl
      exact absurd starts (by decide)
    rw [isName] at none ⊢
    exact noComment_bracket isOther none
  · intro rest offset
    -- The tag is taken up to the end of its name, and the rest of it is passed.
    have taken := tagsIn_name tag.isName stop (more ++ rest) offset
    have next := tail.reads rest (offset + 1 + Text.byteSize tag.name)
    have size : Text.byteSize ('<' :: (tag.name ++ c :: more)) =
        1 + (Text.byteSize tag.name + Text.byteSize (c :: more)) := by
      rw [← Text.byteSize_append]
      rfl
    rw [split] at next ⊢
    rw [List.cons_append, List.append_assoc, List.cons_append, taken, ← List.cons_append, next, size]
    simp only [Markup.tagsAt, List.nil_append, List.singleton_append, Nat.add_assoc]

/-- From an end tag none is taken. -/
theorem passed_endTag {name blanks : List Char} (isName : IsElementName name) (blank : ∀ c ∈ blanks, Text.isBlank c) :
    Passed (Markup.endTag name blanks isName blank).written := by
  have slash : Passed ['/'] := passed_plain (by decide) (by decide)
  have ending : Passed ['>'] := passed_plain (by decide) (by decide)
  have tail : Passed ('/' :: (name ++ (blanks ++ ['>']))) :=
    slash.append (isName.passed.append ((passed_blanks blank).append ending))
  constructor
  · exact fun rest => noComment_bracket (by decide) (tail.noComment rest)
  · intro rest offset
    -- No name begins with the slash.
    have noTag : ∀ c ∈ ('/' :: (name ++ (blanks ++ ['>'])) ++ rest).head?, startsTag c = false := by
      intro c first
      obtain rfl : '/' = c := by simpa using first
      decide
    have notEquals : '<' ≠ '=' := by decide
    have here := tagsIn_char (fun _ => noTag) (valueLength?_of_ne notEquals _) offset
    rw [Markup.written, List.cons_append, here, tail.reads, Nat.add_assoc]
    rfl

/-- A settled text in front of a bracket adds no tags to what is taken behind it. -/
theorem Scanned.behind_text {tags : Nat → List (String × Script.Span)} (scanned : Scanned run tags)
    (first : run.head? = some '<') (settled : Settled text) (plain : '<' ∉ text) :
    Scanned (text ++ run) fun offset => tags (offset + Text.byteSize text) where
  noComment rest := noneBegins_append_iff.mpr ⟨noComment_plain plain _, scanned.noComment rest⟩
  reads rest offset := by
    rw [List.append_assoc, tagsIn_text settled plain (bracket_first first rest), scanned.reads, Text.byteSize_append,
      Nat.add_assoc]

/-- In front of a comment the tags of a run are taken that ends with a settled text, and then the tags behind it. -/
theorem Scanned.templateTags_comment {tags : Nat → List (String × Script.Span)} (scanned : Scanned run tags)
    (settled : Settled text) (plain : '<' ∉ text) {inner : List Char} (closed : ¬commentEnd <:+: inner)
    (rest : List Char) (offset : Nat) :
    templateTags (run ++ (text ++ ((Markup.comment inner closed).written ++ rest))) offset =
      tags offset ++ templateTags rest (offset + Text.byteSize run + Text.byteSize text +
        Text.byteSize (Markup.comment inner closed).written) := by
  have isComment : IsComment (Markup.comment inner closed).written := ⟨inner, closed, rfl⟩
  have none : NoneBegins IsComment (run ++ text) ((Markup.comment inner closed).written ++ rest) :=
    noneBegins_comment (noneBegins_append_iff.mpr ⟨scanned.noComment _, noComment_plain plain _⟩)
  -- In front of the comment the run and the text are scanned as one text without comments.
  rw [← List.append_assoc run, Component.templateTags_comment isComment none, scanned.reads, tagsIn_end settled plain,
    List.append_nil, Text.byteSize_append run text, ← Nat.add_assoc]

/-! ### Templates -/

/-- The text of a template: texts without brackets, each in front of markup, and one at the end. -/
structure TemplateBody where
  parts : List (List Char × Markup)
  last : List Char
  plain : ∀ part ∈ parts, '<' ∉ part.1
  lastPlain : '<' ∉ last

namespace TemplateBody

/-- Some parts in a file. -/
def writtenParts (parts : List (List Char × Markup)) : List Char :=
  parts.flatMap fun part => part.1 ++ part.2.written

/-- The template in a file. -/
def written (body : TemplateBody) : List Char := writtenParts body.parts ++ body.last

/-- The start tags of some parts, at their places in a file. -/
def tagsOfParts : List (List Char × Markup) → Nat → List (String × Script.Span)
  | [], _ => []
  | (text, markup) :: rest, offset =>
    markup.tagsAt (offset + Text.byteSize text) ++
      tagsOfParts rest (offset + Text.byteSize text + Text.byteSize markup.written)

/-- The names of the start tags, in their order. -/
def startNames (body : TemplateBody) : List String := body.parts.filterMap fun part => part.2.startName?

/-- Nothing in a template hides a tag: each quote behind an equals sign in a text is closed there, and no comment begins
in a value. -/
structure HidesNothing (body : TemplateBody) : Prop where
  texts : ∀ part ∈ body.parts, Settled part.1
  last : Settled body.last
  values : ∀ part ∈ body.parts, ∀ value ∈ part.2.values, ¬commentStart <:+: value.text

/-- The names of the placed tags are those of the start tags. -/
theorem names_tagsOfParts (parts : List (List Char × Markup)) (offset : Nat) :
    (tagsOfParts parts offset).map Prod.fst = parts.filterMap fun part => part.2.startName? := by
  induction parts generalizing offset with
  | nil => rfl
  | cons part rest ih =>
    obtain ⟨text, markup⟩ := part
    rw [tagsOfParts, List.map_append, markup.names_tagsAt, ih, List.filterMap_cons]
    cases markup.startName? <;> simp

/-- The tags of a template are the tags of the run in front of it and its start tags. -/
theorem templateTags_parts {parts : List (List Char × Markup)} {last : List Char}
    {tags : Nat → List (String × Script.Span)} (scanned : Scanned run tags)
    (texts : ∀ part ∈ parts, Settled part.1 ∧ '<' ∉ part.1) (lastText : Settled last ∧ '<' ∉ last)
    (values : ∀ part ∈ parts, ∀ value ∈ part.2.values, ¬commentStart <:+: value.text) (offset : Nat) :
    templateTags (run ++ (writtenParts parts ++ last)) offset =
      tags offset ++ tagsOfParts parts (offset + Text.byteSize run) := by
  -- Tags are added to the run that is scanned in one go, and a comment ends the run.
  induction parts generalizing run tags offset with
  -- At the end there is only text, from which nothing is taken.
  | nil =>
    have none : NoneBegins (Eq commentStart) (run ++ last) [] :=
      noneBegins_append_iff.mpr ⟨scanned.noComment _, noComment_plain lastText.2 _⟩
    rw [writtenParts, List.flatMap_nil, List.nil_append, templateTags_run (noneBegins_comment none), scanned.reads,
      tagsIn_end lastText.1 lastText.2]
    rfl
  | cons part rest ih =>
    obtain ⟨text, markup⟩ := part
    obtain ⟨settled, plain⟩ := texts _ (List.mem_cons_self ..)
    have here := values _ (List.mem_cons_self ..)
    have laterTexts : ∀ part ∈ rest, Settled part.1 ∧ '<' ∉ part.1 := fun part listed =>
      texts part (List.mem_cons_of_mem _ listed)
    have laterValues : ∀ part ∈ rest, ∀ value ∈ part.2.values, ¬commentStart <:+: value.text := fun part listed =>
      values part (List.mem_cons_of_mem _ listed)
    have split : run ++ (writtenParts ((text, markup) :: rest) ++ last) =
        run ++ (text ++ (markup.written ++ (writtenParts rest ++ last))) := by
      simp [writtenParts]
    -- Markup from which certain tags are taken goes to the run, with the text in front of it.
    have grown : Scanned markup.written markup.tagsAt →
        templateTags (run ++ (writtenParts ((text, markup) :: rest) ++ last)) offset =
          tags offset ++ tagsOfParts ((text, markup) :: rest) (offset + Text.byteSize run) := by
      intro scannedMarkup
      have next := scanned.append (scannedMarkup.behind_text markup.head?_written settled plain)
      have read := ih next laterTexts laterValues offset
      simp only [Text.byteSize_append, List.append_assoc, ← Nat.add_assoc] at read
      rw [split, read]
      rfl
    cases markup with
    | comment inner closed =>
      -- Behind a comment a new run begins.
      rw [split, scanned.templateTags_comment settled plain]
      exact congrArg (tags offset ++ ·) (ih passed_nil laterTexts laterValues _)
    -- Start tags and end tags go to the run.
    | startTag tag selfClosing => exact grown (scanned_startTag tag selfClosing here)
    | endTag name blanks isName blank => exact grown (passed_endTag isName blank)

/-- The start tags at their places, if the template begins at an offset. -/
def tagsAt (body : TemplateBody) (offset : Nat) : List (String × Script.Span) := tagsOfParts body.parts offset

/-- The tags of a template that hides nothing are its start tags. -/
theorem HidesNothing.templateTags_eq {body : TemplateBody} (hidesNothing : body.HidesNothing) (offset : Nat) :
    templateTags body.written offset = body.tagsAt offset := by
  have read := templateTags_parts passed_nil
    (fun part listed => ⟨hidesNothing.texts part listed, body.plain part listed⟩)
    ⟨hidesNothing.last, body.lastPlain⟩ hidesNothing.values offset
  exact read

end TemplateBody

/-- In a component whose scripts are closed, with a template that hides nothing and that no other tag opens or closes,
the tags are the start tags of the template in their order, at the places of their brackets and names. -/
theorem ofSource_reports_start_tags (block : Block templateName) (body : TemplateBody) (pre post : List Char)
    (inside : block.text = body.written) (hidesNothing : body.HidesNothing)
    (opensFirst : Lacks (Opening templateName) pre) (closesLast : Lacks (Closing templateName) post)
    (scripts : ScriptsClosed (pre ++ (block.written ++ post))) :
    ∃ blocks, Blocks.ofSource (pre ++ (block.written ++ post)) = .ok blocks ∧
      blocks.tags.map Prod.fst = body.startNames ∧
      blocks.tags = body.tagsAt (Text.byteSize (pre ++ block.opening)) := by
  obtain ⟨text, offset, found, own⟩ := exists_templateText? block pre post
  -- The part that is read as template is the text of the block.
  obtain ⟨rfl, rfl⟩ := own.mpr ⟨opensFirst, closesLast⟩
  have template := template_of_templateText? found
  rw [inside, hidesNothing.templateTags_eq] at template
  rw [scripts.ofSource_eq, template]
  exact ⟨_, rfl, TemplateBody.names_tagsOfParts _ _, rfl⟩

/-- A letter is the name of an element. -/
theorem isElementName_letter {letter : Char} (isLetter : startsTag letter) : IsElementName [letter] :=
  ⟨letter, [], rfl, isLetter, List.forall_mem_nil _⟩

/-- An element whose name is one letter. -/
def letterTag (letter : Char) (isLetter : startsTag letter) (attributes : List Attribute) : StartTag IsElementName where
  name := [letter]
  attributes := attributes
  blanks := []
  isName := isElementName_letter isLetter
  blank := blank_nil

/-- Some parts between which no text stands. -/
def TemplateBody.ofMarkup (markup : List Markup) : TemplateBody where
  parts := markup.map fun item => ([], item)
  last := []
  plain := List.forall_mem_map.mpr fun _ _ => List.not_mem_nil
  lastPlain := plain_nil

/-- A template with brackets in a value, and a tag in a comment. -/
def guardedTemplate : TemplateBody where
  parts := [
    (['\n'], .startTag (letterTag 'A' rfl [.quoted "v-if".toList "a<B && b>c".toList (by decide +kernel)
      (by decide +kernel) (by decide +kernel)]) false),
    ("a text ".toList, .comment " <C/> ".toList (by decide +kernel)),
    ([], .endTag ['A'] [] (isElementName_letter rfl) blank_nil)]
  last := []
  plain := by decide +kernel
  lastPlain := plain_nil

/-- Of its tags, the element is reported, and neither what stands in the value nor what stands in the comment. -/
theorem ofSource_reports_start_tags_guarded :
    ∃ blocks, Blocks.ofSource ([] ++ ((Block.bare spells_template guardedTemplate.written).written ++ [])) =
      .ok blocks ∧ blocks.tags.map Prod.fst = ["A"] := by
  -- No text has an equals sign, so that every text is settled.
  have noEquals : ∀ part ∈ guardedTemplate.parts, '=' ∉ part.1 := by decide +kernel
  have hidesNothing : guardedTemplate.HidesNothing :=
    ⟨fun part listed => settled_of_not_mem (noEquals part listed), .nil, by decide +kernel⟩
  obtain ⟨blocks, read, names, -⟩ := ofSource_reports_start_tags (.bare spells_template guardedTemplate.written)
    guardedTemplate [] [] rfl hidesNothing (by decide +kernel) (by decide +kernel)
    (scriptsClosed_of_lacks (by decide +kernel))
  exact ⟨blocks, read, names⟩

/-- A template with the beginning of a comment in a value. -/
def commentInValue : TemplateBody := .ofMarkup [
  .startTag (letterTag 'A' rfl [.quoted "b".toList "<!--".toList (by decide +kernel) (by decide +kernel)
    (by decide +kernel)]) true,
  .startTag (letterTag 'B' rfl []) true,
  .comment " c ".toList (by decide +kernel)]

/-- A template with a quote behind an equals sign in a text. -/
def quoteInText : TemplateBody where
  parts := [([], .startTag (letterTag 'p' rfl []) false), ("a =\"".toList, .startTag (letterTag 'B' rfl []) true),
    ("\"".toList, .endTag ['p'] [] (isElementName_letter rfl) blank_nil)]
  last := []
  plain := by decide +kernel
  lastPlain := plain_nil

/-- A template with the opening tag of a script in a value. -/
def scriptInValue : TemplateBody := .ofMarkup [
  .startTag (letterTag 'A' rfl [.quoted "b".toList "<script>".toList (by decide) rfl
    (by decide +kernel)]) true]

/-- In the first two of these templates the second start tag is hidden, and the third one is refused for its script. -/
theorem ofSource_hides_start_tags :
    (commentInValue.startNames = ["A", "B"] ∧
      Blocks.ofSource (Block.bare spells_template commentInValue.written).written = .ok ⟨[], [("A", ⟨10, 12⟩)]⟩) ∧
    (quoteInText.startNames = ["p", "B"] ∧
      Blocks.ofSource (Block.bare spells_template quoteInText.written).written = .ok ⟨[], [("p", ⟨10, 12⟩)]⟩) ∧
    (scriptInValue.startNames = ["A"] ∧
      Blocks.ofSource (Block.bare spells_template scriptInValue.written).written = .error .unclosedScript) := by
  refine ⟨⟨?_, ?_⟩, ⟨?_, ?_⟩, ?_, ?_⟩ <;> decide

end LayerAudit.Component
