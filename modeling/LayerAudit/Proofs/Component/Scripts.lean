import LayerAudit.Proofs.Component.Overlap

/-!
The script blocks of a component. The successive opening tags cut a file into sections, and the strict reading finds as
many blocks as there are sections exactly if each section holds a closing tag; the lenient reading finds the same blocks
then.
-/

namespace LayerAudit.Component

variable {tag gap before behind rest content source s t : List Char} {lenient : Bool}
variable {sections : List (List Char × List Char)} {blocks : Blocks}

/-! ### Sections -/

/-- Successive opening tags, each with the text up to the next one. -/
inductive Sections (name : List Char) : List Char → List (List Char × List Char) → Prop
  | none : Sections name [] []
  | next {tag gap rest : List Char} {sections : List (List Char × List Char)} (opens : Opening name tag)
    (free : NoneBegins (Opening name) gap rest) (others : Sections name rest sections) :
    Sections name (tag ++ (gap ++ rest)) ((tag, gap) :: sections)

/-- A file is a text in which no opening tag begins, with sections behind it. -/
def Sectioned (name source : List Char) (sections : List (List Char × List Char)) : Prop :=
  ∃ before rest, source = before ++ rest ∧ NoneBegins (Opening name) before rest ∧ Sections name rest sections

/-- Every file has sections. -/
theorem exists_sectioned (name source : List Char) : ∃ sections, Sectioned name source sections := by
  have measures := measures_opening name
  -- The induction is on the opening tags of the file.
  induction source using measures.induct with
  | lacks source lacks => exact ⟨[], source, [], by simp, measures.noneBegins_iff.mpr lacks, .none⟩
  | first before tag rest opens none ih =>
    -- What stands in front of the sections of the rest belongs to the section of the tag.
    obtain ⟨sections, gap, more, rfl, free, others⟩ := ih
    exact ⟨_, before, _, rfl, none, .next opens free others⟩

/-- The count of opening tags is the number of sections. -/
theorem Sections.count (cut : Sections scriptName rest sections) :
    countMarkers (openingLength? scriptName) 0 rest = sections.length := by
  have measures := measures_opening scriptName
  induction cut with
  | none => rfl
  -- Each section has one tag, and nothing begins in its text.
  | next opens free _ ih =>
    rw [measures.countMarkers_marker opens, measures.countMarkers_gap free, ih, List.length_cons, Nat.add_comm]

/-- Opening tags that begin before a closing bracket end there, so that only one of them is counted. -/
theorem countMarkers_upTo (front rest : List Char) (absent : '>' ∉ front) :
    countMarkers (openingLength? scriptName) 0 (front ++ '>' :: rest) ≤
      1 + countMarkers (openingLength? scriptName) 0 rest := by
  have measures := measures_opening scriptName
  induction front with
  | nil =>
    have plain : NoneBegins (Opening scriptName) ['>'] rest := (noneBegins_plain (by decide) rest).1
    rw [List.nil_append, show '>' :: rest = ['>'] ++ rest from rfl, measures.countMarkers_gap plain]
    omega
  | cons c front ih =>
    -- A tag that begins here ends at the bracket, so that the count goes on behind it.
    by_cases begun : ∃ tag, Opening scriptName tag ∧ tag <+: c :: (front ++ '>' :: rest)
    · obtain ⟨tag, opens, behind, same⟩ := begun
      obtain rfl : behind = rest := (endsOnce_opening isBlockName_script).behind_eq opens same absent
      rw [List.cons_append, ← same, measures.countMarkers_marker opens]
    · rw [List.cons_append, measures.countMarkers_char fun tag opens isFront => begun ⟨tag, opens, isFront⟩]
      exact ih fun member => absent (List.mem_cons_of_mem _ member)

/-- The end of a file has no more successive opening tags than the file. -/
theorem countMarkers_le_of_suffix (suffix : t <:+ s) :
    countMarkers (openingLength? scriptName) 0 t ≤ countMarkers (openingLength? scriptName) 0 s := by
  have measures := measures_opening scriptName
  induction s with
  | nil => rw [List.suffix_nil.mp suffix]
  | cons c s ih =>
    -- The end is the whole text, or it is the end of the rest.
    rcases List.suffix_cons_iff.mp suffix with rfl | suffix
    · exact Nat.le_refl _
    · -- One more character in front begins a tag, behind which the count goes on, or it is passed.
      refine Nat.le_trans (ih suffix) ?_
      by_cases begun : ∃ tag, Opening scriptName tag ∧ tag <+: c :: s
      · obtain ⟨tag, opens, rest, same⟩ := begun
        obtain ⟨front, rfl, absent⟩ := opens.exists_front isBlockName_script
        obtain ⟨-, rfl⟩ := List.cons.inj same
        rw [← same, measures.countMarkers_marker opens]
        simpa using countMarkers_upTo front rest absent
      · rw [measures.countMarkers_char fun tag opens isFront => begun ⟨tag, opens, isFront⟩]

/-! ### The texts of blocks -/

/-- What belongs to a block already is passed. -/
theorem scriptTexts_skip (lenient : Bool) (k : Nat) (s : List Char) :
    scriptTexts lenient k s = scriptTexts lenient 0 (s.drop k) := by
  induction s generalizing k with
  | nil => cases k <;> rfl
  | cons c s ih =>
    cases k with
    | zero => rfl
    | succ k => exact ih k

/-- A text in which no opening tag begins has no blocks. -/
theorem scriptTexts_gap (none : NoneBegins (Opening scriptName) gap rest) :
    scriptTexts lenient 0 (gap ++ rest) = scriptTexts lenient 0 rest := by
  induction gap with
  | nil => rfl
  -- No tag begins at the first character, so that it is passed.
  | cons c gap ih =>
    obtain ⟨front, none⟩ := noneBegins_cons_iff.mp none
    rw [List.cons_append, scriptTexts, (measures_opening scriptName).eq_none_iff.mpr front]
    exact ih none

/-- A file without opening tags has no blocks. -/
theorem scriptTexts_lacks (lacks : Lacks (Opening scriptName) s) : scriptTexts lenient 0 s = [] := by
  have nothing : scriptTexts lenient 0 (s ++ []) = [] :=
    scriptTexts_gap ((measures_opening scriptName).noneBegins_iff.mpr lacks)
  rwa [List.append_nil] at nothing

/-- A block reaches from its opening tag to the first closing tag behind it. -/
theorem scriptTexts_closed (opens : Opening scriptName tag)
    (split : splitAtMarker? (closingLength? scriptName) content = some (s, behind)) :
    scriptTexts lenient 0 (tag ++ content) = s :: scriptTexts lenient 0 behind := by
  obtain ⟨c, front, rfl⟩ := (measures_opening scriptName).exists_cons opens
  have found := (measures_opening scriptName).length?_append opens content
  -- The closing tag is the first one behind the tag.
  obtain ⟨closing, -, -, rfl⟩ := (measures_closing scriptName).splitAtMarker?_eq_some_iff.mp split
  rw [List.cons_append] at found ⊢
  rw [scriptTexts, found]
  simp only [List.length_cons, List.drop_succ_cons, List.drop_left, split]
  rw [scriptTexts_skip]
  congr 2
  -- Only what stands behind the closing tag is left.
  rw [show front ++ (s ++ (closing ++ behind)) = (front ++ s ++ closing) ++ behind by simp]
  refine List.drop_left' ?_
  simp
  omega

/-- In the strict reading no block begins in a file if none of its opening tags is closed. -/
theorem scriptTexts_strict (unclosed : ∀ tag behind, Opening scriptName tag → tag ++ behind <:+ s →
    Lacks (Closing scriptName) behind) : scriptTexts false 0 s = [] := by
  have measures := measures_opening scriptName
  induction s with
  | nil => rfl
  | cons c s ih =>
    -- What is not closed in the text is not closed in its end either.
    have later := ih fun tag behind opens suffix => unclosed tag behind opens (suffix.trans (List.suffix_cons c s))
    rw [scriptTexts]
    cases found : openingLength? scriptName (c :: s) with
    | none => exact later
    -- A tag without a closing one behind it is passed like any other text.
    | some n =>
      obtain ⟨tag, behind, opens, same, rfl⟩ := (measures.eq_some_iff _ _).mp found
      have lacks := unclosed tag behind opens (same ▸ List.suffix_rfl)
      have unsplit : splitAtMarker? (closingLength? scriptName) behind = none :=
        (measures_closing scriptName).splitAtMarker?_eq_none_iff.mpr lacks
      simp only [same, List.drop_left, unsplit]
      exact later

/-- In the strict reading a tag behind which nothing closes begins no block, and no later tag does. -/
theorem scriptTexts_unclosed (opens : Opening scriptName tag) (lacks : Lacks (Closing scriptName) content) :
    scriptTexts false 0 (tag ++ content) = [] := by
  refine scriptTexts_strict ?_
  rintro other behind otherOpens ⟨front, same⟩
  -- A later tag, and one that begins inside the tag, ends behind it or with it.
  obtain ⟨inner, rfl, -⟩ := otherOpens.exists_front isBlockName_script
  have suffix : behind <:+ content :=
    (endsOnce_opening isBlockName_script).suffix_behind opens (t := front ++ '<' :: inner) (by rw [← same]; simp)
  exact lacks.infix suffix.isInfix

/-- There are never more blocks than successive opening tags. -/
theorem length_scriptTexts_le (s : List Char) :
    (scriptTexts false 0 s).length ≤ countMarkers (openingLength? scriptName) 0 s := by
  have measures := measures_opening scriptName
  have closings := measures_closing scriptName
  -- The induction is on the length: a block takes one tag, and the count goes on behind it.
  induction size : s.length using Nat.strong_induction_on generalizing s with
  | _ n ih =>
    rcases measures.exists_first s with lacks | ⟨gap, tag, content, opens, free, rfl⟩
    · rw [scriptTexts_lacks lacks]
      exact Nat.zero_le _
    · rw [scriptTexts_gap free, measures.countMarkers_gap free, measures.countMarkers_marker opens]
      rcases closings.exists_first content with lacks | ⟨script, closing, behind, closes, before, rfl⟩
      · rw [scriptTexts_unclosed opens lacks]
        exact Nat.zero_le _
      · -- A block takes one tag at least, and the count behind its closing tag is no greater than behind its tag.
        rw [scriptTexts_closed opens (closings.splitAtMarker?_append closes before), List.length_cons]
        have suffix : behind <:+ script ++ (closing ++ behind) := ⟨script ++ closing, by simp⟩
        have counted := countMarkers_le_of_suffix suffix
        have positive := measures.length_pos opens
        have fewer := ih behind.length (by simp at size; omega) behind rfl
        omega

/-! ### Closed sections -/

/-- A section that holds a closing tag is split at its first one, whatever follows the section. -/
theorem exists_closed (closed : ¬Lacks (Closing scriptName) gap) : ∃ script more, more <:+ gap ∧
    ∀ rest, splitAtMarker? (closingLength? scriptName) (gap ++ rest) = some (script, more ++ rest) := by
  have closings := measures_closing scriptName
  -- The first closing tag of the section is the first one whatever follows.
  rcases closings.exists_first gap with lacks | ⟨script, closing, more, closes, free, rfl⟩
  · exact absurd lacks closed
  · refine ⟨script, more, ⟨script ++ closing, by simp⟩, fun rest => ?_⟩
    have free := noneBegins_closing isBlockName_script (free.lacks closings.ne_nil)
      (bracket_first closes.head? (more ++ rest))
    simpa using closings.splitAtMarker?_append closes free

/-- A closed section gives a block, and the reading goes on with the next section. -/
theorem exists_scriptTexts_next (opens : Opening scriptName tag) (free : NoneBegins (Opening scriptName) gap rest)
    (closed : ¬Lacks (Closing scriptName) gap) :
    ∃ script, ∀ lenient, scriptTexts lenient 0 (tag ++ (gap ++ rest)) = script :: scriptTexts lenient 0 rest := by
  obtain ⟨script, more, suffix, split⟩ := exists_closed closed
  refine ⟨script, fun lenient => ?_⟩
  rw [scriptTexts_closed opens (split rest), scriptTexts_gap (free.suffix suffix)]

/-- If every section is closed, both readings find the same blocks, one in each section. -/
theorem Sections.readings_agree (cut : Sections scriptName rest sections)
    (closed : ∀ entry ∈ sections, ¬Lacks (Closing scriptName) entry.2) :
    (scriptTexts false 0 rest).length = sections.length ∧ scriptTexts true 0 rest = scriptTexts false 0 rest := by
  induction cut with
  | none => exact ⟨rfl, rfl⟩
  | next opens free _ ih =>
    -- The section holds a closing tag, so that it gives one block in both readings.
    obtain ⟨script, texts⟩ := exists_scriptTexts_next opens free (closed _ (List.mem_cons_self ..))
    obtain ⟨count, same⟩ := ih fun entry listed => closed entry (List.mem_cons_of_mem _ listed)
    rw [texts, texts, same, List.length_cons, List.length_cons, count]
    exact ⟨rfl, rfl⟩

/-- Sections begin with a bracket, if there are any. -/
theorem Sections.head? (cut : Sections scriptName rest sections) : ∀ c ∈ rest.head?, c = '<' := by
  cases cut with
  | none => simp
  | next opens free others => exact bracket_first opens.head? _

/-- The first closing tag behind a section without one ends at the end of the next tag or behind it. -/
theorem Sections.count_behind_lt (cut : Sections scriptName rest sections) {closing : List Char}
    (lacks : Lacks (Closing scriptName) gap) (closes : Closing scriptName closing)
    (split : gap ++ rest = before ++ (closing ++ behind)) :
    countMarkers (openingLength? scriptName) 0 behind < sections.length := by
  -- The closing tag does not begin in the section, so it stands somewhere behind it.
  have none := noneBegins_closing isBlockName_script lacks cut.head?
  obtain ⟨inside, same⟩ : ∃ inside, rest = inside ++ (closing ++ behind) := by
    rcases List.append_eq_append_iff.mp split with ⟨inside, -, same⟩ | ⟨part, rfl, same⟩
    · exact ⟨inside, same⟩
    · by_cases some : part = []
      · exact ⟨[], by simpa [some] using same.symm⟩
      · exact absurd ⟨behind, same⟩ (none part (List.suffix_append _ _) some closing closes)
  obtain ⟨inner, rfl, -, -⟩ := closes.exists_front isBlockName_script
  have count := cut.count
  -- The first tag of what is left is swallowed, so that at most the others are counted.
  cases cut with
  | none => simp at same
  | next opens free others =>
    have suffix : behind <:+ _ :=
      (endsOnce_opening isBlockName_script).suffix_behind opens (t := inside ++ '<' :: inner) (by rw [same]; simp)
    have counted := countMarkers_le_of_suffix suffix
    rw [(measures_opening scriptName).countMarkers_marker opens] at count
    omega

/-- If a section is not closed, the block that begins there swallows the tag of the next section, and there are fewer
blocks than sections. -/
theorem Sections.length_scriptTexts_lt (cut : Sections scriptName rest sections)
    (unclosed : ∃ entry ∈ sections, Lacks (Closing scriptName) entry.2) :
    (scriptTexts false 0 rest).length < sections.length := by
  have closings := measures_closing scriptName
  induction cut with
  | none => simp at unclosed
  | @next tag gap rest sections opens free others ih =>
    rw [List.length_cons]
    -- Either this section is not closed, or a later one is not.
    by_cases lacks : Lacks (Closing scriptName) gap
    · rcases closings.exists_first (gap ++ rest) with nothing | ⟨script, closing, behind, closes, before, split⟩
      · rw [scriptTexts_unclosed opens nothing]
        exact Nat.succ_pos _
      · rw [split, scriptTexts_closed opens (closings.splitAtMarker?_append closes before), List.length_cons]
        have blocksBehind := length_scriptTexts_le behind
        have tagsBehind := others.count_behind_lt lacks closes split
        omega
    · obtain ⟨script, texts⟩ := exists_scriptTexts_next opens free lacks
      obtain ⟨entry, listed, entryLacks⟩ := unclosed
      rw [texts, List.length_cons]
      refine Nat.succ_lt_succ (ih ⟨entry, ?_, entryLacks⟩)
      rcases List.mem_cons.mp listed with rfl | later
      · exact absurd entryLacks lacks
      · exact later

/-! ### Blocks -/

/-- Every script of a file is closed before the next one is opened. -/
def ScriptsClosed (source : List Char) : Prop :=
  ∃ sections, Sectioned scriptName source sections ∧ ∀ entry ∈ sections, ¬Lacks (Closing scriptName) entry.2

/-- A file without scripts is one. -/
theorem scriptsClosed_of_lacks (lacks : Lacks (Opening scriptName) source) : ScriptsClosed source := by
  have none := (measures_opening scriptName).noneBegins_iff.mpr lacks
  exact ⟨[], ⟨source, [], by simp, none, .none⟩, by simp⟩

/-- In a file with sections, the count of tags is the number of sections, and the readings are those of the sections. -/
theorem Sectioned.reading (cut : Sectioned scriptName source sections) :
    countMarkers (openingLength? scriptName) 0 source = sections.length ∧
      ((scriptTexts false 0 source).length = sections.length ↔
        ∀ entry ∈ sections, ¬Lacks (Closing scriptName) entry.2) ∧
      ((∀ entry ∈ sections, ¬Lacks (Closing scriptName) entry.2) →
        scriptTexts true 0 source = scriptTexts false 0 source) := by
  obtain ⟨before, rest, rfl, none, cut⟩ := cut
  -- In front of the sections nothing begins, so that both counts are those of the sections.
  rw [(measures_opening scriptName).countMarkers_gap none, scriptTexts_gap none, scriptTexts_gap none]
  refine ⟨cut.count, ⟨fun equal entry listed lacks => ?_, fun closed => (cut.readings_agree closed).1⟩,
    fun closed => (cut.readings_agree closed).2⟩
  have fewer := cut.length_scriptTexts_lt ⟨entry, listed, lacks⟩
  omega

/-- The template of a file: nothing if none is opened, else the tags of its text. -/
def Blocks.template (source : List Char) : Except BlockError (List (String × Script.Span)) :=
  match splitAtMarker? (openingLength? templateName) source with
  | none => .ok []
  | some (_, behind) =>
    match beforeLast? (closingLength? templateName) 0 behind with
    | none => .error .unclosedTemplate
    | some body => .ok (templateTags body (Text.byteSize source - Text.byteSize behind))

/-- The scripts are read first, and the template if they are closed. -/
theorem Blocks.ofSource_eq (source : List Char) : Blocks.ofSource source =
    if countMarkers (openingLength? scriptName) 0 source = (scriptTexts false 0 source).length then
      (Blocks.template source).map fun tags => ⟨joinLines (scriptTexts false 0 source), tags⟩
    else .error .unclosedScript := by
  unfold Blocks.ofSource Blocks.template
  -- Both sides make the same choices in the same order.
  by_cases equal : countMarkers (openingLength? scriptName) 0 source = (scriptTexts false 0 source).length
  · simp only [equal, bne_self_eq_false, if_true]
    cases splitAtMarker? (openingLength? templateName) source with
    | none => rfl
    | some parts =>
      obtain ⟨before, behind⟩ := parts
      dsimp only
      cases beforeLast? (closingLength? templateName) 0 behind <;> rfl
  · simp [equal]

/-- A file is refused for its scripts exactly if a section of it is not closed. -/
theorem Sectioned.ofSource_unclosed_iff (cut : Sectioned scriptName source sections) :
    Blocks.ofSource source = .error .unclosedScript ↔
      ∃ entry ∈ sections, Lacks (Closing scriptName) entry.2 := by
  obtain ⟨count, equal, -⟩ := cut.reading
  rw [Blocks.ofSource_eq, count]
  split
  · rename_i same
    have closed := equal.mp same.symm
    refine iff_of_false ?_ fun ⟨entry, listed, lacks⟩ => closed entry listed lacks
    -- Whatever is wrong with the template, it is another error.
    unfold Blocks.template
    split
    · simp [Except.map]
    · split <;> simp [Except.map]
  · rename_i different
    refine iff_of_true rfl ?_
    by_contra closed
    exact different (equal.mpr fun entry listed lacks => closed ⟨entry, listed, lacks⟩).symm

/-- In a file whose scripts are closed, the template decides whether there are blocks, and the script is that of both
readings. -/
theorem ScriptsClosed.ofSource_eq (closed : ScriptsClosed source) :
    Blocks.ofSource source = (Blocks.template source).map fun tags => ⟨lenientScript source, tags⟩ := by
  obtain ⟨sections, cut, closed⟩ := closed
  obtain ⟨count, equal, same⟩ := cut.reading
  rw [Blocks.ofSource_eq, if_pos (by rw [count, equal.mpr closed]), lenientScript, same closed]

/-- The successive opening tags cut every file into sections. It is refused for its scripts exactly if one of these, the
text from an opening tag to the next one or to the end of the file, holds no closing tag. Whenever it has blocks, their
script is what the lenient reading finds. -/
theorem ofSource_unclosed_iff_section (source : List Char) :
    (∃ sections, Sectioned scriptName source sections) ∧
      (∀ sections, Sectioned scriptName source sections →
        (Blocks.ofSource source = .error .unclosedScript ↔
          ∃ entry ∈ sections, Lacks (Closing scriptName) entry.2)) ∧
      ∀ blocks, Blocks.ofSource source = .ok blocks → blocks.script = lenientScript source := by
  -- The sections exist, and for any sections the equivalence was shown.
  obtain ⟨sections, cut⟩ := exists_sectioned scriptName source
  refine ⟨⟨sections, cut⟩, fun _ otherCut => otherCut.ofSource_unclosed_iff, fun blocks read => ?_⟩
  -- The file was read, so that each of its sections is closed.
  have closed : ScriptsClosed source := by
    refine ⟨sections, cut, fun entry listed lacks => ?_⟩
    rw [cut.ofSource_unclosed_iff.mpr ⟨entry, listed, lacks⟩] at read
    cases read
  rw [closed.ofSource_eq] at read
  cases template : Blocks.template source with
  | error error =>
    rw [template] at read
    cases read
  | ok tags =>
    rw [template] at read
    obtain rfl := Except.ok.inj read
    rfl

/-- A script that is opened again before it is closed is refused, and two scripts are read alike by both readings. -/
theorem ofSource_unclosed_iff_section_twoScripts :
    Blocks.ofSource "<script>a<script>b</script>".toList = .error .unclosedScript ∧
      lenientScript "<script>a</script><script>b</script>".toList = "a\nb".toList := by
  have opens : Opening scriptName "<script>".toList := opening_word spells_script
  -- The second section is the rest of the file, the first one has no tag but its own.
  have second : Sections scriptName "<script>b</script>".toList [("<script>".toList, "b</script>".toList)] := by
    have lacks : Lacks (Opening scriptName) "b</script>".toList := by decide
    exact .next opens ((measures_opening scriptName).noneBegins_iff.mpr lacks) .none
  have plain : '<' ∉ "a".toList := by decide
  have first : Sections scriptName "<script>a<script>b</script>".toList
      [("<script>".toList, "a".toList), ("<script>".toList, "b</script>".toList)] :=
    .next opens (noneBegins_plain plain _).1 second
  -- Nothing stands in front of the first tag.
  have cut : Sectioned scriptName "<script>a<script>b</script>".toList _ := ⟨[], _, rfl, noneBegins_nil _ _, first⟩
  have lacks : Lacks (Closing scriptName) "a".toList := by decide
  constructor
  · exact ((ofSource_unclosed_iff_section _).2.1 _ cut).mpr ⟨_, List.mem_cons_self .., lacks⟩
  · have read : Blocks.ofSource "<script>a</script><script>b</script>".toList = .ok ⟨"a\nb".toList, []⟩ := by
      rfl
    exact ((ofSource_unclosed_iff_section _).2.2 _ read).symm

end LayerAudit.Component
