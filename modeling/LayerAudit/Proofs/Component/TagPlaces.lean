import LayerAudit.Proofs.Component.Comments

/-!
Where the tags of a component stand: each range covers a bracket and a name in the file, between the first opening tag
of the template and the last closing tag behind it, outside of comments, and behind the range before it.
-/

namespace LayerAudit.Component

variable {Marker : List Char → Prop} {length? : List Char → Option Nat}
variable {marker gap front before behind rest text body source : List Char} {tag : String × Script.Span} {offset : Nat}

/-! ### Successive markers -/

/-- A marker of a text with what stands in front of it and behind it, if markers are looked for from the left and each
time behind the one that was found before. -/
inductive Successive (Marker : List Char → Prop) : List Char → List Char → List Char → Prop
  | first {before marker behind : List Char} (isMarker : Marker marker)
    (none : NoneBegins Marker before (marker ++ behind)) : Successive Marker before marker behind
  | next {gap earlier before marker behind : List Char} (isMarker : Marker earlier)
    (none : NoneBegins Marker gap (earlier ++ (before ++ (marker ++ behind))))
    (later : Successive Marker before marker behind) : Successive Marker (gap ++ (earlier ++ before)) marker behind

/-- A marker that is found so is one. -/
theorem Successive.isMarker (found : Successive Marker before marker behind) : Marker marker := by
  induction found with
  | first isMarker none => exact isMarker
  | next isMarker none later ih => exact ih

/-- A text has at most one first marker. -/
theorem Measures.first_unique (measures : Measures length? Marker) {other otherGap otherRest : List Char}
    (isMarker : Marker marker) (none : NoneBegins Marker gap (marker ++ rest)) (isOther : Marker other)
    (otherNone : NoneBegins Marker otherGap (other ++ otherRest))
    (same : gap ++ (marker ++ rest) = otherGap ++ (other ++ otherRest)) :
    gap = otherGap ∧ marker = other ∧ rest = otherRest := by
  -- The text is split at its first marker, wherever that is.
  have split := measures.splitAtMarker?_append isMarker none
  rw [same, measures.splitAtMarker?_append isOther otherNone] at split
  obtain ⟨rfl, rfl⟩ := Prod.mk.inj (Option.some.inj split)
  exact ⟨rfl, List.append_cancel_right (List.append_cancel_left same), rfl⟩

/-- A successive marker of a text is the first one, or a successive one behind it. -/
theorem Successive.first_or_behind (measures : Measures length? Marker) (isMarker : Marker marker)
    (none : NoneBegins Marker gap (marker ++ rest)) {found : List Char}
    (successive : Successive Marker before found behind)
    (same : gap ++ (marker ++ rest) = before ++ (found ++ behind)) :
    before = gap ∨ ∃ inner, before = gap ++ (marker ++ inner) ∧ rest = inner ++ (found ++ behind) ∧
      Successive Marker inner found behind := by
  -- The successive marker is the first one, or comes behind a first one that must be the given one.
  cases successive with
  | first isFound foundNone => exact .inl (measures.first_unique isMarker none isFound foundNone same).1.symm
  | @next otherGap earlier inner _ _ isEarlier earlierNone later =>
    have split : gap ++ (marker ++ rest) = otherGap ++ (earlier ++ (inner ++ (found ++ behind))) := by
      rw [same]
      simp only [List.append_assoc]
    obtain ⟨rfl, rfl, rfl⟩ := measures.first_unique isMarker none isEarlier earlierNone split
    exact .inr ⟨inner, rfl, rfl, later⟩

/-! ### Tags in place -/

/-- A tag stands in a text that begins at an offset: its range covers a bracket and its name. -/
def StandsIn (text : List Char) (offset : Nat) (tag : String × Script.Span) : Prop :=
  ∃ front name behind, text = front ++ ('<' :: name ++ behind) ∧
    tag = (String.ofList name, ⟨offset + Text.byteSize front, offset + Text.byteSize (front ++ '<' :: name)⟩)

/-- Tags follow each other without overlap. -/
def Apart (tags : List (String × Script.Span)) : Prop :=
  tags.Pairwise fun earlier later => earlier.2.stop ≤ later.2.start

namespace StandsIn

/-- What stands in the end of a text stands in the text. -/
theorem further (stands : StandsIn text (offset + Text.byteSize front) tag) : StandsIn (front ++ text) offset tag := by
  obtain ⟨before, name, rest, rfl, rfl⟩ := stands
  refine ⟨front ++ before, name, rest, by simp, ?_⟩
  simp only [Text.byteSize_append, List.append_assoc, Nat.add_assoc]

/-- What stands in the front of a text stands in the text. -/
theorem longer (stands : StandsIn text offset tag) (rest : List Char) : StandsIn (text ++ rest) offset tag := by
  obtain ⟨before, name, more, rfl, rfl⟩ := stands
  exact ⟨before, name, more ++ rest, by simp, rfl⟩

/-- A tag takes some room, inside of the text in which it stands. -/
theorem bounds (stands : StandsIn text offset tag) :
    offset ≤ tag.2.start ∧ tag.2.start < tag.2.stop ∧ tag.2.stop ≤ offset + Text.byteSize text := by
  obtain ⟨front, name, behind, rfl, rfl⟩ := stands
  have bracket : Text.byteSize ('<' :: name) = 1 + Text.byteSize name := rfl
  -- A tag is a bracket and a name, so that its room is the room of these two.
  have size : Text.byteSize (front ++ ('<' :: name ++ behind)) =
      Text.byteSize front + (1 + Text.byteSize name + Text.byteSize behind) := by
    rw [Text.byteSize_append, Text.byteSize_append, bracket]
  simp only [Text.byteSize_append, bracket, size]
  omega

end StandsIn

/-- A name takes as many bytes as characters. -/
theorem byteSize_name {name : List Char} (continues : ∀ c ∈ name, continuesTag c) :
    Text.byteSize name = name.length := by
  induction name with
  | nil => rfl
  | cons c name ih =>
    -- Each character of a name is one of the ASCII range, and takes one byte.
    have small : c.utf8Size = 1 := by
      have bound := (bounds_of_continuesTag (continues c (List.mem_cons_self ..))).2
      rw [Char.utf8Size_eq_one_iff, UInt32.le_iff_toNat_le]
      exact Nat.le_trans bound (by decide)
    rw [Text.byteSize, small, ih fun d member => continues d (List.mem_cons_of_mem _ member), List.length_cons,
      Nat.add_comm]

/-- What stands behind some characters of a text stands in the text. -/
theorem StandsIn.of_drop {c : Char} {k : Nat}
    (stands : StandsIn (rest.drop k) (offset + c.utf8Size + Text.byteSize (rest.take k)) tag) :
    StandsIn (c :: rest) offset tag := by
  have front : offset + c.utf8Size + Text.byteSize (rest.take k) = offset + Text.byteSize (c :: rest.take k) := by
    rw [Text.byteSize, Nat.add_assoc]
  rw [front] at stands
  -- The passed characters with the rest are the whole text again, so that nothing needs to be known of what was passed.
  have whole : (c :: rest.take k) ++ rest.drop k = c :: rest := by rw [List.cons_append, List.take_append_drop]
  exact whole ▸ stands.further

/-- The tags that are taken from a text stand behind what is passed of it, apart from each other. -/
theorem tagsIn_stand (skipped : Nat) (text : List Char) (offset : Nat) :
    Apart (tagsIn skipped text offset) ∧
      ∀ tag ∈ tagsIn skipped text offset,
        StandsIn (text.drop skipped) (offset + Text.byteSize (text.take skipped)) tag := by
  -- A tag and a value are passed as a whole, so that the induction is over the characters.
  fun_induction tagsIn skipped text offset with
  | case1 skipped offset => exact ⟨.nil, List.forall_mem_nil _⟩
  | case2 skipped c rest offset ih =>
    rw [List.drop_succ_cons, List.take_succ_cons, Text.byteSize, ← Nat.add_assoc]
    exact ih
  -- A tag begins: its name is passed, and what the induction gives speaks of the text behind the name.
  | case3 c rest offset isTag name ih =>
    obtain ⟨rfl, -⟩ : c = '<' ∧ rest.head?.any startsTag = true := by simpa using isTag
    obtain ⟨apart, later⟩ := ih
    have continues : ∀ c ∈ name, continuesTag c := fun c member => List.mem_takeWhile_imp member
    have split : name ++ rest.drop name.length = rest := List.prefix_iff_eq_append.mp (List.takeWhile_prefix _)
    have taken : rest.take name.length = name := by rw [← split, List.take_left]
    have bracket : Text.byteSize ('<' :: name) = 1 + name.length := by
      rw [← byteSize_name continues]
      rfl
    refine ⟨List.pairwise_cons.mpr ⟨fun tag member => ?_, apart⟩, List.forall_mem_cons.mpr ⟨?_, fun tag member => ?_⟩⟩
    · -- What comes later stands behind the name.
      have low := (later tag member).bounds.1
      rw [taken, byteSize_name continues] at low
      simp only
      omega
    · refine ⟨[], name, rest.drop name.length, by rw [List.drop_zero, List.nil_append, List.cons_append, split], ?_⟩
      rw [List.nil_append, bracket, ← Nat.add_assoc, Nat.add_right_comm]
      rfl
    · exact (later tag member).of_drop
  -- A value and any other character are passed without a tag.
  | case4 c rest offset noTag n found ih => exact ⟨ih.1, fun tag member => (ih.2 tag member).of_drop⟩
  | case5 c rest offset noTag found ih => exact ⟨ih.1, fun tag member => (ih.2 tag member).of_drop⟩

/-! ### Templates -/

/-- A tag overlaps no comment of a text that begins at an offset. -/
def OutsideComments (text : List Char) (offset : Nat) (tag : String × Script.Span) : Prop :=
  ∀ before comment behind, text = before ++ (comment ++ behind) → Successive IsComment before comment behind →
    tag.2.stop ≤ offset + Text.byteSize before ∨ offset + Text.byteSize (before ++ comment) ≤ tag.2.start

/-- In a text without comments a tag overlaps none. -/
theorem outsideComments_of_lacks (lacks : Lacks IsComment text) (offset : Nat) (tag : String × Script.Span) :
    OutsideComments text offset tag := by
  rintro before comment behind rfl found
  exact absurd ⟨before, behind, by simp⟩ (lacks comment found.isMarker)

/-- A tag in front of the first comment, and one behind it that overlaps none of those behind, overlap no comment. -/
theorem outsideComments_first {comment : List Char} (isComment : IsComment comment)
    (none : NoneBegins IsComment gap (comment ++ rest))
    (apart : tag.2.stop ≤ offset + Text.byteSize gap ∨
      offset + Text.byteSize (gap ++ comment) ≤ tag.2.start ∧
        OutsideComments rest (offset + Text.byteSize (gap ++ comment)) tag) :
    OutsideComments (gap ++ (comment ++ rest)) offset tag := by
  intro before other behind same found
  have isOther := found.isMarker
  rcases found.first_or_behind measures_comment isComment none same with rfl | ⟨inner, rfl, rfl, later⟩
  · -- Two comments behind the same text are the same.
    obtain ⟨rfl, -⟩ := measures_comment.unique isComment isOther (List.append_cancel_left same)
    exact apart.imp_right And.left
  · -- A later comment is one of the text behind the first, for which the claim is assumed.
    simp only [Text.byteSize_append] at apart ⊢
    rcases apart with inFront | ⟨_, outside⟩
    · omega
    · have sides := outside inner other behind rfl later
      simp only [Text.byteSize_append] at sides
      omega

/-- The tags of a template's text stand in it, apart from each other and from the comments. -/
theorem templateTags_stand (body : List Char) (offset : Nat) :
    Apart (templateTags body offset) ∧
      ∀ tag ∈ templateTags body offset, StandsIn body offset tag ∧ OutsideComments body offset tag := by
  -- A text has no comments, or tags in front of the first comment and tags behind it.
  induction body using measures_comment.induct generalizing offset with
  | lacks body lacks =>
    rw [templateTags_run (measures_comment.noneBegins_iff.mpr lacks)]
    obtain ⟨apart, stand⟩ := tagsIn_stand 0 body offset
    exact ⟨apart, fun tag member => ⟨stand tag member, outsideComments_of_lacks lacks offset tag⟩⟩
  | first gap comment rest isComment none ih =>
    obtain ⟨apart, stand⟩ := tagsIn_stand 0 gap offset
    obtain ⟨restApart, restStand⟩ := ih (offset + Text.byteSize (gap ++ comment))
    have inFront : ∀ tag ∈ tagsIn 0 gap offset, StandsIn gap offset tag := stand
    rw [templateTags_comment isComment none, Nat.add_assoc, ← Text.byteSize_append]
    refine ⟨List.pairwise_append.mpr ⟨apart, restApart, fun earlier first later second => ?_⟩, fun tag member => ?_⟩
    · -- A tag in front of the comment ends before the comment begins, and a later one starts behind its end.
      have high := (inFront earlier first).bounds.2.2
      have low := (restStand later second).1.bounds.1
      rw [Text.byteSize_append] at low
      omega
    · rcases List.mem_append.mp member with first | second
      · have stands := inFront tag first
        exact ⟨stands.longer _, outsideComments_first isComment none (.inl stands.bounds.2.2)⟩
      · obtain ⟨stands, outside⟩ := restStand tag second
        have whole : (gap ++ comment) ++ rest = gap ++ (comment ++ rest) := List.append_assoc ..
        exact ⟨whole ▸ stands.further, outsideComments_first isComment none (.inr ⟨stands.bounds.1, outside⟩)⟩

/-! ### Files -/

/-- How a template lies in a file: it reaches from the first opening tag to the last closing tag behind it. -/
structure TemplateCut (source : List Char) where
  before : List Char
  opening : List Char
  body : List Char
  closing : List Char
  behind : List Char
  whole : source = before ++ (opening ++ (body ++ (closing ++ behind)))
  opens : Opening templateName opening
  first : NoneBegins (Opening templateName) before (opening ++ (body ++ (closing ++ behind)))
  closes : Closing templateName closing
  last : Lacks (Closing templateName) behind

namespace TemplateCut

/-- Where the opening tag ends. -/
def start (cut : TemplateCut source) : Nat := Text.byteSize (cut.before ++ cut.opening)

/-- Where the closing tag starts. -/
def stop (cut : TemplateCut source) : Nat := cut.start + Text.byteSize cut.body

/-- A tag stands in the file and in its template, and overlaps no comment of the template. -/
structure Places (cut : TemplateCut source) (tag : String × Script.Span) : Prop where
  inFile : StandsIn source 0 tag
  start : cut.start ≤ tag.2.start
  stop : tag.2.stop ≤ cut.stop
  outside : OutsideComments cut.body cut.start tag

/-- The tags of the text between the opening and the closing tag are in place, apart from each other. -/
theorem places_templateTags (cut : TemplateCut source) :
    Apart (templateTags cut.body cut.start) ∧ ∀ tag ∈ templateTags cut.body cut.start, cut.Places tag := by
  obtain ⟨apart, stand⟩ := templateTags_stand cut.body cut.start
  refine ⟨apart, fun tag member => ?_⟩
  obtain ⟨stands, outside⟩ := stand tag member
  -- The text of the template begins where the opening tag ends, in front of which all of the file is counted.
  have shifted : StandsIn cut.body (0 + Text.byteSize (cut.before ++ cut.opening)) tag := by
    rw [Nat.zero_add]
    exact stands
  have whole : (cut.before ++ cut.opening) ++ (cut.body ++ (cut.closing ++ cut.behind)) = source := by
    rw [List.append_assoc, ← cut.whole]
  exact ⟨whole ▸ (shifted.longer _).further, stands.bounds.1, stands.bounds.2.2, outside⟩

end TemplateCut

/-- The template that is read is cut out of the file, unless nothing opens a template. -/
theorem exists_cut_of_template {tags : List (String × Script.Span)} (read : Blocks.template source = .ok tags) :
    (Lacks (Opening templateName) source ∧ tags = []) ∨
      ∃ cut : TemplateCut source, tags = templateTags cut.body cut.start := by
  have openings := measures_opening templateName
  have closings := measures_closing templateName
  unfold Blocks.template at read
  split at read
  · rename_i unsplit
    -- No template is opened, and no tags are read.
    exact .inl ⟨openings.splitAtMarker?_eq_none_iff.mp unsplit, (Except.ok.inj read).symm⟩
  · rename_i before behind split
    obtain ⟨opening, opens, first, rfl⟩ := openings.splitAtMarker?_eq_some_iff.mp split
    -- A closing tag stands behind the opening one, so that there is a last one.
    have holds : ¬Lacks (Closing templateName) behind := by
      intro lacks
      rw [closings.beforeLast?_eq_none_iff.mpr lacks] at read
      cases read
    obtain ⟨body, closing, rest, closes, last, rfl⟩ := closings.exists_last holds
    rw [beforeLast?_append isBlockName_template closes last] at read
    -- What the reader takes as offset is the size of what stands in front of the body.
    have offset : Text.byteSize (before ++ (opening ++ (body ++ (closing ++ rest)))) -
        Text.byteSize (body ++ (closing ++ rest)) = Text.byteSize (before ++ opening) := by
      simp only [Text.byteSize_append]
      omega
    simp only [offset] at read
    exact .inr ⟨⟨before, opening, body, closing, rest, rfl, opens, first, closes, last⟩, (Except.ok.inj read).symm⟩

/-- In a component that is read, the ranges of the tags follow each other without overlap. Each covers a bracket and the
name of its tag in the file, lies between the end of the first opening tag of the template and the start of the last
closing tag behind it, and overlaps none of the comments in between. -/
theorem ofSource_places_tags (source : List Char) (blocks : Blocks) (read : Blocks.ofSource source = .ok blocks) :
    Apart blocks.tags ∧ (∀ tag ∈ blocks.tags, tag.2.start < tag.2.stop) ∧
      ((Lacks (Opening templateName) source ∧ blocks.tags = []) ∨
        ∃ cut : TemplateCut source, ∀ tag ∈ blocks.tags, cut.Places tag) := by
  -- The tags are those of the template that is read.
  obtain ⟨tags, template, rfl⟩ : ∃ tags, Blocks.template source = .ok tags ∧ tags = blocks.tags := by
    rw [Blocks.ofSource_eq] at read
    split at read
    · cases found : Blocks.template source with
      | error failure => simp [found, Except.map] at read
      | ok tags =>
        rw [found] at read
        exact ⟨tags, rfl, by rw [← Except.ok.inj read]⟩
    · cases read
  rcases exists_cut_of_template template with ⟨lacks, none⟩ | ⟨cut, same⟩
  · rw [none]
    exact ⟨.nil, List.forall_mem_nil _, .inl ⟨lacks, rfl⟩⟩
  · obtain ⟨apart, places⟩ := cut.places_templateTags
    rw [same]
    exact ⟨apart, fun tag member => (places tag member).inFile.bounds.2.1, .inr ⟨cut, places⟩⟩

/-- A component with letters of two bytes in front of its template and in it, comments around a tag, a template inside
the template, and a start of a comment that nothing ends. -/
def manyPieces : List Char :=
  "<script>é</script><template>ü<A/><!-- <B/> --><template #x>ß<C/><!----></template>ä<!-- <D/></template>".toList

/-- Its four tags outside of comments. -/
def visibleTags : List (String × Script.Span) :=
  [("A", ⟨31, 33⟩), ("template", ⟨48, 57⟩), ("C", ⟨63, 65⟩), ("D", ⟨92, 94⟩)]

/-- These are reported, each in its place. -/
theorem ofSource_places_tags_manyPieces :
    Blocks.ofSource manyPieces = .ok ⟨['é'], visibleTags⟩ ∧ Apart visibleTags ∧
      ∃ cut : TemplateCut manyPieces, ∀ tag ∈ visibleTags, cut.Places tag := by
  have read : Blocks.ofSource manyPieces = .ok ⟨['é'], visibleTags⟩ := rfl
  obtain ⟨apart, -, ⟨-, none⟩ | places⟩ := ofSource_places_tags manyPieces _ read
  · cases none
  · exact ⟨read, apart, places⟩

end LayerAudit.Component
