import LayerAudit.Proofs.Component.StartTag

/-!
The scan for tags goes through a text character by character, and passes quoted values as a whole. A run of text is
described by the tags that are taken from it whatever follows, so that runs can be put together; a text is only passed
in front of a tag or at the end.
-/

namespace LayerAudit.Component

variable {gap rest s : List Char} {n : Nat}

/-! ### Words -/

/-- A word begins nowhere in a text that does not hold it, if a character follows that does not occur in the word. -/
theorem noneBegins_word {word : List Char} {c : Char} (lacks : ¬word <:+: gap) (absent : c ∉ word)
    (rest : List Char) : NoneBegins (Eq word) gap (c :: rest) := by
  rintro part suffix - marker rfl ⟨behind, same⟩
  have notInside : ¬word <+: part := fun inside => lacks (inside.isInfix.trans suffix.isInfix)
  -- The word ends in the gap, or it reaches to the character behind, which it does not hold.
  rcases List.append_eq_append_iff.mp same with ⟨more, rfl, -⟩ | ⟨more, rfl, rest⟩
  · exact notInside (List.prefix_append _ _)
  · cases more with
    | nil => exact notInside (by simp)
    | cons d more =>
      obtain ⟨rfl, -⟩ := List.cons.inj rest
      exact absurd (by simp) absent

/-- What begins a comment. -/
def commentStart : List Char := ['<', '!', '-', '-']

/-- What ends a comment. -/
def commentEnd : List Char := ['-', '-', '>']

/-- No comment begins in a text without opening brackets. -/
theorem noComment_plain (plain : '<' ∉ gap) (rest : List Char) : NoneBegins (Eq commentStart) gap rest :=
  noneBegins_of_not_mem (by rintro marker rfl; rfl) plain rest

/-! ### Values -/

/-- An equals sign with a quoted value behind it, from which blanks may part it. -/
def IsValue (marker : List Char) : Prop :=
  ∃ blanks quote text, (∀ c ∈ blanks, Text.isBlank c) ∧ (quote = '"' ∨ quote = '\'') ∧ quote ∉ text ∧
    marker = '=' :: (blanks ++ quote :: (text ++ [quote]))

/-- The length of a value is found exactly where one stands. -/
theorem valueLength?_eq_some_iff :
    valueLength? s = some n ↔ ∃ marker rest, IsValue marker ∧ s = marker ++ rest ∧ marker.length = n := by
  constructor
  · intro found
    unfold valueLength? at found
    -- Only an equals sign is looked at.
    split at found
    · rename_i behind
      simp only at found
      split at found
      · -- Blanks are passed, and behind the quote everything up to the next one.
        rename_i quote value split
        -- Something stands behind the blanks; it has to be a quote, and a second one has to follow.
        simp only [Option.ite_none_right_eq_some, Option.some.injEq, Bool.or_eq_true, beq_iff_eq] at found
        obtain ⟨isQuote, stops, length⟩ := found
        obtain ⟨d, rest, cut, stop⟩ := exists_stop_of_takeWhile stops
        obtain rfl : d = quote := by simpa using stop
        have closed : d ∉ value.takeWhile (· != d) := fun member => by
          simpa using List.mem_takeWhile_imp member
        have whole : behind = behind.takeWhile Text.isBlank ++ d :: value := by
          rw [← split]
          exact (List.prefix_iff_eq_append.mp (List.takeWhile_prefix _)).symm
        refine ⟨_, rest, ⟨behind.takeWhile Text.isBlank, d, value.takeWhile (· != d),
          fun c member => List.mem_takeWhile_imp member, isQuote, closed, rfl⟩, ?_, ?_⟩
        · conv_lhs => rw [whole, cut]
          simp
        · simp [← length]
          omega
      · cases found
    · cases found
  · rintro ⟨marker, rest, ⟨blanks, quote, text, blank, isQuote, closed, rfl⟩, rfl, rfl⟩
    -- The blanks stop at the quote, which is none, and the text at the quote that it does not hold.
    have notBlank : Text.isBlank quote = false := by rcases isQuote with rfl | rfl <;> decide
    have inBlanks : (blanks ++ quote :: (text ++ quote :: rest)).takeWhile Text.isBlank = blanks :=
      takeWhile_upTo blank notBlank
    have inText : (text ++ quote :: rest).takeWhile (· != quote) = text := takeWhile_upTo (all_bne closed) (by simp)
    have quoted : (quote == '"' || quote == '\'') = true := by simpa using isQuote
    simp [valueLength?, inBlanks, inText, quoted]
    omega

/-- The lengths of values. -/
theorem measures_value : Measures valueLength? IsValue where
  eq_some_iff _ _ := valueLength?_eq_some_iff
  ne_nil := by
    rintro ⟨blanks, quote, text, -, -, -, isNil⟩
    cases isNil

/-- Only an equals sign begins a value. -/
theorem valueLength?_of_ne {c : Char} (notEquals : c ≠ '=') (rest : List Char) : valueLength? (c :: rest) = none := by
  rw [measures_value.eq_none_iff]
  rintro marker ⟨blanks, quote, text, -, -, -, rfl⟩ ⟨behind, same⟩
  exact notEquals (List.cons.inj same).1.symm

/-! ### The scan -/

/-- What belongs to a tag or a value already is passed. -/
theorem tagsIn_skip (k : Nat) (s : List Char) (offset : Nat) :
    tagsIn k s offset = tagsIn 0 (s.drop k) (offset + Text.byteSize (s.take k)) := by
  induction s generalizing k offset with
  | nil => cases k <;> rfl
  | cons c s ih =>
    -- Only the count of what is passed already makes a difference to the scan.
    cases k with
    | zero => rfl
    | succ k =>
      rw [tagsIn, ih, List.drop_succ_cons, List.take_succ_cons, Text.byteSize, Nat.add_assoc]

/-- A value is passed as a whole. -/
theorem tagsIn_value {marker : List Char} (isValue : IsValue marker) (rest : List Char) (offset : Nat) :
    tagsIn 0 (marker ++ rest) offset = tagsIn 0 rest (offset + Text.byteSize marker) := by
  have found := measures_value.length?_append isValue rest
  -- The first character of the value is the equals sign at which it is found; the rest is passed with it.
  obtain ⟨blanks, quote, text, -, -, -, rfl⟩ := isValue
  rw [List.cons_append] at found ⊢
  rw [tagsIn, if_neg (by simp), found]
  simp only [List.length_cons, Nat.add_sub_cancel]
  rw [tagsIn_skip, List.drop_left, List.take_left, Text.byteSize, Nat.add_assoc]

/-- Nothing is taken from a character that begins neither a tag nor a value. -/
theorem tagsIn_char {c : Char} (noTag : c = '<' → ∀ d ∈ rest.head?, startsTag d = false)
    (noValue : valueLength? (c :: rest) = none) (offset : Nat) :
    tagsIn 0 (c :: rest) offset = tagsIn 0 rest (offset + c.utf8Size) := by
  -- Only a bracket with a letter behind it would be taken as a tag.
  have no : ¬(c == '<' && rest.head?.any startsTag) = true := by
    rw [Bool.and_eq_true, beq_iff_eq]
    rintro ⟨rfl, starts⟩
    obtain ⟨d, first, isStart⟩ := (Option.any_eq_true ..).mp starts
    rw [noTag rfl d first] at isStart
    cases isStart
  rw [tagsIn, if_neg no, noValue]

/-! ### Runs -/

/-- A run of text that begins no comment and from which certain tags are taken, wherever it stands. -/
structure Scanned (run : List Char) (tags : Nat → List (String × Script.Span)) : Prop where
  noComment : ∀ rest, NoneBegins (Eq commentStart) run rest
  reads : ∀ rest offset, tagsIn 0 (run ++ rest) offset = tags offset ++ tagsIn 0 rest (offset + Text.byteSize run)

/-- A run of text that begins no comment and from which no tags are taken. -/
def Passed (run : List Char) : Prop := Scanned run fun _ => []

/-- The tags of two runs are taken one after the other. -/
theorem Scanned.append {first second : List Char} {tags others : Nat → List (String × Script.Span)}
    (scanned : Scanned first tags) (next : Scanned second others) :
    Scanned (first ++ second) fun offset => tags offset ++ others (offset + Text.byteSize first) where
  noComment rest := noneBegins_append_iff.mpr ⟨scanned.noComment _, next.noComment rest⟩
  reads rest offset := by
    rw [List.append_assoc, scanned.reads, next.reads, Text.byteSize_append, List.append_assoc, Nat.add_assoc]

/-- Two runs are passed if each is. -/
theorem Passed.append {first second : List Char} (passed : Passed first) (next : Passed second) :
    Passed (first ++ second) := Scanned.append passed next

/-- The empty run is passed. -/
theorem passed_nil : Passed [] where
  noComment := noneBegins_nil _
  reads _ _ := rfl

/-- A run of runs that are passed is passed. -/
theorem passed_flatMap {α : Type} {items : List α} {run : α → List Char} (passed : ∀ item ∈ items, Passed (run item)) :
    Passed (items.flatMap run) := by
  induction items with
  | nil => exact passed_nil
  | cons item rest ih =>
    rw [List.flatMap_cons]
    have others := ih fun other listed => passed other (List.mem_cons_of_mem _ listed)
    exact (passed item (List.mem_cons_self ..)).append others

/-- A run without opening brackets and equals signs is passed. -/
theorem passed_plain (noOpen : '<' ∉ gap) (noEquals : '=' ∉ gap) : Passed gap := by
  induction gap with
  | nil => exact passed_nil
  | cons c gap ih =>
    have later := ih (fun member => noOpen (List.mem_cons_of_mem _ member)) fun member =>
      noEquals (List.mem_cons_of_mem _ member)
    refine ⟨noComment_plain noOpen, fun rest offset => ?_⟩
    -- The first character is neither a bracket nor an equals sign, and begins nothing.
    have isOther : c ≠ '<' := fun same => noOpen (same ▸ List.mem_cons_self ..)
    have notEquals : c ≠ '=' := fun same => noEquals (same ▸ List.mem_cons_self ..)
    have passed := tagsIn_char (fun same => absurd same isOther) (valueLength?_of_ne notEquals (gap ++ rest)) offset
    rw [List.cons_append, passed, later.reads, Text.byteSize, Nat.add_assoc]

/-- Blanks hold no equals signs either. -/
theorem passed_blanks {blanks : List Char} (blank : ∀ c ∈ blanks, Text.isBlank c) : Passed blanks :=
  passed_plain (not_mem_blanks blank).1 fun member => absurd (blank _ member) (by decide)

/-- A value that holds no comment is passed. -/
theorem QuotedValue.passed (value : QuotedValue) (noComment : ¬commentStart <:+: value.text) :
    Passed value.written := by
  have isValue : IsValue ('=' :: (value.behind ++ value.quote :: (value.text ++ [value.quote]))) :=
    ⟨value.behind, value.quote, value.text, value.behindBlank, value.isQuote, value.closed, rfl⟩
  refine (passed_blanks value.beforeBlank).append ⟨fun rest => ?_, tagsIn_value isValue⟩
  -- A comment that begins in the text would begin with all its characters in front of the quote.
  have inFront : '<' ∉ '=' :: (value.behind ++ [value.quote]) := by
    simp [(not_mem_blanks value.behindBlank).1, value.quote_ne.1.symm]
  have quoteIsOther : value.quote ∉ commentStart := by
    rcases value.isQuote with isQuote | isQuote <;> rw [isQuote] <;> decide
  have inEnd : '<' ∉ [value.quote] := by simp [value.quote_ne.1.symm]
  have split : '=' :: (value.behind ++ value.quote :: (value.text ++ [value.quote])) =
      ('=' :: (value.behind ++ [value.quote])) ++ (value.text ++ [value.quote]) := by simp
  rw [split]
  exact noneBegins_append_iff.mpr ⟨noComment_plain inFront _, noneBegins_append_iff.mpr
    ⟨noneBegins_word noComment quoteIsOther _, noComment_plain inEnd rest⟩⟩

/-- An attribute is passed if its value holds no comment. -/
theorem Attribute.passed (entry : Attribute) (noComment : ∀ value ∈ entry.value, ¬commentStart <:+: value.text) :
    Passed entry.written := by
  have noOpen : '<' ∉ entry.name := fun member => absurd (entry.isName _ member) (by decide)
  have noEquals : '=' ∉ entry.name := fun member => absurd (entry.isName _ member) (by decide)
  refine (passed_blanks entry.blank).append ((passed_plain noOpen noEquals).append ?_)
  -- An attribute without a value is its name behind some blanks.
  cases isValue : entry.value with
  | none => exact passed_nil
  | some value => exact value.passed (noComment value isValue)

/-- What stands behind the name of a tag is passed if no value holds a comment. -/
theorem StartTag.passed_details {IsName : List Char → Prop} (tag : StartTag IsName)
    (noComment : ∀ value ∈ tag.values, ¬commentStart <:+: value.text) : Passed tag.details := by
  have attributes : ∀ entry ∈ tag.attributes, Passed entry.written := fun entry listed =>
    entry.passed fun value isValue => noComment value (List.mem_filterMap.mpr ⟨entry, listed, isValue⟩)
  exact (passed_flatMap attributes).append (passed_blanks tag.blank)

/-! ### Tags -/

/-- The name of an element: a letter, and then letters, digits and some marks. -/
def IsElementName (name : List Char) : Prop :=
  ∃ c rest, name = c :: rest ∧ startsTag c ∧ ∀ d ∈ rest, continuesTag d

/-- Each character of an element's name may stand inside one. -/
theorem IsElementName.continues {name : List Char} (isName : IsElementName name) : ∀ c ∈ name, continuesTag c := by
  obtain ⟨c, rest, rfl, starts, continues⟩ := isName
  have first : continuesTag c := by
    unfold startsTag at starts
    simp [continuesTag, Char.isAlphanum, starts]
  exact List.forall_mem_cons.mpr ⟨first, continues⟩

/-- The name of an element is passed. -/
theorem IsElementName.passed {name : List Char} (isName : IsElementName name) : Passed name :=
  passed_plain (fun member => absurd (isName.continues _ member) (by decide)) fun member =>
    absurd (isName.continues _ member) (by decide)

/-- A tag is taken where a bracket and a name stand, with the bytes up to the end of the name. -/
theorem tagsIn_name {name : List Char} (isName : IsElementName name) {c : Char} (stop : continuesTag c = false)
    (rest : List Char) (offset : Nat) : tagsIn 0 ('<' :: (name ++ c :: rest)) offset =
      (String.ofList name, ⟨offset, offset + name.length + 1⟩) ::
        tagsIn 0 (c :: rest) (offset + 1 + Text.byteSize name) := by
  -- The name reaches exactly to the character that stops it.
  have taken : (name ++ c :: rest).takeWhile continuesTag = name := takeWhile_upTo isName.continues stop
  have isTag : ('<' == '<' && (name ++ c :: rest).head?.any startsTag) = true := by
    obtain ⟨d, more, rfl, starts, -⟩ := isName
    simp [starts]
  rw [tagsIn, if_pos isTag]
  simp only [taken]
  rw [tagsIn_skip, List.drop_left, List.take_left]

/-- The characters inside a name lie between the hyphen and the small z. -/
theorem bounds_of_continuesTag {c : Char} (continues : continuesTag c) : 45 ≤ c.toNat ∧ c.toNat ≤ 122 := by
  -- The characters of a name are told by their numbers, in four ranges and four marks.
  have split : (decide (65 ≤ c.val ∧ c.val ≤ 90) || (decide (97 ≤ c.val) && decide (c.val ≤ 122)) ||
      (decide (48 ≤ c.val) && decide (c.val ≤ 57)) || c == '_' || c == '.' || c == ':' || c == '-') = true := continues
  simp only [Bool.or_eq_true, Bool.and_eq_true, decide_eq_true_eq, beq_iff_eq, UInt32.le_iff_toNat_le] at split
  have between : ∀ {low high : Nat}, low ≤ c.toNat ∧ c.toNat ≤ high → 45 ≤ low → high ≤ 122 →
      45 ≤ c.toNat ∧ c.toNat ≤ 122 := fun range above below =>
    ⟨Nat.le_trans above range.1, Nat.le_trans range.2 below⟩
  rcases split with (((((range | range) | range) | rfl) | rfl) | rfl) | rfl
  · exact between range (by decide) (by decide)
  · exact between range (by decide) (by decide)
  · exact between range (by decide) (by decide)
  all_goals decide

/-- No blank stands inside a name. -/
theorem continuesTag_of_isBlank {c : Char} (blank : Text.isBlank c) : continuesTag c = false := by
  by_contra continues
  obtain ⟨low, high⟩ := bounds_of_continuesTag (Bool.not_eq_false _ ▸ continues)
  simp only [Text.isBlank, Bool.or_eq_true, Bool.and_eq_true, decide_eq_true_eq, beq_iff_eq] at blank
  omega

end LayerAudit.Component
