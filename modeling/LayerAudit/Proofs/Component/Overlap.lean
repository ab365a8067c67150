import LayerAudit.Proofs.Component.Scan

/-!
How tags lie in a text. Opening and closing tags end at the first closing bracket behind their starts, so a tag that
begins in front of a bracket ends there or before it. A closing tag has no other opening bracket than its first one. This
tells which tag is the first one of a text, and which one is the last.
-/

namespace LayerAudit.Component

variable {Marker : List Char → Prop} {length? : List Char → Option Nat}
variable {name other tag closing marker gap before behind rest s t : List Char} {mark : Char}

/-! ### Ends -/

/-- The first of two places of a mark is the one before which it does not occur. -/
theorem behind_mark (same : s ++ mark :: rest = t ++ mark :: behind) (absent : mark ∉ s) :
    behind <:+ rest ∧ s <+: t := by
  -- The two texts in front of the marks are compared: one of them is the beginning of the other.
  rcases List.append_eq_append_iff.mp same with ⟨more, rfl, split⟩ | ⟨more, rfl, split⟩
  · -- The second place lies behind the first.
    cases more with
    | nil => exact ⟨by simp_all, by simp⟩
    | cons c more =>
      obtain ⟨rfl, rfl⟩ := List.cons.inj split
      exact ⟨⟨more ++ [mark], by simp⟩, List.prefix_append _ _⟩
  · cases more with
    | nil => exact ⟨by simp_all, by simp⟩
    | cons c more =>
      -- Otherwise the mark at the second place stands before the first.
      obtain ⟨rfl, rfl⟩ := List.cons.inj split
      exact absurd (by simp) absent

/-- Markers of a shape end at the first closing bracket in them. -/
def EndsOnce (Marker : List Char → Prop) : Prop :=
  ∀ marker, Marker marker → ∃ front, marker = front ++ ['>'] ∧ '>' ∉ front

/-- Opening tags do. -/
theorem endsOnce_opening (block : IsBlockName name) : EndsOnce (Opening name) := by
  intro tag opens
  obtain ⟨front, rfl, noEnd⟩ := opens.exists_front block
  exact ⟨'<' :: front, rfl, by simpa using noEnd⟩

/-- Closing tags do. -/
theorem endsOnce_closing (block : IsBlockName name) : EndsOnce (Closing name) := by
  intro tag closes
  obtain ⟨front, rfl, -, noEnd⟩ := closes.exists_front block
  exact ⟨'<' :: front, rfl, by simpa using noEnd⟩

namespace EndsOnce

variable (ends : EndsOnce Marker) (isMarker : Marker marker)
include ends isMarker

/-- Whatever ends behind the start of a marker ends at its end or behind it. -/
theorem suffix_behind (same : marker ++ rest = t ++ '>' :: behind) : behind <:+ rest := by
  obtain ⟨front, rfl, noEnd⟩ := ends marker isMarker
  exact (behind_mark (by simpa using same) noEnd).1

/-- What stands behind a marker stands behind the first closing bracket. -/
theorem behind_eq (same : marker ++ rest = t ++ '>' :: behind) (absent : '>' ∉ t) : rest = behind := by
  obtain ⟨front, rfl, noEnd⟩ := ends marker isMarker
  have same : front ++ '>' :: rest = t ++ '>' :: behind := by simpa using same
  exact (behind_mark same.symm absent).1.eq_of_length_le (behind_mark same noEnd).1.length_le

/-- A marker that begins before a bracket is part of the text up to there. -/
theorem prefix_of_ended (isFront : marker <+: (s ++ ['>']) ++ rest) : marker <+: s ++ ['>'] := by
  obtain ⟨behind, same⟩ := isFront
  have suffix : rest <:+ behind := ends.suffix_behind isMarker (t := s) (by simpa using same)
  obtain ⟨more, rfl⟩ := suffix
  rw [← List.append_assoc] at same
  exact ⟨more, List.append_cancel_right same⟩

end EndsOnce

/-- A text that ends with a closing bracket begins a marker exactly if it holds one. -/
theorem noneBegins_ended_iff (ends : EndsOnce Marker) (ne_nil : ¬Marker []) (s rest : List Char) :
    NoneBegins Marker (s ++ ['>']) rest ↔ Lacks Marker (s ++ ['>']) := by
  refine ⟨fun none => none.lacks ne_nil, ?_⟩
  rintro lacks part suffix some marker isMarker isFront
  -- A part at the end of the text ends with the bracket too.
  obtain ⟨front, rfl⟩ : ∃ front, part = front ++ ['>'] := by
    have last := suffix.getLast some
    rw [List.getLast_append_singleton] at last
    exact ⟨part.dropLast, by rw [← last, List.dropLast_append_getLast]⟩
  -- The marker stands at the front of the part, and the part stands in the text.
  exact lacks marker isMarker ((ends.prefix_of_ended isMarker isFront).isInfix.trans suffix.isInfix)

/-! ### Fronts -/

/-- An opening tag begins with its bracket. -/
theorem Opening.head? (opens : Opening name tag) : tag.head? = some '<' := by
  obtain ⟨word, attributes, -, -, -, rfl⟩ := opens
  rfl

/-- A closing tag begins with its bracket. -/
theorem Closing.head? (closes : Closing name tag) : tag.head? = some '<' := by
  obtain ⟨word, blanks, -, -, rfl⟩ := closes
  rfl

/-- What stands in front begins with its bracket whatever follows. -/
theorem bracket_first (first : s.head? = some '<') (rest : List Char) : ∀ c ∈ (s ++ rest).head?, c = '<' := by
  simp [List.head?_append, first]

/-- A text without opening brackets begins no tags. -/
theorem noneBegins_plain (plain : '<' ∉ gap) (rest : List Char) :
    NoneBegins (Opening name) gap rest ∧ NoneBegins (Closing name) gap rest :=
  ⟨noneBegins_of_not_mem (fun _ => Opening.head?) plain rest,
    noneBegins_of_not_mem (fun _ => Closing.head?) plain rest⟩

/-- A text without closing tags begins none either if a bracket or nothing follows. -/
theorem noneBegins_closing (block : IsBlockName name) (lacks : Lacks (Closing name) gap)
    (follows : ∀ c ∈ rest.head?, c = '<') : NoneBegins (Closing name) gap rest := by
  intro part suffix some tag closes ⟨behind, same⟩
  have notInside : ¬tag <+: part := fun inside => lacks tag closes (inside.isInfix.trans suffix.isInfix)
  -- The tag lies in the part, or it reaches beyond it.
  rcases List.append_eq_append_iff.mp same with ⟨more, rfl, -⟩ | ⟨more, rfl, rfl⟩
  · exact notInside (List.prefix_append _ _)
  · -- The tag would reach across the bracket that follows, and it has none but its first.
    cases more with
    | nil => exact notInside (by simp)
    | cons c more =>
      obtain rfl : c = '<' := follows c rfl
      obtain ⟨d, part, rfl⟩ := List.exists_cons_of_ne_nil some
      obtain ⟨front, isTag, noOpen, -⟩ := closes.exists_front block
      obtain ⟨-, isTag⟩ := List.cons.inj isTag
      have inFront : '<' ∈ front ++ ['>'] := isTag ▸ by simp
      simp [noOpen] at inFront

/-- In a closing tag begins no opening tag. -/
theorem Closing.noneBegins_opening (closes : Closing name tag) (block : IsBlockName name)
    (otherBlock : IsBlockName other) (rest : List Char) : NoneBegins (Opening other) tag rest := by
  -- Behind the bracket of the closing tag there is no other one in it.
  obtain ⟨front, isTag, noOpen, -⟩ := closes.exists_front block
  obtain ⟨word, blanks, -, -, rfl⟩ := closes
  have tailPlain : '<' ∉ '/' :: (word ++ (blanks ++ ['>'])) := by
    rw [(List.cons.inj isTag).2]
    simp [noOpen]
  refine noneBegins_cons_iff.mpr ⟨?_, (noneBegins_plain tailPlain rest).1⟩
  -- A slash stands where the name would begin, and it is no letter, no blank and no bracket.
  rintro marker ⟨spelled, attributes, spells, blank, -, rfl⟩ ⟨behind, same⟩
  have noSlash : '/' ∉ spelled := spells.not_mem otherBlock.noSlash rfl
  obtain ⟨-, split⟩ := List.cons.inj same
  cases spelled with
  | cons c spelled =>
    obtain ⟨rfl, -⟩ := List.cons.inj split
    exact noSlash (List.mem_cons_self ..)
  | nil =>
    cases attributes with
    | nil => cases split
    | cons c attributes =>
      obtain ⟨rfl, -⟩ := List.cons.inj split
      exact absurd (blank '/' rfl) (by decide)

/-! ### The first opening tag -/

namespace EndsOnce

variable (ends : EndsOnce Marker) {first more : List Char}
include ends

/-- Of two markers that follow each other or overlap, the first ends with the second exactly if no closing bracket
stands between their starts; else it ends before it. -/
theorem behind_eq_iff (isFirst : Marker first) (isMarker : Marker marker)
    (same : first ++ behind = gap ++ (marker ++ rest)) : rest <:+ behind ∧ (behind = rest ↔ '>' ∉ gap) := by
  -- The second marker ends with its only closing bracket.
  obtain ⟨front, rfl, noEnd⟩ := ends marker isMarker
  have ended : first ++ behind = (gap ++ front) ++ '>' :: rest := by simpa using same
  refine ⟨ends.suffix_behind isFirst ended, ?_, ?_⟩
  · -- Up to the end of the first marker there is no other closing bracket.
    rintro rfl
    obtain ⟨inner, rfl, innerNoEnd⟩ := ends first isFirst
    have cut : inner ++ '>' :: behind = (gap ++ front) ++ '>' :: behind := by simpa using ended
    obtain rfl : inner = gap ++ front := List.append_cancel_right cut
    exact fun member => innerNoEnd (List.mem_append_left _ member)
  · intro gapNoEnd
    exact ends.behind_eq isFirst ended (by simp [gapNoEnd, noEnd])

/-- Up to somewhere behind the start of the first marker of a text there is no marker exactly if there is no closing
bracket behind that start. -/
theorem lacks_iff_not_mem (measures : Measures length? Marker) (isFirst : Marker first)
    (none : NoneBegins Marker before (gap ++ more)) (isFront : first <+: gap ++ more) :
    Lacks Marker (before ++ gap) ↔ '>' ∉ gap := by
  constructor
  · -- A first marker that begins in front of a closing bracket stands in the text up to there.
    intro lacks gapEnd
    obtain ⟨left, right, rfl⟩ := List.append_of_mem gapEnd
    have upTo : first <+: (left ++ ['>']) ++ (right ++ more) := by simpa using isFront
    have inside := (ends.prefix_of_ended isFirst upTo).isInfix
    exact lacks first isFirst (inside.trans ⟨before, right, by simp⟩)
  · intro gapNoEnd
    have gapLacks : Lacks Marker gap := by
      intro other isOther inside
      obtain ⟨front, rfl, -⟩ := ends other isOther
      exact gapNoEnd (inside.subset (by simp))
    -- No marker begins in front of the gap, and none lies in it.
    refine measures.noneBegins_iff.mp (noneBegins_append_iff.mpr ⟨?_, measures.noneBegins_iff.mpr gapLacks⟩)
    simpa using none.shorten

/-- The first marker of a text ends where a given one does or before it, and there exactly if no marker stands in front
of the given one. -/
theorem exists_split (measures : Measures length? Marker) (isMarker : Marker marker) (pre rest : List Char) :
    ∃ before behind, splitAtMarker? length? (pre ++ (marker ++ rest)) = some (before, behind) ∧ rest <:+ behind ∧
      (behind = rest ↔ Lacks Marker pre) := by
  -- The text holds a marker, so that there is a first one.
  rcases measures.exists_first (pre ++ (marker ++ rest)) with lacks | ⟨before, first, behind, isFirst, none, split⟩
  · -- A text without markers does not hold the given one.
    exact absurd ⟨pre, rest, by simp⟩ (lacks marker isMarker)
  · refine ⟨before, behind, by rw [split]; exact measures.splitAtMarker?_append isFirst none, ?_⟩
    -- The first one begins in front of the given one or with it.
    obtain ⟨gap, rfl, same⟩ : ∃ gap, pre = before ++ gap ∧ first ++ behind = gap ++ (marker ++ rest) := by
      rcases List.append_eq_append_iff.mp split with ⟨part, rfl, same⟩ | ⟨gap, rfl, same⟩
      · by_cases some : part = []
        · exact ⟨[], by simp [some], by simpa [some] using same.symm⟩
        · exact absurd ⟨rest, same⟩ (none part (List.suffix_append _ _) some marker isMarker)
      · exact ⟨gap, rfl, same⟩
    -- Ending with the given marker and having none in front of it are both about the gap between the starts.
    obtain ⟨suffix, ended⟩ := ends.behind_eq_iff isFirst isMarker same
    rw [same] at none
    exact ⟨suffix, ended.trans (ends.lacks_iff_not_mem measures isFirst none ⟨behind, same⟩).symm⟩

end EndsOnce

/-! ### The last closing tag -/

/-- The text before a closing tag behind which there is none. -/
theorem beforeLast?_append (block : IsBlockName name) (closes : Closing name closing)
    (lacks : Lacks (Closing name) behind) (before : List Char) :
    beforeLast? (closingLength? name) 0 (before ++ (closing ++ behind)) = some before := by
  have measures := measures_closing name
  -- Each closing tag in front is passed in turn; it does not reach into the next one, which begins with a bracket.
  induction before using measures.induct with
  | lacks before absent =>
    have free := noneBegins_closing block absent (bracket_first closes.head? behind)
    rw [measures.beforeLast?_gap free, measures.beforeLast?_marker closes, measures.beforeLast?_eq_none_iff.mpr lacks]
    simp
  | first gap first rest isFirst none ih =>
    have free := noneBegins_closing block (none.lacks measures.ne_nil)
      (bracket_first isFirst.head? (rest ++ (closing ++ behind)))
    rw [List.append_assoc, List.append_assoc, measures.beforeLast?_gap free, measures.beforeLast?_marker isFirst, ih]
    simp

/-- A closing tag is the last one exactly if there is none behind it. -/
theorem beforeLast?_eq_iff (block : IsBlockName name) (closes : Closing name closing) (before behind : List Char) :
    beforeLast? (closingLength? name) 0 (before ++ (closing ++ behind)) = some before ↔
      Lacks (Closing name) behind := by
  refine ⟨fun found => ?_, fun lacks => beforeLast?_append block closes lacks before⟩
  -- Otherwise there is a last one behind the tag.
  by_contra holds
  obtain ⟨between, last, behind, isLast, lacks, rfl⟩ := (measures_closing name).exists_last holds
  have later := beforeLast?_append block isLast lacks (before ++ (closing ++ between))
  rw [show before ++ (closing ++ (between ++ (last ++ behind))) = before ++ (closing ++ between) ++ (last ++ behind) by
    simp, later] at found
  -- The text before a later tag is longer by the tag.
  have positive := (measures_closing name).length_pos closes
  have lengths := congrArg List.length (Option.some.inj found)
  simp only [List.length_append] at lengths
  omega

end LayerAudit.Component
