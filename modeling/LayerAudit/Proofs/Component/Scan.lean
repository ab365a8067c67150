import LayerAudit.Proofs.Component.Markers

/-!
A scan goes through a text for successive markers of one shape. It passes a text in which none begins, and goes on
behind a marker that it meets.
-/

namespace LayerAudit.Component

variable {Marker : List Char → Prop} {length? : List Char → Option Nat}
variable {marker gap before behind rest s t : List Char}

/-- Lengths are found exactly where markers of a shape stand. -/
structure Measures (length? : List Char → Option Nat) (Marker : List Char → Prop) : Prop where
  eq_some_iff : ∀ s n, length? s = some n ↔ ∃ marker rest, Marker marker ∧ s = marker ++ rest ∧ marker.length = n
  ne_nil : ¬Marker []

/-- No marker begins in a text that another one follows. -/
def NoneBegins (Marker : List Char → Prop) (gap rest : List Char) : Prop :=
  ∀ part, part <:+ gap → part ≠ [] → ∀ marker, Marker marker → ¬marker <+: part ++ rest

/-- A text holds no marker of a shape. -/
def Lacks (Marker : List Char → Prop) (s : List Char) : Prop := ∀ marker, Marker marker → ¬marker <:+: s

/-- Part of a text without markers has none. -/
theorem Lacks.infix (lacks : Lacks Marker s) (inside : t <:+: s) : Lacks Marker t :=
  fun marker isMarker found => lacks marker isMarker (found.trans inside)

/-- The lengths of opening tags. -/
theorem measures_opening (name : List Char) : Measures (openingLength? name) (Opening name) where
  eq_some_iff _ _ := openingLength?_eq_some_iff
  ne_nil := by
    rintro ⟨word, attributes, -, -, -, isTag⟩
    cases isTag

/-- The lengths of closing tags. -/
theorem measures_closing (name : List Char) : Measures (closingLength? name) (Closing name) where
  eq_some_iff _ _ := closingLength?_eq_some_iff
  ne_nil := by
    rintro ⟨word, blanks, -, -, isTag⟩
    cases isTag

/-! ### Texts without markers -/

/-- Nothing begins in the empty text. -/
theorem noneBegins_nil (Marker : List Char → Prop) (rest : List Char) : NoneBegins Marker [] rest :=
  fun _ suffix some => absurd (List.suffix_nil.mp suffix) some

/-- Nothing begins in a text exactly if nothing begins at its front or behind it. -/
theorem noneBegins_cons_iff {c : Char} : NoneBegins Marker (c :: gap) rest ↔
    (∀ marker, Marker marker → ¬marker <+: c :: (gap ++ rest)) ∧ NoneBegins Marker gap rest := by
  constructor
  · -- The whole text is one of its own ends, and the other ends are those of the rest.
    intro none
    exact ⟨none (c :: gap) List.suffix_rfl (List.cons_ne_nil _ _),
      fun part suffix => none part (suffix.trans (List.suffix_cons c gap))⟩
  · rintro ⟨front, behind⟩ part suffix some
    rcases List.suffix_cons_iff.mp suffix with rfl | suffix
    · exact front
    · exact behind part suffix some

/-- Nothing begins in two texts exactly if nothing begins in the first one before the second, and in the second. -/
theorem noneBegins_append_iff : NoneBegins Marker (gap ++ t) rest ↔
    NoneBegins Marker gap (t ++ rest) ∧ NoneBegins Marker t rest := by
  induction gap with
  | nil => simp [noneBegins_nil]
  | cons c gap ih => rw [List.cons_append, noneBegins_cons_iff, noneBegins_cons_iff, ih, List.append_assoc, and_assoc]

/-- Nothing begins in the end of a text in which nothing begins. -/
theorem NoneBegins.suffix (none : NoneBegins Marker gap rest) (suffix : t <:+ gap) : NoneBegins Marker t rest :=
  fun part inside => none part (inside.trans suffix)

/-- Nothing begins in a text that is followed by less than a text that it begins nothing with. -/
theorem NoneBegins.shorten (none : NoneBegins Marker gap (rest ++ t)) : NoneBegins Marker gap rest :=
  fun part suffix some marker isMarker isFront =>
    none part suffix some marker isMarker (by simpa using isFront.trans (List.prefix_append (part ++ rest) t))

/-- A text in which nothing begins holds no marker. -/
theorem NoneBegins.lacks (none : NoneBegins Marker gap rest) (ne_nil : ¬Marker []) : Lacks Marker gap := by
  intro marker isMarker inside
  -- The marker would begin at some end of the text, which is not empty.
  obtain ⟨part, isFront, suffix⟩ := List.infix_iff_prefix_suffix.mp inside
  have some : part ≠ [] := by
    rintro rfl
    exact ne_nil (List.prefix_nil.mp isFront ▸ isMarker)
  exact none part suffix some marker isMarker (isFront.trans (List.prefix_append _ _))

/-- A text without opening brackets begins no marker that begins with one. -/
theorem noneBegins_of_not_mem (bracketed : ∀ marker, Marker marker → marker.head? = some '<') (plain : '<' ∉ gap)
    (rest : List Char) : NoneBegins Marker gap rest := by
  -- A marker would begin with a bracket, and no character of the text is one.
  induction gap with
  | nil => exact noneBegins_nil Marker rest
  | cons c gap ih =>
    rw [List.mem_cons, not_or] at plain
    refine noneBegins_cons_iff.mpr ⟨?_, ih plain.2⟩
    rintro marker isMarker ⟨behind, split⟩
    obtain ⟨front, rfl⟩ := List.head?_eq_some_iff.mp (bracketed marker isMarker)
    exact plain.1 (List.cons.inj split).1

/-! ### Lengths -/

namespace Measures

variable (measures : Measures length? Marker)
include measures

/-- No length is found exactly where no marker stands. -/
theorem eq_none_iff : length? s = none ↔ ∀ marker, Marker marker → ¬marker <+: s := by
  rw [Option.eq_none_iff_forall_ne_some]
  -- Both directions are the law of the lengths, with whatever text follows.
  constructor
  · rintro none marker isMarker ⟨rest, rfl⟩
    exact none _ ((measures.eq_some_iff _ _).mpr ⟨marker, rest, isMarker, rfl, rfl⟩)
  · intro absent n found
    obtain ⟨marker, rest, isMarker, rfl, -⟩ := (measures.eq_some_iff _ _).mp found
    exact absent marker isMarker (List.prefix_append _ _)

/-- In front of a text stands at most one marker. -/
theorem unique {other : List Char} (isMarker : Marker marker) (isOther : Marker other)
    (same : marker ++ rest = other ++ t) : marker = other ∧ rest = t := by
  have found := (measures.eq_some_iff _ _).mpr ⟨marker, rest, isMarker, rfl, rfl⟩
  rw [same, (measures.eq_some_iff _ _).mpr ⟨other, t, isOther, rfl, rfl⟩, Option.some.injEq] at found
  exact List.append_inj same found.symm

/-- A marker is measured at its front. -/
theorem length?_append (isMarker : Marker marker) (rest : List Char) :
    length? (marker ++ rest) = some marker.length :=
  (measures.eq_some_iff _ _).mpr ⟨marker, rest, isMarker, rfl, rfl⟩

/-- A marker has a first character. -/
theorem exists_cons (isMarker : Marker marker) : ∃ c front, marker = c :: front :=
  List.exists_cons_of_ne_nil fun empty => measures.ne_nil (empty ▸ isMarker)

/-- A marker takes some room. -/
theorem length_pos (isMarker : Marker marker) : 0 < marker.length :=
  List.length_pos_iff.mpr fun empty => measures.ne_nil (empty ▸ isMarker)

/-- Nothing begins in a whole text exactly if it holds no marker. -/
theorem noneBegins_iff : NoneBegins Marker s [] ↔ Lacks Marker s := by
  refine ⟨fun none => none.lacks measures.ne_nil, ?_⟩
  intro lacks part suffix _ marker isMarker isFront
  rw [List.append_nil] at isFront
  exact lacks marker isMarker (isFront.isInfix.trans suffix.isInfix)

/-- A text holds no marker, or there is a first one. -/
theorem exists_first (s : List Char) : Lacks Marker s ∨
    ∃ gap marker rest, Marker marker ∧ NoneBegins Marker gap (marker ++ rest) ∧ s = gap ++ (marker ++ rest) := by
  rw [← measures.noneBegins_iff]
  induction s with
  | nil => exact Or.inl (noneBegins_nil Marker [])
  | cons c s ih =>
    -- Either a marker stands at the front, or the first one is that of the rest.
    cases found : length? (c :: s) with
    | some n =>
      obtain ⟨marker, rest, isMarker, split, -⟩ := (measures.eq_some_iff _ _).mp found
      exact Or.inr ⟨[], marker, rest, isMarker, noneBegins_nil _ _, split⟩
    | none =>
      have front := measures.eq_none_iff.mp found
      rcases ih with none | ⟨gap, marker, rest, isMarker, none, rfl⟩
      · exact Or.inl (noneBegins_cons_iff.mpr ⟨by simpa using front, none⟩)
      · exact Or.inr ⟨c :: gap, marker, rest, isMarker, noneBegins_cons_iff.mpr ⟨front, none⟩, rfl⟩

/-- What holds of texts without markers, and of a text if it holds behind its first marker, holds of every text. -/
@[elab_as_elim]
theorem induct {motive : List Char → Prop} (lacks : ∀ s, Lacks Marker s → motive s)
    (first : ∀ gap marker rest, Marker marker → NoneBegins Marker gap (marker ++ rest) → motive rest →
      motive (gap ++ (marker ++ rest))) (s : List Char) : motive s := by
  -- The induction is on the length, of which each marker takes some.
  induction size : s.length using Nat.strong_induction_on generalizing s with
  | _ n ih =>
    rcases measures.exists_first s with absent | ⟨gap, marker, rest, isMarker, none, rfl⟩
    · exact lacks s absent
    · have positive := measures.length_pos isMarker
      simp only [List.length_append] at size
      exact first gap marker rest isMarker none (ih rest.length (by omega) rest rfl)

/-! ### Counting -/

omit measures in
/-- What belongs to a marker already is passed. -/
theorem countMarkers_skip (length? : List Char → Option Nat) (k : Nat) (s : List Char) :
    countMarkers length? k s = countMarkers length? 0 (s.drop k) := by
  -- The characters that belong to the marker are dropped one at a time.
  induction s generalizing k with
  | nil => cases k <;> rfl
  | cons c s ih =>
    cases k with
    | zero => rfl
    | succ k => exact ih k

/-- A character at which no marker begins is passed. -/
theorem countMarkers_char {c : Char} (front : ∀ marker, Marker marker → ¬marker <+: c :: rest) :
    countMarkers length? 0 (c :: rest) = countMarkers length? 0 rest := by
  rw [countMarkers, measures.eq_none_iff.mpr front]

/-- A text in which no marker begins is passed. -/
theorem countMarkers_gap (none : NoneBegins Marker gap rest) :
    countMarkers length? 0 (gap ++ rest) = countMarkers length? 0 rest := by
  induction gap with
  | nil => rfl
  | cons c gap ih =>
    obtain ⟨front, none⟩ := noneBegins_cons_iff.mp none
    rw [List.cons_append, measures.countMarkers_char front, ih none]

/-- A marker is counted, and the count goes on behind it. -/
theorem countMarkers_marker (isMarker : Marker marker) (rest : List Char) :
    countMarkers length? 0 (marker ++ rest) = 1 + countMarkers length? 0 rest := by
  -- Behind the first character of the marker the others are passed.
  obtain ⟨c, front, rfl⟩ := measures.exists_cons isMarker
  have found := measures.length?_append isMarker rest
  rw [List.cons_append] at found ⊢
  rw [countMarkers, found]
  simp [countMarkers_skip length? front.length]

/-- There is nothing to count in a text without markers. -/
theorem countMarkers_lacks (lacks : Lacks Marker s) : countMarkers length? 0 s = 0 := by
  have counted := measures.countMarkers_gap (measures.noneBegins_iff.mpr lacks)
  rwa [List.append_nil] at counted

/-! ### The first marker -/

/-- A text in which no marker begins stays before the first one. -/
theorem splitAtMarker?_gap (none : NoneBegins Marker gap rest) : splitAtMarker? length? (gap ++ rest) =
    (splitAtMarker? length? rest).map fun (before, behind) => (gap ++ before, behind) := by
  induction gap with
  | nil => simp
  | cons c gap ih =>
    -- At no character of the gap a length is found.
    obtain ⟨front, none⟩ := noneBegins_cons_iff.mp none
    rw [List.cons_append, splitAtMarker?, measures.eq_none_iff.mpr front]
    simp [ih none, Option.map_map, Function.comp_def]

/-- A text is split at a marker before which none begins. -/
theorem splitAtMarker?_append (isMarker : Marker marker) (none : NoneBegins Marker before (marker ++ behind)) :
    splitAtMarker? length? (before ++ (marker ++ behind)) = some (before, behind) := by
  obtain ⟨c, front, rfl⟩ := measures.exists_cons isMarker
  have found := measures.length?_append isMarker behind
  rw [measures.splitAtMarker?_gap none]
  rw [List.cons_append] at found ⊢
  simp [splitAtMarker?, found]

/-- A text is not split exactly if it holds no marker. -/
theorem splitAtMarker?_eq_none_iff : splitAtMarker? length? s = none ↔ Lacks Marker s := by
  constructor
  · intro unsplit
    refine (measures.exists_first s).resolve_right ?_
    rintro ⟨gap, marker, rest, isMarker, none, rfl⟩
    rw [measures.splitAtMarker?_append isMarker none] at unsplit
    cases unsplit
  · intro lacks
    have split := measures.splitAtMarker?_gap (measures.noneBegins_iff.mpr lacks)
    rwa [List.append_nil] at split

/-- A text is split exactly at a marker before which none begins. -/
theorem splitAtMarker?_eq_some_iff : splitAtMarker? length? s = some (before, behind) ↔
    ∃ marker, Marker marker ∧ NoneBegins Marker before (marker ++ behind) ∧ s = before ++ (marker ++ behind) := by
  constructor
  · intro split
    -- Whether there is a first marker decides, and it is the one at which the text is split.
    rcases measures.exists_first s with lacks | ⟨gap, marker, rest, isMarker, none, rfl⟩
    · rw [measures.splitAtMarker?_eq_none_iff.mpr lacks] at split
      cases split
    · rw [measures.splitAtMarker?_append isMarker none] at split
      cases split
      exact ⟨marker, isMarker, none, rfl⟩
  · rintro ⟨marker, isMarker, none, rfl⟩
    exact measures.splitAtMarker?_append isMarker none

/-! ### The last marker -/

omit measures in
/-- What belongs to a marker already stays before the last one. -/
theorem beforeLast?_skip (length? : List Char → Option Nat) (k : Nat) (s : List Char) :
    beforeLast? length? k s = (beforeLast? length? 0 (s.drop k)).map (s.take k ++ ·) := by
  -- As for counting, but here the passed characters stay.
  induction s generalizing k with
  | nil => cases k <;> rfl
  | cons c s ih =>
    cases k with
    | zero => simp
    | succ k => simp [beforeLast?, ih k, Option.map_map, Function.comp_def]

/-- A text in which no marker begins stays before the last one. -/
theorem beforeLast?_gap (none : NoneBegins Marker gap rest) :
    beforeLast? length? 0 (gap ++ rest) = (beforeLast? length? 0 rest).map (gap ++ ·) := by
  induction gap with
  | nil => simp
  | cons c gap ih =>
    obtain ⟨front, none⟩ := noneBegins_cons_iff.mp none
    rw [List.cons_append, beforeLast?, measures.eq_none_iff.mpr front]
    simp [ih none, Option.map_map, Function.comp_def]

/-- A marker is the last one unless there is another one behind it. -/
theorem beforeLast?_marker (isMarker : Marker marker) (rest : List Char) :
    beforeLast? length? 0 (marker ++ rest) =
      some (((beforeLast? length? 0 rest).map (marker ++ ·)).getD []) := by
  -- The marker is kept in front of whatever is found behind it.
  obtain ⟨c, front, rfl⟩ := measures.exists_cons isMarker
  have found := measures.length?_append isMarker rest
  rw [List.cons_append] at found ⊢
  rw [beforeLast?, found]
  simp [beforeLast?_skip length? front.length, Option.map_map, Function.comp_def]

/-- There is no last marker exactly in a text without markers. -/
theorem beforeLast?_eq_none_iff : beforeLast? length? 0 s = none ↔ Lacks Marker s := by
  constructor
  · intro nothing
    refine (measures.exists_first s).resolve_right ?_
    rintro ⟨gap, marker, rest, isMarker, none, rfl⟩
    rw [measures.beforeLast?_gap none, measures.beforeLast?_marker isMarker] at nothing
    cases nothing
  · intro lacks
    have nothing := measures.beforeLast?_gap (measures.noneBegins_iff.mpr lacks)
    rwa [List.append_nil] at nothing

/-- A text with markers has a last one. -/
theorem exists_last (holds : ¬Lacks Marker s) :
    ∃ before marker behind, Marker marker ∧ Lacks Marker behind ∧ s = before ++ (marker ++ behind) := by
  -- The last marker of the rest is the last one, and without one it is the first.
  induction s using measures.induct with
  | lacks s lacks => exact absurd lacks holds
  | first gap marker rest isMarker none ih =>
    by_cases lacks : Lacks Marker rest
    · exact ⟨gap, marker, rest, isMarker, lacks, rfl⟩
    · obtain ⟨before, last, behind, isLast, free, rfl⟩ := ih lacks
      exact ⟨gap ++ (marker ++ before), last, behind, isLast, free, by simp⟩

end Measures

instance (name s : List Char) : Decidable (Lacks (Opening name) s) :=
  decidable_of_iff _ (measures_opening name).splitAtMarker?_eq_none_iff

instance (name s : List Char) : Decidable (Lacks (Closing name) s) :=
  decidable_of_iff _ (measures_closing name).splitAtMarker?_eq_none_iff

end LayerAudit.Component
