import LayerAudit.Text.Basic

/-!
A text is cut at the one occurrence of a character behind which there is none, and into pieces at all its occurrences.
Texts without a character are the pieces between its occurrences when they are joined by it, and the pieces of a text
give the text again.
-/

namespace LayerAudit.Text

variable {mark : Char} {text before after : List Char}

/-- A text is not cut exactly if the character does not occur in it. -/
theorem cutLast?_eq_none_iff : cutLast? mark text = none ↔ mark ∉ text := by
  induction text with
  | nil => simp [cutLast?]
  | cons c rest ih =>
    unfold cutLast?
    cases found : cutLast? mark rest with
    | none =>
      -- Behind the first character there is none, so that the first one decides.
      have absent : mark ∉ rest := ih.mp found
      by_cases same : c = mark
      · simp [same]
      · simp [same, Ne.symm same, absent]
    | some parts =>
      have present : mark ∈ rest := Decidable.not_not.mp fun absent => by simp [ih.mpr absent] at found
      simp [present]

/-- Putting the parts and the character together again gives the text. -/
theorem cutLast?_split (found : cutLast? mark text = some (before, after)) :
    text = before ++ mark :: after ∧ mark ∉ after := by
  induction text generalizing before with
  | nil => simp [cutLast?] at found
  | cons c rest ih =>
    unfold cutLast? at found
    cases later : cutLast? mark rest with
    | none =>
      -- Only the front can be the place of the cut.
      simp only [later, Option.ite_none_right_eq_some, Option.some.injEq, Prod.mk.injEq] at found
      obtain ⟨same, rfl, rfl⟩ := found
      exact ⟨by simp [same], cutLast?_eq_none_iff.mp later⟩
    | some parts =>
      -- The cut is behind the first character, which goes to the part in front.
      simp only [later, Option.some.injEq, Prod.mk.injEq] at found
      obtain ⟨rfl, rfl⟩ := found
      obtain ⟨split, absent⟩ := ih later
      exact ⟨by rw [List.cons_append, ← split], absent⟩

/-- A text is cut at an occurrence behind which there is none. -/
theorem cutLast?_append (before : List Char) (absent : mark ∉ after) :
    cutLast? mark (before ++ mark :: after) = some (before, after) := by
  induction before with
  | nil => simp [cutLast?, cutLast?_eq_none_iff.mpr absent]
  | cons c rest ih => simp [cutLast?, ih]

/-! ### Pieces -/

/-- There is always a piece. -/
theorem pieces_ne_nil (mark : Char) (text : List Char) : pieces mark text ≠ [] := by
  cases text with
  | nil => simp [pieces]
  | cons c rest =>
    unfold pieces
    split
    · simp
    · split <;> simp

/-- A character belongs to the first piece, or it stands before that piece and makes another one. -/
theorem pieces_cons (mark c : Char) (rest : List Char) :
    ∃ piece others, pieces mark rest = piece :: others ∧
      pieces mark (c :: rest) = if c = mark then [] :: piece :: others else (c :: piece) :: others := by
  obtain ⟨piece, others, split⟩ := List.exists_cons_of_ne_nil (pieces_ne_nil mark rest)
  exact ⟨piece, others, split, by simp only [pieces, split]⟩

/-- The character does not occur in a piece. -/
theorem not_mem_of_mem_pieces {piece : List Char} (member : piece ∈ pieces mark text) : mark ∉ piece := by
  induction text generalizing piece with
  | nil => simp_all [pieces]
  | cons c rest ih =>
    obtain ⟨first, others, split, same⟩ := pieces_cons mark c rest
    rw [same] at member
    have absent : ∀ part ∈ first :: others, mark ∉ part := fun part listed => ih (split ▸ listed)
    split at member
    · rcases List.mem_cons.mp member with rfl | listed
      · exact List.not_mem_nil
      · exact absent piece listed
    · rename_i other
      rcases List.mem_cons.mp member with rfl | listed
      · -- The first piece only grows by a character that is not the mark.
        intro inside
        rcases List.mem_cons.mp inside with same | inside
        · exact other same.symm
        · exact absent first (List.mem_cons_self ..) inside
      · exact absent piece (List.mem_cons_of_mem _ listed)

/-- The characters of a piece are characters of the text. -/
theorem mem_of_mem_pieces {piece : List Char} {c : Char} (listed : piece ∈ pieces mark text) (member : c ∈ piece) :
    c ∈ text := by
  induction text generalizing piece with
  | nil => simp_all [pieces]
  | cons d rest ih =>
    obtain ⟨first, others, split, same⟩ := pieces_cons mark d rest
    rw [same] at listed
    have later : ∀ part ∈ first :: others, c ∈ part → c ∈ d :: rest :=
      fun part inside found => List.mem_cons_of_mem _ (ih (split ▸ inside) found)
    split at listed
    · -- The empty piece before the mark has no characters.
      rcases List.mem_cons.mp listed with rfl | inside
      · cases member
      · exact later piece inside member
    · -- The first piece begins with the first character of the text.
      rcases List.mem_cons.mp listed with rfl | inside
      · rcases List.mem_cons.mp member with rfl | found
        · exact List.mem_cons_self ..
        · exact later first (List.mem_cons_self ..) found
      · exact later piece (List.mem_cons_of_mem _ inside) member

/-- The pieces before an occurrence come before the pieces after it. -/
theorem pieces_append (before after : List Char) :
    pieces mark (before ++ mark :: after) = pieces mark before ++ pieces mark after := by
  induction before with
  | nil =>
    obtain ⟨piece, others, split, same⟩ := pieces_cons mark mark after
    simp only [List.nil_append, same, if_true, split, pieces, List.singleton_append]
  | cons c rest ih =>
    obtain ⟨piece, others, split, same⟩ := pieces_cons mark c rest
    obtain ⟨first, more, whole, grown⟩ := pieces_cons mark c (rest ++ mark :: after)
    -- The first piece of the rest is the same with or without what follows the mark.
    rw [ih, split, List.cons_append] at whole
    obtain ⟨rfl, rfl⟩ := List.cons.inj whole
    rw [List.cons_append, grown, same]
    split <;> rfl

/-- A text in which the character does not occur is its only piece. -/
theorem pieces_of_not_mem (absent : mark ∉ text) : pieces mark text = [text] := by
  induction text with
  | nil => rfl
  | cons c rest ih =>
    have other : c ≠ mark := fun same => absent (same ▸ List.mem_cons_self ..)
    have later : mark ∉ rest := fun member => absent (List.mem_cons_of_mem _ member)
    simp [pieces, ih later, other]

/-- Between two texts that are joined stands the separator. -/
theorem toList_joinWith_cons (mark : Char) (first second : String) (more : List String) :
    (joinWith (String.singleton mark) (first :: second :: more)).toList =
      first.toList ++ mark :: (joinWith (String.singleton mark) (second :: more)).toList := by
  simp [joinWith, String.intercalate_cons_cons]

/-- Texts joined by a character that occurs in none of them are its pieces. -/
theorem pieces_joinWith {texts : List String} (some : texts ≠ []) (absent : ∀ part ∈ texts, mark ∉ part.toList) :
    (pieces mark (joinWith (String.singleton mark) texts).toList).map String.ofList = texts := by
  induction texts with
  | nil => exact absurd rfl some
  | cons first rest ih =>
    have here := absent first (List.mem_cons_self ..)
    cases rest with
    -- A single text has no mark around it.
    | nil => simp [joinWith, pieces_of_not_mem here]
    | cons second more =>
      have later := ih (List.cons_ne_nil _ _) fun part member => absent part (List.mem_cons_of_mem _ member)
      rw [toList_joinWith_cons, pieces_append, List.map_append, later, pieces_of_not_mem here]
      simp

/-- The pieces of a text joined again are the text. -/
theorem joinWith_pieces (mark : Char) (text : List Char) :
    joinWith (String.singleton mark) ((pieces mark text).map String.ofList) = String.ofList text := by
  induction text with
  | nil => rfl
  | cons c rest ih =>
    obtain ⟨piece, others, split, same⟩ := pieces_cons mark c rest
    rw [split] at ih
    rw [same]
    have joined := congrArg String.toList ih
    apply String.toList_inj.mp
    split
    · -- An empty piece before the others only adds the mark.
      rename_i isMark
      rw [List.map_cons, List.map_cons, toList_joinWith_cons, ← List.map_cons, joined]
      simp [isMark]
    · cases others with
      | nil => simpa [joinWith] using joined
      | cons second more =>
        -- The character goes to the front of the first piece.
        rw [List.map_cons, List.map_cons, toList_joinWith_cons] at joined ⊢
        simpa using joined

/-- A character of joined texts stands in one of them or in the separator. -/
theorem mem_joinWith {separator : String} {texts : List String} {c : Char}
    (member : c ∈ (joinWith separator texts).toList) : c ∈ separator.toList ∨ ∃ part ∈ texts, c ∈ part.toList := by
  induction texts with
  | nil => simp [joinWith] at member
  | cons first rest ih =>
    cases rest with
    | nil => exact Or.inr ⟨first, List.mem_cons_self .., by simpa [joinWith] using member⟩
    | cons second more =>
      -- The first text, the separator behind it, or what is joined behind both.
      simp only [joinWith, String.intercalate_cons_cons, String.toList_append, List.mem_append] at member ih
      rcases member with (here | between) | later
      · exact Or.inr ⟨first, List.mem_cons_self .., here⟩
      · exact Or.inl between
      · rcases ih later with between | ⟨part, listed, found⟩
        · exact Or.inl between
        · exact Or.inr ⟨part, List.mem_cons_of_mem _ listed, found⟩

/-! ### Starts -/

/-- A text begins with another one exactly if something, perhaps nothing, makes it of that one. -/
theorem isStartOf_iff {start text : String} : isStartOf start text ↔ ∃ rest, text = start ++ rest := by
  rw [isStartOf, List.isPrefixOf_iff_prefix]
  constructor
  · rintro ⟨rest, split⟩
    refine ⟨String.ofList rest, ?_⟩
    rw [← String.toList_inj, ← split]
    simp
  · rintro ⟨rest, rfl⟩
    exact ⟨rest.toList, String.toList_append.symm⟩

/-- Of two starts of one text one is a start of the other. -/
theorem isStartOf_or_isStartOf {start other text : String} (starts : isStartOf start text)
    (otherStarts : isStartOf other text) : isStartOf start other ∨ isStartOf other start := by
  simp only [isStartOf, List.isPrefixOf_iff_prefix] at starts otherStarts ⊢
  exact List.prefix_or_prefix_of_prefix starts otherStarts

/-- Two starts of one text are equal if neither is longer. -/
theorem start_eq_of_size {start other text : String} (starts : isStartOf start text)
    (otherStarts : isStartOf other text) (notLonger : other.length ≤ start.length)
    (notLarger : start.utf8ByteSize ≤ other.utf8ByteSize) : start = other := by
  obtain ⟨rest, same⟩ := List.prefix_of_prefix_length_le (List.isPrefixOf_iff_prefix.mp otherStarts)
    (List.isPrefixOf_iff_prefix.mp starts) notLonger
  have whole : start = other ++ String.ofList rest := by
    rw [← String.toList_inj, ← same]
    simp
  -- There is no room for anything behind the other start.
  have size : other.utf8ByteSize + (String.ofList rest).utf8ByteSize ≤ other.utf8ByteSize := by
    rw [← String.utf8ByteSize_append, ← whole]
    exact notLarger
  have nothing : String.ofList rest = "" := String.utf8ByteSize_eq_zero_iff.mp (by omega)
  rw [whole, nothing, String.append_empty]

/-- Of two starts of one text the one with fewer characters is also the one with fewer bytes. -/
theorem start_length_le_iff {start other text : String} (starts : isStartOf start text)
    (otherStarts : isStartOf other text) :
    start.length ≤ other.length ↔ start.utf8ByteSize ≤ other.utf8ByteSize := by
  constructor
  · intro notLonger
    -- A start with more bytes but no more characters would be the other one.
    refine Nat.not_lt.mp fun larger => ?_
    have same := start_eq_of_size otherStarts starts notLonger (Nat.le_of_lt larger)
    exact absurd (congrArg String.utf8ByteSize same) (Nat.ne_of_lt larger)
  · intro notLarger
    refine Nat.not_lt.mp fun longer => ?_
    have same := start_eq_of_size starts otherStarts (Nat.le_of_lt longer) notLarger
    exact absurd (congrArg String.length same).symm (Nat.ne_of_lt longer)

/-! ### Sizes -/

section

variable {s t : List Char}

/-- Sizes add up. -/
theorem byteSize_append (s t : List Char) : byteSize (s ++ t) = byteSize s + byteSize t := by
  induction s with
  | nil => simp [byteSize]
  | cons c s ih => simp [byteSize, ih, Nat.add_assoc]

/-- Only the empty text takes no bytes. -/
theorem eq_nil_of_byteSize (empty : byteSize s = 0) : s = [] := by
  cases s with
  | nil => rfl
  | cons c s =>
    -- Every character takes one byte at least.
    have positive := c.utf8Size_pos
    simp only [byteSize] at empty
    omega

/-- The end of a text is the whole text if it is as large. -/
theorem eq_of_suffix_of_byteSize (suffix : s <:+ t) (equal : byteSize s = byteSize t) : s = t := by
  obtain ⟨front, rfl⟩ := suffix
  rw [byteSize_append] at equal
  rw [eq_nil_of_byteSize (by omega : byteSize front = 0), List.nil_append]

end

/-! ### Backslashes -/

/-- A text without backslashes is not changed by writing them as slashes. -/
theorem slashed_eq_self {path : String} (plain : '\\' ∉ path.toList) : slashed path = path := by
  have same : path.toList.map (fun c => if c = '\\' then '/' else c) = path.toList.map id := by
    refine List.map_congr_left fun c member => if_neg fun isMark => ?_
    exact plain (isMark ▸ member)
  rw [slashed, same, List.map_id, String.ofList_toList]

/-- No backslash is left when all are written as slashes. -/
theorem not_mem_slashed (path : String) : '\\' ∉ (slashed path).toList := by
  rw [slashed, String.toList_ofList]
  intro member
  obtain ⟨c, _, same⟩ := List.mem_map.mp member
  split at same
  · exact absurd same (by decide)
  · contradiction

/-- Texts are slashed one by one. -/
@[simp] theorem slashed_append (first second : String) : slashed (first ++ second) =
    slashed first ++ slashed second := by
  simp [slashed]

end LayerAudit.Text
