import LayerAudit.Component.Blocks
import Mathlib.Data.List.Infix
import Mathlib.Data.List.TakeWhile

/-!
What the markers of a component file look like. An opening tag ends at the first closing bracket behind its start, and
a closing tag has no opening bracket but its first; so of two tags that overlap, one ends where the other does.
-/

namespace LayerAudit

namespace Text

/-- A code point that a table takes to another one is listed among those that it moves there. -/
theorem eq_or_mem_movedOnto {code target : Nat} {runs : List CaseRun} (moved : shiftBy code runs = target)
    (positive : 0 < target) : code = target ∨ code ∈ movedOnto target runs := by
  induction runs with
  | nil => exact Or.inl moved
  | cons run rest ih =>
    obtain ⟨first, last, step, shift⟩ := run
    unfold shiftBy at moved
    -- The run is behind the code point, around it, or in front of it.
    split at moved
    · exact Or.inl moved
    · split at moved
      · -- The run itself moves the code point, and by as much it is found again.
        rename_i notBelow inRun
        have back : ((target : Int) - shift).toNat = code := by omega
        refine Or.inr ?_
        unfold movedOnto
        rw [List.filterMap_cons]
        have listed : first ≤ code ∧ code ≤ last ∧ ((code - first) % step == 0) = true := by
          simp only [Bool.and_eq_true, decide_eq_true_eq] at inRun
          exact ⟨by omega, inRun.1, inRun.2⟩
        simp [back, listed.1, listed.2.1, eq_of_beq listed.2.2]
      · -- A later run moves the code point, and it is listed for that one.
        refine (ih moved).imp_right fun listed => ?_
        unfold movedOnto at listed ⊢
        rw [List.filterMap_cons]
        split
        · exact listed
        · exact List.mem_cons_of_mem _ listed

/-- A character that nothing else is folded to is the folding of itself alone. -/
theorem eq_of_foldCase_eq {c mark : Char} (folded : foldCase c = mark) (alone : movedOnto mark.toNat foldRuns = [])
    (positive : 0 < mark.toNat) : c = mark := by
  -- The folding of the character has the code of the mark.
  have code : shiftBy c.toNat foldRuns = mark.toNat := by
    rw [← folded, foldCase] at positive ⊢
    by_cases valid : (shiftBy c.toNat foldRuns).isValidChar
    · rw [show Char.ofNat (shiftBy c.toNat foldRuns) = Char.ofNatAux _ valid from dif_pos valid]
      rfl
    · -- What is no code point is written as the zero character, which the mark is not.
      rw [show Char.ofNat (shiftBy c.toNat foldRuns) = _ from dif_neg valid] at positive
      exact absurd positive (by decide)
  -- Nothing else is folded to the mark, so that the code is its own.
  rcases eq_or_mem_movedOnto code positive with same | listed
  · exact Char.toNat_inj.mp same
  · rw [alone] at listed
    cases listed

end Text

namespace Component

variable {name word tag s rest : List Char} {n : Nat}

/-! ### Shapes -/

/-- A name is spelled by a word, in any letter case. -/
def Spells (name word : List Char) : Prop := word.map Text.foldCase = name

instance : Decidable (Spells name word) := inferInstanceAs (Decidable (word.map Text.foldCase = name))

/-- An opening tag: a blank and any text but a closing bracket may follow the name. -/
def Opening (name tag : List Char) : Prop :=
  ∃ word attributes, Spells name word ∧ (∀ c ∈ attributes.head?, Text.isBlank c) ∧ '>' ∉ attributes ∧
    tag = '<' :: (word ++ (attributes ++ ['>']))

/-- A closing tag: blanks may follow the name. -/
def Closing (name tag : List Char) : Prop :=
  ∃ word blanks, Spells name word ∧ (∀ c ∈ blanks, Text.isBlank c) ∧ tag = '<' :: '/' :: (word ++ (blanks ++ ['>']))

/-- The name of a kind of blocks, in which no brackets and no slashes occur. -/
structure IsBlockName (name : List Char) : Prop where
  noOpen : '<' ∉ name
  noEnd : '>' ∉ name
  noSlash : '/' ∉ name

/-- The name of script blocks is such a name. -/
theorem isBlockName_script : IsBlockName scriptName := ⟨by decide, by decide, by decide +kernel⟩

/-- The name of template blocks is such a name. -/
theorem isBlockName_template : IsBlockName templateName := ⟨by decide +kernel, by decide +kernel, by decide⟩

/-- The name of script blocks is spelled by itself. -/
theorem spells_script : Spells scriptName scriptName := rfl

/-- The name of template blocks is spelled by itself. -/
theorem spells_template : Spells templateName templateName := rfl

/-- A spelling is as long as the name. -/
theorem Spells.length (spells : Spells name word) : word.length = name.length := by
  rw [← show word.map Text.foldCase = name from spells, List.length_map]

/-- A mark that is no letter occurs in a spelling only if it occurs in the name. -/
theorem Spells.not_mem {mark : Char} (spells : Spells name word) (absent : mark ∉ name)
    (plain : Text.foldCase mark = mark) : mark ∉ word := by
  intro member
  have folded := List.mem_map_of_mem (f := Text.foldCase) member
  rw [spells, plain] at folded
  exact absent folded

/-- No bracket is a blank. -/
theorem ne_bracket_of_isBlank {c : Char} (blank : Text.isBlank c) : c ≠ '<' ∧ c ≠ '>' := by
  constructor <;> rintro rfl <;> exact absurd blank (by decide)

/-- An opening tag may be the name alone. -/
theorem opening_word (spells : Spells name word) : Opening name ('<' :: (word ++ ['>'])) :=
  ⟨word, [], spells, by simp, by simp, rfl⟩

/-- A closing tag may be the name alone. -/
theorem closing_word (spells : Spells name word) : Closing name ('<' :: '/' :: (word ++ ['>'])) :=
  ⟨word, [], spells, by simp, rfl⟩

/-- An opening tag ends at the first closing bracket in it. -/
theorem Opening.exists_front (opens : Opening name tag) (block : IsBlockName name) :
    ∃ front, tag = '<' :: (front ++ ['>']) ∧ '>' ∉ front := by
  obtain ⟨word, attributes, spells, -, noEnd, rfl⟩ := opens
  refine ⟨word ++ attributes, by simp, ?_⟩
  have wordPlain : '>' ∉ word := spells.not_mem block.noEnd rfl
  simp [wordPlain, noEnd]

/-- A closing tag has no brackets but those at its ends. -/
theorem Closing.exists_front (closes : Closing name tag) (block : IsBlockName name) :
    -- The slash, the name and the blanks stand between the brackets.
    ∃ front, tag = '<' :: (front ++ ['>']) ∧ '<' ∉ front ∧ '>' ∉ front := by
  obtain ⟨word, blanks, spells, blank, rfl⟩ := closes
  have noOpen : '<' ∉ word := spells.not_mem block.noOpen rfl
  have noEnd : '>' ∉ word := spells.not_mem block.noEnd rfl
  refine ⟨'/' :: (word ++ blanks), by simp, ?_, ?_⟩
  · have : '<' ∉ blanks := fun member => (ne_bracket_of_isBlank (blank _ member)).1 rfl
    simp [noOpen, this]
  · have : '>' ∉ blanks := fun member => (ne_bracket_of_isBlank (blank _ member)).2 rfl
    simp [noEnd, this]

/-! ### Lengths -/

/-- A word is found at the front of a text exactly if a spelling of it stands there. -/
theorem behindWord?_eq_some_iff :
    behindWord? name s = some rest ↔ ∃ word, Spells name word ∧ s = word ++ rest := by
  -- The induction is on the name, and the text gives up one character with each of its own.
  induction name generalizing s with
  | nil => simp [behindWord?, Spells, eq_comm]
  | cons w name ih =>
    cases s with
    | nil => simp [behindWord?, Spells]
    | cons c s =>
      rw [behindWord?]
      constructor
      · -- Where the first characters agree, what is left of the name is found in the rest.
        intro found
        rw [Option.ite_none_right_eq_some] at found
        obtain ⟨word, spells, rfl⟩ := ih.mp found.2
        exact ⟨c :: word, by simp [Spells, eq_of_beq found.1, show word.map _ = name from spells], rfl⟩
      · rintro ⟨word, spells, split⟩
        cases word with
        | nil => cases spells
        | cons d word =>
          obtain ⟨rfl, rfl⟩ := List.cons.inj split
          obtain ⟨folded, spells⟩ := List.cons.inj spells
          rw [if_pos (beq_iff_eq.mpr folded)]
          exact ih.mpr ⟨word, spells, rfl⟩

/-- A text that stops somewhere is split there. -/
theorem exists_stop_of_takeWhile {p : Char → Bool} (stops : (s.takeWhile p).length < s.length) :
    ∃ c rest, s = s.takeWhile p ++ c :: rest ∧ p c = false := by
  induction s with
  | nil => simp at stops
  | cons d s ih =>
    -- Either the text goes on, or its first character is the one that stops.
    by_cases holds : p d
    · rw [List.takeWhile_cons_of_pos holds] at stops ⊢
      obtain ⟨c, rest, split, stop⟩ := ih (by simpa using stops)
      exact ⟨c, rest, by rw [List.cons_append, ← split], stop⟩
    · exact ⟨d, s, by simp [holds], by simpa using holds⟩

/-- What is taken from the front of a text ends before the first character that is not taken. -/
theorem takeWhile_upTo {p : Char → Bool} {c : Char} (inside : ∀ d ∈ s, p d) (stop : p c = false) :
    (s ++ c :: rest).takeWhile p = s := by
  rw [List.takeWhile_append_of_pos inside, List.takeWhile_cons_of_neg (by simp [stop]), List.append_nil]

/-- Each character of a text differs from a mark that it does not hold. -/
theorem all_bne {mark : Char} (absent : mark ∉ s) : ∀ c ∈ s, (c != mark) = true := by
  intro c member
  have : c ≠ mark := fun same => absent (same ▸ member)
  simpa using this

/-- A bracket or a slash in front of a name is spelled by itself. -/
theorem spells_mark_iff {mark : Char} (isMark : mark = '<' ∨ mark = '/') :
    Spells (mark :: name) s ↔ ∃ word, Spells name word ∧ s = mark :: word := by
  -- No letter is folded to the mark, so that it stands only for itself.
  have plain : Text.foldCase mark = mark := by rcases isMark with rfl | rfl <;> decide
  have alone : Text.movedOnto mark.toNat Text.foldRuns = [] := by rcases isMark with rfl | rfl <;> decide
  have positive : 0 < mark.toNat := by rcases isMark with rfl | rfl <;> decide
  constructor
  · intro spells
    cases s with
    | nil => cases spells
    | cons c word =>
      obtain ⟨folded, spells⟩ := List.cons.inj spells
      exact ⟨word, spells, by rw [Text.eq_of_foldCase_eq folded alone positive]⟩
  · rintro ⟨word, spells, rfl⟩
    exact congrArg₂ List.cons plain spells

/-- The length of an opening tag is found exactly where one stands. -/
theorem openingLength?_eq_some_iff :
    openingLength? name s = some n ↔ ∃ tag rest, Opening name tag ∧ s = tag ++ rest ∧ tag.length = n := by
  unfold openingLength?
  rw [Option.bind_eq_some_iff]
  constructor
  · rintro ⟨behind, found, measured⟩
    obtain ⟨spelled, bracketed, rfl⟩ := behindWord?_eq_some_iff.mp found
    obtain ⟨word, spells, rfl⟩ := (spells_mark_iff (Or.inl rfl)).mp bracketed
    have size : word.length = name.length := spells.length
    -- Behind the name the tag ends, or a blank leads over to attributes.
    cases behind with
    | nil => cases measured
    | cons c attributes =>
      simp only at measured
      split at measured
      · -- The tag ends behind the name.
        rename_i isEnd
        obtain rfl : c = '>' := eq_of_beq isEnd
        refine ⟨'<' :: (word ++ ([] ++ ['>'])), attributes, ⟨word, [], spells, by simp, by simp, rfl⟩, by simp, ?_⟩
        simp only [Option.some.injEq] at measured
        simp [← measured, size]
      · -- A blank leads over to attributes, which reach to the first closing bracket.
        simp only [Option.ite_none_right_eq_some, Option.some.injEq] at measured
        obtain ⟨blank, stops, length⟩ := measured
        obtain ⟨d, rest, split, stop⟩ := exists_stop_of_takeWhile stops
        obtain rfl : d = '>' := by simpa using stop
        have noEnd : '>' ∉ attributes.takeWhile (· != '>') := fun member => by
          simpa using List.mem_takeWhile_imp member
        refine ⟨'<' :: (word ++ ((c :: attributes.takeWhile (· != '>')) ++ ['>'])), rest,
          ⟨word, _, spells, by simpa using blank, ?_, rfl⟩, ?_, ?_⟩
        · simp [noEnd, (ne_bracket_of_isBlank blank).2.symm]
        · simp [← split]
        · simp [← length, size]
          omega
  · -- The tag is given by its parts, and the length is found by reading them.
    rintro ⟨tag, rest, ⟨word, attributes, spells, blank, noEnd, rfl⟩, rfl, rfl⟩
    have size : word.length = name.length := spells.length
    refine ⟨attributes ++ ['>'] ++ rest, behindWord?_eq_some_iff.mpr
      ⟨'<' :: word, (spells_mark_iff (Or.inl rfl)).mpr ⟨word, spells, rfl⟩, by simp⟩, ?_⟩
    cases attributes with
    | nil => simp [size]
    | cons c attributes =>
      have isBlank : Text.isBlank c := blank c rfl
      have notEnd : ¬(c == '>') = true := by simpa using (ne_bracket_of_isBlank isBlank).2
      have inside : (attributes ++ '>' :: rest).takeWhile (· != '>') = attributes :=
        takeWhile_upTo (all_bne fun member => noEnd (List.mem_cons_of_mem _ member)) (by decide)
      simp [notEnd, isBlank, inside, size]
      omega

/-- The length of a closing tag is found exactly where one stands. -/
theorem closingLength?_eq_some_iff :
    closingLength? name s = some n ↔ ∃ tag rest, Closing name tag ∧ s = tag ++ rest ∧ tag.length = n := by
  unfold closingLength?
  rw [Option.bind_eq_some_iff]
  constructor
  · -- The bracket, the slash and the name are read first, and then blanks up to the closing bracket.
    rintro ⟨behind, found, measured⟩
    obtain ⟨spelled, bracketed, rfl⟩ := behindWord?_eq_some_iff.mp found
    obtain ⟨slashed, behindBracket, rfl⟩ := (spells_mark_iff (Or.inl rfl)).mp bracketed
    obtain ⟨word, spells, rfl⟩ := (spells_mark_iff (Or.inr rfl)).mp behindBracket
    have size : word.length = name.length := spells.length
    simp only [Option.ite_none_right_eq_some, Option.some.injEq, beq_iff_eq] at measured
    obtain ⟨ended, length⟩ := measured
    obtain ⟨rest, split⟩ := List.head?_eq_some_iff.mp ended
    refine ⟨'<' :: '/' :: (word ++ (behind.takeWhile Text.isBlank ++ ['>'])), rest,
      ⟨word, _, spells, fun c member => List.mem_takeWhile_imp member, rfl⟩, ?_, ?_⟩
    · have : behind = behind.takeWhile Text.isBlank ++ '>' :: rest := by
        rw [← split]
        exact (List.prefix_iff_eq_append.mp (List.takeWhile_prefix _)).symm
      simp [← this]
    · simp [← length, size]
      omega
  · -- Blanks are taken up to the bracket, which is none.
    rintro ⟨tag, rest, ⟨word, blanks, spells, blank, rfl⟩, rfl, rfl⟩
    have size : word.length = name.length := spells.length
    refine ⟨blanks ++ ['>'] ++ rest, behindWord?_eq_some_iff.mpr
      ⟨'<' :: '/' :: word, (spells_mark_iff (Or.inl rfl)).mpr
        ⟨_, (spells_mark_iff (Or.inr rfl)).mpr ⟨word, spells, rfl⟩, rfl⟩, by simp⟩, ?_⟩
    have inside : (blanks ++ '>' :: rest).takeWhile Text.isBlank = blanks := takeWhile_upTo blank (by decide)
    simp [inside, size]
    omega

end Component

end LayerAudit
