import LayerAudit.Proofs.Pattern.Matching
import Mathlib.Computability.Language

/-!
Whatever stands around them, a node without conditions leads over the texts of a language. The languages of nodes are
put together like the nodes themselves. A pattern that is tied to the start of a text, or to both of its ends, asks for a
text of the language there.
-/

namespace LayerAudit.Pattern

/-- A part of a text lies between two places. -/
def Between (text part : List Char) (start place : Nat) : Prop := part <+: text.drop start ∧ place = start + part.length

/-- A node leads over the texts of a language, and over no others. -/
def Node.Means (node : Node) (language : Language Char) : Prop :=
  ∀ (text : List Char) start place,
    node.Spans text.toArray start place ↔ ∃ part ∈ language, Between text part start place

/-- Nodes one behind the other. -/
def chain : List Node → Node
  | [] => .empty
  | [part] => part
  | part :: next :: parts => .both part (chain (next :: parts))

/-- Nodes for the characters of a text. -/
def literal (text : String) : List Node := text.toList.map fun c => .one (.single c)

/-- One of several texts. -/
def anyOf (first : String) (others : List String) : Node :=
  others.foldl (fun node word => .either node (chain (literal word))) (chain (literal first))

/-- The texts of one character of a set. -/
def letters (set : CharSet) : Language Char := {part | ∃ c, set.contains c ∧ part = [c]}

/-- The texts of characters of a set, apart from the empty one. -/
def runs (set : CharSet) : Language Char := {part | part ≠ [] ∧ ∀ c ∈ part, set.contains c}

/-- Texts of a language behind one another, at least so many, and at most so many if there is a limit. -/
def repetitions (language : Language Char) (least : Nat) (most : Option Nat) : Language Char :=
  {part | ∃ count, Counts least most count ∧ part ∈ language ^ count}

/-- The characters of some texts. -/
def spelled (words : List String) : Language Char := {part | ∃ word ∈ words, part = word.toList}

variable {text part : List Char} {start place : Nat} {node other : Node} {parts more : List Node}
  {language otherLanguage : Language Char}

/-! ### Parts of a text -/

/-- The empty text lies between a place and itself. -/
theorem between_nil : Between text [] start place ↔ place = start := by simp [Between]

/-- A character lies between its place and the next. -/
theorem between_singleton {c : Char} : Between text [c] start place ↔ place = start + 1 ∧ text[start]? = some c := by
  -- The character begins what is left of the text from its place on.
  rw [Between, and_comm, List.length_singleton, ← List.head?_drop]
  refine and_congr_right fun _ => ?_
  cases text.drop start with
  | nil => simp
  | cons first rest => simp [eq_comm]

/-- Two parts lie one behind the other between two places. -/
theorem between_append {before after : List Char} : Between text (before ++ after) start place ↔
    ∃ between, Between text before start between ∧ Between text after between place := by
  constructor
  · -- The place between the parts is as far from the start as the first part is long.
    rintro ⟨⟨rest, split⟩, rfl⟩
    refine ⟨start + before.length, ⟨⟨after ++ rest, by rw [← split, List.append_assoc]⟩, rfl⟩, ⟨rest, ?_⟩, ?_⟩
    · rw [← List.drop_drop, ← split, List.append_assoc, List.drop_left]
    · rw [List.length_append, Nat.add_assoc]
  · rintro ⟨_, ⟨⟨behind, split⟩, rfl⟩, ⟨rest, later⟩, rfl⟩
    refine ⟨⟨rest, ?_⟩, by rw [List.length_append, Nat.add_assoc]⟩
    -- What stands behind the first part is what the second part begins.
    rw [← List.drop_drop, ← split, List.drop_left] at later
    rw [← split, ← later, List.append_assoc]

/-- A text of two languages, one behind the other, lies between two places with a place between its parts. -/
theorem exists_mem_mul_between : (∃ part ∈ language * otherLanguage, Between text part start place) ↔
    ∃ between, (∃ part ∈ language, Between text part start between) ∧
      ∃ part ∈ otherLanguage, Between text part between place := by
  constructor
  · rintro ⟨_, product, lies⟩
    obtain ⟨before, member, after, otherMember, rfl⟩ := Language.mem_mul.mp product
    obtain ⟨between, early, late⟩ := between_append.mp lies
    exact ⟨between, ⟨before, member, early⟩, after, otherMember, late⟩
  · rintro ⟨between, ⟨before, member, early⟩, after, otherMember, late⟩
    exact ⟨before ++ after, Language.append_mem_mul member otherMember, between_append.mpr ⟨between, early, late⟩⟩

/-! ### Languages of nodes -/

/-- The empty node leads over the empty text. -/
theorem means_empty : Node.empty.Means 1 := by
  intro text start place
  simp [Node.Spans, Language.mem_one, between_nil]

/-- A node for a set of characters leads over each of them. -/
theorem means_one (set : CharSet) : (Node.one set).Means (letters set) := by
  intro text start place
  -- A step over one character leads to the next place.
  constructor
  · rintro ⟨rfl, c, here, member⟩
    exact ⟨[c], ⟨c, member, rfl⟩, between_singleton.mpr ⟨rfl, by simpa using here⟩⟩
  · rintro ⟨_, ⟨c, member, rfl⟩, lies⟩
    obtain ⟨next, here⟩ := between_singleton.mp lies
    exact ⟨next, c, by simpa using here, member⟩

/-- Two nodes lead over texts one behind the other. -/
theorem Node.Means.both (first : node.Means language) (second : other.Means otherLanguage) :
    (Node.both node other).Means (language * otherLanguage) := by
  intro text start place
  simp only [Node.Spans, first text, second text, exists_mem_mul_between]

/-- Of two nodes each leads over its texts. -/
theorem Node.Means.either (first : node.Means language) (second : other.Means otherLanguage) :
    (Node.either node other).Means (language + otherLanguage) := by
  intro text start place
  simp only [Node.Spans, first text, second text, Language.mem_add, or_and_right, exists_or]

/-- So many steps by a node lead over so many of its texts. -/
theorem Node.Means.steps_iff (means : node.Means language) (count : Nat) :
    Steps (node.Spans text.toArray) count start place ↔ ∃ part ∈ language ^ count, Between text part start place := by
  -- A step more is a factor more, both in front.
  induction count generalizing start with
  | zero =>
    rw [pow_zero]
    constructor
    · intro steps
      cases steps
      exact ⟨[], rfl, between_nil.mpr rfl⟩
    · rintro ⟨_, rfl, lies⟩
      obtain rfl := between_nil.mp lies
      exact .here place
  | succ count ih =>
    rw [pow_succ', exists_mem_mul_between]
    constructor
    · intro steps
      cases steps with
      | go first rest => exact ⟨_, (means text _ _).mp first, ih.mp rest⟩
    · rintro ⟨between, first, rest⟩
      exact .go ((means text _ _).mpr first) (ih.mpr rest)

/-- A repeated node leads over texts of the node, one behind the other. -/
theorem Node.Means.repeated (means : node.Means language) (least : Nat) (most : Option Nat) :
    (Node.repeated node least most).Means (repetitions language least most) := by
  intro text start place
  simp only [Node.Spans, means.steps_iff]
  constructor
  · -- A number of repetitions is a power of the language, with the same number.
    rintro ⟨count, counts, part, member, lies⟩
    exact ⟨part, ⟨count, counts, member⟩, lies⟩
  · rintro ⟨part, ⟨count, counts, member⟩, lies⟩
    exact ⟨count, counts, part, member, lies⟩

/-- So many texts of one character each are a text of so many characters. -/
theorem mem_letters_pow {set : CharSet} {count : Nat} :
    part ∈ letters set ^ count ↔ part.length = count ∧ ∀ c ∈ part, set.contains c := by
  -- The first of the texts is the first character.
  induction count generalizing part with
  | zero =>
    rw [pow_zero, Language.mem_one, List.length_eq_zero_iff]
    exact ⟨fun none => ⟨none, by simp [none]⟩, fun none => none.1⟩
  | succ count ih =>
    rw [pow_succ', Language.mem_mul]
    constructor
    · rintro ⟨_, ⟨c, member, rfl⟩, rest, others, rfl⟩
      obtain ⟨rfl, members⟩ := ih.mp others
      exact ⟨rfl, List.forall_mem_cons.mpr ⟨member, members⟩⟩
    · rintro ⟨length, members⟩
      obtain ⟨c, rest, rfl⟩ := List.exists_cons_of_length_eq_add_one length
      obtain ⟨member, others⟩ := List.forall_mem_cons.mp members
      exact ⟨[c], ⟨c, member, rfl⟩, rest, ih.mpr ⟨Nat.succ.inj length, others⟩, rfl⟩

/-- One or more characters of a set are any text of such characters but the empty one. -/
theorem means_run (set : CharSet) : (Node.repeated (.one set) 1 none).Means (runs set) := by
  -- The number of repetitions is the length of the text, so any number but none will do.
  have same : repetitions (letters set) 1 none = runs set := by
    ext part
    simp only [repetitions, runs, mem_letters_pow]
    constructor
    · rintro ⟨_, counts, rfl, members⟩
      exact ⟨List.length_pos_iff.mp counts.enough, members⟩
    · rintro ⟨some, members⟩
      exact ⟨part.length, ⟨List.length_pos_iff.mpr some, nofun⟩, rfl, members⟩
  exact same ▸ (means_one set).repeated 1 none

/-! ### Sequences -/

/-- A sequence is its first node and the sequence of the others. -/
theorem spans_chain_cons {text : Array Char} : (chain (node :: parts)).Spans text start place ↔
    ∃ between, node.Spans text start between ∧ (chain parts).Spans text between place := by
  -- A node on its own is a sequence too, and nothing comes behind it.
  cases parts with
  | nil => simp [chain, Node.Spans]
  | cons => rfl

/-- A sequence leads over the texts of its nodes. -/
theorem Node.Means.chain_cons (first : node.Means language) (rest : (chain parts).Means otherLanguage) :
    (chain (node :: parts)).Means (language * otherLanguage) :=
  fun text start place => spans_chain_cons.trans (first.both rest text start place)

/-- Two sequences behind one another are one. -/
theorem spans_chain_append {text : Array Char} : (chain (parts ++ more)).Spans text start place ↔
    ∃ between, (chain parts).Spans text start between ∧ (chain more).Spans text between place := by
  -- The first sequence is taken apart node by node.
  induction parts generalizing start with
  | nil => simp [chain, Node.Spans]
  | cons node parts ih =>
    simp only [List.cons_append, spans_chain_cons, ih]
    constructor
    · rintro ⟨next, first, between, early, late⟩
      exact ⟨between, ⟨next, first, early⟩, late⟩
    · rintro ⟨between, ⟨next, first, early⟩, late⟩
      exact ⟨next, first, between, early, late⟩

/-- Two sequences lead over texts one behind the other. -/
theorem Node.Means.chain_append (first : (chain parts).Means language) (second : (chain more).Means otherLanguage) :
    (chain (parts ++ more)).Means (language * otherLanguage) :=
  fun text start place => spans_chain_append.trans (first.both second text start place)

/-- The set of one character holds that character only. -/
theorem single_contains {c d : Char} : (CharSet.single c).contains d ↔ d = c := by
  -- The set is a range with one character as both of its ends.
  simp only [CharSet.single, CharSet.contains, Bool.and_eq_true, decide_eq_true_eq]
  constructor
  · rintro ⟨notBelow, notAbove⟩
    exact Char.le_antisymm notAbove notBelow
  · rintro rfl
    exact ⟨Char.le_refl d, Char.le_refl d⟩

/-- A text is spelled by one of several texts. -/
theorem mem_spelled {words : List String} : part ∈ spelled words ↔ ∃ word ∈ words, part = word.toList := Iff.rfl

/-- Texts behind texts are spelled by what they make together. -/
theorem spelled_mul (words others : List String) :
    spelled words * spelled others = spelled (words.flatMap fun word => others.map (word ++ ·)) := by
  ext part
  simp only [Language.mem_mul, mem_spelled, List.mem_flatMap, List.mem_map]
  constructor
  · rintro ⟨_, ⟨word, listed, rfl⟩, _, ⟨other, otherListed, rfl⟩, rfl⟩
    exact ⟨word ++ other, ⟨word, listed, other, otherListed, rfl⟩, String.toList_append.symm⟩
  · rintro ⟨_, ⟨word, listed, other, otherListed, rfl⟩, rfl⟩
    exact ⟨word.toList, ⟨word, listed, rfl⟩, other.toList, ⟨other, otherListed, rfl⟩, String.toList_append.symm⟩

/-- The nodes for the characters of a text lead over that text. -/
theorem means_literal (text : String) : (chain (literal text)).Means (spelled [text]) := by
  -- The nodes are made from a list of characters, so the induction is on that.
  have characters (s : List Char) : (chain (s.map fun c => .one (.single c))).Means {s} := by
    induction s with
    | nil => exact means_empty
    | cons c rest ih =>
      have same : letters (.single c) * {rest} = ({c :: rest} : Language Char) := by
        ext part
        rw [Language.mem_mul]
        constructor
        · rintro ⟨_, ⟨d, member, rfl⟩, _, rfl, rfl⟩
          obtain rfl := single_contains.mp member
          rfl
        · rintro rfl
          exact ⟨[c], ⟨c, single_contains.mpr rfl, rfl⟩, rest, rfl, rfl⟩
      exact same ▸ (means_one (.single c)).chain_cons ih
  have same : ({text.toList} : Language Char) = spelled [text] := by
    ext part
    rw [mem_spelled]
    simp only [List.mem_singleton, exists_eq_left]
    rfl
  exact same ▸ characters text.toList

/-- The node for several texts leads over each of them. -/
theorem means_anyOf (first : String) (others : List String) :
    (anyOf first others).Means (spelled (first :: others)) := by
  unfold anyOf
  -- The branches are joined from the left, so the last one is the second of the outermost two.
  induction others using List.reverseRecOn with
  | nil => exact means_literal first
  | append_singleton others word ih =>
    have same : spelled (first :: others) + spelled [word] = spelled (first :: (others ++ [word])) := by
      ext part
      simp only [Language.mem_add, mem_spelled, ← List.cons_append, List.mem_append, or_and_right, exists_or]
    rw [List.foldl_append, ← same]
    exact ih.either (means_literal word)

/-! ### Patterns tied to the ends of a text -/

/-- Only at the first place of a text does it start. -/
theorem holds_textStart_iff {text : Array Char} (inside : start ≤ text.size) :
    Look.textStart.holds text start ↔ start = 0 := by
  -- Before any other place there is a character.
  cases start with
  | zero => simp [Look.holds, before?]
  | succ previous => simp [Look.holds, before?, Nat.lt_of_succ_le inside]

/-- Only at the last place of a text does it end. -/
theorem holds_textEnd_iff {text : Array Char} : Look.textEnd.holds text place ↔ text.size ≤ place := by
  simp [Look.holds]

/-- A pattern tied to the start of a text matches if its nodes lead on from there. -/
theorem matchesIn_tied_iff {text : String} : (Pattern.mk (chain (.look .textStart :: parts))).matchesIn text ↔
    ∃ place, (chain parts).Spans text.toList.toArray 0 place := by
  have size : text.toList.toArray.size = text.length := by simp [String.length_toList]
  simp only [matchesIn_iff, spans_chain_cons]
  -- Wherever the match may start, the first node holds it to the start of the text.
  constructor
  · rintro ⟨start, place, inside, _, ⟨rfl, tied⟩, rest⟩
    obtain rfl := (holds_textStart_iff (size ▸ inside)).mp tied
    exact ⟨place, rest⟩
  · rintro ⟨place, rest⟩
    exact ⟨0, place, Nat.zero_le _, 0, ⟨rfl, (holds_textStart_iff (Nat.zero_le _)).mpr rfl⟩, rest⟩

/-- A pattern tied to the start of a text matches if the text starts with what the other nodes lead over. -/
theorem matchesIn_start_iff {text : String} (means : (chain parts).Means language) :
    (Pattern.mk (chain (.look .textStart :: parts))).matchesIn text ↔ ∃ part ∈ language, part <+: text.toList := by
  rw [matchesIn_tied_iff]
  constructor
  · rintro ⟨place, spans⟩
    obtain ⟨part, member, starts, _⟩ := (means _ 0 place).mp spans
    exact ⟨part, member, starts⟩
  · rintro ⟨part, member, starts⟩
    exact ⟨_, (means _ 0 _).mpr ⟨part, member, starts, rfl⟩⟩

/-- A pattern tied to both ends of a text matches if the other nodes lead over the whole text. -/
theorem matchesIn_whole_iff {text : String} (means : (chain parts).Means language) :
    (Pattern.mk (chain (.look .textStart :: (parts ++ [.look .textEnd])))).matchesIn text ↔ text.toList ∈ language := by
  rw [matchesIn_tied_iff]
  simp only [spans_chain_append, means _ 0]
  constructor
  · rintro ⟨_, place, ⟨part, member, starts, rfl⟩, rfl, ends⟩
    -- What starts the text is no shorter than the text.
    have long : text.toList.length ≤ part.length := by simpa using holds_textEnd_iff.mp ends
    have whole : part = text.toList := starts.eq_of_length_le long
    exact whole ▸ member
  · intro member
    have ends : Look.textEnd.holds text.toList.toArray (0 + text.toList.length) :=
      holds_textEnd_iff.mpr (by simp)
    exact ⟨_, _, ⟨text.toList, member, List.prefix_refl _, rfl⟩, rfl, ends⟩

end LayerAudit.Pattern
