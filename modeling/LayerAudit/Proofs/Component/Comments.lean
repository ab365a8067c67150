import LayerAudit.Proofs.Component.TagScan

/-!
Comments are cut out of a template before its tags are looked for. A comment ends at the first end behind its start; a
start without an end behind it begins none, so that the scan goes on in it.
-/

namespace LayerAudit.Component

variable {gap marker piece rest s text : List Char} {n : Nat}

/-! ### Shape and length -/

/-- A comment: a text without the end of comments, between a start and an end. -/
def IsComment (marker : List Char) : Prop :=
  ∃ text, ¬commentEnd <:+: text ∧ marker = commentStart ++ (text ++ commentEnd)

/-- A mark is found where it begins for the first time. -/
theorem lengthTo?_append {mark : List Char} (some : mark ≠ []) (none : NoneBegins (Eq mark) text (mark ++ rest)) :
    lengthTo? mark (text ++ (mark ++ rest)) = Option.some (text.length + mark.length) := by
  induction text with
  | nil =>
    obtain ⟨c, front, rfl⟩ := List.exists_cons_of_ne_nil some
    rw [List.nil_append, List.cons_append, lengthTo?, if_pos]
    · simp
    · rw [List.isPrefixOf_iff_prefix]
      exact List.prefix_append (c :: front) rest
  | cons c text ih =>
    -- Nothing begins at the first character, so that the mark is found in the rest, one character farther.
    obtain ⟨front, none⟩ := noneBegins_cons_iff.mp none
    have notHere : ¬mark.isPrefixOf (c :: (text ++ (mark ++ rest))) = true := by
      rw [List.isPrefixOf_iff_prefix]
      exact front mark rfl
    rw [List.cons_append, lengthTo?, if_neg notHere, ih none, Option.map_some, List.length_cons, Nat.add_right_comm]

/-- Where a length up to a mark is found, the mark stands behind a text in which it does not begin. -/
theorem exists_of_lengthTo? {mark : List Char} (found : lengthTo? mark s = some n) :
    ∃ text rest, NoneBegins (Eq mark) text (mark ++ rest) ∧ s = text ++ (mark ++ rest) ∧
      n = text.length + mark.length := by
  induction s generalizing n with
  | nil => cases found
  | cons c s ih =>
    -- The mark stands at the front, or it is looked for one character farther.
    rw [lengthTo?] at found
    split at found
    · rename_i here
      obtain ⟨rest, split⟩ := List.isPrefixOf_iff_prefix.mp here
      cases found
      exact ⟨[], rest, noneBegins_nil _ _, split.symm, (Nat.zero_add _).symm⟩
    · rename_i notHere
      obtain ⟨m, later, rfl⟩ := Option.map_eq_some_iff.mp found
      obtain ⟨text, rest, none, rfl, rfl⟩ := ih later
      have front : ∀ marker, mark = marker → ¬marker <+: c :: (text ++ (mark ++ rest)) := by
        rintro marker rfl isFront
        exact notHere (List.isPrefixOf_iff_prefix.mpr isFront)
      exact ⟨c :: text, rest, noneBegins_cons_iff.mpr ⟨front, none⟩, rfl, by simp; omega⟩

/-- The end of a comment begins nowhere in a text that does not hold it, though its own characters follow. -/
theorem noneBegins_commentEnd (closed : ¬commentEnd <:+: text) (rest : List Char) :
    NoneBegins (Eq commentEnd) text (commentEnd ++ rest) := by
  rintro part suffix some marker rfl ⟨behind, same⟩
  have notInside : ¬commentEnd <+: part := fun inside => closed (inside.isInfix.trans suffix.isInfix)
  rcases List.append_eq_append_iff.mp same with ⟨more, rfl, -⟩ | ⟨more, front, split⟩
  · exact notInside (List.prefix_append _ _)
  · -- One or two hyphens in front of the end make no end before it.
    match part, some with
    | [c], _ =>
      obtain ⟨-, rfl⟩ := List.cons.inj front
      exact absurd split (by simp [commentEnd])
    | [c, d], _ =>
      obtain ⟨-, front⟩ := List.cons.inj front
      obtain ⟨-, rfl⟩ := List.cons.inj front
      exact absurd split (by simp [commentEnd])
    | c :: d :: e :: back, _ =>
      have lengths := congrArg List.length front
      simp only [commentEnd, List.length_cons, List.length_nil, List.length_append] at lengths
      obtain rfl : more = [] := List.length_eq_zero_iff.mp (by omega)
      exact notInside (by rw [front, List.append_nil])

/-- The length of a comment is found exactly where one stands. -/
theorem commentLength?_eq_some_iff :
    commentLength? s = some n ↔ ∃ marker rest, IsComment marker ∧ s = marker ++ rest ∧ marker.length = n := by
  have notNil : commentEnd ≠ [] := by decide
  unfold commentLength?
  constructor
  · intro found
    rw [Option.ite_none_right_eq_some] at found
    obtain ⟨starts, found⟩ := found
    obtain ⟨m, ended, rfl⟩ := Option.map_eq_some_iff.mp found
    -- The end is looked for behind the four characters of the start.
    obtain ⟨rest, rfl⟩ := List.isPrefixOf_iff_prefix.mp starts
    obtain ⟨text, behind, none, split, rfl⟩ := exists_of_lengthTo? ended
    have closed : ¬commentEnd <:+: text := none.lacks notNil commentEnd rfl
    obtain rfl : rest = text ++ (commentEnd ++ behind) := split
    exact ⟨_, behind, ⟨text, closed, rfl⟩, by simp [commentStart, commentEnd], by simp [commentStart, commentEnd]⟩
  · -- Behind the start comes the text, and then the first end.
    rintro ⟨marker, rest, ⟨text, closed, rfl⟩, rfl, rfl⟩
    have found := lengthTo?_append notNil (noneBegins_commentEnd closed rest)
    have split : (commentStart ++ (text ++ commentEnd)) ++ rest = commentStart ++ (text ++ (commentEnd ++ rest)) := by
      simp
    have starts : ['<', '!', '-', '-'].isPrefixOf (commentStart ++ (text ++ (commentEnd ++ rest))) = true :=
      List.isPrefixOf_iff_prefix.mpr (List.prefix_append _ _)
    have behind : (commentStart ++ (text ++ (commentEnd ++ rest))).drop 4 = text ++ (commentEnd ++ rest) := rfl
    rw [split, if_pos starts, behind, show ['-', '-', '>'] = commentEnd from rfl, found]
    simp [commentStart]

/-- The lengths of comments. -/
theorem measures_comment : Measures commentLength? IsComment where
  eq_some_iff _ _ := commentLength?_eq_some_iff
  ne_nil := by
    rintro ⟨text, -, isNil⟩
    cases isNil

/-- Where no start of a comment begins, no comment does. -/
theorem noneBegins_comment (none : NoneBegins (Eq commentStart) gap rest) : NoneBegins IsComment gap rest := by
  rintro part suffix some marker ⟨text, -, rfl⟩ isFront
  exact none part suffix some commentStart rfl ((List.prefix_append _ _).trans isFront)

/-! ### Pieces -/

/-- The pieces of a text in which no comment begins go on. -/
theorem betweenComments_gap (none : NoneBegins IsComment gap rest) (piece : List Char) (start offset : Nat) :
    betweenComments 0 piece start (gap ++ rest) offset =
      betweenComments 0 (gap.reverse ++ piece) start rest (offset + Text.byteSize gap) := by
  -- The induction is on the text; each character that begins no comment joins the piece.
  induction gap generalizing piece offset with
  | nil => rfl
  | cons c gap ih =>
    obtain ⟨front, none⟩ := noneBegins_cons_iff.mp none
    have noComment : commentLength? (c :: (gap ++ rest)) = Option.none := measures_comment.eq_none_iff.mpr front
    rw [List.cons_append, betweenComments, noComment]
    simp only
    rw [ih none, Text.byteSize, List.reverse_cons, List.append_assoc, List.singleton_append, Nat.add_assoc]

/-- The piece behind a comment starts where the comment ends. -/
theorem betweenComments_skip {skipped : Nat} (positive : 0 < skipped) (piece s : List Char)
    (within : skipped ≤ s.length) (start offset : Nat) : betweenComments skipped piece start s offset =
      betweenComments 0 piece (offset + Text.byteSize (s.take skipped)) (s.drop skipped)
        (offset + Text.byteSize (s.take skipped)) := by
  -- What belongs to a comment is passed one character at a time, and counted in bytes.
  induction s generalizing skipped start offset with
  | nil => simp at within; omega
  | cons c s ih =>
    obtain ⟨skipped, rfl⟩ : ∃ k, skipped = k + 1 := ⟨skipped - 1, by omega⟩
    rw [betweenComments, List.take_succ_cons, List.drop_succ_cons, Text.byteSize, ← Nat.add_assoc]
    cases skipped with
    | zero => simp [Text.byteSize]
    | succ skipped => exact ih (Nat.succ_pos _) (by simpa using within) _ _

/-- The tags of a text in which no comment begins are what is taken from it. -/
theorem templateTags_run (none : NoneBegins IsComment gap []) (offset : Nat) :
    templateTags gap offset = tagsIn 0 gap offset := by
  have pieces := betweenComments_gap none [] offset offset
  rw [List.append_nil, List.append_nil] at pieces
  rw [templateTags, pieces, betweenComments]
  simp

/-- In front of the first comment the tags of a text are taken, and then the tags behind it. -/
theorem templateTags_comment (isComment : IsComment marker) (none : NoneBegins IsComment gap (marker ++ rest))
    (offset : Nat) : templateTags (gap ++ (marker ++ rest)) offset =
      tagsIn 0 gap offset ++ templateTags rest (offset + Text.byteSize gap + Text.byteSize marker) := by
  -- The comment is met behind the text and passed as a whole, from its first character on.
  have found := measures_comment.length?_append isComment rest
  obtain ⟨text, -, rfl⟩ := isComment
  obtain ⟨tail, front, some⟩ : ∃ tail, commentStart ++ (text ++ commentEnd) = '<' :: tail ∧ 0 < tail.length :=
    ⟨['!', '-', '-'] ++ (text ++ commentEnd), rfl, by simp⟩
  rw [front] at found none ⊢
  rw [List.cons_append] at found none ⊢
  rw [templateTags, betweenComments_gap none, betweenComments, found]
  -- Behind the comment a new piece is begun, so that the tags so far are a list of their own.
  simp only [List.length_cons, Nat.add_sub_cancel]
  rw [betweenComments_skip some _ _ (by simp), List.drop_left, List.take_left, List.flatMap_cons]
  simp [templateTags, Text.byteSize, Nat.add_assoc]

end LayerAudit.Component
