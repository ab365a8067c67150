import LayerAudit.Report.Reader
import Mathlib.Data.Nat.Digits.Defs
import Mathlib.Tactic.IntervalCases

/-!
JSON texts are read back as the values that they were written from. The two ways to write a value are one way with two
layouts, which differ in white space only, and reading passes over that.
-/

namespace LayerAudit.Report.Json

variable {rest : List Char}

/-! ### Characters -/

/-- A hexadecimal digit is read back. -/
theorem hexValue?_hexDigit {n : Nat} (small : n < 16) : hexValue? (hexDigit n) = some n := by
  interval_cases n <;> decide

/-- No hexadecimal digit is a line end. -/
theorem hexDigit_ne_lineEnd {n : Nat} (small : n < 16) : hexDigit n ≠ '\n' := by
  interval_cases n <;> decide

/-- A control character is read back from its code. -/
theorem codedCharacter?_control {c : Char} (control : c.toNat < 0x20) (rest : List Char) :
    codedCharacter? ('0' :: '0' :: hexDigit (c.toNat / 16) :: hexDigit (c.toNat % 16) :: rest) = some (c, rest) := by
  -- The first two digits are zeros, and the other two give the code in base sixteen.
  have zero : hexValue? '0' = some 0 := by decide
  have high := hexValue?_hexDigit (n := c.toNat / 16) (by omega)
  have low := hexValue?_hexDigit (n := c.toNat % 16) (by omega)
  have code : ((16 * 0 + 0) * 16 + c.toNat / 16) * 16 + c.toNat % 16 = c.toNat := by omega
  have digits : hexNumber? ('0' :: '0' :: hexDigit (c.toNat / 16) :: hexDigit (c.toNat % 16) :: rest) =
      some (c.toNat, rest) := by
    rw [hexNumber?, zero, high, low]
    simp only [Option.bind_eq_bind, Option.bind_some, code]
    rfl
  -- A code as low as this one stands for a character without another code behind it.
  have alone : c.toNat < 0xD800 ∨ 0xDFFF < c.toNat := by omega
  rw [codedCharacter?, digits]
  simp only [Option.bind_eq_bind, Option.bind_some, if_pos alone, Char.ofNat_toNat]

/-- An escaped character is read back. -/
theorem character?_escape (c : Char) (rest : List Char) : character? (escape c ++ rest) = some (c, rest) := by
  unfold escape
  split
  case h_8 noQuote noBackslash _ _ _ _ _ =>
    -- Any other character is written by its code if it is a control character, and else as it is.
    split
    · rename_i control
      exact codedCharacter?_control control rest
    · rename_i plain
      have bare : ¬(c = '"' ∨ c.toNat < 0x20) := not_or.mpr ⟨noQuote, plain⟩
      rw [List.singleton_append, character?, if_neg noBackslash, if_neg bare]
  -- The characters with escapes of their own are read back one by one.
  all_goals rfl

/-- No escape is empty, and none begins with a quote or holds a line end. -/
theorem escape_eq_cons (c : Char) :
    ∃ first others, escape c = first :: others ∧ first ≠ '"' ∧ '\n' ∉ first :: others := by
  -- By the character: one with a code, one that is written as it is, and those with a letter of their own.
  unfold escape
  split
  case h_8 noQuote _ _ _ noLineEnd _ _ =>
    split
    · rename_i control
      have high := hexDigit_ne_lineEnd (n := c.toNat / 16) (by omega)
      have low := hexDigit_ne_lineEnd (n := c.toNat % 16) (by omega)
      exact ⟨_, _, rfl, by decide, by simp [high.symm, low.symm]⟩
    · exact ⟨c, [], rfl, noQuote, by simpa using Ne.symm noLineEnd⟩
  all_goals exact ⟨_, _, rfl, by decide, by decide⟩

/-- Behind an opening quote a text is read back up to the closing one. -/
theorem untilQuote?_escape (inside rest : List Char) :
    untilQuote? (inside.flatMap escape ++ '"' :: rest) = some (inside, rest) := by
  induction inside with
  | nil => rw [List.flatMap_nil, List.nil_append, untilQuote?]
  | cons c inside ih =>
    -- The escape of the character in front is not taken for the closing quote.
    obtain ⟨first, others, escaped, noQuote, -⟩ := escape_eq_cons c
    have read := character?_escape c (inside.flatMap escape ++ '"' :: rest)
    rw [List.flatMap_cons, List.append_assoc, escaped, List.cons_append, untilQuote?]
    · rw [escaped, List.cons_append] at read
      have shorter : (inside.flatMap escape ++ '"' :: rest).length <
          (first :: (others ++ (inside.flatMap escape ++ '"' :: rest))).length :=
        Nat.lt_succ_of_le (List.IsSuffix.length_le (List.suffix_append ..))
      simp only [read]
      rw [dif_pos shorter, ih]
      rfl
    · intro behind same
      exact noQuote (List.cons.inj same).1

/-! ### Numbers -/

/-- The digits of a number are those in base ten. -/
theorem digits_eq (n : Nat) : digits n = Nat.toDigits 10 n := by
  rw [digits, Nat.toString_eq_ofList_toDigits, String.toList_ofList]

/-- Only 0 is written with a 0 in front. -/
theorem head?_digits {n : Nat} (zero : (digits n).head? = some '0') : digits n = ['0'] := by
  -- By induction on the number, from which one digit after the other is taken off its end.
  rw [digits_eq] at zero ⊢
  induction n using Nat.strongRecOn with
  | _ n ih =>
    by_cases small : n < 10
    · rw [Nat.toDigits_of_lt_base small] at zero ⊢
      simpa using zero
    · -- The first digit of a longer number is that of a number which is not 0.
      rw [Nat.toDigits_of_base_le (by decide) (by omega)] at zero
      obtain ⟨first, others, split⟩ := List.exists_cons_of_ne_nil (Nat.toDigits_ne_nil (b := 10) (n := n / 10))
      rw [split, List.cons_append, List.head?_cons, ← List.head?_cons (l := others), ← split] at zero
      have shorter := ih (n / 10) (by omega) zero
      have value := congrArg (Nat.ofDigitChars 10 · 0) shorter
      simp only [Nat.ofDigitChars_ten_toDigits] at value
      have none : Nat.ofDigitChars 10 ['0'] 0 = 0 := by decide
      omega

/-- A number is read back in front of what does not go on with it. -/
theorem number?_digits (n : Nat) (ends : rest.head?.any isNumberPart = false) :
    number? (digits n ++ rest) = some (n, rest) := by
  -- All that the reader asks about digits, the end and the first zero is settled beforehand.
  have allDigits : ∀ c ∈ digits n, c.isDigit = true := by
    intro c member
    rw [digits_eq] at member
    exact Nat.isDigit_of_mem_toDigits (b := 10) (by decide) (by decide) member
  have noDigit : rest.head?.any Char.isDigit = false := by
    cases rest with
    | nil => rfl
    | cons c behind => simp_all [isNumberPart]
  -- Nothing of the number is left behind, and nothing else is taken for a part of it.
  have taken : (digits n ++ rest).takeWhile Char.isDigit = digits n := by
    rw [List.takeWhile_append_of_pos allDigits]
    cases rest with
    | nil => simp
    | cons c behind => simp_all
  have dropped : (digits n ++ rest).dropWhile Char.isDigit = rest := by
    rw [List.dropWhile_append_of_pos allDigits]
    cases rest with
    | nil => simp
    | cons c behind => simp_all
  have notEmpty : (digits n).isEmpty = false := by
    rw [digits_eq]
    simp
  have noZero : ((digits n).head? == some '0' && digits n != ['0']) = false := by
    cases first : (digits n).head? == some '0' with
    | false => rfl
    | true => simp [head?_digits (beq_iff_eq.mp first)]
  have value : Nat.ofDigitChars 10 (digits n) 0 = n := by
    rw [digits_eq]
    exact Nat.ofDigitChars_ten_toDigits
  rw [number?]
  simp only [taken, dropped, notEmpty, noZero, ends, value, Bool.or_false, Bool.false_eq_true, if_false]

/-! ### White space -/

/-- White space in front is passed over. -/
theorem skipGap_append {gap : List Char} (blank : ∀ c ∈ gap, isGap c = true) (rest : List Char) :
    skipGap (gap ++ rest) = skipGap rest :=
  List.dropWhile_append_of_pos blank

/-- Behind what is no white space nothing is passed over. -/
theorem skipGap_cons {c : Char} (noGap : isGap c = false) (rest : List Char) : skipGap (c :: rest) = c :: rest := by
  rw [skipGap, List.dropWhile_cons_of_neg (by simp [noGap])]

/-- White space does not go on with a number. -/
theorem isNumberPart_of_isGap {c : Char} (blank : isGap c = true) : isNumberPart c = false := by
  simp only [isGap, Bool.or_eq_true, beq_iff_eq] at blank
  rcases blank with ((rfl | rfl) | rfl) | rfl <;> decide

/-- Behind white space and a mark no number goes on. -/
theorem ends_of_gap {gap : List Char} {c : Char} (blank : ∀ c ∈ gap, isGap c = true) (mark : isNumberPart c = false)
    (rest : List Char) : (gap ++ c :: rest).head?.any isNumberPart = false := by
  cases gap with
  | nil => exact mark
  | cons first others => exact isNumberPart_of_isGap (blank first (List.mem_cons_self ..))

/-! ### Layouts -/

/-- The white space in a text: in front of each item by its level, where that of the level around stands in front of the
closing mark, and behind the colon of a named value. -/
structure Layout where
  gap : Nat → List Char
  behindColon : List Char

/-- There is nothing else in a layout. -/
structure Layout.IsBlank (layout : Layout) : Prop where
  gap : ∀ level, ∀ c ∈ layout.gap level, isGap c = true
  behindColon : ∀ c ∈ layout.behindColon, isGap c = true

/-- Texts with commas between them, each behind a gap. -/
def joined (gap : List Char) : List (List Char) → List Char
  | [] => []
  | [one] => gap ++ one
  | one :: others => gap ++ one ++ ',' :: joined gap others

/-- What is joined begins with the first text behind its gap. -/
theorem joined_cons (gap one : List Char) (others : List (List Char)) :
    ∃ later, joined gap (one :: others) = gap ++ one ++ later := by
  cases others with
  | nil => exact ⟨[], (List.append_nil _).symm⟩
  | cons second more => exact ⟨',' :: joined gap (second :: more), rfl⟩

section

variable (layout : Layout)

mutual

/-- The value in a layout, from some level on. -/
def write (level : Nat) : Json → List Char
  | null => ['n', 'u', 'l', 'l']
  | number n => digits n
  | text s => quote s
  | list items =>
    '[' :: writeItems (level + 1) items ++ (if items.isEmpty then [] else layout.gap level) ++ [']']
  | record fields =>
    '\x7b' :: writeFields (level + 1) fields ++ (if fields.isEmpty then [] else layout.gap level) ++ ['\x7d']

/-- Items with commas between them. -/
def writeItems (level : Nat) : List Json → List Char
  | [] => []
  | [item] => layout.gap level ++ write level item
  | item :: rest => layout.gap level ++ write level item ++ ',' :: writeItems level rest

/-- Named values with commas between them. -/
def writeFields (level : Nat) : List (String × Json) → List Char
  | [] => []
  | [(name, value)] => layout.gap level ++ (quote name ++ ':' :: layout.behindColon ++ write level value)
  | (name, value) :: rest =>
    layout.gap level ++ (quote name ++ ':' :: layout.behindColon ++ write level value) ++ ',' :: writeFields level rest

end

/-- A named value in a layout. -/
def writeField (level : Nat) (field : String × Json) : List Char :=
  quote field.1 ++ ':' :: layout.behindColon ++ write layout level field.2

/-- Items are joined. -/
theorem writeItems_eq (level : Nat) (items : List Json) :
    writeItems layout level items = joined (layout.gap level) (items.map (write layout level)) := by
  -- By induction on the items. One item alone has no comma, and so differs from several.
  induction items with
  | nil => rfl
  | cons item rest ih =>
    cases rest with
    | nil => rfl
    | cons other more =>
      rw [writeItems, ih]
      · rfl
      · exact List.cons_ne_nil _ _

/-- Named values are joined. -/
theorem writeFields_eq (level : Nat) (fields : List (String × Json)) :
    writeFields layout level fields = joined (layout.gap level) (fields.map (writeField layout level)) := by
  -- By induction on the fields, in the same cases.
  induction fields with
  | nil => rfl
  | cons field rest ih =>
    cases rest with
    | nil => rfl
    | cons other more =>
      rw [writeFields, ih]
      · rfl
      · exact List.cons_ne_nil _ _

end

/-- One line without white space. -/
def oneLine : Layout := ⟨fun _ => [], []⟩

/-- One item a line. -/
def manyLines : Layout := ⟨newLine, [' ']⟩

mutual

/-- The value on one line is the one in that layout. -/
theorem write_oneLine (level : Nat) : (value : Json) → write oneLine level value = compact value
  -- By recursion on the value together with its items and fields, since these three call each other.
  | null | number _ | text _ => rfl
  | list items => by
    rw [write, compact, writeItems_oneLine]
    cases items <;> simp [oneLine]
  | record fields => by
    rw [write, compact, writeFields_oneLine]
    cases fields <;> simp [oneLine]

/-- Items on one line are those in that layout. -/
theorem writeItems_oneLine (level : Nat) : (items : List Json) → writeItems oneLine level items = compactItems items
  | [] => rfl
  | [item] => by
    rw [writeItems, compactItems, write_oneLine]
    rfl
  | item :: other :: rest => by
    rw [writeItems, compactItems, write_oneLine, writeItems_oneLine]
    · rfl
    all_goals exact List.cons_ne_nil _ _

/-- Named values on one line are those in that layout. -/
theorem writeFields_oneLine (level : Nat) :
    (fields : List (String × Json)) → writeFields oneLine level fields = compactFields fields
  | [] => rfl
  | [(name, value)] => by
    rw [writeFields, compactFields, write_oneLine]
    simp [oneLine]
  | (name, value) :: other :: rest => by
    rw [writeFields, compactFields, write_oneLine, writeFields_oneLine]
    · simp [oneLine]
    all_goals exact List.cons_ne_nil _ _

end

mutual

/-- The value with one item a line is the one in that layout. -/
theorem write_manyLines (level : Nat) : (value : Json) → write manyLines level value = pretty level value
  -- By the same recursion. An empty list has no gap before its mark and is a case of its own.
  | null | number _ | text _ => rfl
  | list [] => rfl
  | list (item :: rest) => by
    rw [write, pretty, writeItems_manyLines]
    rfl
  | record [] => rfl
  | record (field :: rest) => by
    rw [write, pretty, writeFields_manyLines]
    rfl

/-- Items on lines of their own are those in that layout. -/
theorem writeItems_manyLines (level : Nat) :
    (items : List Json) → writeItems manyLines level items = prettyItems level items
  | [] => rfl
  | [item] => by
    rw [writeItems, prettyItems, write_manyLines]
    rfl
  | item :: other :: rest => by
    rw [writeItems, prettyItems, write_manyLines, writeItems_manyLines]
    · rfl
    all_goals exact List.cons_ne_nil _ _

/-- Named values on lines of their own are those in that layout. -/
theorem writeFields_manyLines (level : Nat) :
    (fields : List (String × Json)) → writeFields manyLines level fields = prettyFields level fields
  | [] => rfl
  | [(name, value)] => by
    rw [writeFields, prettyFields, write_manyLines]
    simp [manyLines]
  | (name, value) :: other :: rest => by
    rw [writeFields, prettyFields, write_manyLines, writeFields_manyLines]
    · simp [manyLines]
    all_goals exact List.cons_ne_nil _ _

end

/-! ### Values -/

section

variable {α : Type} {read? : List Char → Option (α × List Char)} {close : Char} {gap closing : List Char}
  {written : α → List Char} {values : List α}

/-- A thing is read back from what was written, behind white space and in front of what does not go on with a number. -/
def Reads (read? : List Char → Option (α × List Char)) (written : List Char) (value : α) : Prop :=
  ∀ gap rest, (∀ c ∈ gap, isGap c = true) → rest.head?.any isNumberPart = false →
    read? (gap ++ written ++ rest) = some (value, rest)

/-- A mark that closes a list or a record is told from all that may stand in front of it. -/
def IsClosing (close : Char) : Prop := isNumberPart close = false ∧ isGap close = false ∧ close ≠ ','

/-- The mark of a list closes it. -/
theorem bracket_isClosing : IsClosing ']' := ⟨by decide, by decide, by decide⟩

/-- The mark of a record closes it. -/
theorem brace_isClosing : IsClosing '\x7d' := ⟨by decide, by decide, by decide⟩

/-- What is written begins with something else than the closing mark and white space. -/
def Begins (close : Char) (written : List Char) : Prop :=
  ∃ first others, written = first :: others ∧ isGap first = false ∧ first ≠ close

/-- Items that are joined are read back up to the closing mark. -/
theorem items?_joined (isClosing : IsClosing close) (blank : ∀ c ∈ gap, isGap c = true)
    (blankEnd : ∀ c ∈ closing, isGap c = true) (notEmpty : values ≠ [])
    (reads : ∀ value ∈ values, Reads read? (written value) value) (rest : List Char) :
    items? read? close (joined gap (values.map written) ++ closing ++ close :: rest) = some (values, rest) := by
  obtain ⟨mark, noGap, noComma⟩ := isClosing
  induction values with
  | nil => exact absurd rfl notEmpty
  | cons value others ih =>
    obtain ⟨first, reads⟩ := List.forall_mem_cons.mp reads
    cases others with
    | nil =>
      -- The last item is followed by the closing mark, which goes on with no number.
      have read := first gap (closing ++ close :: rest) blank (ends_of_gap blankEnd mark rest)
      rw [← List.append_assoc] at read
      rw [items?, List.map_singleton, joined, read]
      simp only [skipGap_append blankEnd, skipGap_cons noGap, if_true]
    | cons second more =>
      -- The rest of the items begins behind the comma.
      generalize behind : joined gap ((second :: more).map written) ++ closing ++ close :: rest = later at ih
      have split : joined gap ((value :: second :: more).map written) ++ closing ++ close :: rest =
          gap ++ written value ++ ',' :: later := by
        rw [← behind]
        simp [joined]
      have read := first gap (',' :: later) blank (by rfl)
      have shorter : later.length < (gap ++ written value ++ ',' :: later).length := by
        rw [List.length_append, List.length_cons]
        omega
      rw [split, items?, read]
      simp only [skipGap_cons (show isGap ',' = false by decide), if_neg (Ne.symm noComma), if_true, dif_pos shorter]
      rw [ih (List.cons_ne_nil _ _) reads]
      rfl

/-- Items between two marks are read back. -/
theorem group?_joined (isClosing : IsClosing close) (blank : ∀ c ∈ gap, isGap c = true)
    (blankEnd : ∀ c ∈ closing, isGap c = true) (begins : ∀ value ∈ values, Begins close (written value))
    (reads : ∀ value ∈ values, Reads read? (written value) value) (rest : List Char) :
    group? read? close
      (joined gap (values.map written) ++ (if values.isEmpty then [] else closing) ++ close :: rest) =
        some (values, rest) := by
  cases values with
  -- A group without items has no gap either.
  | nil =>
    rw [group?, List.map_nil, joined]
    simp [skipGap_cons isClosing.2.1]
  | cons value others =>
    obtain ⟨first, more, begun, noGap, noClose⟩ := begins value (List.mem_cons_self ..)
    have items := items?_joined isClosing blank blankEnd (List.cons_ne_nil value others) reads rest
    -- The first item begins behind the gap.
    obtain ⟨later, split⟩ := joined_cons gap (written value) (others.map written)
    have start : joined gap ((value :: others).map written) ++ closing ++ close :: rest =
        gap ++ first :: (more ++ later ++ closing ++ close :: rest) := by
      rw [List.map_cons, split, begun]
      simp
    simp only [List.isEmpty_cons, Bool.false_eq_true, if_false]
    rw [group?, start, skipGap_append blank, skipGap_cons noGap]
    simp only [if_neg noClose]
    rw [← start, items]

end

/-- Lists and records stand inside of each other up to some depth only. -/
def Nests : Nat → Json → Prop
  | _, null | _, number _ | _, text _ => True
  | 0, list _ | 0, record _ => False
  | depth + 1, list items => ∀ item ∈ items, Nests depth item
  | depth + 1, record fields => ∀ field ∈ fields, Nests depth field.2

variable {layout : Layout} {level depth : Nat}

/-- A text in quotes begins with a quote. -/
theorem quote_append (s : String) (rest : List Char) :
    quote s ++ rest = '"' :: (s.toList.flatMap escape ++ '"' :: rest) := by
  simp [quote]

/-- What is written for a value begins neither with white space nor with a closing mark. -/
theorem begins_write (layout : Layout) (level : Nat) (value : Json) : Begins ']' (write layout level value) := by
  cases value with
  -- A number begins with a digit, which is neither white space nor a mark.
  | number n =>
    obtain ⟨first, others, split⟩ := List.exists_cons_of_ne_nil (Nat.toDigits_ne_nil (b := 10) (n := n))
    have isDigit : first.isDigit = true :=
      Nat.isDigit_of_mem_toDigits (b := 10) (n := n) (by decide) (by decide) (split ▸ List.mem_cons_self ..)
    refine ⟨first, others, by rw [write, digits_eq, split], ?_, ?_⟩
    · refine eq_false_of_ne_true fun blank => ?_
      have noPart := isNumberPart_of_isGap blank
      simp [isNumberPart, isDigit] at noPart
    · rintro rfl
      cases isDigit
  -- The other values begin with marks of their own.
  | null => exact ⟨_, _, rfl, by decide, by decide⟩
  | text s => exact ⟨_, _, rfl, by decide, by decide⟩
  | list items => exact ⟨_, _, rfl, by decide, by decide⟩
  | record fields => exact ⟨_, _, rfl, by decide, by decide⟩

/-- A number is read back as a value. -/
theorem value?_digits (depth n : Nat) (ends : rest.head?.any isNumberPart = false) :
    value? depth (digits n ++ rest) = some (number n, rest) := by
  obtain ⟨first, others, begun, noGap, _⟩ := begins_write oneLine 0 (number n)
  rw [write] at begun
  have isDigit : first.isDigit = true := by
    have member : first ∈ Nat.toDigits 10 n := digits_eq n ▸ begun ▸ List.mem_cons_self ..
    exact Nat.isDigit_of_mem_toDigits (b := 10) (by decide) (by decide) member
  have read := number?_digits n ends
  rw [begun, List.cons_append] at read ⊢
  rw [value?, skipGap_cons noGap]
  split
  -- A digit is none of the marks that other values begin with.
  case h_5 => rw [read]; rfl
  all_goals
    rename_i same
    rw [(List.cons.inj same).1] at isDigit
    cases isDigit

/-- White space in front of a value is passed over. -/
theorem value?_append {gap : List Char} (blank : ∀ c ∈ gap, isGap c = true) (depth : Nat) (s : List Char) :
    value? depth (gap ++ s) = value? depth s := by
  rw [value?, value?, skipGap_append blank]

/-- A field is read back if its value is. -/
theorem reads_writeField {read? : List Char → Option (Json × List Char)} (isBlank : layout.IsBlank)
    {field : String × Json} (reads : Reads read? (write layout level field.2) field.2) :
    Reads (field? read?) (writeField layout level field) field := by
  intro gap rest blank ends
  -- The value is read behind the colon, in front of whatever follows the field.
  have value := reads layout.behindColon rest isBlank.behindColon ends
  have split : gap ++ writeField layout level field ++ rest = gap ++ '"' ::
      (field.1.toList.flatMap escape ++ '"' :: ':' :: (layout.behindColon ++ write layout level field.2 ++ rest)) := by
    simp [writeField, quote]
  rw [field?, split, skipGap_append blank, skipGap_cons (by decide)]
  simp only [untilQuote?_escape, Option.bind_eq_bind, Option.bind_some, skipGap_cons (show isGap ':' = false by decide),
    value, String.ofList_toList]
  rfl

/-- Every value is read back from what was written, as long as it is not too deep. -/
theorem reads_write (isBlank : layout.IsBlank) {value : Json} (nests : Nests depth value) :
    Reads (value? depth) (write layout level value) value := by
  induction depth using Nat.strongRecOn generalizing value level with
  | _ depth ih =>
    intro gap rest blank ends
    rw [List.append_assoc, value?_append blank]
    -- Only lists and records use up depth, and what stands inside of them is read with what is left.
    cases value with
    | null =>
      rw [write, value?, List.cons_append, skipGap_cons (by decide)]
      rfl
    | number n => exact value?_digits depth n ends
    | text s =>
      rw [write, quote_append, value?, skipGap_cons (by decide)]
      simp only [untilQuote?_escape, Option.map_some, String.ofList_toList]
    | list items =>
      cases depth with
      | zero => exact nests.elim
      | succ depth =>
        -- Its items are less deep.
        have reads : ∀ item ∈ items, Reads (value? depth) (write layout (level + 1) item) item := fun item member =>
          ih depth (Nat.lt_succ_self depth) (nests item member)
        have inside := group?_joined bracket_isClosing (isBlank.gap (level + 1))
          (isBlank.gap level) (fun item _ => begins_write layout (level + 1) item) reads rest
        have split : write layout level (list items) ++ rest =
            '[' :: (joined (layout.gap (level + 1)) (items.map (write layout (level + 1))) ++
              (if items.isEmpty then [] else layout.gap level) ++ ']' :: rest) := by
          rw [write, writeItems_eq]
          simp
        rw [split, value?, skipGap_cons (by decide)]
        exact congrArg (Option.map _) inside
    | record fields =>
      cases depth with
      | zero => exact nests.elim
      | succ depth =>
        -- The values of its fields are less deep, and so are the fields.
        have reads : ∀ field ∈ fields,
            Reads (field? (value? depth)) (writeField layout (level + 1) field) field := fun field member =>
          reads_writeField isBlank (ih depth (Nat.lt_succ_self depth) (nests field member))
        have begins : ∀ field ∈ fields, Begins '\x7d' (writeField layout (level + 1) field) := fun field _ =>
          ⟨_, _, rfl, by decide, by decide⟩
        have inside := group?_joined brace_isClosing (isBlank.gap (level + 1))
          (isBlank.gap level) begins reads rest
        have split : write layout level (record fields) ++ rest =
            '\x7b' :: (joined (layout.gap (level + 1)) (fields.map (writeField layout (level + 1))) ++
              (if fields.isEmpty then [] else layout.gap level) ++ '\x7d' :: rest) := by
          rw [write, writeFields_eq]
          simp
        rw [split, value?, skipGap_cons (by decide)]
        exact congrArg (Option.map _) inside

/-! ### Whole texts -/

/-- On one line there is no white space. -/
theorem oneLine_isBlank : oneLine.IsBlank where
  gap _ _ member := absurd member List.not_mem_nil
  behindColon _ member := absurd member List.not_mem_nil

/-- On many lines there are line ends and blanks. -/
theorem manyLines_isBlank : manyLines.IsBlank where
  gap level c member := by
    rcases List.mem_cons.mp member with rfl | blank
    · decide
    · rw [List.eq_of_mem_replicate blank]
      decide
  behindColon c member := by
    rw [List.mem_singleton.mp member]
    decide

/-- A value that is not too deep is read back from a whole text. -/
theorem parse?_write (isBlank : layout.IsBlank) {value : Json} (nests : Nests deepest value) (level : Nat) :
    parse? (String.ofList (write layout level value)) = some value := by
  -- The whole text is the value with nothing in front of it or behind it.
  have reads : Reads (value? deepest) (write layout level value) value := reads_write isBlank nests
  have read := reads [] [] (fun _ none => absurd none List.not_mem_nil) rfl
  rw [List.nil_append, List.append_nil] at read
  rw [parse?, String.toList_ofList, read]
  rfl

/-- A value is read back from its text on one line and from the one with one item a line. -/
theorem parse?_texts {value : Json} (nests : Nests deepest value) :
    parse? (String.ofList value.compact) = some value ∧ parse? (String.ofList (value.pretty 0)) = some value := by
  rw [← write_oneLine 0, ← write_manyLines]
  exact ⟨parse?_write oneLine_isBlank nests 0, parse?_write manyLines_isBlank nests 0⟩

/-! ### Line ends -/

/-- No text in quotes holds a line end. -/
theorem not_mem_quote (s : String) : '\n' ∉ quote s := by
  intro member
  -- A line end in the quotes would be one in the escape of some character.
  have inside : '\n' ∈ s.toList.flatMap escape := by
    simpa [quote] using member
  obtain ⟨c, -, escaped⟩ := List.mem_flatMap.mp inside
  obtain ⟨first, others, split, -, none⟩ := escape_eq_cons c
  exact none (split ▸ escaped)

mutual

/-- A value on one line holds no line end. -/
theorem not_mem_compact : (value : Json) → '\n' ∉ compact value
  | null => by decide
  -- Only digits are written for a number.
  | number n => by
    rw [compact, digits_eq]
    intro member
    exact absurd (Nat.isDigit_of_mem_toDigits (b := 10) (by decide) (by decide) member) (by decide)
  | text s => not_mem_quote s
  | list items => by simpa [compact] using not_mem_compactItems items
  | record fields => by simpa [compact] using not_mem_compactFields fields

/-- Items on one line hold no line end. -/
theorem not_mem_compactItems : (items : List Json) → '\n' ∉ compactItems items
  | [] => List.not_mem_nil
  | [item] => not_mem_compact item
  | item :: other :: rest => by
    have later := not_mem_compactItems (other :: rest)
    simpa [compactItems, not_mem_compact item] using later

/-- Named values on one line hold no line end. -/
theorem not_mem_compactFields : (fields : List (String × Json)) → '\n' ∉ compactFields fields
  | [] => List.not_mem_nil
  | [(name, value)] => by simp [compactFields, not_mem_compact value, not_mem_quote name]
  | (name, value) :: other :: rest => by
    have later := not_mem_compactFields (other :: rest)
    simpa [compactFields, not_mem_compact value, not_mem_quote name] using later

end

end LayerAudit.Report.Json
