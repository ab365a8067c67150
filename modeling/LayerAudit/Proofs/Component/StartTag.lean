import LayerAudit.Proofs.Component.Template

/-!
Start tags as they are written, with quoted values of their attributes. A value may hold any character but its quote, so
also the bracket at which the opening tag of a block is taken to end.
-/

namespace LayerAudit.Component

variable {IsName : List Char → Prop} {name : List Char}

/-- The value of an attribute in quotes, with its equals sign; blanks may stand around the sign. -/
structure QuotedValue where
  before : List Char
  behind : List Char
  quote : Char
  text : List Char
  beforeBlank : ∀ c ∈ before, Text.isBlank c
  behindBlank : ∀ c ∈ behind, Text.isBlank c
  isQuote : quote = '"' ∨ quote = '\''
  closed : quote ∉ text

/-- The value in a file. -/
def QuotedValue.written (value : QuotedValue) : List Char :=
  value.before ++ '=' :: (value.behind ++ value.quote :: (value.text ++ [value.quote]))

/-- Where nothing stands, only blanks do. -/
theorem blank_nil : ∀ c ∈ ([] : List Char), Text.isBlank c := List.forall_mem_nil _

/-- A character of an attribute's name: no blank, and no mark of a tag. -/
def isAttributeChar (c : Char) : Bool := !(Text.isBlank c || ['<', '>', '/', '=', '"', '\''].contains c)

/-- An attribute behind some blanks, with or without a value. -/
structure Attribute where
  blanks : List Char
  name : List Char
  value : Option QuotedValue
  apart : blanks ≠ []
  blank : ∀ c ∈ blanks, Text.isBlank c
  named : name ≠ []
  isName : ∀ c ∈ name, isAttributeChar c

/-- The attribute in a file. -/
def Attribute.written (entry : Attribute) : List Char :=
  entry.blanks ++ (entry.name ++ (entry.value.elim [] QuotedValue.written))

/-- An attribute behind one blank, with a value in double quotes. -/
def Attribute.quoted (name value : List Char) (named : name ≠ []) (isName : name.all isAttributeChar)
    (closed : '"' ∉ value) : Attribute where
  blanks := [' ']
  name := name
  value := some ⟨[], [], '"', value, blank_nil, blank_nil, Or.inl rfl, closed⟩
  apart := List.cons_ne_nil _ _
  blank := List.forall_mem_singleton.mpr rfl
  named := named
  isName := List.all_eq_true.mp isName

/-- A start tag: a name, attributes, and maybe some blanks. -/
structure StartTag (IsName : List Char → Prop) where
  name : List Char
  attributes : List Attribute
  blanks : List Char
  isName : IsName name
  blank : ∀ c ∈ blanks, Text.isBlank c

namespace StartTag

variable (tag : StartTag IsName)

/-- What stands between the name and the end of the tag. -/
def details : List Char := tag.attributes.flatMap Attribute.written ++ tag.blanks

/-- The tag in a file. -/
def written : List Char := '<' :: (tag.name ++ (tag.details ++ ['>']))

/-- The values of the attributes. -/
def values : List QuotedValue := tag.attributes.filterMap Attribute.value

/-- What stands between the name and the first closing bracket. -/
def front : List Char := (tag.details ++ ['>']).takeWhile (· != '>')

/-- The tag up to the first closing bracket in it. -/
def opening : List Char := '<' :: (tag.name ++ (tag.front ++ ['>']))

/-- What is left of the tag behind the first closing bracket in it. -/
def surplus : List Char := ((tag.details ++ ['>']).dropWhile (· != '>')).tail

end StartTag

/-! ### Brackets in a tag -/

/-- Blanks hold no brackets. -/
theorem not_mem_blanks {blanks : List Char} (blank : ∀ c ∈ blanks, Text.isBlank c) : '<' ∉ blanks ∧ '>' ∉ blanks :=
  ⟨fun member => (ne_bracket_of_isBlank (blank _ member)).1 rfl,
    fun member => (ne_bracket_of_isBlank (blank _ member)).2 rfl⟩

/-- A quote is none of the marks that end a tag or a name. -/
theorem QuotedValue.quote_ne (value : QuotedValue) : value.quote ≠ '<' ∧ value.quote ≠ '>' := by
  rcases value.isQuote with isQuote | isQuote <;> rw [isQuote] <;> decide

/-- A bracket in a value stands in its text. -/
theorem QuotedValue.end_mem_written_iff (value : QuotedValue) : '>' ∈ value.written ↔ '>' ∈ value.text := by
  -- Neither the blanks around the value nor its quotes are brackets.
  have before := (not_mem_blanks value.beforeBlank).2
  have behind := (not_mem_blanks value.behindBlank).2
  have quote := value.quote_ne.2
  simp [written, before, behind, quote.symm]

/-- A bracket in an attribute stands in the text of its value. -/
theorem Attribute.end_mem_written_iff (entry : Attribute) :
    '>' ∈ entry.written ↔ ∃ value ∈ entry.value, '>' ∈ value.text := by
  -- Neither blanks nor names hold a bracket, so that it stands in a value.
  have blanks := (not_mem_blanks entry.blank).2
  have name : '>' ∉ entry.name := fun member => absurd (entry.isName _ member) (by decide)
  rw [written, List.mem_append, List.mem_append, or_iff_right blanks, or_iff_right name]
  cases entry.value with
  | none => simp
  | some value => simp [value.end_mem_written_iff]

namespace StartTag

variable (tag : StartTag IsName)

/-- A bracket in front of the end of a tag stands in the text of a value. -/
theorem end_mem_details_iff : '>' ∈ tag.details ↔ ∃ value ∈ tag.values, '>' ∈ value.text := by
  -- The blanks at the end hold no bracket, so that it stands in one of the attributes.
  have blanks := (not_mem_blanks tag.blank).2
  rw [details, List.mem_append, or_iff_left blanks, List.mem_flatMap]
  simp only [Attribute.end_mem_written_iff, values, List.mem_filterMap]
  constructor
  · rintro ⟨entry, listed, value, isValue, inside⟩
    exact ⟨value, ⟨entry, listed, isValue⟩, inside⟩
  · rintro ⟨value, ⟨entry, listed, isValue⟩, inside⟩
    exact ⟨entry, listed, value, isValue, inside⟩

/-- What follows the name begins with a blank, if there is anything. -/
theorem isBlank_of_head?_details : ∀ c ∈ tag.details.head?, Text.isBlank c := by
  intro c first
  -- The first thing behind the name is an attribute or the blanks at the end.
  unfold details at first
  -- Without attributes only blanks are left.
  cases attributes : tag.attributes with
  | nil =>
    rw [attributes, List.flatMap_nil, List.nil_append] at first
    exact tag.blank c (List.mem_of_mem_head? first)
  | cons entry rest =>
    -- Blanks stand in front of the first attribute.
    obtain ⟨d, blanks, split⟩ := List.exists_cons_of_ne_nil entry.apart
    rw [attributes, List.flatMap_cons, Attribute.written, split] at first
    obtain rfl : d = c := by simpa using first
    exact entry.blank d (split ▸ List.mem_cons_self ..)

/-- A tag is cut at its first closing bracket. -/
theorem cut_eq {front rest : List Char} (split : tag.details ++ ['>'] = front ++ '>' :: rest) (noEnd : '>' ∉ front) :
    tag.front = front ∧ tag.surplus = rest := by
  -- What stands in front of the first bracket is passed over by both cuts.
  have passed : ∀ c ∈ front, (c != '>') = true := all_bne noEnd
  rw [StartTag.front, surplus, split, List.dropWhile_append_of_pos passed, takeWhile_upTo passed (by decide)]
  simp

/-- The details of a tag are what stands in front of its first closing bracket and what is left behind it. -/
theorem details_eq : tag.details ++ ['>'] = tag.front ++ '>' :: tag.surplus ∧ '>' ∉ tag.front := by
  -- There is a bracket at the end, and so there is a first one.
  have member : '>' ∈ tag.details ++ ['>'] := List.mem_append_right _ (List.mem_singleton.mpr rfl)
  obtain ⟨front, rest, split, noEnd⟩ := List.eq_append_cons_of_mem member
  obtain ⟨rfl, rfl⟩ := tag.cut_eq split noEnd
  exact ⟨split, noEnd⟩

/-- A tag is its front with what is left of it. -/
theorem written_eq : tag.written = tag.opening ++ tag.surplus := by
  rw [written, tag.details_eq.1]
  simp [opening]

/-- Nothing is left of a tag exactly if no value holds a closing bracket. -/
theorem surplus_eq_nil_iff : tag.surplus = [] ↔ ∀ value ∈ tag.values, '>' ∉ value.text := by
  -- A bracket in front of the end is one in a value.
  have absent : '>' ∉ tag.details ↔ ∀ value ∈ tag.values, '>' ∉ value.text := by
    simp [end_mem_details_iff]
  rw [← absent]
  constructor
  · intro nothing
    obtain ⟨split, noEnd⟩ := tag.details_eq
    rw [nothing] at split
    rwa [List.append_cancel_right split]
  · exact fun noEnd => (tag.cut_eq rfl noEnd).2

end StartTag

/-- The front of a start tag is an opening tag, whether it ends where the start tag does or not. -/
theorem StartTag.opens (tag : StartTag (Spells name)) : Opening name tag.opening := by
  -- The tag is cut at its first bracket, and what stands in front of that is the opening tag.
  obtain ⟨split, noEnd⟩ := tag.details_eq
  refine ⟨tag.name, tag.front, tag.isName, fun c first => tag.isBlank_of_head?_details c ?_, noEnd, rfl⟩
  -- The first character in front of the bracket is the first one behind the name.
  obtain ⟨rest, front⟩ := List.head?_eq_some_iff.mp first
  rw [front] at split noEnd
  cases details : tag.details with
  | nil =>
    rw [details] at split
    obtain ⟨rfl, -⟩ := List.cons.inj split
    exact absurd (List.mem_cons_self ..) noEnd
  | cons d more =>
    rw [details] at split
    obtain ⟨rfl, -⟩ := List.cons.inj split
    rfl

end LayerAudit.Component
