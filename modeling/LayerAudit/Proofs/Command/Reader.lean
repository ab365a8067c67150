import LayerAudit.Command.Reader

/-! A command line without a switch for another command asks for an audit with exactly the operands and values in it. -/

namespace LayerAudit

namespace Command

/-- The text of an operand. -/
def Word.operand? : Word → Option String
  | operand text => some text
  | _ => none

/-- The words ask for no other command than an audit. -/
def AsksAudit (words : List Word) : Prop :=
  ∀ switch ∈ [Switch.init, Switch.help, Switch.version], Word.switch switch ∉ words

instance (words : List Word) : Decidable (AsksAudit words) :=
  inferInstanceAs (Decidable (∀ switch ∈ [Switch.init, Switch.help, Switch.version], Word.switch switch ∉ words))

end Command

open Command in
/-- A request says what the words of a command line say. -/
structure Request.SaidBy (request : Request) (words : List Word) : Prop where
  root : request.root = (words.filterMap Word.operand?)[0]?.getD "."
  output : request.output = (words.filterMap Word.operand?)[1]?
  config : ∀ text, request.config = some text ↔ .value .config text ∈ words
  isCompact : request.isCompact = true ↔ .switch .compact ∈ words
  bound : ∀ text, request.bound = some text ↔ .value .bound text ∈ words

namespace Command

namespace Asked

/-- What is asked for is what the words taken so far say. -/
structure Holds (asked : Asked) (taken : List Word) : Prop where
  operands : asked.operands = taken.filterMap Word.operand?
  switches : ∀ switch, switch ∈ asked.switches ↔ .switch switch ∈ taken
  values : ∀ setting text, asked.value? setting = some text ↔ .value setting text ∈ taken

variable {asked next : Asked} {taken rest : List Word} {word : Word} {command : Command}

/-- Nothing is asked for before the first word. -/
theorem holds_empty : Holds {} [] := ⟨rfl, fun _ => by simp, fun _ _ => by simp [value?]⟩

/-- One more word is asked for when it is taken. -/
theorem Holds.take? (holds : Holds asked taken) (took : asked.take? word = some next) :
    Holds next (taken ++ [word]) := by
  -- An operand, a switch and a value each add to their own part, and leave the others as they are.
  cases word with
  | operand text =>
    simp only [Asked.take?, Option.ite_none_left_eq_some, Option.some.injEq] at took
    obtain ⟨_, rfl⟩ := took
    refine ⟨by simp [holds.operands, Word.operand?], fun switch => ?_, fun setting other => ?_⟩
    · simp [holds.switches]
    · simpa [value?] using holds.values setting other
  | switch switch =>
    simp only [Asked.take?, Option.ite_none_left_eq_some, Option.some.injEq] at took
    obtain ⟨_, rfl⟩ := took
    refine ⟨by simp [holds.operands, Word.operand?], fun other => ?_, fun setting other => ?_⟩
    · simp [holds.switches, or_comm]
    · simpa [value?] using holds.values setting other
  | value setting text =>
    simp only [Asked.take?, Option.ite_none_left_eq_some, Option.some.injEq, not_or] at took
    obtain ⟨⟨fresh, _⟩, rfl⟩ := took
    refine ⟨by simp [holds.operands, Word.operand?], fun switch => ?_, fun other value => ?_⟩
    · simp [holds.switches]
    · by_cases same : other = setting
      · -- The option had no value before.
        subst same
        have none : Word.value other value ∉ taken := fun member =>
          fresh (by simp [(holds.values other value).mpr member])
        simp [value?, none, eq_comm]
      · -- Another option keeps the value that it had.
        have unequal : (other == setting) = false := beq_eq_false_iff_ne.mpr same
        simpa [value?, List.lookup_cons, unequal, same] using holds.values other value
  | unfit => cases took

/-- A word that ends nothing is taken, and then the next ones. -/
theorem read?_cons (noHelp : word ≠ .switch .help) (noVersion : word ≠ .switch .version) :
    asked.read? (word :: rest) = (asked.take? word).bind (read? · rest) := by
  rw [Asked.read?]
  · cases asked.take? word <;> rfl
  · exact noHelp
  · exact noVersion

/-- Words that ask for no other command ask for an audit. -/
theorem Holds.read? (holds : Holds asked taken) (plain : AsksAudit (taken ++ rest))
    (done : asked.read? rest = some command) :
    ∃ request, command = .audit request ∧ request.SaidBy (taken ++ rest) := by
  -- The induction is on the words that are left, with what was asked for so far.
  induction rest generalizing asked taken with
  | nil =>
    -- No word is left, and what was asked for decides about the command.
    have noInit : Switch.init ∉ asked.switches := by
      simpa [holds.switches] using plain .init (by simp)
    simp only [Asked.read?, command?, if_neg noInit, Option.ite_none_left_eq_some, Option.some.injEq] at done
    obtain ⟨_, rfl⟩ := done
    rw [List.append_nil]
    exact ⟨_, rfl, by rw [holds.operands], by rw [holds.operands], holds.values .config,
      decide_eq_true_iff.trans (holds.switches _), holds.values .bound⟩
  | cons word rest ih =>
    -- Neither help nor the version is asked for, so that the word is taken like any other.
    have noHelp : word ≠ .switch .help := fun same => plain .help (by simp) (by simp [same])
    have noVersion : word ≠ .switch .version := fun same => plain .version (by simp) (by simp [same])
    rw [read?_cons noHelp noVersion] at done
    obtain ⟨next, took, done⟩ := Option.bind_eq_some_iff.mp done
    have split : taken ++ word :: rest = (taken ++ [word]) ++ rest := by simp
    rw [split] at plain ⊢
    exact ih (holds.take? took) plain done

end Asked

/-- Arguments that ask for no other command ask for an audit. -/
theorem exists_request {arguments : List String} {command : Command} (fit : ofArguments? arguments = some command)
    (plain : AsksAudit (words arguments)) : ∃ request, command = .audit request ∧ request.SaidBy (words arguments) :=
  Asked.holds_empty.read? plain fit

end Command

end LayerAudit
