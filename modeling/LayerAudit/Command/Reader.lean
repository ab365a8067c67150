import LayerAudit.Command.Basic
import LayerAudit.Text.Basic

/-!
From arguments to a command. Arguments are first read as words, each of which is an operand, a switch or an option with
its value; then the words are taken in order, and the first one that does not fit refuses all.
-/

namespace LayerAudit.Command

/-- An option without a value. -/
inductive Switch
  | compact | init | force | verbose | help | version
  deriving DecidableEq, Repr, Inhabited

/-- An option with a value. -/
inductive Setting
  | config | bound
  deriving DecidableEq, Repr, Inhabited

/-- An option of either sort. -/
inductive CommandOption
  | switch (switch : Switch)
  | setting (setting : Setting)
  deriving DecidableEq, Repr, Inhabited

namespace CommandOption

/-- The option with a long name. -/
def ofName? : String → Option CommandOption
  | "compact" => some (switch .compact)
  | "init" => some (switch .init)
  | "force" => some (switch .force)
  | "verbose" => some (switch .verbose)
  | "help" => some (switch .help)
  | "version" => some (switch .version)
  | "config" => some (setting .config)
  -- Whatever else is named is no option.
  | "fail-on" => some (setting .bound)
  | _ => none

/-- The option with a letter. -/
def ofLetter? : Char → Option CommandOption
  | 'v' => some (switch .verbose)
  | 'h' => some (switch .help)
  | 'V' => some (switch .version)
  | 'c' => some (setting .config)
  | _ => none

end CommandOption

/-- A word of the command line. -/
inductive Word
  | operand (text : String)
  | switch (switch : Switch)
  | value (setting : Setting) (text : String)
  /-- No option has this name, or its value is missing, or it takes none. -/
  | unfit
  deriving DecidableEq, Repr, Inhabited

/-- The words in one argument, and the option at its end that still waits for its value. -/
abbrev Reading := List Word × Option Setting

/-- An argument is written as an option. A single dash is not. -/
def isOption (argument : String) : Bool := Text.isStartOf "-" argument && argument ≠ "-"

/-- A name and what follows its first equals sign. -/
def cutValue : List Char → List Char × Option (List Char)
  | [] => ([], none)
  | c :: rest =>
    -- Only the first equals sign separates. The value may hold more of them.
    if c = '=' then ([], some rest)
    else
      let (name, value) := cutValue rest
      (c :: name, value)

/-- An option by its long name, perhaps with a value. -/
def readLong (text : List Char) : Reading :=
  let (name, value) := cutValue text
  -- A switch takes no value, an option without one waits for the next argument.
  match CommandOption.ofName? (String.ofList name), value with
  | some (.switch switch), none => ([.switch switch], none)
  | some (.setting setting), none => ([], some setting)
  | some (.setting setting), some value => ([.value setting (String.ofList value)], none)
  | _, _ => ([.unfit], none)

/-- The value that follows the letter of an option in the same argument, with or without an equals sign. -/
def adjoined : List Char → List Char
  | '=' :: value => value
  | value => value

/-- Options by their letters. The first one with a value takes the rest of the argument. -/
def readLetters : List Char → Reading
  | [] => ([], none)
  | letter :: rest =>
    match CommandOption.ofLetter? letter with
    | some (.switch switch) =>
      let (words, waiting) := readLetters rest
      (.switch switch :: words, waiting)
    -- What follows the letter in the same argument is its value, if there is anything.
    | some (.setting setting) =>
      if rest.isEmpty then ([], some setting) else ([.value setting (String.ofList (adjoined rest))], none)
    | none => ([.unfit], none)

/-- The words in one argument. -/
def readArgument (argument : String) : Reading :=
  match argument.toList with
  | '-' :: '-' :: rest => readLong rest
  | '-' :: letter :: rest => readLetters (letter :: rest)
  | _ => ([.operand argument], none)

/-- The words of a command line. After two dashes all arguments are operands. A value is never written as an option. -/
def words : List String → List Word
  | [] => []
  | argument :: rest =>
    -- Behind two dashes a dash has no meaning.
    if argument = "--" then rest.map .operand
    else
      match readArgument argument with
      | (found, none) => found ++ words rest
      | (found, some setting) =>
        match rest with
        | [] => found ++ [.unfit]
        -- A word that is written as an option is no value, so the value is missing.
        | value :: rest => if isOption value then found ++ [.unfit] else found ++ .value setting value :: words rest

/-- What the words up to some place ask for. -/
structure Asked where
  operands : List String := []
  switches : List Switch := []
  values : List (Setting × String) := []
  deriving DecidableEq, Repr, Inhabited

namespace Asked

/-- The value of an option. -/
def value? (asked : Asked) (setting : Setting) : Option String := asked.values.lookup setting

/-- Take one word. There are two operands at most, no path is empty, and no option is given twice. -/
def take? (asked : Asked) : Word → Option Asked
  | .operand text =>
    -- The operands are the root and the place of the document.
    if text = "" ∨ 2 ≤ asked.operands.length then none else some { asked with operands := asked.operands ++ [text] }
  | .switch switch =>
    if switch ∈ asked.switches then none else some { asked with switches := switch :: asked.switches }
  | .value setting text =>
    -- An option may be given once, and an empty path names no file.
    if (asked.value? setting).isSome ∨ (setting = .config ∧ text = "") then none
    else some { asked with values := (setting, text) :: asked.values }
  | .unfit => none

/-- The command when all words are taken. Only a new file with settings can overwrite an earlier one. -/
def command? (asked : Asked) : Option Command :=
  let root := asked.operands[0]?.getD "."
  let overwrite := decide (Switch.force ∈ asked.switches)
  if Switch.init ∈ asked.switches then some (.create root overwrite)
  -- Without a new file there is nothing to overwrite.
  else if overwrite then none
  else some (.audit {
    root
    output := asked.operands[1]?
    config := asked.value? .config
    isCompact := decide (Switch.compact ∈ asked.switches)
    bound := asked.value? .bound })

/-- Take words in order. Help and the version are given as soon as they are asked for. -/
def read? (asked : Asked) : List Word → Option Command
  | [] => asked.command?
  -- Help and the version come before any later word that does not fit.
  | .switch .help :: _ => some .help
  | .switch .version :: _ => some .version
  | word :: rest =>
    match asked.take? word with
    | some asked => asked.read? rest
    | none => none

end Asked

/-- The command that some arguments stand for, if they fit together. -/
def ofArguments? (arguments : List String) : Option Command := Asked.read? {} (words arguments)

end LayerAudit.Command
