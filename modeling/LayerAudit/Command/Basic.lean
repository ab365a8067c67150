/-! What the program can be asked to do. -/

namespace LayerAudit

/-- What an audit is asked for on the command line. -/
structure Request where
  /-- The source root. -/
  root : String := "."
  /-- Where the document goes, in place of the path in the settings. -/
  output : Option String := none
  /-- The file with the settings, in place of the nearest one. -/
  config : Option String := none
  /-- The document goes on one line. -/
  isCompact : Bool := false
  /-- The text for the grade of the gate, if there is a gate. -/
  bound : Option String := none
  deriving DecidableEq, Repr, Inhabited

/-- A command. -/
inductive Command
  | help
  | version
  /-- Make a file with the usual settings in a directory, also in place of an earlier one if that is asked for. -/
  | create (root : String) (overwrite : Bool)
  | audit (request : Request)
  deriving DecidableEq, Repr, Inhabited

namespace Command

/-- The name and the version of the program. -/
def versionText : String := "adherence 0.1.0\n"

/-- How the program is called. -/
def usageText : String := "Usage: adherence [OPTIONS] [ROOT] [OUTPUT]\n"

/-- What the program does and how it is called. -/
def helpText : String :=
  "Generate an architecture adherence protocol for a Vue source tree\n\n" ++ usageText ++ "
Arguments:
  [ROOT]    Project root to analyze [default: .]
  [OUTPUT]  Where to write the protocol document (defaults to report.output under the root)

Options:
  -c, --config <CONFIG>    Config file path (defaults to .adherence.toml in the root or an ancestor)
      --compact            Write single-line JSON
      --fail-on <FAIL_ON>  Exit with code 1 if any violation is at or above this severity
      --init               Create a default .adherence.toml in the root and exit
      --force              Overwrite an existing config with --init
  -v, --verbose            Enable debug logging
  -h, --help               Print help
  -V, --version            Print version
"

end Command

end LayerAudit
