import LayerAudit.Report.Summary
import LayerAudit.Text.Basic

/-! What a run shows on a terminal: a summary with all findings, and the verdict of the gate. -/

namespace LayerAudit.Report

/-- How a text stands out on a terminal. -/
inductive Style
  | bold | boldGreen | boldRed | boldYellow | boldBlue | cyan
  deriving DecidableEq, Repr, Inhabited

/-- The codes that switch a style on. -/
def Style.codes : Style → String
  | bold => "1"
  | boldGreen => "1;32"
  | boldRed => "1;31"
  | boldYellow => "1;33"
  | boldBlue => "1;34"
  | cyan => "36"

/-- A text in a style, where the terminal has colors. -/
def paint (colored : Bool) (style : Style) (text : String) : String :=
  if colored then s!"\x1B[{style.codes}m{text}\x1B[0m" else text

/-- A line of one character. -/
def rule (c : Char) : String := String.ofList (List.replicate 40 c)

/-- The mark of a grade. -/
def severityMark (colored : Bool) : Severity → String
  | .error => paint colored .boldRed "ERROR"
  | .warning => paint colored .boldYellow "WARN"
  | .info => paint colored .boldBlue "INFO"

/-- The lines about a finding. -/
def violationText (colored : Bool) (violation : Violation) : String :=
  let mark := severityMark colored violation.severity
  let title := paint colored .cyan "Suggestion"
  -- A finding without a suggestion has no third line.
  let suggestion := match violation.suggestion with
    | some suggestion => s!"    {title}: {suggestion}\n"
    | none => ""
  s!"\n  {mark} [{violation.kind.name}] {violation.file}\n    {violation.message}\n{suggestion}"

/-- The lines about all findings. -/
def violationsText (colored : Bool) (violations : List Violation) : String :=
  if violations.isEmpty then "\n" ++ paint colored .boldGreen "No violations found!" ++ "\n"
  else
    let title := paint colored .boldRed "Violations"
    -- First how many there are of each kind, then each of them.
    let counts := (countByKind violations).map fun entry => s!"  {entry.1.name}: {entry.2}\n"
    let line := rule '-'
    s!"\n{title} ({violations.length} found)\n{line}\n" ++ String.join counts ++
      String.join (violations.map (violationText colored))

/-- The summary of an audit whose document went to a path. -/
def summaryText (colored : Bool) (audit : Audit) (output : String) : String :=
  let summary := Summary.of audit
  let title := paint colored .bold "Adherence - Architecture Protocol"
  let heading := paint colored .bold "Summary"
  let protocol := paint colored .bold "Protocol"
  let line := rule '='
  -- The document is named last, below the findings.
  s!"\n{title}\n{line}\n\n{heading}: {summary.files} files, {summary.symbols} symbols, {summary.edges} edges ({summary.dangling} unresolved)\n" ++
    violationsText colored audit.violations ++ s!"\n{protocol}: {output}\n"

/-- The verdict of the gate for a grade. -/
def verdictText (colored : Bool) (audit : Audit) (bound : Severity) : String :=
  if passes audit bound then paint colored .boldGreen "CHECK PASSED" ++ "\n"
  else
    let mark := paint colored .boldRed "CHECK FAILED"
    s!"{mark}: {failingCount audit bound} violation(s) at severity {bound.name} or above\n"

end LayerAudit.Report
