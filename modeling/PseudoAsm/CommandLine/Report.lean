import PseudoAsm.CommandLine.Request
import PseudoAsm.Table.Load
import PseudoAsm.Text.Display

/-!
# Reports

A report is what a run of the program leaves behind: what it prints, line by line, and the failure
that ended it, if any. A failure is one of three kinds, which decides about the exit code and about
the words before its message: the source cannot be expanded, the command line asks for what cannot
be done, or something else went wrong.
-/

namespace PseudoAsm.CommandLine

/-- What a failure is put down to. -/
inductive FailureKind where
  /-- The source or the table is at fault. -/
  | source
  /-- The command line is at fault, or a file that it names is not there. -/
  | usage
  /-- Anything else. -/
  | internal
  deriving DecidableEq, Repr

namespace FailureKind

/-- The exit code of a run that ends in such a failure. -/
def exitCode : FailureKind → Nat
  | .source => 1
  | .usage => 2
  | .internal => 3

/-- The message of a failure as it is shown; `activity` says what failed because of the source. -/
def announce (activity message : Text) : FailureKind → Text
  | .source => if activity.isEmpty then message else activity ++ " ".toList ++ message
  | .usage => "Error: ".toList ++ message
  | .internal => "Internal error: ".toList ++ message

end FailureKind

/-- Why a run ended early. -/
inductive Failure where
  | words (fault : UsageFault)
  | value (fault : ValueFault)
  | nothingToDo
  | table (fault : Table.LoadFault)
  | listing (fault : TextFault)
  | expansion (error : ExpansionError)
  deriving DecidableEq, Repr

namespace Failure

/-- A file that is not there, or is no file to read, is the fault of the command line. -/
def kindOfTextFault : TextFault → FailureKind
  | .unreadable _ .missing | .unreadable _ .directory | .unreadable _ .denied => .usage
  | _ => .internal

/-- What a failure is put down to: only tables and statements count as the source. -/
def kind : Failure → FailureKind
  | .words _ | .value _ | .nothingToDo => .usage
  | .table (.unreadable fault) | .listing fault => kindOfTextFault fault
  | .table (.malformed _) | .expansion _ => .source

/-- What the user is told. -/
def message : Failure → Text
  | .words fault => fault.message
  | .value fault => fault.message
  | .nothingToDo => "no statements given (pass STATEMENTS or -i FILE)".toList
  | .table (.unreadable fault) | .listing fault => fault.message
  | .table (.malformed error) => error.diagnostic.render
  | .expansion error => error.diagnostic.render

/-- How the program is used, in one line. -/
def usageLine : Text :=
  "Usage: psexpand [OPTIONS] [STATEMENTS]...".toList

/-- What is shown before the message. -/
def preface : Failure → List Text
  | .words (.unknown _ _) | .value _ =>
    [usageLine, "Try 'psexpand --help' for help.".toList, []]
  | _ => []

/-- What the program was doing. -/
def activity : Text :=
  "Expansion".toList

/-- The lines that report the failure. -/
def lines (failure : Failure) : List Text :=
  failure.preface ++ [failure.kind.announce activity failure.message]

end Failure

/-- What a run prints, to the stream for results and to the stream for remarks, and the failure that
ended it. -/
structure Report where
  results : List Text
  remarks : List Text
  failure : Option Failure
  deriving DecidableEq, Repr

namespace Report

/-- The exit code: 0 if nothing failed. -/
def exitCode (report : Report) : Nat :=
  match report.failure with
  | none => 0
  | some failure => failure.kind.exitCode

/-- The text on the stream for results. -/
def output (report : Report) : Text :=
  Text.unlines (report.results.map Text.plain)

/-- The text on the stream for remarks; a failure is shown last. -/
def errors (report : Report) : Text :=
  match report.failure with
  | none => Text.unlines report.remarks
  | some failure => Text.unlines (report.remarks ++ failure.lines.map Text.plain)

/-- The report of a run that fails before it starts. -/
def ofFailure (failure : Failure) : Report :=
  ⟨[], [], some failure⟩

/-- The report of a run that prints something and does no more. -/
def ofResults (results : List Text) : Report :=
  ⟨results, [], none⟩

/-- Puts remarks before the others. -/
def addRemarks (remarks : List Text) (report : Report) : Report :=
  { report with remarks := remarks ++ report.remarks }

end Report

end PseudoAsm.CommandLine
