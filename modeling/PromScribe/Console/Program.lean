import PromScribe.Console.Report

/-!
# The console

The console takes its arguments, puts one enquiry, and ends with what it shows and a code: zero for
success, one for a failure, and two for arguments that it does not take.
-/

namespace PromScribe

open CommandLine Http

/-- What a program shows when it ends, and its code. -/
structure Ending where
  code : Nat
  output : String
  complaint : String
deriving DecidableEq, Repr

namespace Console

/-- What the console tells of its version. -/
def versionText : String := "promql 0.1.0\n"

/-- What the console tells of its use. -/
def helpText : String :=
  "Usage: promql [OPTIONS] <COMMAND>\n\nCommands: convert, validate, execute, metrics, health\n"

/-- The ending where the arguments are not taken, or ask to be told something. -/
def endingOfRejection : Rejection → Ending
  | .help => ⟨0, helpText, ""⟩
  | .version => ⟨0, versionText, ""⟩
  | _ => ⟨2, "", helpText⟩

/-- A failure with its causes where they are asked for. -/
def failureLines (verbose : Bool) (message : String) (causes : List String) : String :=
  Report.lines (("Error: " ++ message) ::
    if verbose then causes.map ("Caused by: " ++ ·) else [])

/-- The ending of a command. -/
def endingOf (invocation : Invocation) : Except ServiceFault Report → Ending
  | .error fault => ⟨1, "", failureLines invocation.verbose fault.message fault.causes⟩
  | .ok report =>
      match report.failure with
      | none => ⟨0, report.output, report.complaint⟩
      | some reason =>
          ⟨1, report.output, report.complaint ++ failureLines invocation.verbose reason []⟩

/-- What an invocation asks of the service, and how the console ends. -/
def enquiry (invocation : Invocation) : Enquiry ServiceFault Report :=
  invocation.command.enquiry invocation.address invocation.form

end Console

end PromScribe
