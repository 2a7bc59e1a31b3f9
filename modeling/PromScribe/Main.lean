import PromScribe.Console.Program
import PromScribe.Rehearsal.Peer

/-!
# The program

The console on the streams of a terminal. The answer of the service is a transcript on standard
input.
-/

open PromScribe PromScribe.CommandLine PromScribe.Rehearsal

/-- Shows an ending and gives its code. -/
def showEnding (ending : Ending) : IO UInt32 := do
  IO.print ending.output
  IO.eprint ending.complaint
  return ending.code.toUInt32

/-- Runs the console. -/
def main (arguments : List String) : IO UInt32 := do
  let address ← IO.getEnv Invocation.addressVariable
  match Invocation.read address arguments with
  | .error rejection => showEnding (Console.endingOfRejection rejection)
  | .ok invocation =>
      let transcript ← (← IO.getStdin).readToEnd
      let answered := (Peer.ofTranscript transcript).ask (Console.enquiry invocation)
      showEnding (Console.endingOf invocation answered.2)
