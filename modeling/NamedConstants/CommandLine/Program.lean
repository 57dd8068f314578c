import NamedConstants.CommandLine.Command
import NamedConstants.Diagnostics
import NamedConstants.Listing
import NamedConstants.Registry.Shipped

/-!
# The program

`run` does what the arguments ask for and gives the exit code or fails.  `atBoundary` is
the outermost layer: it turns every ending into an exit and every failure into a message
for the user.
-/

namespace NamedConstants.CommandLine

/-- The exit code of a run without failure. -/
def success : Int := 0

/-- The exit code after a failure of this library's own, or a negative diagnosis. -/
def generalError : Int := 1

/-- The exit code after any other failure. -/
def unexpectedError : Int := 2

/-- The exit code after an interruption. -/
def interruption : Int := 130

/-- The exit codes with the names under which they are known. -/
def exitCodes : List (String × Int) :=
  [("SUCCESS", success), ("GENERAL_ERROR", generalError), ("KEYBOARD_INTERRUPT", interruption),
    ("UNEXPECTED_ERROR", unexpectedError)]

/-- The line that shows the version. -/
def versionLine : String :=
  "qir-constants " ++ GroupClass.libraryVersion

/-- Ends a run whose arguments could not be read to their end. -/
def stop : Stop → Run Int
  | .help g => do
      Run.out g.helpText
      Run.exit success
  | .version => do
      Run.outLine versionLine
      Run.exit success
  | .refused g fault => do
      Run.errLine g.usage
      Run.errLine (g.program ++ ": error: " ++ fault.message)
      Run.exit unexpectedError

/-- Carries a command out on the shipped registry. -/
def perform (host : Host) : Command → Run Int
  | .overview => do
      Run.out topGrammar.helpText
      return success
  | .list group asJson => Listing.list host Registry.shipped (group.map Value.text) asJson
  | .get group name => Listing.get Registry.shipped (.text group) (.text name)
  | .getUnnamed group => Listing.get Registry.shipped (.text group) (.list [])
  | .doctor => Diagnostics.run host Registry.shipped

/-- Does what the arguments ask for. -/
def run (host : Host) (arguments : List String) : Run Int :=
  match readCommand arguments with
  | .error s => stop s
  | .ok command => perform host command

/-- What the user is told about a failure of this library's own. -/
def errorMessage (host : Host) (text : String) : String :=
  "[bold red]Error:[/bold red] " ++ Console.escape host text

/-- What the user is told to do about it. -/
def hintMessage (host : Host) (hint : String) : String :=
  "[yellow]Hint:[/yellow] " ++ Console.escape host hint

/-- What the user is told about any other failure. -/
def unexpectedMessage (host : Host) (kind text : String) : String :=
  "[bold red]Unexpected error.[/bold red] Please report this issue.\n  " ++ kind ++ ": " ++
    Console.escape host text

/-- Tells the user about a failure and leaves. -/
def reportFailure (host : Host) (failure : Failure) : Run Unit :=
  if failure.category.isOwn then do
    Console.say host (errorMessage host failure.message)
    match failure.hint with
    | none => Run.pure ()
    | some hint =>
        if hint.isEmpty then Run.pure () else Console.say host (hintMessage host hint)
    Run.exit generalError
  else do
    Console.say host (unexpectedMessage host failure.category.name failure.message)
    Run.exit unexpectedError

/-- Tells the user that the program was interrupted and leaves. -/
def reportInterruption (host : Host) : Run Unit := do
  Console.say host "\n[yellow]Aborted by user.[/yellow]"
  Run.exit interruption

/-- Turns every ending of a run into an exit. -/
def atBoundary (host : Host) (r : Run Int) : Run Unit :=
  let after (next : Run Unit) : Run Unit :=
    ⟨r.stdout ++ next.stdout, r.stderr ++ next.stderr, next.ending⟩
  match r.ending with
  | .done code => after (Run.exit code)
  | .failed failure => after (reportFailure host failure)
  | .exited code => ⟨r.stdout, r.stderr, .exited code⟩
  | .interrupted => after (reportInterruption host)

/-- The whole program. -/
def program (host : Host) (arguments : List String) : Run Unit :=
  atBoundary host (run host arguments)

end NamedConstants.CommandLine
