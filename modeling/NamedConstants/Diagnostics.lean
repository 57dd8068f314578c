import NamedConstants.GroupClass.Shipped
import NamedConstants.Registry.Validation
import NamedConstants.Table.Plain
import NamedConstants.Table.Ruled

/-!
# Diagnostics

Checks of the host and of a registry, reported as a table of components with their
statuses and a line for each problem of the registry.  A missing renderer is only a
warning; the verdict is negative if and only if some status is a failure.
-/

namespace NamedConstants.Diagnostics

/-- One checked component. -/
structure Check where
  component : String
  value : String
  /-- The verdict, as markup. -/
  status : String
  deriving DecidableEq, Repr

/-- The status of a component that is as it should be. -/
def okStatus : String := "[green]OK[/green]"

/-- The status of a component that the program can do without. -/
def warnStatus : String := "[yellow]WARN[/yellow]"

/-- The status of a component that is not as it should be. -/
def failStatus : String := "[red]FAIL[/red]"

/-- The status of an interpreter that is too old. -/
def oldStatus : String := "[red]FAIL (>=3.10 required)[/red]"

def packageCheck : Check :=
  ⟨"qir-constants", GroupClass.libraryVersion, okStatus⟩

/-- Whether a release is at least 3.10, going by its first two numbers. -/
def isRecent (release : List Int) : Bool :=
  match release with
  | major :: minor :: _ => 3 < major || (major == 3 && 10 ≤ minor)
  | [major] => 3 < major
  | [] => false

def interpreterCheck (host : Host) : Check :=
  ⟨"Python", host.interpreter, if isRecent host.release then okStatus else oldStatus⟩

def rendererCheck (host : Host) : Check :=
  if host.renderer then ⟨"rich", host.rendererVersion.getD "unknown", okStatus⟩
  else ⟨"rich", "NOT INSTALLED", warnStatus⟩

def constantCount (r : Registry) : Nat :=
  r.groups.foldl (fun total g => total + g.size) 0

/-- The check of a registry, given its problems. -/
def registryCheck (r : Registry) (problems : List String) : Check :=
  ⟨"registry", toString r.size ++ " groups, " ++ toString (constantCount r) ++ " constants",
    if problems.isEmpty then okStatus else failStatus⟩

def checks (host : Host) (r : Registry) (problems : List String) : List Check :=
  [packageCheck, interpreterCheck host, rendererCheck host, registryCheck r problems]

/-- Whether a text contains another. -/
def mentions (word text : String) : Bool :=
  Text.occursIn word.toList text.toList

/-- A status without its markup: the first of the three verdicts that it mentions, in the
    order of their gravity; any other status as it is. -/
def plainStatus (status : String) : String :=
  match ["FAIL", "WARN", "OK"].find? fun word => mentions word status with
  | some word => word
  | none => status

def title : String := "qir-constants doctor"

def columns : List Table.Column :=
  [⟨"Component", 12, .left⟩, ⟨"Value", 20, .left⟩, ⟨"Status", 8, .centre⟩]

def plainWidths : List Nat := [14, 30, 8]

def printPlain (checks : List Check) : Run Unit := do
  Table.plainHead title plainWidths (columns.map (·.header))
  Run.each (fun c =>
      Run.errLine (Table.plainRow plainWidths [c.component, c.value, plainStatus c.status]))
    checks
  Run.errLine ""

def printRuled (host : Host) (checks : List Check) : Run Unit :=
  Table.printRuled host title columns
    (checks.map fun c => [.text c.component, .text c.value, .text c.status])

/-- Writes checks as the table that the host can show. -/
def printTable (host : Host) (checks : List Check) : Run Unit :=
  if host.renderer then printRuled host checks else printPlain checks

def printProblem (host : Host) (problem : String) : Run Unit :=
  if host.renderer then
    Console.say host ("  [red]•[/red] " ++ Console.escape host problem)
  else Run.errLine ("  - " ++ problem)

def printVerdict (host : Host) (failed : Bool) : Run Unit :=
  if host.renderer then
    Console.say host
      (if failed then "[bold red]Some checks failed.[/bold red]"
       else "[bold green]All checks passed.[/bold green]")
  else Run.errLine (if failed then "Some checks failed." else "All checks passed.")

/-- Writes a report on a registry with the given problems and returns the exit code. -/
def report (host : Host) (r : Registry) (problems : List String) : Run Int := do
  let checks := checks host r problems
  let failed := checks.any fun c => mentions "FAIL" c.status
  printTable host checks
  Run.each (printProblem host) problems
  printVerdict host failed
  return if failed then 1 else 0

/-- Checks the host and a registry. -/
def run (host : Host) (r : Registry) : Run Int :=
  report host r r.problems

end NamedConstants.Diagnostics
