import NamedConstants.Json.Writer
import NamedConstants.Registry.Basic
import NamedConstants.Table.Plain
import NamedConstants.Table.Ruled

/-!
# Listings

The constants of a registry, or of one of its groups, as a table for people or as a JSON
document for programs, and the value of a single constant.  Tables go to the standard
error, everything that is meant to be piped to the standard output.
-/

namespace NamedConstants.Listing

def title : String := "qir-constants"

def columns : List Table.Column :=
  [⟨"Group", 14, .left⟩, ⟨"Name", 18, .left⟩, ⟨"Value", 0, .left⟩]

def plainWidths : List Nat := [16, 20, 18]

def cells (e : Entry) : List Value :=
  [e.group, e.name, e.value]

/-- Writes an entry as a row of a plain listing. -/
def printPlainRow (e : Entry) : Run Unit := do
  let fields ← Run.ofExcept (Table.fieldTexts (cells e))
  Run.errLine (Table.plainRow plainWidths fields)

/-- Writes entries as a plain table. -/
def printPlain (entries : List Entry) : Run Unit := do
  Table.plainHead title plainWidths (columns.map (·.header))
  Run.each printPlainRow entries
  Run.errLine ""

/-- Writes entries as a ruled table. -/
def printRuled (host : Host) (entries : List Entry) : Run Unit :=
  Table.printRuled host title columns (entries.map cells)

/-- Writes entries as the table that the host can show. -/
def printTable (host : Host) (entries : List Entry) : Run Unit :=
  if host.renderer then printRuled host entries else printPlain entries

/-- The JSON data of groups: a table of the constants for each group's name. -/
def payload (groups : List Group) : Value :=
  .dict (groups.map fun g => (g.name, .dict g.constants))

/-- Lists a selection of a registry, as a JSON document or as a table. -/
def list (host : Host) (r : Registry) (selection : Option Value) (asJson : Bool) : Run Int := do
  let groups ← Run.ofExcept (r.select selection)
  if asJson then
    let document ← Run.ofExcept (Json.document (payload groups))
    Run.outLine document
  else printTable host (groups.flatMap Group.entries)
  return 0

/-- Writes the value of a constant. -/
def get (r : Registry) (group name : Value) : Run Int := do
  let value ← Run.ofExcept (r.get group name)
  Run.outLine value.display
  return 0

end NamedConstants.Listing
