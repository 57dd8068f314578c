import NamedConstants.Contents
import NamedConstants.Decimal.Reader
import NamedConstants.Main
import NamedConstants.Value.Fill
import NamedConstants.Proofs.Markup.Rendering
import NamedConstants.Proofs.Console
import NamedConstants.Proofs.Printers
import NamedConstants.Proofs.Boundary
import NamedConstants.Proofs.Registry.Construction
import NamedConstants.Proofs.Registry.Lookup
import NamedConstants.Json.Reader
import NamedConstants.Proofs.Json.RoundTrip
import NamedConstants.Proofs.Listing
import NamedConstants.Proofs.CommandLine.Operands
import NamedConstants.Proofs.Markup.StraySlashes
import NamedConstants.Proofs.UnknownNames
import NamedConstants.Proofs.Text.CellWidth
import NamedConstants.Proofs.Markup.Verbatim
import NamedConstants.Proofs.Text.Wrap
import NamedConstants.Proofs.Text.Lines
import NamedConstants.Proofs.Text.FirstLine
import NamedConstants.Proofs.Table.Ruled
import NamedConstants.Proofs.Table.Plain
import NamedConstants.Proofs.TableListing
import NamedConstants.Proofs.RawValues
import NamedConstants.Proofs.CommandLine.Reading
import NamedConstants.Proofs.StandardOutput
import NamedConstants.Proofs.Diagnostics
import NamedConstants.Proofs.Value.Equivalence
import NamedConstants.Proofs.Registry.Selection
import NamedConstants.Proofs.Registry.Snapshot
import NamedConstants.Proofs.Registry.Assembly
import NamedConstants.Proofs.Registry.Description
import NamedConstants.Proofs.Registry.Rearrangement
import NamedConstants.Proofs.Rearrangement
import NamedConstants.Proofs.FailureReports
import NamedConstants.Proofs.Decimal.Shortest
import NamedConstants.Proofs.Json.Numbers
import NamedConstants.Proofs.Json.Serializable
import NamedConstants.Proofs.Json.Documents
import NamedConstants.Proofs.JsonListing
import NamedConstants.Proofs.PlainListing
import NamedConstants.Proofs.LookupReports
import NamedConstants.Proofs.CommandLine.Options
import NamedConstants.Proofs.Arguments
import NamedConstants.Proofs.Markup.RoundTrip
import NamedConstants.Proofs.EscapedText
import NamedConstants.Proofs.AlignedListing
