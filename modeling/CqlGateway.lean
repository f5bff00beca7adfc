import CqlGateway.Main
import CqlGateway.Http.Gateway
import CqlGateway.Json.Writer
import CqlGateway.Service.Client
import CqlGateway.Value.Construction
import CqlGateway.Proofs.Census
import CqlGateway.Proofs.Rows
import CqlGateway.Proofs.Reading
import CqlGateway.Proofs.Columns
import CqlGateway.Proofs.Execution
import CqlGateway.Proofs.Statements
import CqlGateway.Proofs.Detection
import CqlGateway.Proofs.Dispatching
import CqlGateway.Proofs.Literals
import CqlGateway.Proofs.Lookups
import CqlGateway.Proofs.Erasure
import CqlGateway.Proofs.Rendering
import CqlGateway.Proofs.Contexts
import CqlGateway.Proofs.Names
import CqlGateway.Proofs.Comparisons
import CqlGateway.Proofs.Listings
import CqlGateway.Proofs.Refusals
import CqlGateway.Proofs.Visits
import CqlGateway.Proofs.Passes
import CqlGateway.Proofs.KeyColumns
import CqlGateway.Proofs.ColumnTypes
import CqlGateway.Proofs.Failures
import CqlGateway.Proofs.Existence
import CqlGateway.Proofs.KeyLists
import CqlGateway.Proofs.Mentions
import CqlGateway.Proofs.Frames
import CqlGateway.Proofs.UseStatements
import CqlGateway.Proofs.MentionedKeyspaces
import CqlGateway.Proofs.FoundNames
import CqlGateway.Proofs.Parts
import CqlGateway.Proofs.Trees
import CqlGateway.Proofs.Versions
import CqlGateway.Proofs.Deliveries
import CqlGateway.Proofs.Grammar
import CqlGateway.Proofs.Nesting
import CqlGateway.Proofs.ListedNames
import CqlGateway.Proofs.WrittenStrings
import CqlGateway.Proofs.WrittenScalars
import CqlGateway.Proofs.WrittenLists
import CqlGateway.Proofs.Conversions
