import TableGateway.Dialect.Tagged
import TableGateway.Proofs.Backend.Changes
import TableGateway.Proofs.Json.Kinds
import TableGateway.Proofs.Params.Calls
import TableGateway.Proofs.Pool.LostClosings
import TableGateway.Proofs.Pool.LostReturns
import TableGateway.Proofs.Query.Aliases
import TableGateway.Proofs.Query.Building
import TableGateway.Proofs.Query.Counting
import TableGateway.Proofs.Query.Meaning
import TableGateway.Proofs.Query.Paging
import TableGateway.Proofs.Query.Placeholders
import TableGateway.Proofs.Query.RoundTrip
import TableGateway.Proofs.Request.Dialects
import TableGateway.Proofs.Request.Fates
import TableGateway.Proofs.Request.Fetching
import TableGateway.Proofs.Row.Columns
import TableGateway.Proofs.Service.Atomicity
import TableGateway.Proofs.Service.Retirement
import TableGateway.Proofs.Settings.Building
import TableGateway.Rehearsal.Step
import TableGateway.Settings.Reader
