import SearchGateway.Adapter
import SearchGateway.CommandLine.Run
import SearchGateway.Main
import SearchGateway.Proofs.Lucene.Operators
import SearchGateway.Proofs.Query.Plain
import SearchGateway.Proofs.Query.Fragment
import SearchGateway.Proofs.Query.Kinetic
import SearchGateway.Proofs.Query.Payload
import SearchGateway.Proofs.Query.Respelling
import SearchGateway.Proofs.Template.Normal
import SearchGateway.Proofs.Text.Pieces
import SearchGateway.Proofs.Url.Percent
import SearchGateway.Proofs.Url.Reading
import SearchGateway.Proofs.Request.Parameters
import SearchGateway.Proofs.Url.Path
import SearchGateway.Proofs.Url.Authority
import SearchGateway.Proofs.Request.Core
import SearchGateway.Proofs.Query.Errors
import SearchGateway.Proofs.Adapter.Exchange
import SearchGateway.Proofs.Adapter.Methods
import SearchGateway.Proofs.Adapter.Records
import SearchGateway.Proofs.Query.Vanishing
import SearchGateway.Proofs.Query.Whitelist
import SearchGateway.Proofs.Query.Nested
import SearchGateway.Proofs.Query.Embedded
import SearchGateway.Proofs.Query.Accepted
import SearchGateway.Proofs.Template.Demand
import SearchGateway.Proofs.Query.Composition
import SearchGateway.Proofs.Query.ReadBack
import SearchGateway.Proofs.Request.Paging
import SearchGateway.Proofs.Request.Order
import SearchGateway.Proofs.Record.Nodes
import SearchGateway.Proofs.Record.Columns
import SearchGateway.Proofs.Adapter.Columns
import SearchGateway.Proofs.Settings
import SearchGateway.Proofs.Json.Layout
import SearchGateway.Proofs.Stored
import SearchGateway.Proofs.CommandLine.DryRun
