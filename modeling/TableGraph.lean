import TableGraph.Fault.Shared
import TableGraph.Json.Printer
import TableGraph.Main
import TableGraph.Proofs.Build.Log
import TableGraph.Proofs.Build.Steps
import TableGraph.Proofs.Build.Calls
import TableGraph.Proofs.Name
import TableGraph.Proofs.TypeSystem.Violation
import TableGraph.Proofs.TableTypes
import TableGraph.Proofs.Schema.Acceptance
import TableGraph.Proofs.Sql
import TableGraph.Proofs.Template.Parts
import TableGraph.Proofs.Resolver.Reads
import TableGraph.Proofs.Build.Agreement
import TableGraph.Proofs.Template.Execution
import TableGraph.Proofs.Resolver.Execution
import TableGraph.Proofs.Resolver.Requests
import TableGraph.Proofs.Placeholders
import TableGraph.Proofs.Resolver.Binding
import TableGraph.Proofs.Build.Course
import TableGraph.Proofs.Fault.Call
import TableGraph.Proofs.Schema.Suggestions
import TableGraph.Proofs.Build.Faults
import TableGraph.Proofs.Build.Keys
import TableGraph.Proofs.Schema.Validity
import TableGraph.Proofs.Emission.Sequence
import TableGraph.Proofs.Schema.Printed
import TableGraph.Proofs.Build.Order
import TableGraph.Proofs.Resolver.Supplied
import TableGraph.Proofs.Schema.Names
import TableGraph.Proofs.Template.Data
import TableGraph.Proofs.Sql.Tokens
import TableGraph.Proofs.Fault.Table
import TableGraph.Proofs.Schema.Shapes
import TableGraph.Proofs.Template.Blocks
import TableGraph.Proofs.Scalar
import TableGraph.Proofs.DuckDb.Scalars
import TableGraph.Proofs.Command.Tables
import TableGraph.Proofs.DuckDb.Queries
import TableGraph.Proofs.DuckDb.Worker
import TableGraph.Proofs.Fault.Shared
import TableGraph.Proofs.Command.FileNames
import TableGraph.Proofs.Template.Indentation
