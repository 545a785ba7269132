import TypedSql.Calendar.Unix
import TypedSql.Connection.Binding
import TypedSql.Connection.Execution
import TypedSql.Connection.Options
import TypedSql.Connection.Scratch
import TypedSql.Connection.Script
import TypedSql.Proofs.Statement.Arrangement
import TypedSql.Proofs.Statement.History
import TypedSql.Proofs.Statement.Builder
import TypedSql.Proofs.Statement.CallOrder
import TypedSql.Proofs.Statement.Alignment
import TypedSql.Proofs.Statement.OperandIndependence
import TypedSql.Proofs.Connection.FaithfulStore
import TypedSql.Proofs.Value.StoredOrder
import TypedSql.Proofs.Value.Survival
import TypedSql.Proofs.Connection.Confinement
import TypedSql.Proofs.Statement.WholeRows
import TypedSql.Proofs.Text.Lexing
import TypedSql.Proofs.Text.LowercaseName
import TypedSql.Proofs.Text.Wording
import TypedSql.Proofs.Statement.Wording
import TypedSql.Proofs.Statement.Naming
import TypedSql.Proofs.Calendar.OffsetFree
import TypedSql.Proofs.Connection.Catalog
import TypedSql.Proofs.Connection.Recording
import TypedSql.Proofs.Connection.TableCreation
import TypedSql.Proofs.Expression.OperandChecks
import TypedSql.Proofs.Statement.CheckedOperands
import TypedSql.Proofs.Json.NumberReading
import TypedSql.Proofs.Json.RoundTrip
import TypedSql.Proofs.Value.StoredDocuments
import TypedSql.Proofs.Expression.ConditionReading
import TypedSql.Proofs.Expression.ListedOperands
import TypedSql.Proofs.Statement.KeysLeftOut
import TypedSql.Proofs.Statement.FieldByField
import TypedSql.Proofs.Value.ExactStorage
import TypedSql.Proofs.Json.Sameness
import TypedSql.Proofs.Record.Materialization
import TypedSql.Proofs.Record.Update
import TypedSql.Proofs.Schema.DefinitionRoundTrip
import TypedSql.Proofs.Statement.InsertReference
import TypedSql.Proofs.Statement.AggregatedLists
import TypedSql.Proofs.Statement.SortDirections
import TypedSql.Proofs.Statement.RepeatedFields
import TypedSql.Proofs.Statement.NestedAggregates
