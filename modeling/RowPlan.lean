import RowPlan.Execution.Affected
import RowPlan.Execution.Page
import RowPlan.Execution.Retry
import RowPlan.Execution.Rows
import RowPlan.Execution.Transaction
import RowPlan.Json.Printer
import RowPlan.Json.Reader
import RowPlan.Model.Codec
import RowPlan.Reading.Model
import RowPlan.Repository
import RowPlan.Proofs.Flattening
import RowPlan.Proofs.IdentityProjection
import RowPlan.Proofs.PlaceholderPlaces
import RowPlan.Proofs.BuiltTable
import RowPlan.Proofs.EntityPlan
import RowPlan.Proofs.InsertCommand
import RowPlan.Proofs.Drafts
import RowPlan.Proofs.Saving
import RowPlan.Proofs.BaseFunctions
import RowPlan.Proofs.Instance
import RowPlan.Proofs.LostUpdate
import RowPlan.Proofs.MarkedText
import RowPlan.Proofs.MarkerSlots
import RowPlan.Proofs.MarkerStyles
import RowPlan.Proofs.RoundTrip
import RowPlan.Proofs.SpelledSegments
import RowPlan.Proofs.DerivedCondition
import RowPlan.Proofs.GuardedDelete
import RowPlan.Proofs.TransactionEnding
import RowPlan.Proofs.ColumnDifferences
import RowPlan.Proofs.RuntimeOrder
import RowPlan.Proofs.PlannedFields
import RowPlan.Proofs.QueryText
import RowPlan.Proofs.SelectList
import RowPlan.Proofs.ValueSlots
import RowPlan.Proofs.ParameterUse
import RowPlan.Proofs.ResultPlan
import RowPlan.Proofs.DatabaseGroups
import RowPlan.Proofs.BaseMethods
import RowPlan.Proofs.DeclaredClasses
import RowPlan.Proofs.ExpansionStack
import RowPlan.Proofs.ExpandedTypes
import RowPlan.Proofs.ModelCodec
import RowPlan.Proofs.NullChecks
import RowPlan.Proofs.NegatedLists
import RowPlan.Proofs.OmittedParts
import RowPlan.Proofs.SegmentPlaces
import RowPlan.Proofs.ArraySlots
import RowPlan.Proofs.JsonCodec
import RowPlan.Proofs.JsonText
import RowPlan.Proofs.EntityGuard
import RowPlan.Proofs.TextParameters
import RowPlan.Proofs.FieldFaults
import RowPlan.Proofs.Paging
import RowPlan.Proofs.BoundFields
import RowPlan.Proofs.GivenCondition
import RowPlan.Proofs.BatchWrites
import RowPlan.Proofs.StructReferences
import RowPlan.Proofs.ModelClasses
import RowPlan.Proofs.TypeNames
import RowPlan.Proofs.ColumnPaths
import RowPlan.Proofs.CreatedTable
import RowPlan.Proofs.ColumnOrder
import RowPlan.Proofs.RetryCount
import RowPlan.Proofs.SortFields
import RowPlan.Proofs.ParameterOrder
import RowPlan.Proofs.QuotedIdentifiers
import RowPlan.Proofs.RowCap
import RowPlan.Proofs.KeySearch
import RowPlan.Proofs.BatchCounts
import RowPlan.Proofs.FunctionErrors
import RowPlan.Proofs.SourceFaults
import RowPlan.Proofs.RawNames
