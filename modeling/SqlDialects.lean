import SqlDialects.Definition.Alteration
import SqlDialects.Definition.Database
import SqlDialects.Json.Text
import SqlDialects.Proofs.Catalog.AssembledConstraints
import SqlDialects.Proofs.Catalog.ConstraintGroups
import SqlDialects.Proofs.Catalog.CreatedTable
import SqlDialects.Proofs.Catalog.DefaultReading
import SqlDialects.Proofs.Catalog.DefinedCheck
import SqlDialects.Proofs.Catalog.IndexOrigin
import SqlDialects.Proofs.Catalog.Loading
import SqlDialects.Proofs.Catalog.PairedColumns
import SqlDialects.Proofs.Catalog.ReportedType
import SqlDialects.Proofs.Catalog.ServerVersion
import SqlDialects.Proofs.Catalog.Slicing
import SqlDialects.Proofs.Catalog.StoredCheck
import SqlDialects.Proofs.Catalog.TemporalType
import SqlDialects.Proofs.Definition.AddedDefinition
import SqlDialects.Proofs.Definition.AddressedTable
import SqlDialects.Proofs.Definition.BatchOrder
import SqlDialects.Proofs.Definition.BulkAlteration
import SqlDialects.Proofs.Definition.CastType
import SqlDialects.Proofs.Definition.CatalogDeletion
import SqlDialects.Proofs.Definition.ColumnText
import SqlDialects.Proofs.Definition.DeclaredKey
import SqlDialects.Proofs.Definition.PendingColumn
import SqlDialects.Proofs.Definition.RestatedDefault
import SqlDialects.Proofs.Definition.RestatedType
import SqlDialects.Proofs.Definition.StatedMoment
import SqlDialects.Proofs.Definition.UnmappedType
import SqlDialects.Proofs.Definition.UntoldChange
import SqlDialects.Proofs.Dialect.IdentifierReading
import SqlDialects.Proofs.Dialect.LiteralReading
import SqlDialects.Proofs.Query.Criterion
import SqlDialects.Proofs.Query.EmptyGroup
import SqlDialects.Proofs.Query.Grouping
import SqlDialects.Proofs.Query.InsertedRows
import SqlDialects.Proofs.Query.LexedMarkers
import SqlDialects.Proofs.Query.Refusal
import SqlDialects.Proofs.Query.Rescanning
import SqlDialects.Proofs.Query.StepOrder
import SqlDialects.Proofs.Query.Trace
import SqlDialects.Proofs.Query.Transparency
import SqlDialects.Proofs.Query.ValueIndependence
import SqlDialects.Proofs.Schema.OptionOrder
import SqlDialects.Proofs.Schema.StoredTable
import SqlDialects.Proofs.Schema.ToldChange
import SqlDialects.Proofs.Session.CommandRun
import SqlDialects.Query.Delete
import SqlDialects.Query.Insert
import SqlDialects.Query.Select
import SqlDialects.Query.Update
import SqlDialects.Schema.ColumnTemplate
import SqlDialects.Schema.TableJson
import SqlDialects.Session
