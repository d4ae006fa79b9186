import PowerDelivery.Main
import PowerDelivery.DataObject.Check
import PowerDelivery.Word.Packing
import PowerDelivery.Proofs.Outcome
import PowerDelivery.Proofs.Numeral
import PowerDelivery.Proofs.Text.Runs
import PowerDelivery.Proofs.Word.Fields
import PowerDelivery.Proofs.Word.Sum
import PowerDelivery.Proofs.Word.Packing
import PowerDelivery.Proofs.Attribute
import PowerDelivery.Proofs.Layout
import PowerDelivery.Proofs.Classification
import PowerDelivery.Proofs.Encoding
import PowerDelivery.Proofs.Scale
import PowerDelivery.Proofs.Numeral.Decimal
import PowerDelivery.Proofs.Scale.Exact
import PowerDelivery.Proofs.Decoding
import PowerDelivery.Proofs.Decoding.Total
import PowerDelivery.Proofs.Encoding.ReadBack
import PowerDelivery.Proofs.Encoding.Redisplay
import PowerDelivery.Proofs.Encoding.Sum
import PowerDelivery.Proofs.Encoding.Failure
import PowerDelivery.Proofs.Position
import PowerDelivery.Proofs.Events
import PowerDelivery.Proofs.Keyed
import PowerDelivery.Proofs.Query
import PowerDelivery.Proofs.Query.Decode
import PowerDelivery.Proofs.Table
import PowerDelivery.Proofs.CommandLine.Readings
import PowerDelivery.Proofs.CommandLine.Encoding
import PowerDelivery.Proofs.CommandLine.Run
import PowerDelivery.Proofs.CommandLine.TextMode
import PowerDelivery.Proofs.CommandLine.Arguments
import PowerDelivery.Proofs.CommandLine.Operations
import PowerDelivery.Proofs.CommandLine.Modes
import PowerDelivery.Proofs.DataObject
import PowerDelivery.Proofs.DataObject.Record
import PowerDelivery.Proofs.Encoding.Influence
import PowerDelivery.Proofs.Decoding.Request
import PowerDelivery.Proofs.Summary.Display
import PowerDelivery.Proofs.Decoding.Giveback
import PowerDelivery.Proofs.Literal
import PowerDelivery.Proofs.Attribute.Grammar
import PowerDelivery.Proofs.ReferenceCode
import PowerDelivery.Proofs.Literal.RoundTrip
import PowerDelivery.Proofs.DataObject.Views
import PowerDelivery.Proofs.Row
import PowerDelivery.Proofs.Table.Selection
import PowerDelivery.Proofs.Encoding.Notes
