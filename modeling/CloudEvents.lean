import CloudEvents.Fields
import CloudEvents.Text.Blank
import CloudEvents.Text.Split
import CloudEvents.Text.Quoted
import CloudEvents.Decimal.Layout
import CloudEvents.Encoding.Charset
import CloudEvents.Encoding.Base64
import CloudEvents.MediaType.Reader
import CloudEvents.Uri.Reader
import CloudEvents.Time.Reader
import CloudEvents.Value.Key
import CloudEvents.Value.Text
import CloudEvents.Json.Fault
import CloudEvents.Json.Reader
import CloudEvents.Json.Writer
import CloudEvents.Converter.Json
import CloudEvents.Message.Builder
import CloudEvents.Conversion.Structured
import CloudEvents.Handler
import CloudEvents.Proofs.Conversion.RoundTrip
import CloudEvents.Proofs.Conversion.Shape
import CloudEvents.Proofs.Message.Retarget
import CloudEvents.Proofs.Conversion.Branches
import CloudEvents.Proofs.Attribute.Order
import CloudEvents.Proofs.Attribute.Keys
import CloudEvents.Proofs.Attribute.Lookup
import CloudEvents.Proofs.Conversion.Body
import CloudEvents.Proofs.Conversion.Prefixes
import CloudEvents.Proofs.Encoding.Unicode
import CloudEvents.Proofs.Encoding.Charset
import CloudEvents.Proofs.Conversion.Data
import CloudEvents.Proofs.Conversion.Idempotence
import CloudEvents.Proofs.Conversion.ContentType
import CloudEvents.Proofs.Conversion.Accessors
import CloudEvents.Proofs.Conversion.Rewrap
import CloudEvents.Proofs.Tracing.Recording
import CloudEvents.Proofs.Tracing.Mode
import CloudEvents.Proofs.Message.History
import CloudEvents.Proofs.Message.Binary
import CloudEvents.Proofs.Conversion.Errors
import CloudEvents.Proofs.Converter.Errors
import CloudEvents.Proofs.Conversion.Payload
import CloudEvents.Proofs.Conversion.Reentry
import CloudEvents.Proofs.Handler
import CloudEvents.Proofs.Time.Rfc3339
import CloudEvents.Proofs.Ledger
import CloudEvents.Proofs.MediaType.RoundTrip
import CloudEvents.Proofs.Message.EventTime
import CloudEvents.Proofs.Time.Zulu
import CloudEvents.Proofs.MediaType.Inclusion
import CloudEvents.Proofs.Conversion.Syntax
