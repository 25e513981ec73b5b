import PreviewSync.Bytes
import PreviewSync.Bytes.Base64
import PreviewSync.Bytes.Hex
import PreviewSync.Cache.Basic
import PreviewSync.Cache.Document
import PreviewSync.Calendar.HttpDate
import PreviewSync.Calendar.Instant
import PreviewSync.Catalog.Difference
import PreviewSync.Catalog.Entry
import PreviewSync.Catalog.KeySet
import PreviewSync.CommandLine.Arguments
import PreviewSync.CommandLine.LogFilter
import PreviewSync.CommandLine.Manual
import PreviewSync.CommandLine.Run
import PreviewSync.CommandLine.ValuePattern
import PreviewSync.Config.Basic
import PreviewSync.Config.Document
import PreviewSync.Config.Environment
import PreviewSync.Deflate.Block
import PreviewSync.Deflate.Code
import PreviewSync.Deflate.Gzip
import PreviewSync.Digest.Crc32
import PreviewSync.Digest.Md5
import PreviewSync.Digest.Sha1
import PreviewSync.Disk.Basic
import PreviewSync.Disk.Path
import PreviewSync.Fault
import PreviewSync.Identity.AccessProfile
import PreviewSync.Identity.Destination
import PreviewSync.Jpeg.Encode
import PreviewSync.Jpeg.Outline
import PreviewSync.Jpeg.Table
import PreviewSync.Json.NameTable
import PreviewSync.Json.Reader
import PreviewSync.Json.Record
import PreviewSync.Json.Token
import PreviewSync.Json.Value
import PreviewSync.Log
import PreviewSync.Main
import PreviewSync.Png.Chunk
import PreviewSync.Png.Contents
import PreviewSync.Png.Decode
import PreviewSync.Png.Header
import PreviewSync.Preview.Codec
import PreviewSync.Preview.Image
import PreviewSync.Preview.Resample
import PreviewSync.Proofs.Bytes
import PreviewSync.Proofs.Bytes.Base64
import PreviewSync.Proofs.Bytes.Order
import PreviewSync.Proofs.Cache.Basic
import PreviewSync.Proofs.Cache.Document
import PreviewSync.Proofs.Cache.Durable
import PreviewSync.Proofs.Cache.Failure
import PreviewSync.Proofs.Cache.Recorded
import PreviewSync.Proofs.Cache.Renewal
import PreviewSync.Proofs.Calendar.HttpDate
import PreviewSync.Proofs.Catalog.Difference
import PreviewSync.Proofs.Catalog.Entry
import PreviewSync.Proofs.CommandLine.Run
import PreviewSync.Proofs.Disk.Place
import PreviewSync.Proofs.Identity.Destination
import PreviewSync.Proofs.Json.Documents
import PreviewSync.Proofs.Json.RoundTrip
import PreviewSync.Proofs.Preview.Buffer
import PreviewSync.Proofs.Preview.Dimensions
import PreviewSync.Proofs.Preview.Reencoding
import PreviewSync.Proofs.Runs
import PreviewSync.Proofs.Signature.Digest
import PreviewSync.Proofs.Signature.Escapes
import PreviewSync.Proofs.Signature.Resource
import PreviewSync.Proofs.Signature.RoundTrip
import PreviewSync.Proofs.Signature.Token
import PreviewSync.Proofs.Signature.Unambiguous
import PreviewSync.Proofs.Signature.Verification
import PreviewSync.Proofs.Store.Bindings
import PreviewSync.Proofs.Store.Cancellation
import PreviewSync.Proofs.Store.Delivery
import PreviewSync.Proofs.Store.Endpoint
import PreviewSync.Proofs.Store.Lifecycle
import PreviewSync.Proofs.Store.Location
import PreviewSync.Proofs.Store.Metadata
import PreviewSync.Proofs.Store.Observation
import PreviewSync.Proofs.Store.Operation
import PreviewSync.Proofs.Store.Preparation
import PreviewSync.Proofs.Store.Profiles
import PreviewSync.Proofs.Store.Redaction
import PreviewSync.Proofs.Store.Registry
import PreviewSync.Proofs.Store.Secrecy
import PreviewSync.Proofs.Store.Streaming
import PreviewSync.Proofs.Store.Transition
import PreviewSync.Proofs.Sync.Backing
import PreviewSync.Proofs.Sync.Batch
import PreviewSync.Proofs.Sync.CaughtUp
import PreviewSync.Proofs.Sync.Destinations
import PreviewSync.Proofs.Sync.Diary
import PreviewSync.Proofs.Sync.Evidence
import PreviewSync.Proofs.Sync.Frames
import PreviewSync.Proofs.Sync.Handshake
import PreviewSync.Proofs.Sync.Intent
import PreviewSync.Proofs.Sync.Item
import PreviewSync.Proofs.Sync.Levels
import PreviewSync.Proofs.Sync.Loading
import PreviewSync.Proofs.Sync.Passes
import PreviewSync.Proofs.Sync.Quiescence
import PreviewSync.Proofs.Sync.Refusal
import PreviewSync.Proofs.Sync.Reports
import PreviewSync.Proofs.Sync.Resumption
import PreviewSync.Proofs.Sync.Scene
import PreviewSync.Proofs.Sync.Setting
import PreviewSync.Proofs.Sync.Sharing
import PreviewSync.Proofs.Sync.SingleFlight
import PreviewSync.Proofs.Sync.Stopping
import PreviewSync.Proofs.Sync.Subjects
import PreviewSync.Proofs.Sync.Transition
import PreviewSync.Proofs.Sync.UpToDate
import PreviewSync.Proofs.Sync.Vigil
import PreviewSync.Proofs.Text.Ascii
import PreviewSync.Proofs.Text.Trim
import PreviewSync.Proofs.Watch.Watcher
import PreviewSync.Proofs.Wire.Address
import PreviewSync.Proofs.Wire.Authority
import PreviewSync.Proofs.Wire.Message
import PreviewSync.Proofs.Wire.Resource
import PreviewSync.Proofs.Wire.Site
import PreviewSync.Proofs.Wire.Target
import PreviewSync.Rehearsal.Codec
import PreviewSync.Rehearsal.Desk
import PreviewSync.Rehearsal.Errand
import PreviewSync.Rehearsal.Observation
import PreviewSync.Rehearsal.Reply
import PreviewSync.Rehearsal.Session
import PreviewSync.Rehearsal.Store
import PreviewSync.Rehearsal.Surroundings
import PreviewSync.Signature.Headers
import PreviewSync.Signature.Resource
import PreviewSync.Signature.Token
import PreviewSync.Store.Fault
import PreviewSync.Store.Metadata
import PreviewSync.Store.Operation
import PreviewSync.Store.Profiles
import PreviewSync.Store.ProfilesDocument
import PreviewSync.Store.Registry
import PreviewSync.Store.Reports
import PreviewSync.Store.Request
import PreviewSync.Sync.Batch
import PreviewSync.Sync.Fault
import PreviewSync.Sync.Hub
import PreviewSync.Sync.Item
import PreviewSync.Sync.Session
import PreviewSync.Text.Alphanumeric
import PreviewSync.Text.Decimal
import PreviewSync.Text.Hidden
import PreviewSync.Text.Quoted
import PreviewSync.Text.Trim
import PreviewSync.Watch.File
import PreviewSync.Watch.Watcher
import PreviewSync.Wire.Address
import PreviewSync.Wire.Body
import PreviewSync.Wire.Head
import PreviewSync.Wire.Message
import PreviewSync.Wire.Response
