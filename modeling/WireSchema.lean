import WireSchema.Wire.WireType
import WireSchema.Wire.Varint
import WireSchema.Wire.DecodeError
import WireSchema.Wire.Writer
import WireSchema.Wire.Buffer
import WireSchema.Wire.Allocator
import WireSchema.Text.CharSet
import WireSchema.Text.CaseTable
import WireSchema.Text.CaseContext
import WireSchema.Text.Casing
import WireSchema.Text.DecimalDigit
import WireSchema.Text.Lines
import WireSchema.Text.Printable
import WireSchema.Text.Quoted
import WireSchema.Text.Utf8
import WireSchema.Names.Keyword
import WireSchema.Names.Snake
import WireSchema.Names.Registry
import WireSchema.Schema
import WireSchema.Log
import WireSchema.Plan.Field
import WireSchema.Plan.Builder
import WireSchema.Plan.EnumScope
import WireSchema.Plan.Message
import WireSchema.Plan.Module
import WireSchema.Codec.Scope
import WireSchema.Codec.Encode
import WireSchema.Codec.Reader
import WireSchema.Codec.Session
import WireSchema.Path
import WireSchema.Descriptor.Basic
import WireSchema.Descriptor.Binary
import WireSchema.Descriptor.Layout
import WireSchema.Storage
import WireSchema.Run.World
import WireSchema.Run.Load
import WireSchema.Run.Generate
import WireSchema.CommandLine.Options
import WireSchema.CommandLine.Program
import WireSchema.Main
import WireSchema.Proofs.Record
import WireSchema.Proofs.ReadBack
import WireSchema.Proofs.VarintBytes
import WireSchema.Proofs.NumberedCodec
import WireSchema.Proofs.Slots
import WireSchema.Proofs.Names
import WireSchema.Proofs.Bridge
import WireSchema.Proofs.Scan
import WireSchema.Proofs.Replay
import WireSchema.Proofs.RoundTrip
import WireSchema.Proofs.Locality
import WireSchema.Proofs.Truncation
import WireSchema.Proofs.NormalForm
import WireSchema.Proofs.Ledger
import WireSchema.Proofs.Snake
import WireSchema.Proofs.Registry
import WireSchema.Proofs.Generation
import WireSchema.Proofs.Requests
import WireSchema.Proofs.LifeCycle
import WireSchema.Proofs.DistinctNames
import WireSchema.Proofs.Resolution
import WireSchema.Proofs.Stability
import WireSchema.Proofs.SkippedFields
import WireSchema.Proofs.FileSelection
import WireSchema.Proofs.Capture
import WireSchema.Proofs.Flattening
import WireSchema.Proofs.EnumMembers
import WireSchema.Proofs.Lines
import WireSchema.Proofs.TopLevel
import WireSchema.Proofs.Places
import WireSchema.Proofs.Written
