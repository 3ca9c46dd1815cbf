import BusDoc.Build
import BusDoc.Bus.Hubs
import BusDoc.Bus.Loopback
import BusDoc.Proofs.Binding.Claims
import BusDoc.Proofs.Binding.CodeLines
import BusDoc.Proofs.Binding.Footprint
import BusDoc.Proofs.Binding.Members
import BusDoc.Proofs.Binding.ModuleNames
import BusDoc.Proofs.Binding.ModuleTree
import BusDoc.Proofs.Binding.Permutation
import BusDoc.Proofs.Binding.PublicItems
import BusDoc.Proofs.Binding.RecordFields
import BusDoc.Proofs.Binding.Regeneration
import BusDoc.Proofs.Binding.TypeNames
import BusDoc.Proofs.Bus.Delivery
import BusDoc.Proofs.Bus.Watching
import BusDoc.Proofs.Corpus.Composition
import BusDoc.Proofs.Corpus.Declarations
import BusDoc.Proofs.Corpus.Filtering
import BusDoc.Proofs.Corpus.Malformed
import BusDoc.Proofs.Corpus.Passages
import BusDoc.Proofs.Corpus.Policies
import BusDoc.Proofs.Doc.BlockLines
import BusDoc.Proofs.Doc.InterfaceHeaders
import BusDoc.Proofs.Doc.OptionalMark
import BusDoc.Proofs.Doc.Partition
import BusDoc.Proofs.Doc.WrappedList
import BusDoc.Proofs.Doc.WrittenProperty
import BusDoc.Proofs.Doc.WrittenSignature
import BusDoc.Proofs.Doc.WrittenUnits
import BusDoc.Proofs.Files.Making
import BusDoc.Proofs.Record.Agreement
import BusDoc.Proofs.Record.Flatten
import BusDoc.Proofs.Record.Outcome
import BusDoc.Proofs.Record.Refresh
import BusDoc.Proofs.Record.RoundTrip
import BusDoc.Proofs.Record.Suppression
import BusDoc.Proofs.Record.TableFaults
import BusDoc.Proofs.Record.Update
import BusDoc.Proofs.Text.OneLine
import BusDoc.Proofs.Value.Conversion
import BusDoc.Record.Cache
import BusDoc.Record.Schema
import BusDoc.Record.Store
import BusDoc.Proofs.Bus.Hierarchy
import BusDoc.Proofs.Doc.Whitespace
import BusDoc.Proofs.Api.TypeSpelling
import BusDoc.Proofs.Binding.SnakeCase
import BusDoc.Proofs.Bus.Unpacking
import BusDoc.Proofs.Doc.DeclaredErrors
import BusDoc.Proofs.Json.Decode
import BusDoc.Proofs.Json.RoundTrip
import BusDoc.Proofs.Api.Exchange
import BusDoc.Proofs.Binding.ArgNames
import BusDoc.Proofs.Corpus.Discovery
import BusDoc.Proofs.Doc.Slices
import BusDoc.Proofs.Doc.Paragraph
import BusDoc.Proofs.Build
