import DocStore.CommandLine.Run
import DocStore.Directory
import DocStore.Load.Recorder
import DocStore.Main
import DocStore.Record.Types
import DocStore.Proofs.Store.Staging
import DocStore.Proofs.Store.Batch
import DocStore.Proofs.Load.Contents
import DocStore.Proofs.Load.Calls
import DocStore.Proofs.Load.Slices
import DocStore.Proofs.Load.Batches
import DocStore.Proofs.Load.Failure
import DocStore.Proofs.Load.Partition
import DocStore.Proofs.Store.Life
import DocStore.Proofs.Pipeline.Apply
import DocStore.Proofs.Pipeline.Form
import DocStore.Proofs.Pipeline.Readable
import DocStore.Proofs.Search.Compile
import DocStore.Proofs.Search.Insertions
import DocStore.Proofs.Search.Clauses
import DocStore.Proofs.CommandLine.Values
import DocStore.Proofs.Store.Draining
import DocStore.Proofs.Search.Results
import DocStore.Proofs.Search.Omissions
import DocStore.Proofs.Store.Advance
import DocStore.Proofs.Store.Identity
import DocStore.Proofs.Store.Counter
import DocStore.Proofs.Store.Generated
import DocStore.Proofs.Store.Overflow
import DocStore.Proofs.Store.Watching
import DocStore.Proofs.Store.Paging
import DocStore.Proofs.Store.Sessions
import DocStore.Proofs.Store.Numbering
import DocStore.Proofs.Store.Arrivals
import DocStore.Proofs.Store.Delivery
import DocStore.Proofs.Store.Aggregating
import DocStore.Proofs.Store.Parts
import DocStore.Proofs.Load.Replay
import DocStore.Proofs.Load.Whole
import DocStore.Proofs.Store.Outliving
import DocStore.Proofs.Store.Exhaustion
import DocStore.Proofs.Search.RoundTrip
import DocStore.Proofs.Store.Sources
import DocStore.Proofs.Search.Running
import DocStore.Proofs.Search.OwnFields
import DocStore.Proofs.CommandLine.Lines
import DocStore.Proofs.CommandLine.Runs
import DocStore.Proofs.CommandLine.Printing
import DocStore.Proofs.Values.Objects
import DocStore.Proofs.Values.ByteOrder
import DocStore.Proofs.Values.Equality
import DocStore.Proofs.Values.Doubles
import DocStore.Proofs.Values.Transitivity
import DocStore.Proofs.Values.Paths
import DocStore.Proofs.Store.Listing
import DocStore.Proofs.Pipeline.Normal
import DocStore.Proofs.Pipeline.Ignored
import DocStore.Proofs.Pipeline.Independence
import DocStore.Proofs.Pipeline.Symmetry
import DocStore.Proofs.Search.Identifiers
import DocStore.Proofs.Search.Grammar
import DocStore.Proofs.Search.Writing
import DocStore.Proofs.Reading.Texts
import DocStore.Proofs.Reading.Numerals
import DocStore.Proofs.Reading.Records
import DocStore.Proofs.Settings.Agreement
import DocStore.Proofs.Load.Sizes
import DocStore.Proofs.CommandLine.FieldNames
