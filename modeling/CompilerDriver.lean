import CompilerDriver.Incremental.Load
import CompilerDriver.Incremental.Save
import CompilerDriver.Json.Strict
import CompilerDriver.Main
import CompilerDriver.Storage.Disk
import CompilerDriver.Storage.Memory
import CompilerDriver.Wire.Diagnostic
import CompilerDriver.Wire.OutputFileMap
import CompilerDriver.Wire.Settings
import CompilerDriver.Proofs.Json.RoundTrip
import CompilerDriver.Proofs.Instant.RoundTrip
import CompilerDriver.Proofs.OrderedMap.Collecting
import CompilerDriver.Proofs.Wire.RoundTrip
import CompilerDriver.Proofs.BuildRecord.RoundTrip
import CompilerDriver.Proofs.Path.Components
import CompilerDriver.Proofs.Fingerprint.Options
import CompilerDriver.Proofs.Incremental.Steps
import CompilerDriver.Proofs.Incremental.Rerun
import CompilerDriver.Proofs.Incremental.Threads
import CompilerDriver.Proofs.Incremental.Interleaving
import CompilerDriver.Proofs.Incremental.Reuse
import CompilerDriver.Proofs.Path.Names
import CompilerDriver.Proofs.Text.Lossy
import CompilerDriver.Proofs.DriverOption.RoundTrip
import CompilerDriver.Proofs.Json.Prefixes
import CompilerDriver.Proofs.Incremental.Session
import CompilerDriver.Proofs.Incremental.Torn
import CompilerDriver.Proofs.CommandLine.Check
import CompilerDriver.Proofs.Planning.Agreement
import CompilerDriver.Proofs.Json.Documents
import CompilerDriver.Proofs.BuildRecord.Drift
import CompilerDriver.Proofs.Incremental.Fingerprint
import CompilerDriver.Proofs.BuildRecord.Validity
import CompilerDriver.Proofs.BuildRecord.Status
import CompilerDriver.Proofs.DriverOption.Concatenation
import CompilerDriver.Proofs.Incremental.Trust
import CompilerDriver.Proofs.DriverOption.Spelling
import CompilerDriver.Proofs.Incremental.Arrival
import CompilerDriver.Proofs.Incremental.Relative
import CompilerDriver.Proofs.Storage.Disk
import CompilerDriver.Proofs.Path.Siblings
import CompilerDriver.Proofs.Incremental.Graphs
import CompilerDriver.Proofs.OutputFileMap.RoundTrip
import CompilerDriver.Proofs.Planning.Relevance
import CompilerDriver.Proofs.Planning.Batches
import CompilerDriver.Proofs.Planning.Invocations
import CompilerDriver.Proofs.Planning.Aborts
import CompilerDriver.Proofs.Incremental.Completions
import CompilerDriver.Proofs.Text.Words
import CompilerDriver.Proofs.Planning.Parameters
import CompilerDriver.Proofs.Json.Strict
import CompilerDriver.Proofs.Wire.Values
