import HardwareIndex.Client.RemoteIndex
import HardwareIndex.Cluster.Operator
import HardwareIndex.Index.Session
import HardwareIndex.Main
import HardwareIndex.Service.Router
import HardwareIndex.Proofs.Index.Consistency
import HardwareIndex.Index.Run
import HardwareIndex.Proofs.Index.Coherence
import HardwareIndex.Proofs.Index.Settling
import HardwareIndex.Proofs.Index.Runs
import HardwareIndex.Proofs.Index.Integrity
import HardwareIndex.Proofs.Index.Readiness
import HardwareIndex.Proofs.Client.CacheEntries
import HardwareIndex.Proofs.Client.CacheIntegrity
import HardwareIndex.Proofs.Client.RecencyList
import HardwareIndex.Proofs.Client.CacheRecency
import HardwareIndex.Proofs.Resource.Kinds
import HardwareIndex.Proofs.Cluster.Mirroring
import HardwareIndex.Proofs.Cluster.Population
import HardwareIndex.Proofs.Text.Utf8
import HardwareIndex.Proofs.Http.Form
import HardwareIndex.Proofs.Json.Strings
import HardwareIndex.Client.Resolver
import HardwareIndex.Proofs.Service.Lookup
import HardwareIndex.Proofs.Service.Deployment
import HardwareIndex.Proofs.Service.Availability
import HardwareIndex.Proofs.Client.Calls
import HardwareIndex.Proofs.Client.Served
import HardwareIndex.Proofs.Client.Agreement
import HardwareIndex.Proofs.Client.SingleKeys
import HardwareIndex.Proofs.Address.Parsing
import HardwareIndex.Proofs.Index.Updates
import HardwareIndex.Proofs.Index.Commuting
import HardwareIndex.Proofs.Index.Undoing
import HardwareIndex.Proofs.Text.Decimal
import HardwareIndex.Proofs.Address.PrefixText
import HardwareIndex.Proofs.Address.LeadingBits
import HardwareIndex.Proofs.Index.Telling
import HardwareIndex.Proofs.Text.Utf8Order
import HardwareIndex.Proofs.Index.Classification
import HardwareIndex.Proofs.Observe.Metrics
import HardwareIndex.Proofs.Service.Outcome
import HardwareIndex.Proofs.Client.Caching
import HardwareIndex.Proofs.Address.Storage
import HardwareIndex.Proofs.Address.PrefixFaults
import HardwareIndex.Proofs.Address.WrittenForms
import HardwareIndex.Proofs.Address.Nesting
import HardwareIndex.Proofs.Resource.Validation
import HardwareIndex.Proofs.Address.Canonical
import HardwareIndex.Proofs.Json.Records
import HardwareIndex.Proofs.Json.MergePatch
import HardwareIndex.Proofs.Resource.Rewriting
import HardwareIndex.Proofs.Cluster.Convergence
import HardwareIndex.Proofs.Address.Checked
import HardwareIndex.Proofs.Address.Bounds
import HardwareIndex.Json.Skipping
import HardwareIndex.Client.NameBody
import HardwareIndex.Proofs.Index.Answers
import HardwareIndex.Proofs.Json.Skipping
import HardwareIndex.Proofs.Client.NameBody
