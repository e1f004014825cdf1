import MultiClusterGateway.Lib.Text
import MultiClusterGateway.Lib.Order
import MultiClusterGateway.Lib.Heap
import MultiClusterGateway.Lib.Support
import MultiClusterGateway.Lib.Fallible
import MultiClusterGateway.Lib.Batch
import MultiClusterGateway.Lib.Run
import MultiClusterGateway.Api.DNSRecord
import MultiClusterGateway.Api.DNSPolicy
import MultiClusterGateway.Dns.Target
import MultiClusterGateway.Dns.Provider
import MultiClusterGateway.Dns.Route53
import MultiClusterGateway.Dns.Google
import MultiClusterGateway.Dns.Retry
import MultiClusterGateway.DnsPolicy.Names
import MultiClusterGateway.DnsPolicy.SetEndpoints
import MultiClusterGateway.DnsPolicy.EndpointTree
import MultiClusterGateway.DnsPolicy.BuiltEndpoints
import MultiClusterGateway.DnsPolicy.Pruning
import MultiClusterGateway.DnsPolicy.Health
import MultiClusterGateway.DnsPolicy.CatchAll
import MultiClusterGateway.DnsPolicy.Determinism
import MultiClusterGateway.DnsPolicy.Resolution
import MultiClusterGateway.DnsRecord.Controller
import MultiClusterGateway.DnsRecord.Machine
import MultiClusterGateway.DnsRecord.Invariants
import MultiClusterGateway.DnsRecord.Providers
import MultiClusterGateway.DnsRecord.Cleanup
import MultiClusterGateway.Api.Server
import MultiClusterGateway.Api.Gateway
import MultiClusterGateway.Placement.Ocm
import MultiClusterGateway.Placement.Changes
import MultiClusterGateway.Placement.Runs
import MultiClusterGateway.Placement.Isolation
import MultiClusterGateway.Placement.Permissions
import MultiClusterGateway.Placement.GracePeriod
import MultiClusterGateway.Gateway.Reconcile
import MultiClusterGateway.Gateway.Bundle
import MultiClusterGateway.Gateway.Deletion
import MultiClusterGateway.Gateway.Addresses
import MultiClusterGateway.Api.DnsObjects
import MultiClusterGateway.ManagedZone.Controller
import MultiClusterGateway.ManagedZone.Delegation
import MultiClusterGateway.TlsPolicy.Certificates
import MultiClusterGateway.TlsPolicy.Ownership
import MultiClusterGateway.DnsPolicy.Zones
import MultiClusterGateway.Dns.OneCall
import MultiClusterGateway.Dns.Agreement
import MultiClusterGateway.DnsPolicy.History
import MultiClusterGateway.DnsPolicy.Probes
import MultiClusterGateway.HealthCheck.Controller
import MultiClusterGateway.Lib.Optimistic
import MultiClusterGateway.HealthCheck.Counter
import MultiClusterGateway.HealthCheck.Monitor
import MultiClusterGateway.HealthCheck.Mirror
import MultiClusterGateway.DnsPolicy.Records
import MultiClusterGateway.DnsPolicy.Listeners
import MultiClusterGateway.DnsPolicy.Sharing
import MultiClusterGateway.Dns.Batches
import MultiClusterGateway.Dns.HealthChecks
import MultiClusterGateway.Dns.HealthCheckCache
import MultiClusterGateway.TlsPolicy.Coverage
import MultiClusterGateway.Gateway.Events
import MultiClusterGateway.DnsPolicy.SetIds
import MultiClusterGateway.Lib.Regions
import MultiClusterGateway.Placement.Success
import MultiClusterGateway.Placement.Removals
import MultiClusterGateway.Dns.Conversion
import MultiClusterGateway.Dns.Lossless
import MultiClusterGateway.DnsPolicy.RecordSets
import MultiClusterGateway.DnsPolicy.Repeated
import MultiClusterGateway.Api.Deletions
import MultiClusterGateway.DnsPolicy.Untouched
import MultiClusterGateway.DnsPolicy.Conflict
import MultiClusterGateway.DnsRecord.Convergence
import MultiClusterGateway.DnsRecord.Independence
import MultiClusterGateway.Api.Guarded
import MultiClusterGateway.Policy.Controller
import MultiClusterGateway.Policy.References
import MultiClusterGateway.Policy.Coverage
import MultiClusterGateway.Policy.Lifecycle
import MultiClusterGateway.DnsPolicy.Coverage
import MultiClusterGateway.DnsPolicy.Deletion
import MultiClusterGateway.DnsPolicy.Lifecycle
import MultiClusterGateway.TlsPolicy.Controller
import MultiClusterGateway.TlsPolicy.Repeated
import MultiClusterGateway.TlsPolicy.Lifecycle
