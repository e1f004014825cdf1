import MultiClusterGateway.Api.DNSPolicy
import MultiClusterGateway.Api.DNSRecord

set_option autoImplicit false

/-! # DNS providers (`pkg/dns/dns.go`)

The part of the `Provider` interface that publishes records. A call acts on the provider's zone;
what the service and the language leave open in it (a failing request, an iteration order) is an
argument of the call.

A call that fails may have been carried out in part: the Google provider sends a change in batches,
and the zone is then as the batches before the failure have left it. A program that is stopped
leaves no zone to go on with, so that a panic is a result of its own. The controller of
`DnsRecord.Controller` is written over any such provider, and `DnsRecord.Providers` says what it may
rely on for each of the two. -/

universe u

namespace MultiClusterGateway

/-- How a call ends: done, failed with an error, perhaps after part of it was carried out, or with
    the program stopped. -/
inductive CallResult (Zone : Type) where
  | done (zone : Zone)
  | failed (zone : Zone) (err : String)
  | panicked (reason : String)

/-- `Provider`, as far as records are concerned. A `Call` is what is open in one call of it. -/
structure Provider (Zone : Type) (Call : Type u) where
  ensure : Call → DNSRecord → ManagedZone → Zone → CallResult Zone
  delete : Call → DNSRecord → ManagedZone → Zone → CallResult Zone

end MultiClusterGateway
