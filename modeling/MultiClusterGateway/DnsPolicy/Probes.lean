import MultiClusterGateway.Api.DnsObjects
import MultiClusterGateway.DnsPolicy.Health

set_option autoImplicit false

/-! # The probes of a DNS policy (`pkg/controllers/dnspolicy/dnspolicy_healthchecks.go`)

The probes that a policy keeps for a Gateway, one for each address and listener, and how
`setEndpoints` finds them again: by the labels of the Gateway and the policy, and by a name that it
joins from an endpoint's target, the Gateway and the listener. An address in dotted decimal has no
dash, so that the first dash of such a name ends the address, and what a generated name has before
its first dash is no address. Hence a listener sees its own probes only
(`setEndpoints_own_probes`). -/

namespace MultiClusterGateway

/-! ## Labels -/

/-- `DNSPolicyBackRefAnnotation`, which is also the key of a label. -/
def dnsPolicyBackRef : String := "kuadrant.io/dnspolicy"
/-- The label for the namespace of the Gateway. -/
def labelGatewayNSRef : String := "kuadrant.io/gateway-namespace"
/-- The label for its name. -/
def labelGatewayReference : String := "kuadrant.io/gateway"
/-- The label for the listener. -/
def labelListenerReference : String := "kuadrant.io/listener-name"

/-- `commonDNSRecordLabels`: the labels by which the objects of a policy and a Gateway are listed.
    -/
def commonDNSRecordLabels (gwKey apKey : ObjectKey) : Labels :=
  [(dnsPolicyBackRef, apKey.name),
    (dnsPolicyBackRef ++ "-namespace", apKey.ns),
    (labelGatewayNSRef, gwKey.ns),
    (labelGatewayReference, gwKey.name)]

/-- An object with the labels of one Gateway and policy is selected for these only. -/
theorem commonDNSRecordLabels_matches {gwKey gwKey' apKey apKey' : ObjectKey} :
    (commonDNSRecordLabels gwKey apKey).matches (commonDNSRecordLabels gwKey' apKey') = true ↔
      gwKey = gwKey' ∧ apKey = apKey' := by
  obtain ⟨gwNs, gwName⟩ := gwKey
  obtain ⟨gwNs', gwName'⟩ := gwKey'
  obtain ⟨apNs, apName⟩ := apKey
  obtain ⟨apNs', apName'⟩ := apKey'
  simp only [Labels.matches, commonDNSRecordLabels, Labels.get?, dnsPolicyBackRef,
    labelGatewayNSRef, labelGatewayReference]
  simp
  tauto

/-! ## The expected probes -/

/-- `60 * time.Second`. -/
def defaultProbeInterval : Int := 60 * 1000000000

/-- What `withGatewayListener` notes on an object. -/
def gatewayListenerAnnotations (gw : Gateway) (listener : Listener) : Labels :=
  [("dnsrecord-name", dnsRecordName gw.name listener.name), ("dnsrecord-namespace", gw.ns)]

/-- The probe of a listener for one address. -/
def expectedProbe (gw : Gateway) (dnsPolicy : DNSPolicy) (healthCheck : HealthCheckSpec)
    (address : String) (listener : Listener) (hostname : String) : DNSHealthCheckProbe where
  metadata := {
    name := dnsHealthCheckProbeName address gw.name listener.name
    ns := gw.ns
    labels := commonDNSRecordLabels gw.key dnsPolicy.key
    annotations := gatewayListenerAnnotations gw listener }
  spec := {
    port := healthCheck.port.getD listener.port
    host := hostname
    address := address
    path := healthCheck.endpoint
    protocol := healthCheck.protocol.getD listener.protocol
    interval := healthCheck.interval.getD defaultProbeInterval
    additionalHeadersRef := healthCheck.additionalHeadersRef
    failureThreshold := healthCheck.failureThreshold
    expectedResponses := healthCheck.expectedResponses
    allowInsecureCertificate := healthCheck.allowInsecureCertificates }

/-- The loop over the listeners; the ones with a `*` in their hostname have no probes. -/
def expectedListenerProbes (gw : Gateway) (dnsPolicy : DNSPolicy) (healthCheck : HealthCheckSpec)
    (address : String) : List Listener → Except ApiError (List DNSHealthCheckProbe)
  | [] => .ok []
  | listener :: rest =>
    match listener.hostname with
    | none => .error nilPointer
    | some hostname => do
      let probes ← expectedListenerProbes gw dnsPolicy healthCheck address rest
      if hostname.toList.contains '*' then return probes
      else return expectedProbe gw dnsPolicy healthCheck address listener hostname :: probes

/-- The loop over the addresses. One that is not `<cluster>/<address>` ends it with no probes at
    all. -/
def expectedAddressProbes (gw : Gateway) (dnsPolicy : DNSPolicy) (healthCheck : HealthCheckSpec)
    (healthChecks : List DNSHealthCheckProbe) :
    List GatewayAddress → Except ApiError (List DNSHealthCheckProbe)
  | [] => .ok healthChecks
  | address :: rest =>
    match address.value.toList.splitOn '/' with
    | [_, value] => do
      let probes ←
        expectedListenerProbes gw dnsPolicy healthCheck (String.ofList value) gw.listeners
      expectedAddressProbes gw dnsPolicy healthCheck (healthChecks ++ probes) rest
    | _ => .ok []

/-- `expectedProbesForGateway`: none without a health check in the policy. -/
def expectedProbesForGateway (gw : Gateway) (dnsPolicy : DNSPolicy) :
    Except ApiError (List DNSHealthCheckProbe) :=
  match dnsPolicy.healthCheck with
  | none => .ok []
  | some healthCheck => expectedAddressProbes gw dnsPolicy healthCheck [] gw.addresses

/-! ## Listing them again -/

/-- The options of `getDNSHealthCheckProbes`. -/
def selectsProbe (gateway : Gateway) (dnsPolicy : DNSPolicy) (p : DNSHealthCheckProbe) : Bool :=
  p.metadata.ns == dnsPolicy.ns &&
    p.metadata.labels.matches (commonDNSRecordLabels gateway.key dnsPolicy.key)

/-- `getDNSHealthCheckProbes`. -/
def getDNSHealthCheckProbes {S : Type} (part : Part S ProbeStore) (gateway : Gateway)
    (dnsPolicy : DNSPolicy) : Api S (List DNSHealthCheckProbe) :=
  Api.list part (selectsProbe gateway dnsPolicy)

/-- What `getDNSHealthCheckProbes` returns. -/
def listedProbes (gateway : Gateway) (dnsPolicy : DNSPolicy) (probes : ProbeStore) :
    List DNSHealthCheckProbe :=
  probes.entries.filter (selectsProbe gateway dnsPolicy)

/-! ## Whom a probe was created for -/

/-- The probe in the store was created by `expectedProbesForGateway`, called at some time for the
    Gateway and the policy with these keys, for this address and the listener of this name. Its spec
    may have been updated and its status written since. -/
def CreatedFor (gwKey apKey : ObjectKey) (listenerName address : String)
    (p : DNSHealthCheckProbe) : Prop :=
  ∃ gw dnsPolicy healthCheck listener hostname probes,
    gw.key = gwKey ∧ dnsPolicy.key = apKey ∧ listener.name = listenerName ∧
    expectedProbesForGateway gw dnsPolicy = .ok probes ∧
    expectedProbe gw dnsPolicy healthCheck address listener hostname ∈ probes ∧
    p.metadata.key
      = (expectedProbe gw dnsPolicy healthCheck address listener hostname).metadata.key ∧
    p.metadata.labels
      = (expectedProbe gw dnsPolicy healthCheck address listener hostname).metadata.labels

section
variable {gwKey apKey : ObjectKey} {listenerName address : String} {p : DNSHealthCheckProbe}

theorem CreatedFor.key (h : CreatedFor gwKey apKey listenerName address p) :
    p.metadata.key = ⟨gwKey.ns, dnsHealthCheckProbeName address gwKey.name listenerName⟩ := by
  obtain ⟨gw, dnsPolicy, healthCheck, listener, hostname, probes, rfl, -, rfl, -, -, hkey, -⟩ := h
  exact hkey

theorem CreatedFor.name (h : CreatedFor gwKey apKey listenerName address p) :
    p.metadata.name = dnsHealthCheckProbeName address gwKey.name listenerName :=
  congrArg ObjectKey.name h.key

theorem CreatedFor.ns (h : CreatedFor gwKey apKey listenerName address p) :
    p.metadata.ns = gwKey.ns :=
  congrArg ObjectKey.ns h.key

theorem CreatedFor.labels (h : CreatedFor gwKey apKey listenerName address p) :
    p.metadata.labels = commonDNSRecordLabels gwKey apKey := by
  obtain ⟨gw, dnsPolicy, healthCheck, listener, hostname, probes, rfl, rfl, -, -, -, -, h⟩ := h
  exact h

/-- The probes that are listed are those of the Gateway and the policy. -/
theorem selectsProbe_iff {gateway : Gateway} {dnsPolicy : DNSPolicy}
    (hns : gateway.ns = dnsPolicy.ns) (h : CreatedFor gwKey apKey listenerName address p) :
    selectsProbe gateway dnsPolicy p = true ↔ gwKey = gateway.key ∧ apKey = dnsPolicy.key := by
  unfold selectsProbe
  rw [Bool.and_eq_true, beq_iff_eq, h.labels, commonDNSRecordLabels_matches, h.ns]
  refine ⟨fun hsel => hsel.2, fun heq => ⟨?_, heq⟩⟩
  rw [heq.1]
  exact hns

end

/-! ## Addresses and generated names -/

/-- Four groups of digits with dots between them. -/
def DottedDecimal (s : String) : Prop :=
  ∃ a b c d : List Char, s.toList = a ++ '.' :: b ++ '.' :: c ++ '.' :: d ∧
    ∀ group ∈ [a, b, c, d], group ≠ [] ∧ ∀ r ∈ group, r.isDigit = true

theorem DottedDecimal.not_mem_dash {s : String} (h : DottedDecimal s) : '-' ∉ s.toList := by
  obtain ⟨a, b, c, d, heq, hdigits⟩ := h
  have hdash : ∀ group ∈ [a, b, c, d], '-' ∉ group := fun group hg hmem =>
    absurd ((hdigits group hg).2 _ hmem) (by decide)
  rw [heq]
  simp only [List.mem_append, List.mem_cons, not_or]
  simp only [List.forall_mem_cons] at hdash
  simp [hdash.1, hdash.2.1, hdash.2.2.1, hdash.2.2.2.1]

theorem DottedDecimal.three_le_count {s : String} (h : DottedDecimal s) :
    3 ≤ s.toList.count '.' := by
  obtain ⟨a, b, c, d, heq, -⟩ := h
  rw [heq]
  simp only [List.count_append, List.count_cons_self]
  omega

/-- Up to its first dash a generated name has one dot at most. -/
theorem split_of_mem_generatedNames {env : Env} {t : MultiClusterGatewayTarget} {host name : String}
    (hgeo : ∀ c ∈ t.clusterGatewayTargets, Text.DotFree c.geo)
    (h : name ∈ generatedNames env t host) :
    ∃ x y, name.toList = x ++ '-' :: y ∧ x.count '.' ≤ 1 := by
  have hlb : ∃ y, (lbName env t host).toList = 'l' :: 'b' :: '-' :: y := by
    rw [lbName_eq]
    simp
  have hlabel : ∀ label : String, Text.DotFree label → ∃ x y,
      (label ++ "." ++ lbName env t host).toList = x ++ '-' :: y ∧ x.count '.' ≤ 1 := by
    intro label hdot
    obtain ⟨y, hy⟩ := hlb
    refine ⟨label.toList ++ ['.', 'l', 'b'], y, by simp [hy], ?_⟩
    rw [List.count_append, List.count_eq_zero.2 hdot]
    decide
  simp only [generatedNames, List.mem_cons, List.mem_flatMap] at h
  rcases h with rfl | ⟨c, hc, rfl | rfl | h⟩
  · obtain ⟨y, hy⟩ := hlb
    exact ⟨['l', 'b'], y, hy, by decide⟩
  · rw [geoLbName_eq]
    exact hlabel _ (Text.dotFree_toLower env.fold (hgeo c (mem_addressed.1 hc).1))
  · rw [clusterLbName_eq]
    exact hlabel _ (dotFree_hash _)
  · cases h

/-- A probe is named after an address; no generated name gives its name. -/
theorem dnsHealthCheckProbeName_ne {env : Env} {t : MultiClusterGatewayTarget} {host name : String}
    (hgeo : ∀ c ∈ t.clusterGatewayTargets, Text.DotFree c.geo)
    (hname : name ∈ generatedNames env t host) {address gatewayName l l' : String}
    (haddress : DottedDecimal address) :
    dnsHealthCheckProbeName name gatewayName l ≠ dnsHealthCheckProbeName address gatewayName l' := by
  intro heq
  obtain ⟨x, y, hsplit, hcount⟩ := split_of_mem_generatedNames hgeo hname
  have hlist := congrArg String.toList heq
  simp only [dnsHealthCheckProbeName, String.toList_append, hsplit, List.append_assoc,
    List.cons_append] at hlist
  have hbefore : address.toList <+: x :=
    Text.before_of_split haddress.not_mem_dash (hlist.symm.trans rfl)
  have := hbefore.sublist.count_le '.'
  have := haddress.three_le_count
  omega

theorem dnsHealthCheckProbeName_eq_iff {address address' gatewayName l l' : String}
    (h : DottedDecimal address) (h' : DottedDecimal address') :
    dnsHealthCheckProbeName address gatewayName l = dnsHealthCheckProbeName address' gatewayName l' ↔
      address = address' ∧ l = l' := by
  constructor
  · intro heq
    obtain ⟨rfl, hrecord⟩ := Text.split_at h.not_mem_dash h'.not_mem_dash heq
    exact ⟨rfl, dnsRecordName_inj.1 hrecord⟩
  · rintro ⟨rfl, rfl⟩
    rfl

/-! ## What a listener sees of the probes -/

/-- The probe was created for some Gateway, policy, listener and address; an address of the Gateway
    with this key is in dotted decimal. -/
def Created (gwKey : ObjectKey) (p : DNSHealthCheckProbe) : Prop :=
  ∃ gwKey' apKey listenerName address, CreatedFor gwKey' apKey listenerName address p ∧
    (gwKey' = gwKey → DottedDecimal address)

/-- The clusters have addresses in dotted decimal only, and geo codes of one label. -/
structure AddressedByIPv4 (t : MultiClusterGatewayTarget) : Prop where
  address : ∀ c ∈ t.clusterGatewayTargets, ∀ a ∈ c.gatewayAddresses,
    a.type = .ipAddress ∧ DottedDecimal a.value
  geo : ∀ c ∈ t.clusterGatewayTargets, Text.DotFree c.geo

section
variable {env : Env} {order : MapOrder} {t : MultiClusterGatewayTarget} {host : String}
  {endpoints : List Endpoint}

/-- A target is an address of a cluster or a generated name. -/
theorem address_or_generated {e : Endpoint}
    (he : e ∈ fullEndpoints env order t host endpoints) {target : String}
    (htarget : target ∈ e.targets) :
    (∃ c ∈ t.clusterGatewayTargets, ∃ a ∈ c.gatewayAddresses, a.value = target) ∨
      target ∈ generatedNames env t host := by
  obtain ⟨n, hn, hr⟩ := exists_node_of_mem_fullEndpoints he
  rw [hr.targets] at htarget
  by_cases hleaf : n.isLeaf = true
  · obtain ⟨c, hc, a, ha, rfl⟩ := targets_of_isLeaf hn hleaf htarget
    exact Or.inl ⟨c, (mem_addressed.1 hc).1, a, ha, rfl⟩
  · exact Or.inr (targets_of_not_isLeaf hn (Bool.eq_false_of_not_eq_true hleaf) htarget)

theorem mem_getProbesForEndpoint {e : Endpoint} {probes : List DNSHealthCheckProbe}
    {gatewayName listenerName : String} {p : DNSHealthCheckProbe} :
    p ∈ getProbesForEndpoint e probes gatewayName listenerName ↔
      p ∈ probes ∧ ∃ target ∈ e.targets,
        p.metadata.name = dnsHealthCheckProbeName target gatewayName listenerName := by
  simp only [getProbesForEndpoint, List.mem_flatMap, List.mem_map, List.mem_filter, beq_iff_eq]
  constructor
  · rintro ⟨q, hq, target, ⟨htarget, hname⟩, rfl⟩
    exact ⟨hq, target, htarget, hname.symm⟩
  · rintro ⟨hp, target, htarget, hname⟩
    exact ⟨p, hp, target, ⟨htarget, hname.symm⟩, rfl⟩

variable {dnsPolicy : DNSPolicy} {listenerName : String}

/-- A listed probe whose name the code makes from a target was created for that target and the
    listener, and the target is an address of a cluster. -/
theorem createdFor_of_name (hns : t.gateway.ns = dnsPolicy.ns) (ht : AddressedByIPv4 t)
    {p : DNSHealthCheckProbe} (hp : Created t.gateway.key p)
    (hselected : selectsProbe t.gateway dnsPolicy p = true) {e : Endpoint}
    (he : e ∈ fullEndpoints env order t host endpoints) {target : String}
    (htarget : target ∈ e.targets)
    (hname : p.metadata.name = dnsHealthCheckProbeName target t.gateway.name listenerName) :
    CreatedFor t.gateway.key dnsPolicy.key listenerName target p ∧
      ∃ c ∈ t.clusterGatewayTargets, ∃ a ∈ c.gatewayAddresses, a.value = target := by
  obtain ⟨gwKey, apKey, l, address, hcreated, hdecimal⟩ := hp
  obtain ⟨rfl, rfl⟩ := (selectsProbe_iff hns hcreated).1 hselected
  have haddress := hdecimal rfl
  have hnames : dnsHealthCheckProbeName target t.gateway.name listenerName
      = dnsHealthCheckProbeName address t.gateway.name l := hname.symm.trans hcreated.name
  rcases address_or_generated he htarget with ⟨c, hc, a, ha, rfl⟩ | hgenerated
  · have hip := (ht.address c hc a ha).2
    obtain ⟨rfl, rfl⟩ := (dnsHealthCheckProbeName_eq_iff hip haddress).1 hnames
    exact ⟨hcreated, c, hc, a, ha, rfl⟩
  · exact absurd hnames (dnsHealthCheckProbeName_ne ht.geo hgenerated haddress)

/-- The probes consulted for an endpoint are those created for its targets and the listener. -/
theorem consulted_iff (hns : t.gateway.ns = dnsPolicy.ns) (ht : AddressedByIPv4 t)
    {probes : ProbeStore} (hprobes : ∀ p ∈ probes.entries, Created t.gateway.key p) {e : Endpoint}
    (he : e ∈ fullEndpoints env order t host endpoints) (p : DNSHealthCheckProbe) :
    p ∈ getProbesForEndpoint e (listedProbes t.gateway dnsPolicy probes) t.gateway.name
        listenerName ↔
      p ∈ probes.entries ∧ ∃ address ∈ e.targets,
        CreatedFor t.gateway.key dnsPolicy.key listenerName address p := by
  rw [mem_getProbesForEndpoint]
  unfold listedProbes
  rw [List.mem_filter]
  constructor
  · rintro ⟨⟨hp, hselected⟩, target, htarget, hname⟩
    exact ⟨hp, target, htarget,
      (createdFor_of_name hns ht (hprobes p hp) hselected he htarget hname).1⟩
  · rintro ⟨hp, target, htarget, hcreated⟩
    exact ⟨⟨hp, (selectsProbe_iff hns hcreated).2 ⟨rfl, rfl⟩⟩, target, htarget, hcreated.name⟩

/-- A listener has one probe at most for an address. -/
theorem eq_of_createdFor {probes : ProbeStore} {gwKey apKey : ObjectKey} {address : String}
    {p q : DNSHealthCheckProbe} (hp : p ∈ probes.entries) (hq : q ∈ probes.entries)
    (hcreated : CreatedFor gwKey apKey listenerName address p)
    (hcreated' : CreatedFor gwKey apKey listenerName address q) : p = q := by
  have hkey : probeKind.key q = probeKind.key p := hcreated'.key.trans hcreated.key.symm
  have hget := Objects.mem_entries.1 hq
  rw [hkey, Objects.mem_entries.1 hp] at hget
  exact Option.some.inj hget

/-- Listeners do not see each other's probes, nor those of other Gateways and policies. Two stores
    that agree on the probes created for the listener and the addresses of the Gateway's clusters give
    the same endpoints, and an endpoint is checked by the probe created for each of its addresses, of
    which there is one at most. -/
theorem setEndpoints_own_probes (hns : t.gateway.ns = dnsPolicy.ns) (ht : AddressedByIPv4 t)
    {probes probes' : ProbeStore} (hprobes : ∀ p ∈ probes.entries, Created t.gateway.key p)
    (hprobes' : ∀ p ∈ probes'.entries, Created t.gateway.key p)
    (hagree : ∀ c ∈ t.clusterGatewayTargets, ∀ a ∈ c.gatewayAddresses, ∀ p,
      CreatedFor t.gateway.key dnsPolicy.key listenerName a.value p →
        (p ∈ probes.entries ↔ p ∈ probes'.entries)) :
    setEndpoints env order t endpoints (listedProbes t.gateway dnsPolicy probes) listenerName host
        = setEndpoints env order t endpoints (listedProbes t.gateway dnsPolicy probes') listenerName
            host ∧
      (∀ e ∈ setEndpoints env order t endpoints (listedProbes t.gateway dnsPolicy probes)
          listenerName host, ∀ p,
        p ∈ getProbesForEndpoint e (listedProbes t.gateway dnsPolicy probes) t.gateway.name
            listenerName ↔
          p ∈ probes.entries ∧ ∃ address ∈ e.targets,
            CreatedFor t.gateway.key dnsPolicy.key listenerName address p) ∧
      ∀ address, ∀ p ∈ probes.entries, ∀ q ∈ probes.entries,
        CreatedFor t.gateway.key dnsPolicy.key listenerName address p →
        CreatedFor t.gateway.key dnsPolicy.key listenerName address q → p = q := by
  refine ⟨publishEndpoints_congr fun e he => ?_, fun e he p =>
    consulted_iff hns ht hprobes (publishEndpoints_subset he) p,
    fun address p hp q hq => eq_of_createdFor hp hq⟩
  unfold probeFailed
  rw [Bool.eq_iff_iff, List.any_eq_true, List.any_eq_true]
  refine exists_congr fun p => and_congr_left fun _ => ?_
  rw [consulted_iff hns ht hprobes he, consulted_iff hns ht hprobes' he]
  -- a probe that is consulted under either store is one on which they agree
  have hsame : ∀ address ∈ e.targets, Created t.gateway.key p →
      CreatedFor t.gateway.key dnsPolicy.key listenerName address p →
      (p ∈ probes.entries ↔ p ∈ probes'.entries) := by
    intro address haddress hp hcreated
    have hselected := (selectsProbe_iff hns hcreated).2 ⟨rfl, rfl⟩
    obtain ⟨-, c, hc, a, ha, rfl⟩ :=
      createdFor_of_name hns ht hp hselected he haddress hcreated.name
    exact hagree c hc a ha p hcreated
  constructor
  · rintro ⟨hp, address, haddress, hcreated⟩
    exact ⟨(hsame address haddress (hprobes p hp) hcreated).1 hp, address, haddress, hcreated⟩
  · rintro ⟨hp, address, haddress, hcreated⟩
    exact ⟨(hsame address haddress (hprobes' p hp) hcreated).2 hp, address, haddress, hcreated⟩

end

/-! ## Two listeners on one address -/

def testListener : Listener := { name := "test", hostname := some "test.example.com" }

def apiListener : Listener := { name := "api", hostname := some "api.example.com" }

/-- A Gateway with two listeners and one address. -/
def probedGateway : Gateway where
  name := "testgw"
  ns := "testns"
  listeners := [testListener, apiListener]
  addresses := [⟨.ipAddress, "test-cluster-1/1.1.1.1"⟩]

/-- A policy with a health check and a threshold of four failures. -/
def probingPolicy : DNSPolicy where
  name := "probing"
  ns := "testns"
  targetRef := { group := "gateway.networking.k8s.io", kind := "Gateway", name := "testgw" }
  healthCheck := some { endpoint := "/healthz", failureThreshold := some 4 }

/-- The probe of a listener after some failures. -/
def probeAfter (listener : Listener) (failures : Int) : DNSHealthCheckProbe :=
  { expectedProbe probedGateway probingPolicy
      { endpoint := "/healthz", failureThreshold := some 4 } "1.1.1.1" listener
      (listener.hostname.getD "") with
    status := { consecutiveFailures := failures, healthy := some false } }

/-- The probes of both listeners after some failures. -/
def probesAfter (testFailures apiFailures : Int) : ProbeStore :=
  (Objects.put ∅ (probeAfter testListener testFailures)).put (probeAfter apiListener apiFailures)

theorem createdFor_probeAfter {listener : Listener} (h : listener ∈ probedGateway.listeners)
    (failures : Int) : CreatedFor probedGateway.key probingPolicy.key listener.name "1.1.1.1"
      (probeAfter listener failures) := by
  refine ⟨probedGateway, probingPolicy, { endpoint := "/healthz", failureThreshold := some 4 },
    listener, listener.hostname.getD "", _, rfl, rfl, rfl, rfl, ?_, rfl, rfl⟩
  simp only [probedGateway, List.mem_cons, List.not_mem_nil, or_false] at h
  rcases h with rfl | rfl
  · exact List.mem_cons_self
  · exact List.mem_cons_of_mem _ List.mem_cons_self

theorem mem_probesAfter {testFailures apiFailures : Int} {p : DNSHealthCheckProbe} :
    p ∈ (probesAfter testFailures apiFailures).entries ↔
      p = probeAfter testListener testFailures ∨ p = probeAfter apiListener apiFailures := by
  have : (probesAfter testFailures apiFailures).entries
      = [probeAfter testListener testFailures, probeAfter apiListener apiFailures] := rfl
  rw [this]
  simp

theorem dottedDecimal_test : DottedDecimal "1.1.1.1" :=
  ⟨['1'], ['1'], ['1'], ['1'], by simp, by simp⟩

theorem created_probesAfter {testFailures apiFailures : Int} :
    ∀ p ∈ (probesAfter testFailures apiFailures).entries, Created probedGateway.key p := by
  intro p hp
  rcases mem_probesAfter.1 hp with rfl | rfl
  · exact ⟨_, _, _, _, createdFor_probeAfter List.mem_cons_self _, fun _ => dottedDecimal_test⟩
  · exact ⟨_, _, _, _, createdFor_probeAfter (List.mem_cons_of_mem _ List.mem_cons_self) _,
      fun _ => dottedDecimal_test⟩

/-- The failures of the other listener's probe on the same address change nothing. -/
theorem setEndpoints_own_probes_test :
    let t : MultiClusterGatewayTarget :=
      { gateway := probedGateway, clusterGatewayTargets := [firstCluster], loadBalancing := none }
    setEndpoints .sample .inserted t [] (listedProbes probedGateway probingPolicy (probesAfter 2 0))
        "test" "test.example.com"
      = setEndpoints .sample .inserted t []
          (listedProbes probedGateway probingPolicy (probesAfter 2 7)) "test" "test.example.com" := by
  intro t
  refine (@setEndpoints_own_probes .sample .inserted t "test.example.com" [] probingPolicy "test" rfl
    ?_ (probesAfter 2 0) (probesAfter 2 7) created_probesAfter created_probesAfter ?_).1
  · refine ⟨?_, by decide⟩
    intro c hc a ha
    obtain rfl := List.mem_singleton.1 hc
    obtain rfl := List.mem_singleton.1 ha
    exact ⟨rfl, dottedDecimal_test⟩
  · intro c _ a _ p hcreated
    have hapi : ∀ failures, p ≠ probeAfter apiListener failures := by
      rintro failures rfl
      have hname : "1.1.1.1" ++ "-" ++ ("testgw" ++ "-" ++ "api")
          = a.value ++ "-" ++ ("testgw" ++ "-" ++ "test") := hcreated.name
      have hlast := congrArg (fun name => name.toList.getLast?) hname
      simp at hlast
    simp [mem_probesAfter, hapi]

end MultiClusterGateway
