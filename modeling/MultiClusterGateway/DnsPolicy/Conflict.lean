import MultiClusterGateway.DnsPolicy.Untouched

set_option autoImplicit false

/-! # A Gateway that another policy has claimed

`reconcileResources` finds out that a Gateway is claimed by another policy after it has written its
records and probes, and it looks these up by name, not by policy. So a policy that is refused has
already put its own endpoints and health checks in the place of those of the other one. The records
and probes of the Gateway are as they were exactly if there was nothing to write
(`conflict_leaves_gateway_iff`). -/

namespace MultiClusterGateway

variable {ctx : PolicyContext} {target gw : GatewayObject} {dnsPolicy : DNSPolicy}
  {gatewayDiff : GatewayDiff}

/-! ## The steps before the claim -/

/-- The report of an error names its step, and writes Gateways only. -/
theorem reportFailure_eq_ok {stage : Stage} {err : ApiError} {w w' : Served PolicyHub}
    {result : Option ResourcesError}
    (h : reportFailure ctx target dnsPolicy gatewayDiff stage err w = (.ok result, w')) :
    w'.state.dns = w.state.dns ∧ ∃ updateErr, result = some (.failed stage err updateErr) := by
  have hkeeps : Api.Keeps PolicyHub.dns (reportFailure ctx target dnsPolicy gatewayDiff stage err) :=
    keeps_reportOnGateways fun _ _ => rfl
  have hw := hkeeps w
  rw [h] at hw
  exact ⟨hw, triple_reportOnGateways_result.of_ok trivial h⟩

/-- A step succeeds, or its error is the result. -/
theorem runStage_eq_ok {stage : Stage} {x : Api PolicyHub Unit}
    {next : Api PolicyHub (Option ResourcesError)} {w w' : Served PolicyHub}
    {result : Option ResourcesError}
    (h : runStage ctx target dnsPolicy gatewayDiff stage x next w = (.ok result, w')) :
    (∃ w₁, x w = (.ok (), w₁) ∧ next w₁ = (.ok result, w')) ∨
    ∃ err w₁ updateErr, x w = (.error err, w₁) ∧ result = some (.failed stage err updateErr) ∧
      w'.state.dns = w₁.state.dns := by
  refine (orReport_eq_ok h).imp_right ?_
  rintro ⟨err, w₁, herr, hreport⟩
  obtain ⟨hdns, updateErr, hresult⟩ := reportFailure_eq_ok hreport
  exact ⟨err, w₁, updateErr, herr, hresult, hdns⟩

/-- The steps of `reconcileResources` up to the claim, with calls that are all served. -/
theorem reconcileResources_upto_claim {hub : PolicyHub} {dns₁ dns₂ : DnsHub}
    (hvalid : dnsPolicy.validate ctx.formatDuration = .ok ())
    (hdiffs : ctx.computeGatewayDiffs = .ok gatewayDiff)
    (hrecords : reconcileDNSRecords ctx dnsPolicy.default gatewayDiff ⟨hub.dns, []⟩
      = (.ok (), ⟨dns₁, []⟩))
    (hchecks : reconcileHealthChecks dnsPolicy.default gatewayDiff ⟨dns₁, []⟩
      = (.ok (), ⟨dns₂, []⟩)) :
    reconcileResources ctx target dnsPolicy ⟨hub, []⟩
      = runStage ctx target dnsPolicy.default gatewayDiff .targetBackReference
          (Api.zoom policyGatewaysPart ctx.reconcileTargetBackReference)
          (runStage ctx target dnsPolicy.default gatewayDiff .gatewayPolicyReferences
            (Api.zoom policyGatewaysPart ctx.reconcileGatewayPolicyReferences)
            (reportSuccess ctx target dnsPolicy.default gatewayDiff))
          ⟨{ hub with dns := dns₂ }, []⟩ := by
  have hzoom {x : Api DnsHub Unit} {dns dns' : DnsHub} (h : x ⟨dns, []⟩ = (.ok (), ⟨dns', []⟩)) :
      Api.zoom dnsPart x ⟨{ hub with dns := dns }, []⟩
        = (.ok (), ⟨{ hub with dns := dns' }, []⟩) := by
    unfold Api.zoom
    show (_, _) = _
    rw [show dnsPart.get { hub with dns := dns } = dns from rfl, h]
    rfl
  unfold reconcileResources
  simp only [hvalid, hdiffs]
  exact (orReport_of_ok (hzoom hrecords)).trans (orReport_of_ok (hzoom hchecks))

/-- The records of a diff with one Gateway, that the policy is missing on. -/
theorem reconcileDNSRecords_missing {hub hub' : DnsHub}
    (h : reconcileGatewayDNSRecords ctx.env ctx.suffixes ctx.orders (ctx.placer gw.metadata.key) gw.view
      dnsPolicy ⟨hub, []⟩ = (.ok (), ⟨hub', []⟩)) :
    reconcileDNSRecords ctx dnsPolicy { gatewaysMissingPolicyRef := [gw] } ⟨hub, []⟩
      = (.ok (), ⟨hub', []⟩) :=
  Effect.bind_of_ok h

/-- Its probes. -/
theorem reconcileHealthChecks_missing {hub hub' : DnsHub}
    (h : reconcileGatewayProbes gw.view dnsPolicy ⟨hub, []⟩ = (.ok (), ⟨hub', []⟩)) :
    reconcileHealthChecks dnsPolicy { gatewaysMissingPolicyRef := [gw] } ⟨hub, []⟩
      = (.ok (), ⟨hub', []⟩) := by
  have hloop : Effect.forEach [gw] (fun gw => reconcileGatewayProbes gw.view dnsPolicy) ⟨hub, []⟩
      = (.ok (), ⟨hub', []⟩) := Effect.bind_of_ok h
  exact Effect.bind_of_ok hloop

theorem zoom_eq_ok {S T α : Type} {part : Part S T} {x : Api T α} {w w' : Served S} {a : α}
    (h : Api.zoom part x w = (.ok a, w')) :
    x ⟨part.get w.state, w.faults⟩ = (.ok a, ⟨part.get w'.state, w'.faults⟩) := by
  unfold Api.zoom at h
  rcases hx : x ⟨part.get w.state, w.faults⟩ with ⟨r, w₁⟩
  rw [hx] at h
  cases h
  rw [part.get_set]

/-- What follows the claim reports other errors. -/
theorem not_failed_targetBackReference {diff : GatewayDiff} {w w' : Served PolicyHub}
    {result : Option ResourcesError}
    (h : runStage ctx target dnsPolicy diff .gatewayPolicyReferences
      (Api.zoom policyGatewaysPart ctx.reconcileGatewayPolicyReferences)
      (reportSuccess ctx target dnsPolicy diff) w = (.ok result, w')) {err : ApiError}
    {updateErr : Option ApiError} : result ≠ some (.failed .targetBackReference err updateErr) := by
  rcases runStage_eq_ok h with ⟨w₁, -, hreport⟩ | ⟨_, _, _, -, rfl, -⟩
  · obtain ⟨failed, rfl⟩ := triple_reportOnGateways_result.of_ok trivial hreport
    cases failed with
    | none => simp
    | some e => simp
  · simp

/-- A call that is refused has written the records and the probes before. -/
theorem conflict_after_writes {diff : GatewayDiff} {err : ApiError} {updateErr : Option ApiError}
    {w w' : Served PolicyHub} (hdiffs : ctx.computeGatewayDiffs = .ok diff)
    (h : reconcileResources ctx target dnsPolicy w
      = (.ok (some (.failed .targetBackReference err updateErr)), w')) :
    ∃ w₁ w₂ : Served DnsHub,
      reconcileDNSRecords ctx dnsPolicy.default diff ⟨w.state.dns, w.faults⟩ = (.ok (), w₁) ∧
      reconcileHealthChecks dnsPolicy.default diff w₁ = (.ok (), w₂) ∧
      w'.state.dns = w₂.state := by
  unfold reconcileResources at h
  cases hvalid : dnsPolicy.validate ctx.formatDuration with
  | error message =>
      rw [hvalid] at h
      cases h
  | ok _ =>
      rw [hvalid, hdiffs] at h
      rcases runStage_eq_ok h with ⟨w₁, hrecords, h⟩ | ⟨_, _, _, -, hresult, -⟩
      · rcases runStage_eq_ok h with ⟨w₂, hprobes, h⟩ | ⟨_, _, _, -, hresult, -⟩
        · rcases runStage_eq_ok h with ⟨w₃, -, h⟩ | ⟨_, w₃, _, herror, -, hdns⟩
          · exact absurd rfl (not_failed_targetBackReference h)
          · -- the claim concerns the Gateways only
            have hkept : w₃.state.dns = w₂.state.dns := by
              have hzoom : (Api.zoom policyGatewaysPart ctx.reconcileTargetBackReference
                w₂).2.state.dns = w₂.state.dns := rfl
              rwa [herror] at hzoom
            exact ⟨_, _, zoom_eq_ok hrecords, zoom_eq_ok hprobes, hdns.trans hkept⟩
        · cases hresult
      · cases hresult

/-! ## The Gateways that no longer refer to the policy -/

/-- What is under a key when the records of such Gateways are gone. -/
def withoutInvalid (dnsPolicy : DNSPolicy) (gateways : List GatewayObject) (o : Option DNSRecord) :
    Option DNSRecord :=
  dnsRecordKind.deleteEach (fun gw => isRecordOf gw.view dnsPolicy) gateways o

/-- The records of other Gateways go. -/
theorem own_withoutInvalid {gwKey : ObjectKey} {gateways : List GatewayObject}
    (h : ∀ gw ∈ gateways, gw.metadata.key ≠ gwKey) (o : Option DNSRecord) :
    dnsRecordKind.own gwKey (withoutInvalid dnsPolicy gateways o) = dnsRecordKind.own gwKey o := by
  refine own_deleteEach_of_disjoint fun gw hgw record hrecord => ?_
  rw [← Bool.not_eq_true]
  intro hown
  exact h gw hgw ((ofGateway_of_matches hrecord).1 hown).symm

/-- What is under a key when the probes of such Gateways are gone. -/
def withoutInvalidProbes (dnsPolicy : DNSPolicy) (gateways : List GatewayObject)
    (o : Option DNSHealthCheckProbe) : Option DNSHealthCheckProbe :=
  probeKind.deleteEach (fun gw => isUnexpected [] gw.view dnsPolicy) gateways o

theorem own_withoutInvalidProbes {gwKey : ObjectKey} {gateways : List GatewayObject}
    (h : ∀ gw ∈ gateways, gw.metadata.key ≠ gwKey) (o : Option DNSHealthCheckProbe) :
    probeKind.own gwKey (withoutInvalidProbes dnsPolicy gateways o) = probeKind.own gwKey o := by
  refine own_deleteEach_of_disjoint fun gw hgw p hp => ?_
  rw [← Bool.not_eq_true]
  intro hown
  have hmatches := (Bool.and_eq_true _ _ ▸ hp).1
  exact h gw hgw ((ofGateway_of_matches hmatches).1 hown).symm

/-! ## Both phases -/

section
variable {diff : GatewayDiff} {clusters : List String} {expectedProbes : List DNSHealthCheckProbe}
  {w w' : Served DnsHub}

/-- The phase of the records, for a policy that refers to one Gateway. -/
theorem reconcileDNSRecords_untouched_iff (hreferred : diff.referred = [gw])
    (hinvalid : ∀ g ∈ diff.gatewaysWithInvalidPolicyRef, g.metadata.key ≠ gw.metadata.key)
    (hnames : (gw.view.listeners.map (·.name)).Nodup)
    (h : reconcileDNSRecords ctx dnsPolicy diff w = (.ok (), w')) :
    w'.state.probes = w.state.probes ∧ ∃ clusters,
      (ctx.placer gw.metadata.key).getPlacedClusters = .ok clusters ∧
      ((∀ k, dnsRecordKind.own gw.view.key (w'.state.records.get k)
        = dnsRecordKind.own gw.view.key (w.state.records.get k)) ↔
      RecordsSettled ctx.env ctx.orders (ctx.placer gw.metadata.key) gw.view dnsPolicy clusters
        (fun k => withoutInvalid dnsPolicy diff.gatewaysWithInvalidPolicyRef
          (w.state.records.get k)) w.state.probes) := by
  unfold reconcileDNSRecords at h
  obtain ⟨_, w₁, hremove, h⟩ := Effect.bind_eq_ok.1 h
  rw [hreferred] at h
  obtain ⟨_, w₂, hrecords, hend⟩ := Effect.bind_eq_ok.1 h
  cases hend
  have hremoved := (Api.triple_forEach_deleteEach
    (fun gw s₀ => @triple_deleteGatewayDNSRecords (GatewayObject.view gw) dnsPolicy s₀)
    diff.gatewaysWithInvalidPolicyRef w.state).of_ok rfl hremove
  have hget : w₁.state.records.get = fun k =>
      withoutInvalid dnsPolicy diff.gatewaysWithInvalidPolicyRef (w.state.records.get k) :=
    funext fun k => hremoved.get k
  have hprobes : w₁.state.probes = w.state.probes := by
    obtain ⟨records, hset, -⟩ := hremoved
    rw [hset]
    rfl
  cases hplaced : (ctx.placer gw.metadata.key).getPlacedClusters with
  | error e =>
      unfold reconcileGatewayDNSRecords at hrecords
      obtain ⟨_, w₃, -, hfail⟩ := Effect.bind_eq_ok.1 hrecords
      rw [hplaced] at hfail
      cases hfail
  | ok clusters =>
      have hloop := reconcileGatewayDNSRecords_ok hplaced hrecords
      have hkept : Api.Keeps DnsHub.probes (removeDNSForDeletedListeners gw.view) :=
        keeps_removeDNSForDeletedListeners fun _ _ => rfl
      have hown (o : Option DNSRecord) : dnsRecordKind.own gw.view.key
          (withoutInvalid dnsPolicy diff.gatewaysWithInvalidPolicyRef o)
            = dnsRecordKind.own gw.view.key o := own_withoutInvalid hinvalid o
      refine ⟨(hloop.frame.2.1.trans (hkept w₁)).trans hprobes, clusters, rfl, ?_⟩
      rw [← hget, ← hprobes, ← records_untouched_iff hrecords hplaced hnames]
      refine forall_congr' fun k => ?_
      rw [congrFun hget k, hown]

/-- The phase of the probes. -/
theorem reconcileHealthChecks_untouched_iff (hreferred : diff.referred = [gw])
    (hinvalid : ∀ g ∈ diff.gatewaysWithInvalidPolicyRef, g.metadata.key ≠ gw.metadata.key)
    (h : reconcileHealthChecks dnsPolicy diff w = (.ok (), w')) :
    w'.state.records = w.state.records ∧ ∃ expectedProbes,
      expectedProbesForGateway gw.view dnsPolicy = .ok expectedProbes ∧
      ((∀ k, probeKind.own gw.view.key (w'.state.probes.get k)
        = probeKind.own gw.view.key (w.state.probes.get k)) ↔
      ∀ k, ProbeSettled expectedProbes gw.view dnsPolicy k (w.state.probes.get k)) := by
  unfold reconcileHealthChecks at h
  rw [hreferred] at h
  obtain ⟨_, w₁, hfirst, hremove⟩ := Effect.bind_eq_ok.1 h
  obtain ⟨_, w₂, hprobes, hend⟩ := Effect.bind_eq_ok.1 hfirst
  cases hend
  have hremoved := (Api.triple_forEach_deleteEach (fun gw s₀ => (triple_mapError
      (@triple_deleteUnexpectedGatewayProbes (GatewayObject.view gw) dnsPolicy s₀ []) _).mono
        (fun _ h => h) (fun _ _ h => h) fun _ _ _ => trivial)
    diff.gatewaysWithInvalidPolicyRef w₁.state).of_ok rfl hremove
  have hget (k : ObjectKey) : w'.state.probes.get k
      = withoutInvalidProbes dnsPolicy diff.gatewaysWithInvalidPolicyRef (w₁.state.probes.get k) :=
    hremoved.get k
  have hown (o : Option DNSHealthCheckProbe) : probeKind.own gw.view.key
      (withoutInvalidProbes dnsPolicy diff.gatewaysWithInvalidPolicyRef o)
        = probeKind.own gw.view.key o := own_withoutInvalidProbes hinvalid o
  have hrecords : w'.state.records = w₁.state.records := by
    obtain ⟨probes, hset, -⟩ := hremoved
    rw [hset]
    rfl
  cases hexpected : expectedProbesForGateway gw.view dnsPolicy with
  | error e =>
      change reconcileGatewayProbes gw.view dnsPolicy w = _ at hprobes
      unfold reconcileGatewayProbes at hprobes
      rw [hexpected] at hprobes
      cases hprobes
  | ok expectedProbes =>
      obtain ⟨hsame, hiff⟩ := probes_untouched_iff hprobes hexpected
      refine ⟨hrecords.trans hsame, expectedProbes, rfl, ?_⟩
      rw [← hiff]
      refine forall_congr' fun k => ?_
      rw [hget, hown]

end

/-- There is nothing to write for the Gateway: its records have the endpoints that the call sets, its
    probes the specs, and what the call removes is being deleted. -/
structure Settled (ctx : PolicyContext) (dnsPolicy : DNSPolicy) (gw : GatewayObject)
    (diff : GatewayDiff) (hub : DnsHub) : Prop where
  records : ∀ clusters, (ctx.placer gw.metadata.key).getPlacedClusters = .ok clusters →
    RecordsSettled ctx.env ctx.orders (ctx.placer gw.metadata.key) gw.view dnsPolicy clusters
      (fun k => withoutInvalid dnsPolicy diff.gatewaysWithInvalidPolicyRef (hub.records.get k))
      hub.probes
  probes : ∀ expectedProbes, expectedProbesForGateway gw.view dnsPolicy = .ok expectedProbes →
    ∀ k, ProbeSettled expectedProbes gw.view dnsPolicy k (hub.probes.get k)

/-- A call that is refused because the Gateway is claimed by another policy leaves the records and
    probes of the Gateway as they are exactly if there was nothing to write for it. -/
theorem conflict_leaves_gateway_iff (ctx : PolicyContext) (dnsPolicy : DNSPolicy)
    (target gw : GatewayObject) (diff : GatewayDiff) (w w' : Served PolicyHub) (err : ApiError)
    (updateErr : Option ApiError) (hdiffs : ctx.computeGatewayDiffs = .ok diff)
    (hreferred : diff.referred = [gw]) (htarget : gw.metadata.key = target.metadata.key)
    (hinvalid : ∀ g ∈ diff.gatewaysWithInvalidPolicyRef, g.metadata.key ≠ gw.metadata.key)
    (hnames : (gw.view.listeners.map (·.name)).Nodup)
    (herr : reconcileResources ctx target dnsPolicy w
      = (.ok (some (.failed .targetBackReference err updateErr)), w')) :
    GatewayUntouched target.metadata.key w.state.dns w'.state.dns ↔
      Settled ctx dnsPolicy.default gw diff w.state.dns := by
  obtain ⟨w₁, w₂, hrecords, hprobes, hend⟩ := conflict_after_writes hdiffs herr
  obtain ⟨hprobesKept, clusters, hclusters, hrecordsIff⟩ :=
    reconcileDNSRecords_untouched_iff hreferred hinvalid hnames hrecords
  obtain ⟨hrecordsKept, expectedProbes, hexpected, hprobesIff⟩ :=
    reconcileHealthChecks_untouched_iff hreferred hinvalid hprobes
  rw [hprobesKept] at hprobesIff
  have hkey : gw.view.key = target.metadata.key := htarget
  rw [hkey] at hrecordsIff hprobesIff
  rw [hend]
  constructor
  · intro h
    refine ⟨fun clusters' hclusters' => ?_, fun expectedProbes' hexpected' => ?_⟩
    · cases hclusters.symm.trans hclusters'
      refine hrecordsIff.1 fun k => ?_
      rw [← hrecordsKept]
      exact h.records k
    · cases hexpected.symm.trans hexpected'
      exact hprobesIff.1 h.probes
  · intro h
    refine ⟨fun k => ?_, hprobesIff.2 (h.probes expectedProbes hexpected)⟩
    rw [hrecordsKept]
    exact hrecordsIff.2 (h.records clusters hclusters) k

/-! ## Two policies for one Gateway -/

/-- `ObjectKey.String`. -/
def ObjectKey.text (k : ObjectKey) : String := k.ns ++ "/" ++ k.name

/-- The policy that the annotation of the Gateway claims it for, if it is another one. -/
def claimedByOther (dnsPolicy : DNSPolicy) (target : GatewayObject) : Option String :=
  (target.metadata.annotations.get? dnsPolicyBackRef).filter
    (fun holder => holder != dnsPolicy.key.text)

namespace ConflictSample

open ListenerSample (placerWith gatewayWith hubAfter zone zonedHub targetOf withRecord)

/-- The Gateway with its listener, claimed by the policy `probing`. -/
def claimedGateway : GatewayObject where
  metadata := {
    name := "testgw"
    ns := "testns"
    annotations := [(dnsPolicyBackRef, probingPolicy.key.text)] }
  spec := { listeners := [⟨testListener, none⟩] }
  status := { addresses := probedGateway.addresses }

/-- A second policy for the Gateway, with a weight of its own. -/
def otherPolicy : DNSPolicy where
  name := "other"
  ns := "testns"
  targetRef := probingPolicy.targetRef
  loadBalancing := some { weighted := some { defaultWeight := 60 } }

/-- A claim that is refused for a Gateway of another policy. -/
def claim (dnsPolicy : DNSPolicy) : Api (Objects gatewayKind) Unit :=
  match claimedByOther dnsPolicy claimedGateway with
  | some holder => Effect.fail ⟨.other, "claimed by " ++ holder⟩
  | none => pure ()

/-- The answers for a policy that refers to the Gateway, with routes for some listeners. -/
def contextWith (dnsPolicy : DNSPolicy) (routes : String → Nat) : PolicyContext where
  env := .sample
  suffixes := .topLevel
  orders _ := .inserted
  placer _ := placerWith routes
  computeGatewayDiffs := .ok { gatewaysMissingPolicyRef := [claimedGateway] }
  reconcileTargetBackReference := claim dnsPolicy
  reconcileGatewayPolicyReferences := pure ()
  formatDuration _ := ""
  groupVersionKind := "kuadrant.io/v1alpha1, Kind=DNSPolicy"

/-- The hub with the Gateway on it. -/
def policyHub (hub : DnsHub) : PolicyHub where
  dns := hub
  gateways := Objects.put ∅ claimedGateway

/-- A policy of the name `other` is refused, after its records and probes have been written. -/
theorem reconcileResources_refused {dnsPolicy : DNSPolicy} {routes : String → Nat}
    {hub hub₁ hub₂ : DnsHub} (hkey : dnsPolicy.key = otherPolicy.key)
    (hvalid : dnsPolicy.validate (fun _ => "") = .ok ()) (hdefault : dnsPolicy.default = dnsPolicy)
    (hrecords : reconcileGatewayDNSRecords .sample .topLevel (fun _ => .inserted)
      (placerWith routes) (gatewayWith [testListener]) dnsPolicy ⟨hub, []⟩ = (.ok (), ⟨hub₁, []⟩))
    (hprobes : reconcileGatewayProbes (gatewayWith [testListener]) dnsPolicy ⟨hub₁, []⟩
      = (.ok (), ⟨hub₂, []⟩)) :
    ∃ err w', reconcileResources (contextWith dnsPolicy routes) claimedGateway dnsPolicy
        ⟨policyHub hub, []⟩ = (.ok (some (.failed .targetBackReference err none)), w') ∧
      w'.state.dns = hub₂ := by
  have hclaim : claim dnsPolicy = Effect.fail ⟨.other, "claimed by testns/probing"⟩ := by
    unfold claim claimedByOther
    rw [hkey]
    rfl
  have hupto := @reconcileResources_upto_claim (contextWith dnsPolicy routes) claimedGateway dnsPolicy
    _ (policyHub hub) hub₁ hub₂ hvalid rfl (reconcileDNSRecords_missing (hdefault.symm ▸ hrecords))
    (reconcileHealthChecks_missing (hdefault.symm ▸ hprobes))
  rw [hupto, show (contextWith dnsPolicy routes).reconcileTargetBackReference = claim dnsPolicy from rfl,
    hclaim]
  exact ⟨_, _, rfl, rfl⟩

/-! ### A policy with the same endpoints and probes -/

/-- The record of the listener as the first policy has left it. -/
def claimedRecord : DNSRecord :=
  let record := buildDNSRecordForListener (gatewayWith [testListener]) probingPolicy testListener
    (zone "example" "example.com")
  record.withEndpoints (ListenerSample.endpointsAfter (gatewayWith [testListener])
    "test.example.com" [])

/-- The hub as the first policy has left it, before it has made its probe. -/
def claimedHub : DnsHub := hubAfter (gatewayWith [testListener]) testListener "test.example.com"

/-- A second policy that asks for what the first one has made. -/
def twinPolicy : DNSPolicy where
  name := "other"
  ns := "testns"
  targetRef := probingPolicy.targetRef
  healthCheck := probingPolicy.default.healthCheck

/-- The probe that a policy expects for the address of the Gateway. -/
def probeOf (dnsPolicy : DNSPolicy) : DNSHealthCheckProbe :=
  expectedProbe (gatewayWith [testListener]) dnsPolicy
    { endpoint := "/healthz", failureThreshold := some 4, interval := some (30 * 1000000000),
      protocol := some httpsProtocol } "1.1.1.1" testListener "test.example.com"

theorem expectedProbes_twin : expectedProbesForGateway (gatewayWith [testListener]) twinPolicy
    = .ok [probeOf twinPolicy] := rfl

/-- The hub with the record and the probe of the first policy. -/
def probedHub : DnsHub := { claimedHub with probes := Objects.put ∅ (probeOf probingPolicy) }

theorem listedProbes_twin : listedProbes (gatewayWith [testListener]) twinPolicy probedHub.probes
    = [] := by decide

theorem setEndpoints_twin : setEndpoints .sample .inserted (targetOf (gatewayWith [testListener]))
    claimedRecord.spec.endpoints
    (listedProbes (gatewayWith [testListener]) twinPolicy probedHub.probes) testListener.name
      "test.example.com" = claimedRecord.spec.endpoints := by
  rw [listedProbes_twin, setEndpoints_no_probes]
  decide

theorem reconcileGatewayDNSRecords_twin :
    reconcileGatewayDNSRecords .sample .topLevel (fun _ => .inserted) (placerWith fun _ => 1)
      (gatewayWith [testListener]) twinPolicy ⟨probedHub, []⟩ = (.ok (), ⟨probedHub, []⟩) := by
  have hzone : selectedZone Env.sample.fold .topLevel probedHub (gatewayWith [testListener]).ns
      "test.example.com" = some (zone "example" "example.com") := ListenerSample.selectedZone_after
  have hcollect : collectClusterGateways (placerWith fun _ => 1) testListener.name
      ["test-cluster-1"] = .ok [⟨{ name := "test-cluster-1" }, [⟨.ipAddress, "1.1.1.1"⟩]⟩] := rfl
  have hobtained : Obtained (gatewayWith [testListener]) twinPolicy testListener
      (zone "example" "example.com") probedHub claimedRecord probedHub := Or.inl ⟨rfl, rfl⟩
  have hnew : MultiClusterGatewayTarget.new (gatewayWith [testListener])
      [⟨{ name := "test-cluster-1" }, [⟨.ipAddress, "1.1.1.1"⟩]⟩] twinPolicy.loadBalancing
      = .ok (targetOf (gatewayWith [testListener])) := rfl
  have hround : reconcileListener .sample .topLevel (fun _ => .inserted) (placerWith fun _ => 1)
      (gatewayWith [testListener]) twinPolicy ["test-cluster-1"] testListener ⟨probedHub, []⟩
      = (.ok .next, ⟨probedHub, []⟩) :=
    reconcileListener_of_no_faults rfl hzone hcollect (List.cons_ne_nil _ _) hobtained hnew
      setEndpoints_twin (Or.inl ⟨rfl, rfl⟩)
  exact reconcileListeners_next [] hround

theorem get_probedHub {k : ObjectKey} {record : DNSRecord}
    (h : probedHub.records.get k = some record) : record = claimedRecord := by
  have hmem : record ∈ probedHub.records.entries :=
    Objects.mem_entries.2 ((Objects.key_of_get h).symm ▸ h)
  have hentries : probedHub.records.entries = [claimedRecord] := rfl
  rwa [hentries, List.mem_singleton] at hmem

theorem get_probedHub_probes {k : ObjectKey} {p : DNSHealthCheckProbe}
    (h : probedHub.probes.get k = some p) : p = probeOf probingPolicy := by
  have hmem : p ∈ probedHub.probes.entries :=
    Objects.mem_entries.2 ((Objects.key_of_get h).symm ▸ h)
  have hentries : probedHub.probes.entries = [probeOf probingPolicy] := rfl
  rwa [hentries, List.mem_singleton] at hmem

/-- The record has the endpoints, and the probe the spec, that the second policy asks for. -/
theorem settled_twin :
    Settled (contextWith twinPolicy fun _ => 1) twinPolicy claimedGateway
      { gatewaysMissingPolicyRef := [claimedGateway] } probedHub where
  records clusters hclusters := by
    cases hclusters
    refine ⟨fun k record hown hstale => ?_, fun listener hl => ?_, fun first rest hdrop => ?_⟩
    · rw [get_probedHub (own_eq_some.1 hown).1] at hstale
      exact absurd hstale (by decide)
    · have hvisited : visited (placerWith fun _ => 1) ["test-cluster-1"] [testListener]
          = [testListener] := by decide
      change listener ∈ visited (placerWith fun _ => 1) ["test-cluster-1"] [testListener] at hl
      rw [hvisited, List.mem_singleton] at hl
      subst hl
      exact ⟨claimedRecord, rfl, fun _ => congrArg some setEndpoints_twin⟩
    · have hnone : [testListener].dropWhile (hasRoutes (placerWith fun _ => 1) ["test-cluster-1"])
          = [] := by decide
      exact absurd (hnone.symm.trans hdrop) (List.cons_ne_nil _ _).symm
  probes expectedProbes hexpected := by
    obtain rfl : [probeOf twinPolicy] = expectedProbes :=
      Except.ok.inj (expectedProbes_twin.symm.trans hexpected)
    intro k
    refine ⟨fun e he => ?_, fun p hp hunexpected => ?_⟩
    · have hkey : k = (probeOf probingPolicy).metadata.key ∧ e = probeOf twinPolicy := by
        have hmem := mem_of_lastExpected he
        rw [List.mem_singleton] at hmem
        exact ⟨hmem.2.symm.trans (congrArg (fun e => e.metadata.key) hmem.1), hmem.1⟩
      obtain ⟨rfl, rfl⟩ := hkey
      exact ⟨probeOf probingPolicy, rfl, fun _ => rfl⟩
    · rw [get_probedHub_probes hp] at hunexpected
      exact absurd hunexpected (by decide)

/-- A call that is refused, for a Gateway with a record and a probe, with nothing to write. -/
theorem conflict_leaves_gateway_iff_twin : ∃ err w',
    claimedByOther twinPolicy claimedGateway = some "testns/probing" ∧
    reconcileResources (contextWith twinPolicy fun _ => 1) claimedGateway twinPolicy
      ⟨policyHub probedHub, []⟩ = (.ok (some (.failed .targetBackReference err none)), w') ∧
    GatewayUntouched claimedGateway.metadata.key probedHub w'.state.dns := by
  have hprobes : ∃ hub, reconcileGatewayProbes (gatewayWith [testListener]) twinPolicy
      ⟨probedHub, []⟩ = (.ok (), ⟨hub, []⟩) := by
    unfold reconcileGatewayProbes
    rw [expectedProbes_twin]
    exact ⟨_, rfl⟩
  obtain ⟨hub, hprobes⟩ := hprobes
  obtain ⟨err, w', hrefused, -⟩ :=
    @reconcileResources_refused twinPolicy _ _ _ _ rfl rfl rfl reconcileGatewayDNSRecords_twin
      hprobes
  refine ⟨err, w', by decide, hrefused, ?_⟩
  exact (conflict_leaves_gateway_iff (contextWith twinPolicy fun _ => 1) twinPolicy claimedGateway
    claimedGateway { gatewaysMissingPolicyRef := [claimedGateway] } ⟨policyHub probedHub, []⟩ w' err
    none rfl rfl rfl (fun g hg => absurd hg List.not_mem_nil) (by decide) hrefused).2 settled_twin

/-! ### A policy with another weight -/

/-- What the second policy publishes. -/
def otherTarget : MultiClusterGatewayTarget where
  gateway := gatewayWith [testListener]
  clusterGatewayTargets :=
    [{ cluster := { name := "test-cluster-1" }
       gatewayAddresses := [⟨.ipAddress, "1.1.1.1"⟩], geo := "default", weight := 60 }]
  loadBalancing := otherPolicy.loadBalancing

/-- The record with the endpoints of the second policy. -/
def overwrittenRecord : DNSRecord :=
  claimedRecord.withEndpoints (fullEndpoints .sample .inserted otherTarget "test.example.com"
    claimedRecord.spec.endpoints)

/-- The weights that a record gives to its endpoints. -/
def weights (record : DNSRecord) : List (Option String) :=
  record.spec.endpoints.map fun e =>
    (e.getProviderSpecificProperty providerSpecificWeight).map (·.value)

theorem reconcileListener_other :
    reconcileListener .sample .topLevel (fun _ => .inserted) (placerWith fun _ => 1)
      (gatewayWith [testListener]) otherPolicy ["test-cluster-1"] testListener ⟨claimedHub, []⟩
      = (.ok .next, ⟨withRecord claimedHub overwrittenRecord, []⟩) := by
  have hzone : selectedZone Env.sample.fold .topLevel claimedHub (gatewayWith [testListener]).ns
      "test.example.com" = some (zone "example" "example.com") :=
    selectedZone_child "example.com" "com" (by decide) (by decide) (by decide) (by decide)
      (by decide) (by decide)
  have hcollect : collectClusterGateways (placerWith fun _ => 1) testListener.name
      ["test-cluster-1"] = .ok [⟨{ name := "test-cluster-1" }, [⟨.ipAddress, "1.1.1.1"⟩]⟩] := rfl
  have hobtained : Obtained (gatewayWith [testListener]) otherPolicy testListener
      (zone "example" "example.com") claimedHub claimedRecord claimedHub := Or.inl ⟨rfl, rfl⟩
  have hnew : MultiClusterGatewayTarget.new (gatewayWith [testListener])
      [⟨{ name := "test-cluster-1" }, [⟨.ipAddress, "1.1.1.1"⟩]⟩] otherPolicy.loadBalancing
      = .ok otherTarget := rfl
  have hendpoints : setEndpoints .sample .inserted otherTarget claimedRecord.spec.endpoints
      (listedProbes (gatewayWith [testListener]) otherPolicy claimedHub.probes) testListener.name
      "test.example.com" = overwrittenRecord.spec.endpoints := setEndpoints_no_probes _ _ _ _ _ _
  have hchanged : overwrittenRecord.spec.endpoints ≠ claimedRecord.spec.endpoints := by decide
  exact reconcileListener_of_no_faults rfl hzone hcollect (List.cons_ne_nil _ _) hobtained hnew
    hendpoints (Or.inr ⟨hchanged, rfl⟩)

/-- The policy asks for no probes, and there are none. -/
theorem reconcileGatewayProbes_other {hub : DnsHub} (h : hub.probes = ∅) :
    reconcileGatewayProbes (gatewayWith [testListener]) otherPolicy ⟨hub, []⟩
      = (.ok (), ⟨hub, []⟩) := by
  obtain ⟨records, zones, probes⟩ := hub
  cases h
  rfl

/-- The second policy is refused, and the endpoints of the first one have its weight. -/
theorem conflict_overwrites_weight : ∃ err w',
    claimedByOther otherPolicy claimedGateway = some "testns/probing" ∧
    reconcileResources (contextWith otherPolicy fun _ => 1) claimedGateway otherPolicy
      ⟨policyHub claimedHub, []⟩ = (.ok (some (.failed .targetBackReference err none)), w') ∧
    claimedHub.records.get (dnsRecordKey probedGateway "test") = some claimedRecord ∧
    weights claimedRecord = [none, some "120", none, none] ∧
    w'.state.dns.records.get (dnsRecordKey probedGateway "test") = some overwrittenRecord ∧
    weights overwrittenRecord = [none, some "60", none, none] ∧
    ¬ GatewayUntouched claimedGateway.metadata.key claimedHub w'.state.dns := by
  have hcall : reconcileGatewayDNSRecords .sample .topLevel (fun _ => .inserted)
      (placerWith fun _ => 1) (gatewayWith [testListener]) otherPolicy ⟨claimedHub, []⟩
      = (.ok (), ⟨withRecord claimedHub overwrittenRecord, []⟩) :=
    reconcileListeners_next [] reconcileListener_other
  obtain ⟨err, w', hrefused, hdns⟩ := @reconcileResources_refused otherPolicy _ _ _ _ rfl rfl
    rfl hcall (reconcileGatewayProbes_other rfl)
  have hget : w'.state.dns.records.get (dnsRecordKey probedGateway "test")
      = some overwrittenRecord := by
    rw [hdns]
    rfl
  refine ⟨err, w', by decide, hrefused, rfl, by decide, hget, by decide, fun h => ?_⟩
  have hsame := h.records (dnsRecordKey probedGateway "test")
  rw [hget] at hsame
  have hweights := congrArg (Option.map weights) hsame
  revert hweights
  decide

end ConflictSample

end MultiClusterGateway
