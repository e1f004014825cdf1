import MultiClusterGateway.TlsPolicy.Ownership

set_option autoImplicit false

/-! # The certificates cover the valid TLS listeners

`expectedCertificatesForGateway` groups the hostnames of the listeners it accepts by the secrets
that the listeners refer to. Both loops together go over the references of the accepted listeners
(`collectHosts_eq`), and `Grouped` says what the map has after any number of them.

A listener whose references have their group and kind is accepted if it has a hostname, terminates
TLS, and refers to at least one secret, and to none outside of its namespace (`accepted_iff`). There
is one certificate for each secret that an accepted listener refers to, with the hostnames of these
listeners in the order of the spec, and the listeners that are not accepted might as well not be
there. The statement is about every order in which the map is iterated, since only the order of the
certificates depends on it. -/

namespace MultiClusterGateway.TlsPolicy

/-! ## Listeners that are accepted -/

/-- The certificate references have their group and kind, as the Gateway API defaults them. -/
def Defaulted (l : GatewayListener) : Prop :=
  ∀ tls, l.tls = some tls → ∀ ref ∈ tls.certificateRefs, ref.group ≠ none ∧ ref.kind ≠ none

/-- The checks find nothing wrong with the listener. -/
def accepted (ns : String) (l : GatewayListener) : Bool :=
  match validateGatewayListenerBlock "" l ns with
  | .ok errs => errs.isEmpty
  | .error _ => false

/-- A reference to a secret of the namespace. -/
@[mk_iff] structure ValidRef (ns : String) (ref : SecretObjectReference) : Prop where
  group : ref.group = some "core" ∨ ref.group = some ""
  kind : ref.kind = some "Secret" ∨ ref.kind = some ""
  ns : ref.ns.getD ns = ns

/-- What the checks of a listener amount to. -/
@[mk_iff] structure ValidListener (ns : String) (l : GatewayListener) : Prop where
  hostname : l.hostname.getD "" ≠ ""
  tls : ∃ tls, l.tls = some tls ∧ tls.certificateRefs ≠ [] ∧
    (∀ ref ∈ tls.certificateRefs, ValidRef ns ref) ∧ tls.mode = some "Terminate"

section
variable {ns : String} {ref : SecretObjectReference} {l : GatewayListener}

theorem validateCertificateRef_eq (path ns : String) (hgroup : ref.group ≠ none)
    (hkind : ref.kind ≠ none) :
    ∃ errs, validateCertificateRef path ns ref = .ok errs ∧ (errs = [] ↔ ValidRef ns ref) := by
  obtain ⟨name, refNs, group, kind⟩ := ref
  obtain ⟨group, rfl⟩ := Option.ne_none_iff_exists'.1 hgroup
  obtain ⟨kind, rfl⟩ := Option.ne_none_iff_exists'.1 hkind
  refine ⟨_, rfl, ?_⟩
  rw [validRef_iff]
  cases refNs with
  | none => simp [or_iff_not_imp_left]
  | some refNs => simp [or_iff_not_imp_left]

theorem validateCertificateRefs_eq (path ns : String) {refs : List SecretObjectReference} (i : Nat)
    (h : ∀ ref ∈ refs, ref.group ≠ none ∧ ref.kind ≠ none) :
    ∃ errs, validateCertificateRefs path ns i refs = .ok errs ∧
      (errs = [] ↔ ∀ ref ∈ refs, ValidRef ns ref) := by
  induction refs generalizing i with
  | nil => exact ⟨[], rfl, by simp⟩
  | cons ref rest ih =>
      obtain ⟨href, hrest⟩ := List.forall_mem_cons.1 h
      obtain ⟨errs, herrs, hvalid⟩ := validateCertificateRef_eq
        (path ++ "[" ++ toString i ++ "]") ns href.1 href.2
      obtain ⟨more, hmore, hvalids⟩ := ih (i + 1) hrest
      refine ⟨errs ++ more, ?_, ?_⟩
      · rw [validateCertificateRefs, herrs, hmore]
        rfl
      · rw [List.append_eq_nil_iff, hvalid, hvalids, List.forall_mem_cons]

theorem validateGatewayListenerBlock_eq (path ns : String) (h : Defaulted l) :
    ∃ errs, validateGatewayListenerBlock path l ns = .ok errs ∧
      (errs = [] ↔ ValidListener ns l) := by
  unfold validateGatewayListenerBlock
  cases htls : l.tls with
  | none => exact ⟨_, rfl, by simp [validListener_iff, htls]⟩
  | some tls =>
      by_cases hnone : tls.certificateRefs = []
      · simp only [if_pos hnone]
        exact ⟨_, rfl, by simp [validListener_iff, htls, hnone]⟩
      · obtain ⟨errs, herrs, hvalid⟩ := validateCertificateRefs_eq
          (path ++ ".tls.certificateRef") ns 0 (h tls htls)
        simp only [if_neg hnone, herrs]
        refine ⟨_, rfl, ?_⟩
        cases hmode : tls.mode with
        | none => simp [validListener_iff, htls, hmode]
        | some mode => simp [validListener_iff, htls, hmode, hnone, hvalid]

theorem accepted_iff (h : Defaulted l) : accepted ns l = true ↔ ValidListener ns l := by
  obtain ⟨errs, herrs, hvalid⟩ := validateGatewayListenerBlock_eq "" ns h
  simp [accepted, herrs, hvalid]

end

/-! ## References -/

/-- The secrets that a listener refers to, each with its hostname. -/
def references (ns : String) (l : GatewayListener) : List (ObjectKey × String) :=
  match l.tls, l.hostname with
  | some tls, some hostname =>
    tls.certificateRefs.map fun ref => (⟨ref.ns.getD ns, ref.name⟩, hostname)
  | _, _ => []

/-- The references of the listeners that are accepted. -/
def acceptedReferences (gateway : GatewayObject) : List (ObjectKey × String) :=
  (gateway.spec.listeners.filter (accepted gateway.metadata.ns)).flatMap
    (references gateway.metadata.ns)

/-- One round of the loop over the references. -/
def addReference (tlsHosts : List (ObjectKey × List String)) (r : ObjectKey × String) :
    List (ObjectKey × List String) :=
  addHost tlsHosts r.1 r.2

section
variable {ns : String} {l : GatewayListener} {listeners : List GatewayListener}

theorem addListener_eq (tlsHosts : List (ObjectKey × List String)) (l : GatewayListener) :
    addListener ns tlsHosts l = (references ns l).foldl addReference tlsHosts := by
  unfold addListener references
  cases l.tls with
  | none => rfl
  | some tls =>
      cases l.hostname with
      | none => rfl
      | some hostname => rw [List.foldl_map]; rfl

/-- The loop goes over the references of the listeners that are accepted. -/
theorem collectHosts_eq (ns : String) (h : ∀ l ∈ listeners, Defaulted l) (i : Nat)
    (tlsHosts : List (ObjectKey × List String)) :
    collectHosts ns i listeners tlsHosts
      = .ok (((listeners.filter (accepted ns)).flatMap (references ns)).foldl addReference
          tlsHosts) := by
  induction listeners generalizing i tlsHosts with
  | nil => rfl
  | cons l rest ih =>
      obtain ⟨hl, hrest⟩ := List.forall_mem_cons.1 h
      obtain ⟨errs, herrs, hvalid⟩ :=
        validateGatewayListenerBlock_eq ("spec.listeners[" ++ toString i ++ "]") ns hl
      rw [← accepted_iff hl] at hvalid
      have hstep : collectHosts ns i (l :: rest) tlsHosts = collectHosts ns (i + 1) rest
          (if errs ≠ [] then tlsHosts else addListener ns tlsHosts l) := by
        rw [collectHosts, herrs]
        rfl
      rw [hstep, ih hrest]
      by_cases haccepted : accepted ns l = true
      · rw [if_neg (not_not.2 (hvalid.2 haccepted)), addListener_eq,
          List.filter_cons_of_pos haccepted, List.flatMap_cons, List.foldl_append]
      · rw [if_pos (mt hvalid.1 haccepted), List.filter_cons_of_neg haccepted]

end

/-! ## Grouping -/

/-- The entries of the map after the references: one for each secret, with the hosts in order. -/
structure Grouped (references : List (ObjectKey × String))
    (tlsHosts : List (ObjectKey × List String)) : Prop where
  nodup : (tlsHosts.map (·.1)).Nodup
  keys : ∀ key, key ∈ tlsHosts.map (·.1) ↔ key ∈ references.map (·.1)
  hosts : ∀ entry ∈ tlsHosts,
    entry.2 = (references.filter (fun r => r.1 = entry.1)).map (·.2)

section
variable {refs : List (ObjectKey × String)} {tlsHosts : List (ObjectKey × List String)}

theorem Grouped.add (h : Grouped refs tlsHosts) (r : ObjectKey × String) :
    Grouped (refs ++ [r]) (addReference tlsHosts r) := by
  refine ⟨nodup_addHost r.1 r.2 h.nodup, fun key => ?_, fun entry hentry => ?_⟩
  · have hkeys : key ∈ (addReference tlsHosts r).map (·.1)
        ↔ key ∈ tlsHosts.map (·.1) ∨ key = r.1 := by
      rw [addReference, map_fst_addHost]
      split
      · rename_i hmem
        refine ⟨.inl, ?_⟩
        rintro (hkey | rfl)
        · exact hkey
        · exact hmem
      · rw [List.mem_append, List.mem_singleton]
    rw [hkeys, h.keys, List.map_append, List.mem_append, List.map_singleton, List.mem_singleton]
  · rw [List.filter_append, List.map_append]
    unfold addReference addHost at hentry
    split at hentry
    · obtain ⟨old, hold, rfl⟩ := List.mem_map.1 hentry
      by_cases hsame : old.1 = r.1
      · rw [if_pos hsame]
        simp [h.hosts old hold, hsame]
      · rw [if_neg hsame]
        simp [h.hosts old hold, Ne.symm hsame]
    · rename_i hnew
      rcases List.mem_append.1 hentry with hold | hadded
      · have hne : r.1 ≠ entry.1 := by
          rintro heq
          exact hnew (heq ▸ List.mem_map_of_mem hold)
        simp [h.hosts entry hold, hne]
      · obtain rfl := List.mem_singleton.1 hadded
        have hnone : refs.filter (fun s => s.1 = r.1) = [] := by
          rw [List.filter_eq_nil_iff]
          intro s hs heq
          exact hnew ((h.keys _).2 (List.mem_map.2 ⟨s, hs, of_decide_eq_true heq⟩))
        simp [hnone]

theorem grouped_foldl (refs : List (ObjectKey × String)) :
    Grouped refs (refs.foldl addReference []) := by
  induction refs using List.reverseRecOn with
  | nil => exact ⟨List.nodup_nil, by simp, by simp⟩
  | append_singleton front r ih =>
      rw [List.foldl_append]
      exact ih.add r

end

/-! ## The certificates -/

/-- The certificates are those of the secrets that accepted listeners refer to. -/
structure CertificatesCover (gateway : GatewayObject) (certs : List Certificate) : Prop where
  distinct : (certs.map (·.metadata.key)).Nodup
  secrets : ∀ key, key ∈ certs.map (·.metadata.key) ↔ key ∈ (acceptedReferences gateway).map (·.1)
  ownNamespace : ∀ cert ∈ certs, cert.metadata.ns = gateway.metadata.ns
  secretName : ∀ cert ∈ certs, cert.spec.secretName = cert.metadata.name
  /-- in the order of the listeners and of the references in them -/
  dnsNames : ∀ cert ∈ certs, cert.spec.dnsNames
    = ((acceptedReferences gateway).filter (fun r => r.1 = cert.metadata.key)).map (·.2)

/-- The Gateway without the listeners that are not accepted. -/
def acceptedPart (gateway : GatewayObject) : GatewayObject :=
  { gateway with spec := { gateway.spec with
    listeners := gateway.spec.listeners.filter (accepted gateway.metadata.ns) } }

theorem ns_of_mem_acceptedReferences {gateway : GatewayObject}
    (h : ∀ l ∈ gateway.spec.listeners, Defaulted l) {r : ObjectKey × String}
    (hr : r ∈ acceptedReferences gateway) : r.1.ns = gateway.metadata.ns := by
  obtain ⟨l, hl, hr⟩ := List.mem_flatMap.1 hr
  obtain ⟨hl, haccepted⟩ := List.mem_filter.1 hl
  obtain ⟨-, tls, htls, -, hrefs, -⟩ := (accepted_iff (h l hl)).1 haccepted
  unfold references at hr
  rw [htls] at hr
  cases hhost : l.hostname with
  | none =>
      rw [hhost] at hr
      cases hr
  | some hostname =>
      rw [hhost] at hr
      obtain ⟨ref, href, rfl⟩ := List.mem_map.1 hr
      exact (hrefs ref href).ns

theorem expectedCertificatesForGateway_eq (order : MapOrder) {gateway : GatewayObject}
    (tlsPolicy : TLSPolicy) (h : ∀ l ∈ gateway.spec.listeners, Defaulted l) :
    expectedCertificatesForGateway order gateway tlsPolicy
      = .ok ((order.visit ((acceptedReferences gateway).foldl addReference [])).map fun entry =>
          buildCertManagerCertificate gateway.metadata.key tlsPolicy entry.1 entry.2) := by
  rw [expectedCertificatesForGateway, collectHosts_eq gateway.metadata.ns h]
  rfl

theorem acceptedReferences_acceptedPart (gateway : GatewayObject) :
    acceptedReferences (acceptedPart gateway) = acceptedReferences gateway := by
  simp [acceptedReferences, acceptedPart]

theorem expectedCertificatesForGateway_cover (order : MapOrder) (gateway : GatewayObject)
    (tlsPolicy : TLSPolicy) (hdefaulted : ∀ l ∈ gateway.spec.listeners, Defaulted l) :
    ∃ certs, expectedCertificatesForGateway order gateway tlsPolicy = .ok certs ∧
      CertificatesCover gateway certs ∧
      expectedCertificatesForGateway order (acceptedPart gateway) tlsPolicy = .ok certs := by
  have hexpected := expectedCertificatesForGateway_eq order tlsPolicy hdefaulted
  have hgrouped := grouped_foldl (acceptedReferences gateway)
  refine ⟨_, hexpected, ⟨expected_keys hexpected, ?_, ?_, ?_, ?_⟩, ?_⟩
  · intro key
    rw [← hgrouped.keys]
    simp only [List.map_map, List.mem_map, MapOrder.mem_visit]
    rfl
  · intro cert hcert
    obtain ⟨entry, hentry, rfl⟩ := List.mem_map.1 hcert
    have hkey := (hgrouped.keys entry.1).1 (List.mem_map_of_mem (order.mem_visit.1 hentry))
    obtain ⟨r, hr, heq⟩ := List.mem_map.1 hkey
    rw [← ns_of_mem_acceptedReferences hdefaulted hr, heq]
    rfl
  · intro cert hcert
    obtain ⟨entry, -, rfl⟩ := List.mem_map.1 hcert
    rfl
  · intro cert hcert
    obtain ⟨entry, hentry, rfl⟩ := List.mem_map.1 hcert
    exact hgrouped.hosts entry (order.mem_visit.1 hentry)
  · -- only the references count
    have hpart : ∀ l ∈ (acceptedPart gateway).spec.listeners, Defaulted l :=
      fun l hl => hdefaulted l (List.mem_filter.1 hl).1
    rw [expectedCertificatesForGateway_eq order tlsPolicy hpart, acceptedReferences_acceptedPart]
    rfl

/-- A listener with one certificate reference. -/
def tlsListener (host secret : String) (mode : Option String) : GatewayListener where
  name := host
  hostname := some host
  tls := some { mode := mode, certificateRefs := [{ name := secret }] }

/-- Two listeners that share a secret, and one without a mode. -/
def sharedSecretGateway : GatewayObject where
  metadata := { name := "gw", ns := "a" }
  spec := { listeners := [tlsListener "one.example.com" "shared" (some "Terminate"),
    tlsListener "bad.example.com" "other" none,
    tlsListener "two.example.com" "shared" (some "Terminate")] }

theorem expectedCertificatesForGateway_cover_shared :
    (∀ l ∈ sharedSecretGateway.spec.listeners, Defaulted l) ∧
    ∃ certs,
      expectedCertificatesForGateway .inserted sharedSecretGateway examplePolicy = .ok certs ∧
      CertificatesCover sharedSecretGateway certs ∧
      expectedCertificatesForGateway .inserted (acceptedPart sharedSecretGateway) examplePolicy
        = .ok certs := by
  have hdefaulted : ∀ l ∈ sharedSecretGateway.spec.listeners, Defaulted l := by
    simp [sharedSecretGateway, tlsListener, Defaulted]
  exact ⟨hdefaulted, expectedCertificatesForGateway_cover .inserted _ examplePolicy hdefaulted⟩

example : (acceptedReferences sharedSecretGateway)
    = [(⟨"a", "shared"⟩, "one.example.com"), (⟨"a", "shared"⟩, "two.example.com")] := by
  decide

end MultiClusterGateway.TlsPolicy
