import MultiClusterGateway.TlsPolicy.Certificates

set_option autoImplicit false

/-! # Whose certificates a TLS policy touches

The certificates of a Gateway and a policy carry labels. Certificates are deleted by these labels, but
updated by name, whatever labels they carry. So a certificate without the labels is left alone exactly
if its name is not expected, or its spec is the expected one already.

What is never touched is said whatever calls fail. For the converse all calls have to be served, as
a call that fails may well leave a certificate alone. `untouched_iff` has both directions in one
statement. The last section shows that the condition can fail: two Gateways of a namespace whose
listeners refer to the same secret overwrite each other's certificate, each one putting in its own
hosts. -/

namespace MultiClusterGateway.TlsPolicy

/-- The certificate carries the labels of a Gateway and a policy. -/
def Carries (gwKey apKey : ObjectKey) (cert : Certificate) : Prop :=
  cert.metadata.labels.matches (tlsCertificateLabels gwKey apKey) = true

instance (gwKey apKey : ObjectKey) (cert : Certificate) : Decidable (Carries gwKey apKey cert) :=
  inferInstanceAs (Decidable (_ = true))

/-- Every certificate that does not carry the labels is as it was. -/
def Untouched (gwKey apKey : ObjectKey) (certs certs' : Certificates) : Prop :=
  ∀ k cert, certs.get k = some cert → ¬ Carries gwKey apKey cert → certs'.get k = some cert

/-- A certificate carries the labels of one Gateway and policy only. -/
theorem carries_unique {gwKey gwKey' apKey apKey' : ObjectKey} {cert : Certificate}
    (h : Carries gwKey apKey cert) (h' : Carries gwKey' apKey' cert) :
    gwKey = gwKey' ∧ apKey = apKey' := by
  simp only [Carries, Labels.matches, tlsCertificateLabels, List.all_cons, List.all_nil,
    Bool.and_true, Bool.and_eq_true, beq_iff_eq] at h h'
  obtain ⟨hname, hns, hgwns, hgwname⟩ := h
  obtain ⟨hname', hns', hgwns', hgwname'⟩ := h'
  rw [hname] at hname'
  rw [hns] at hns'
  rw [hgwns] at hgwns'
  rw [hgwname] at hgwname'
  cases gwKey
  cases gwKey'
  cases apKey
  cases apKey'
  simp_all

/-! ## The keys of the expected certificates -/

theorem map_fst_addHost (tlsHosts : List (ObjectKey × List String)) (ref : ObjectKey)
    (host : String) : (addHost tlsHosts ref host).map (·.1)
      = if ref ∈ tlsHosts.map (·.1) then tlsHosts.map (·.1) else tlsHosts.map (·.1) ++ [ref] := by
  unfold addHost
  split
  · rw [List.map_map]
    apply List.map_congr_left
    intro entry _
    by_cases hentry : entry.1 = ref
    · simp [hentry]
    · simp [hentry]
  · exact List.map_append

theorem nodup_addHost {tlsHosts : List (ObjectKey × List String)} (ref : ObjectKey) (host : String)
    (h : (tlsHosts.map (·.1)).Nodup) : ((addHost tlsHosts ref host).map (·.1)).Nodup := by
  rw [map_fst_addHost]
  split
  · exact h
  · rename_i hnew
    rw [List.nodup_append]
    refine ⟨h, by simp, ?_⟩
    intro a ha b hb hab
    rw [List.mem_singleton] at hb
    subst hb
    exact hnew (hab ▸ ha)

theorem nodup_addListener {tlsHosts : List (ObjectKey × List String)} (ns : String)
    (l : GatewayListener) (h : (tlsHosts.map (·.1)).Nodup) :
    ((addListener ns tlsHosts l).map (·.1)).Nodup := by
  unfold addListener
  split
  · rename_i tls hostname _ _
    induction tls.certificateRefs generalizing tlsHosts with
    | nil => exact h
    | cons ref rest ih => exact ih (nodup_addHost _ hostname h)
  · exact h

theorem nodup_collectHosts {ns : String} {i : Nat} {listeners : List GatewayListener}
    {tlsHosts found : List (ObjectKey × List String)} (h : (tlsHosts.map (·.1)).Nodup)
    (hfound : collectHosts ns i listeners tlsHosts = .ok found) : (found.map (·.1)).Nodup := by
  induction listeners generalizing i tlsHosts with
  | nil =>
      cases hfound
      exact h
  | cons l rest ih =>
      unfold collectHosts at hfound
      cases herrs : validateGatewayListenerBlock ("spec.listeners[" ++ toString i ++ "]") l ns with
      | error e =>
          rw [herrs] at hfound
          cases hfound
      | ok errs =>
          rw [herrs] at hfound
          refine ih ?_ hfound
          split
          · exact h
          · exact nodup_addListener ns l h

variable {gateway : GatewayObject} {tlsPolicy : TLSPolicy} {order : MapOrder}
  {expected : List Certificate}

theorem expected_eq (h : expectedCertificatesForGateway order gateway tlsPolicy = .ok expected) :
    ∃ tlsHosts, collectHosts gateway.metadata.ns 0 gateway.spec.listeners [] = .ok tlsHosts ∧
      expected = (order.visit tlsHosts).map fun entry =>
        buildCertManagerCertificate gateway.metadata.key tlsPolicy entry.1 entry.2 := by
  unfold expectedCertificatesForGateway at h
  cases hhosts : collectHosts gateway.metadata.ns 0 gateway.spec.listeners [] with
  | error e =>
      rw [hhosts] at h
      cases h
  | ok tlsHosts =>
      rw [hhosts] at h
      cases h
      exact ⟨tlsHosts, rfl, rfl⟩

/-- The expected certificates have different keys. -/
theorem expected_keys (h : expectedCertificatesForGateway order gateway tlsPolicy = .ok expected) :
    (expected.map (·.metadata.key)).Nodup := by
  obtain ⟨tlsHosts, hhosts, rfl⟩ := expected_eq h
  have hkeys : ((order.visit tlsHosts).map fun entry =>
      buildCertManagerCertificate gateway.metadata.key tlsPolicy entry.1 entry.2).map
        (·.metadata.key) = (order.visit tlsHosts).map (·.1) := by
    rw [List.map_map]
    exact List.map_congr_left fun entry _ => rfl
  rw [hkeys]
  exact ((order.perm tlsHosts).map _).nodup_iff.2 (nodup_collectHosts (by simp) hhosts)

theorem live_of_expected
    (h : expectedCertificatesForGateway order gateway tlsPolicy = .ok expected) :
    ∀ cert ∈ expected, certificateKind.marked cert = false := by
  obtain ⟨tlsHosts, -, rfl⟩ := expected_eq h
  intro cert hcert
  obtain ⟨entry, -, rfl⟩ := List.mem_map.1 hcert
  rfl

/-! ## What is left alone -/

section

variable {gwKey apKey : ObjectKey} {certs s : Certificates} {cert : Certificate}

/-- A write under the key of a certificate with the labels, or of none. -/
theorem Untouched.put (h : Untouched gwKey apKey certs s)
    (hkey : ∀ old, certs.get cert.metadata.key = some old → Carries gwKey apKey old) :
    Untouched gwKey apKey certs (s.put cert) := by
  intro k old hold hcarries
  have hne : k ≠ certificateKind.key cert := by
    rintro rfl
    exact hcarries (hkey old hold)
  rw [Objects.get_put_of_ne hne]
  exact h k old hold hcarries

/-- A round for an expected certificate. -/
theorem triple_reconcileCertificate {desired : Certificate}
    (hlive : certificateKind.marked desired = false)
    (hdesired : ∀ old, certs.get desired.metadata.key = some old →
      Carries gwKey apKey old ∨ old.spec = desired.spec) :
    Api.Triple (Untouched gwKey apKey certs) (reconcileCertificate desired)
      (fun _ => Untouched gwKey apKey certs) (fun _ => Untouched gwKey apKey certs) := by
  have hresource : Api.Triple (Untouched gwKey apKey certs)
      (reconcileResource alwaysUpdateCertificate desired)
      (fun _ => Untouched gwKey apKey certs) (fun _ => Untouched gwKey apKey certs) := by
    refine Api.triple_get.attempt_bind (fun existing => ?_) fun e => ?_
    · by_cases hspec : existing.spec = desired.spec
      · simp only [alwaysUpdateCertificate, if_pos hspec]
        exact Effect.Spec.pure fun s hs => hs.1
      · simp only [alwaysUpdateCertificate, if_neg hspec]
        refine Api.triple_update.mono (fun _ h => h) ?_ fun _ _ h => h.1
        rintro _ _ ⟨s, ⟨hs, hget⟩, -, rfl⟩
        have hkey : existing.metadata.key = desired.metadata.key := Objects.key_of_get hget
        refine hs.put fun old hold => ?_
        rw [show ({ existing with spec := desired.spec } : Certificate).metadata.key
          = desired.metadata.key from hkey] at hold
        -- a certificate without the labels would still be there, with the expected spec
        by_contra hcarries
        cases (hs _ old hold hcarries).symm.trans hget
        exact hspec ((hdesired existing hold).resolve_left hcarries)
    · show Api.Triple _ (if e.kind = .notFound then Api.create certificatesPart desired
        else Effect.fail e) _ _
      split
      · rename_i hkind
        refine (Api.triple_create hlive).mono (fun _ h => h) ?_ fun _ _ h => h.1.1
        rintro _ _ ⟨s, ⟨hs, -⟩, hfree, rfl⟩
        refine hs.put fun old hold => ?_
        by_contra hcarries
        cases (hs _ old hold hcarries).symm.trans hfree
      · exact Effect.Spec.fail fun s hs => hs.1
  refine hresource.attempt_bind (fun _ => Effect.Spec.pure fun _ h => h) fun e => ?_
  show Api.Triple _ (if e.kind = .alreadyExists then pure () else Effect.fail e) _ _
  split
  · exact Effect.Spec.pure fun _ h => h
  · exact Effect.Spec.fail fun _ h => h

end

theorem triple_deleteUnexpected {certs : Certificates} :
    Api.Triple (fun s => s = certs) (deleteUnexpectedGatewayCertificates expected gateway tlsPolicy)
      (fun _ => Untouched gateway.metadata.key tlsPolicy.key certs)
      (fun _ => Untouched gateway.metadata.key tlsPolicy.key certs) := by
  have hrefl : Untouched gateway.metadata.key tlsPolicy.key certs certs := fun _ _ h _ => h
  refine Api.triple_list.bind (fun e s hs => hs.1 ▸ hrefl) fun certList => ?_
  refine Effect.Spec.mono
    (P := fun s => Untouched gateway.metadata.key tlsPolicy.key certs s ∧ ∀ cert ∈ certList,
      certs.get cert.metadata.key = some cert ∧ Carries gateway.metadata.key tlsPolicy.key cert)
    (Effect.Spec.given fun hlist => ?_) ?_ (fun _ _ h => h) fun _ _ h => h
  · refine Effect.Spec.forEach fun cert hcert => ?_
    split
    · exact Effect.Spec.pure fun _ h => h
    · refine Api.triple_ignoreNotFound (Api.triple_delete.mono (fun _ h => h) ?_ fun _ _ h => h)
        (fun _ _ _ h => h.1) fun _ _ _ h => h.1
      rintro _ _ ⟨s, stored, hs, hget, rfl⟩
      have hkey : (certificateKind.mark true stored).metadata.key = cert.metadata.key :=
        Objects.key_of_get hget
      refine hs.put fun old hold => ?_
      rw [hkey] at hold
      cases (hlist cert hcert).1.symm.trans hold
      exact (hlist cert hcert).2
  · rintro s ⟨rfl, rfl⟩
    refine ⟨hrefl, fun cert hcert => ?_⟩
    obtain ⟨hentry, hlabels⟩ := List.mem_filter.1 hcert
    exact ⟨Objects.mem_entries.1 hentry, hlabels⟩

/-- No certificate is changed that is not the policy's own, if all expected ones are its own or as
    they should be. -/
theorem untouched_of_owned {certs : Certificates}
    (hexpected : expectedCertificatesForGateway order gateway tlsPolicy = .ok expected)
    (howned : ∀ cert ∈ expected, ∀ old, certs.get cert.metadata.key = some old →
      Carries gateway.metadata.key tlsPolicy.key old ∨ old.spec = cert.spec)
    (faults : List (Option Fault)) :
    Untouched gateway.metadata.key tlsPolicy.key certs
      (reconcileGatewayCertificates order gateway tlsPolicy ⟨certs, faults⟩).2.state := by
  have htriple : Api.Triple (fun s => s = certs)
      (reconcileGatewayCertificates order gateway tlsPolicy)
      (fun _ => Untouched gateway.metadata.key tlsPolicy.key certs)
      (fun _ => Untouched gateway.metadata.key tlsPolicy.key certs) := by
    unfold reconcileGatewayCertificates
    rw [hexpected]
    exact triple_deleteUnexpected.bind (fun _ _ h => h) fun _ => Effect.Spec.forEach fun cert hcert =>
      triple_reconcileCertificate (live_of_expected hexpected cert hcert) (howned cert hcert)
  exact htriple.ends rfl

/-! ## What is overwritten -/

/-- What a round leaves under the key of an expected certificate. -/
def afterRound (desired : Certificate) : Option Certificate → Certificate
  | some old => { old with spec := desired.spec }
  | none => desired

/-- A round whose calls are all served. -/
theorem unfaulted_reconcileCertificate {k : ObjectKey} {found : Option Certificate}
    {desired : Certificate} (hlive : certificateKind.marked desired = false) :
    Api.Unfaulted (fun s => s.get k = found) (reconcileCertificate desired)
      (fun _ s => s.get k =
        if k = desired.metadata.key then some (afterRound desired found) else found)
      (fun _ _ => False) := by
  have hresource : Api.Unfaulted (fun s => s.get k = found)
      (reconcileResource alwaysUpdateCertificate desired)
      (fun _ s => s.get k =
        if k = desired.metadata.key then some (afterRound desired found) else found)
      (fun _ _ => False) := by
    refine Api.unfaulted_get.attempt_bind (fun existing => ?_) fun e => ?_
    · show Api.Unfaulted _ (match alwaysUpdateCertificate existing desired with
        | some updated => Api.update certificatesPart updated
        | none => pure ()) _ _
      by_cases hspec : existing.spec = desired.spec
      · rw [alwaysUpdateCertificate, if_pos hspec]
        refine Api.unfaulted_pure ?_
        rintro s ⟨hfound, hget⟩
        split
        · rename_i hk
          subst hk
          cases hfound.symm.trans hget
          rw [hfound, afterRound, ← hspec]
        · exact hfound
      · rw [alwaysUpdateCertificate, if_neg hspec]
        refine Api.unfaulted_update.mono (fun _ h => h) ?_ ?_
        · rintro _ w ⟨hfaults, s, ⟨hfound, hget⟩, -, hw⟩
          refine ⟨hfaults, ?_⟩
          rw [hw]
          refine (Objects.get_put_same_meta { existing with spec := desired.spec } hget rfl k).trans ?_
          split
          · rename_i hk
            subst hk
            cases hfound.symm.trans hget
            rfl
          · exact hfound
        · rintro _ w ⟨-, ⟨-, hget⟩, hnone, -⟩
          have hkey : certificateKind.key existing = desired.metadata.key :=
            Objects.key_of_get hget
          rw [show certificateKind.key { existing with spec := desired.spec }
            = desired.metadata.key from hkey] at hnone
          cases hget.symm.trans hnone
    · refine Effect.Spec.mono (P := fun w => Api.NoFaults (fun s => s.get k = found ∧
          s.get desired.metadata.key = none) w ∧ e.kind = .notFound)
        (Effect.Spec.given fun hkind => ?_) ?_ (fun _ _ h => h) fun _ _ h => h
      · show Api.Unfaulted _ (if e.kind = .notFound then Api.create certificatesPart desired
          else Effect.fail e) _ _
        rw [if_pos hkind]
        refine (Api.unfaulted_create hlive).mono (fun _ h => h) ?_ ?_
        · rintro _ w ⟨hfaults, s, ⟨hfound, hget⟩, -, hw⟩
          refine ⟨hfaults, ?_⟩
          rw [hw]
          show (s.put desired).get k = _
          split
          · rename_i hk
            subst hk
            cases hfound.symm.trans hget
            exact Objects.get_put_self rfl fun hmarked => absurd (hlive.symm.trans hmarked) nofun
          · rename_i hk
            rw [Objects.get_put_of_ne hk]
            exact hfound
        · rintro _ w ⟨-, ⟨-, hget⟩, hpresent, -⟩
          exact absurd hget hpresent
      · rintro w ⟨hfaults, hfound, hnone, rfl⟩
        exact ⟨⟨hfaults, hfound, hnone⟩, rfl⟩
  exact hresource.attempt_bind (fun _ => Effect.Spec.pure fun _ h => h) fun e w hw => hw.2.elim

/-- The deletions end without an error if all calls are served. -/
theorem unfaulted_deleteUnexpected :
    Api.Unfaulted (fun _ => True) (deleteUnexpectedGatewayCertificates expected gateway tlsPolicy)
      (fun _ _ => True) (fun _ _ => False) := by
  refine Api.unfaulted_list.bind (fun _ _ h => h) fun certList => ?_
  refine Effect.Spec.mono (P := Api.NoFaults fun _ => True) (Effect.Spec.forEach fun cert _ => ?_)
    (fun w hw => ⟨hw.1, trivial⟩) (fun _ _ h => h) fun _ _ h => h
  split
  · exact Effect.Spec.pure fun _ h => h
  · refine Api.unfaulted_delete.attempt_bind (fun _ => ?_) fun e w hw => ?_
    · exact Effect.Spec.pure fun w hw => ⟨hw.1, trivial⟩
    · obtain ⟨hfaults, -, -, rfl⟩ := hw
      exact ⟨hfaults, trivial⟩

/-- With all calls served, every certificate under the key of an expected one gets its spec. -/
theorem overwritten {certs : Certificates} {cert old : Certificate}
    (hexpected : expectedCertificatesForGateway order gateway tlsPolicy = .ok expected)
    (hcert : cert ∈ expected) (hold : certs.get cert.metadata.key = some old)
    (hcarries : ¬ Carries gateway.metadata.key tlsPolicy.key old) :
    (reconcileGatewayCertificates order gateway tlsPolicy ⟨certs, []⟩).2.state.get
      cert.metadata.key = some { old with spec := cert.spec } := by
  rcases hdelete : deleteUnexpectedGatewayCertificates expected gateway tlsPolicy ⟨certs, []⟩ with
    ⟨e | ⟨⟩, w₁⟩
  · exact (unfaulted_deleteUnexpected.of_error ⟨rfl, trivial⟩ hdelete).2.elim
  have hfaults : w₁.faults = [] := (unfaulted_deleteUnexpected.of_ok ⟨rfl, trivial⟩ hdelete).1
  have hkept : w₁.state.get cert.metadata.key = some old :=
    triple_deleteUnexpected.of_ok rfl hdelete _ old hold hcarries
  -- the certificate has the spec once its round is over, and the other rounds have other keys
  let I (done : List Certificate) (s : Certificates) : Prop := s.get cert.metadata.key =
    if cert ∈ done then some { old with spec := cert.spec } else some old
  have hloop : Api.Unfaulted (I []) (Effect.forEach expected reconcileCertificate)
      (fun _ => I expected) (fun _ _ => False) := by
    refine Effect.Spec.forEach_upto (I := fun done => Api.NoFaults (I done)) ?_
    intro done next rest hl
    refine (unfaulted_reconcileCertificate (live_of_expected hexpected next (by simp [hl]))).mono
      (fun _ h => h) ?_ fun _ _ h => h
    rintro _ w ⟨hfaults, hget⟩
    refine ⟨hfaults, hget.trans ?_⟩
    have hnext : next ∈ expected := by simp [hl]
    by_cases heq : next = cert
    · subst heq
      have hnew : next ∉ done := by
        have hnodup : (done ++ next :: rest).Nodup := hl ▸ (expected_keys hexpected).of_map
        exact fun hdone => (List.nodup_append.1 hnodup).2.2 next hdone next List.mem_cons_self rfl
      rw [if_pos rfl, if_neg hnew, if_pos (by simp)]
      rfl
    · have hkey : cert.metadata.key ≠ next.metadata.key := fun h =>
        heq (List.inj_on_of_nodup_map (expected_keys hexpected) hnext hcert h.symm)
      rw [if_neg hkey]
      simp [Ne.symm heq]
  have hrun : reconcileGatewayCertificates order gateway tlsPolicy ⟨certs, []⟩
      = Effect.forEach expected reconcileCertificate w₁ := by
    unfold reconcileGatewayCertificates
    rw [hexpected]
    exact Effect.bind_of_ok hdelete
  rw [hrun]
  rcases hforEach : Effect.forEach expected reconcileCertificate w₁ with ⟨e | ⟨⟩, w₂⟩
  · exact (hloop.of_error ⟨hfaults, hkept⟩ hforEach).2.elim
  · have hend := (hloop.of_ok ⟨hfaults, hkept⟩ hforEach).2
    exact hend.trans (if_pos hcert)

/-- Whatever calls fail, only the policy's own certificates are updated and deleted, exactly if every
    certificate under an expected key is its own or has the expected spec. -/
theorem untouched_iff (order : MapOrder) (gateway : GatewayObject) (tlsPolicy : TLSPolicy)
    (certs : Certificates) :
    (∀ faults, Untouched gateway.metadata.key tlsPolicy.key certs
      (reconcileGatewayCertificates order gateway tlsPolicy ⟨certs, faults⟩).2.state) ↔
    ∀ expected, expectedCertificatesForGateway order gateway tlsPolicy = .ok expected →
      ∀ cert ∈ expected, ∀ old, certs.get cert.metadata.key = some old →
        Carries gateway.metadata.key tlsPolicy.key old ∨ old.spec = cert.spec := by
  constructor
  · intro huntouched expected hexpected cert hcert old hold
    by_cases hcarries : Carries gateway.metadata.key tlsPolicy.key old
    · exact Or.inl hcarries
    · have hover := overwritten hexpected hcert hold hcarries
      have hsame : old = { old with spec := cert.spec } :=
        Option.some.inj ((huntouched [] _ old hold hcarries).symm.trans hover)
      exact Or.inr (by rw [hsame])
  · intro howned faults
    cases hexpected : expectedCertificatesForGateway order gateway tlsPolicy with
    | ok expected => exact untouched_of_owned hexpected (howned expected hexpected) faults
    | error e =>
        unfold reconcileGatewayCertificates
        rw [hexpected]
        exact fun _ _ h _ => h

/-! ## Two Gateways with one secret -/

/-- A Gateway in namespace `a` with one listener. -/
def gatewayFor (name host secret : String) : GatewayObject where
  metadata := { name := name, ns := "a" }
  spec := { listeners := [{
    name := "web", hostname := some host,
    tls := some { mode := some "Terminate", certificateRefs := [{ name := secret }] } }] }

def examplePolicy : TLSPolicy := ⟨"p", "a", { issuerRef := { name := "issuer" } }⟩

/-- The certificates after the Gateway `x` with the secret `tls` was reconciled. -/
def certificatesOfX : Certificates :=
  (reconcileGatewayCertificates .inserted (gatewayFor "x" "x.com" "tls") examplePolicy
    ⟨∅, []⟩).2.state

/-- A Gateway `y` with a secret of its own leaves the certificate of `x` alone. -/
theorem untouched_iff_other_secret :
    ∀ faults, Untouched ⟨"a", "y"⟩ ⟨"a", "p"⟩ certificatesOfX
      (reconcileGatewayCertificates .inserted (gatewayFor "y" "y.com" "other") examplePolicy
        ⟨certificatesOfX, faults⟩).2.state := by
  refine (untouched_iff .inserted (gatewayFor "y" "y.com" "other") examplePolicy certificatesOfX).2 ?_
  rintro expected ⟨⟩ cert hcert old hold
  rw [List.mem_singleton.1 hcert] at hold
  cases hold

/-- The Gateway `y` refers to the same secret: the certificate of `x` is now for the host of `y`. -/
theorem certificate_overwritten :
    let after := (reconcileGatewayCertificates .inserted (gatewayFor "y" "y.com" "tls") examplePolicy
      ⟨certificatesOfX, []⟩).2.state
    (certificatesOfX.get ⟨"a", "tls"⟩).map (·.spec.dnsNames) = some ["x.com"] ∧
      (after.get ⟨"a", "tls"⟩).map (·.spec.dnsNames) = some ["y.com"] ∧
      (∀ cert, after.get ⟨"a", "tls"⟩ = some cert → Carries ⟨"a", "x"⟩ ⟨"a", "p"⟩ cert) ∧
      ¬ Untouched ⟨"a", "y"⟩ ⟨"a", "p"⟩ certificatesOfX after := by
  refine ⟨rfl, rfl, ?_, fun h => ?_⟩
  · rintro cert ⟨⟩
    decide
  · have hsame := h ⟨"a", "tls"⟩ _ rfl (by decide)
    exact absurd (congrArg (Option.map (·.spec.dnsNames)) hsame) (by decide)

end MultiClusterGateway.TlsPolicy
