import MultiClusterGateway.Api.Deletions
import MultiClusterGateway.TlsPolicy.Controller
import MultiClusterGateway.TlsPolicy.Ownership

set_option autoImplicit false

/-! # The certificates of a policy after its reconciles

`reconcileCertificates` visits the Gateways one after the other: it deletes the certificates with the
labels of the Gateway that it does not expect there, then writes the expected ones, under the names of
their secrets and whatever labels are there. So a secret that has moved from one Gateway to another
is still labelled with the first one. If the first one is visited last, the certificate is brought up
to date and then deleted, and the call returns nil. A second call makes up for it: after two calls the
certificates are the expected ones, and stay (`certificates_settle`). What a call does is computed
key by key. -/

namespace MultiClusterGateway.TlsPolicy

variable {gateway : GatewayObject} {tlsPolicy : TLSPolicy} {order : MapOrder}
  {expected : List Certificate} {certs : Certificates} {desired cert e : Certificate}
  {k gwKey apKey : ObjectKey} {o : Option Certificate}

/-! ## The rounds for the expected certificates -/

/-- What a round leaves under a key. -/
def roundAt (desired : Certificate) (k : ObjectKey) (o : Option Certificate) : Option Certificate :=
  if k = desired.metadata.key then some (afterRound desired o) else o

/-- The certificate is created where there was none. -/
theorem altered_create (hlive : certificateKind.marked desired = false)
    (hnone : certs.get desired.metadata.key = none) :
    Api.Altered certificatesPart (roundAt desired) certs (certs.put desired) := by
  refine ⟨certs.put desired, rfl, fun k => ?_⟩
  show (certs.put desired).get k = roundAt desired k (certs.get k)
  unfold roundAt
  split
  · rename_i hk
    subst hk
    rw [hnone]
    exact Objects.get_put_self rfl fun hmarked => by simp [hlive] at hmarked
  · rename_i hk
    exact Objects.get_put_of_ne hk

/-- The spec of the certificate that is there is written, unless it is the same. -/
theorem altered_update {existing : Certificate}
    (hget : certs.get desired.metadata.key = some existing) :
    Api.Altered certificatesPart (roundAt desired) certs
      (certs.put { existing with spec := desired.spec }) := by
  refine ⟨_, rfl, fun k => ?_⟩
  refine (Objects.get_put_same_meta { existing with spec := desired.spec } hget rfl k).trans ?_
  unfold roundAt
  split
  · rename_i hk
    subst hk
    show some _ = some (afterRound desired (certs.get desired.metadata.key))
    rw [hget]
    rfl
  · rfl

theorem altered_same {existing : Certificate}
    (hget : certs.get desired.metadata.key = some existing) (hspec : existing.spec = desired.spec) :
    Api.Altered certificatesPart (roundAt desired) certs certs := by
  refine (Api.Altered.refl certs).congr fun k => ?_
  unfold roundAt
  split
  · rename_i hk
    subst hk
    show certs.get desired.metadata.key = some (afterRound desired (certs.get desired.metadata.key))
    rw [hget, afterRound, ← hspec]
  · rfl

theorem triple_reconcileResource :
    certificateKind.marked desired = false →
    Api.Triple (fun s => s = certs) (reconcileResource alwaysUpdateCertificate desired)
      (fun _ => Api.Altered certificatesPart (roundAt desired) certs)
      (fun err _ => err.kind ≠ .alreadyExists) := by
  intro hlive
  refine Effect.Spec.attempt_bind (Api.triple_read_explains certs) (fun existing => ?_) fun err => ?_
  · refine Effect.Spec.given fun hfind => ?_
    have hget : certs.get desired.metadata.key = some existing := Objects.find_eq_ok.1 hfind
    by_cases hspec : existing.spec = desired.spec
    · simp only [alwaysUpdateCertificate, if_pos hspec]
      refine Effect.Spec.pure fun s hs => ?_
      rw [hs]
      exact altered_same hget hspec
    · simp only [alwaysUpdateCertificate, if_neg hspec]
      refine (Api.triple_write_explains certs).mono (fun _ h => h) (fun _ s h => ?_)
        fun err s h hkind => ?_
      · obtain ⟨updated, hupdate, rfl⟩ := h
        obtain ⟨-, rfl⟩ := Objects.update_eq_ok.1 hupdate
        exact altered_update hget
      · have hupdate := Objects.update_eq_error.1 (h.2.of_alreadyExists hkind)
        rw [hupdate.2] at hkind
        cases hkind
  · refine Effect.Spec.given fun hwhy => ?_
    show Api.Triple _ (if err.kind = .notFound then Api.create certificatesPart desired
      else Effect.fail err) _ _
    split
    · rename_i hkind
      have hnone := (Objects.find_eq_error.1 (hwhy.of_notFound hkind)).1
      refine (Api.triple_write_explains certs).mono (fun _ h => h) (fun _ s h => ?_)
        fun err s h hkind => ?_
      · obtain ⟨created, hcreate, rfl⟩ := h
        obtain ⟨-, rfl⟩ := (Objects.create_eq_ok hlive).1 hcreate
        exact altered_create hlive hnone
      · exact absurd hnone (Objects.create_eq_error.1 (h.2.of_alreadyExists hkind)).1
    · refine Effect.Spec.fail fun s hs hkind => ?_
      have hfind := Objects.find_eq_error.1 (hwhy.of_alreadyExists hkind)
      rw [hfind.2] at hkind
      cases hkind

/-- A round that goes on has brought the certificate up to date. -/
theorem triple_reconcileCertificate_altered (hlive : certificateKind.marked desired = false) :
    Api.Triple (fun s => s = certs) (reconcileCertificate desired)
      (fun _ => Api.Altered certificatesPart (roundAt desired) certs) (fun _ _ => True) := by
  refine (triple_reconcileResource hlive).attempt_bind (fun _ => Effect.Spec.pure fun _ h => h)
    fun err => ?_
  show Api.Triple _ (if err.kind = .alreadyExists then pure () else Effect.fail err) _ _
  split
  · rename_i hkind
    exact fun w hw => absurd hkind hw
  · exact Effect.Spec.fail fun _ _ => trivial

/-- The rounds of the loop over the expected certificates. -/
def roundsAt (expected : List Certificate) (k : ObjectKey) (o : Option Certificate) :
    Option Certificate :=
  expected.foldl (fun o desired => roundAt desired k o) o

theorem roundsAt_of_notMem (h : k ∉ expected.map (·.metadata.key)) : roundsAt expected k o = o := by
  induction expected with
  | nil => rfl
  | cons desired rest ih =>
      simp only [List.map_cons, List.mem_cons, not_or] at h
      have hround : roundsAt (desired :: rest) k o = roundsAt rest k o := by
        simp [roundsAt, roundAt, h.1]
      rw [hround]
      exact ih h.2

theorem roundsAt_of_mem (hnodup : (expected.map (·.metadata.key)).Nodup) (he : e ∈ expected) :
    roundsAt expected e.metadata.key o = some (afterRound e o) := by
  induction expected generalizing o with
  | nil => simp at he
  | cons desired rest ih =>
      simp only [List.map_cons, List.nodup_cons] at hnodup
      rcases List.mem_cons.1 he with rfl | hrest
      · have hround : roundsAt (e :: rest) e.metadata.key o
            = roundsAt rest e.metadata.key (some (afterRound e o)) := by
          simp [roundsAt, roundAt]
        rw [hround]
        exact roundsAt_of_notMem hnodup.1
      · have hne : e.metadata.key ≠ desired.metadata.key := by
          intro heq
          exact hnodup.1 (heq ▸ List.mem_map_of_mem hrest)
        have hround : roundsAt (desired :: rest) e.metadata.key o
            = roundsAt rest e.metadata.key o := by
          simp [roundsAt, roundAt, hne]
        rw [hround]
        exact ih hnodup.2 hrest

/-! ## Visits -/

/-- A Gateway that a call visits, with the certificates that it expects there; a Gateway that the
    policy no longer refers to is visited without any. -/
structure Visit where
  gateway : ObjectKey
  expected : List Certificate

/-- What is deleted at a visit. -/
def isUnexpectedCertificate (apKey : ObjectKey) (v : Visit) (cert : Certificate) : Bool :=
  cert.metadata.labels.matches (tlsCertificateLabels v.gateway apKey) &&
    !decide (cert.metadata.key ∈ v.expected.map (·.metadata.key))

/-- What a visit leaves under a key. -/
def visitAt (apKey : ObjectKey) (v : Visit) (k : ObjectKey) (o : Option Certificate) :
    Option Certificate :=
  roundsAt v.expected k (certificateKind.deleteIf (isUnexpectedCertificate apKey v) o)

/-- What the visits of a call leave under a key. -/
def callAt (apKey : ObjectKey) (visits : List Visit) (k : ObjectKey) (o : Option Certificate) :
    Option Certificate :=
  visits.foldl (fun o v => visitAt apKey v k o) o

/-- The certificates that a Gateway is to have, if they can be listed. -/
def expectedFor (order : MapOrder) (tlsPolicy : TLSPolicy) (gateway : GatewayObject) :
    List Certificate :=
  (expectedCertificatesForGateway order gateway tlsPolicy).toOption.getD []

/-- The visits of a call: first the Gateways that lose the policy, then those it refers to. -/
def visitsOf (orders : ObjectKey → MapOrder) (tlsPolicy : TLSPolicy) (diff : GatewayDiff) :
    List Visit :=
  diff.gatewaysWithInvalidPolicyRef.map (fun gw => ⟨gw.metadata.key, []⟩) ++
    diff.referred.map (fun gw =>
      ⟨gw.metadata.key, expectedFor (orders gw.metadata.key) tlsPolicy gw⟩)

theorem deleteUnexpected_eq (expected : List Certificate) (gateway : GatewayObject)
    (tlsPolicy : TLSPolicy) : deleteUnexpectedGatewayCertificates expected gateway tlsPolicy =
      (do
        let certList ← Api.list certificatesPart (fun cert =>
          cert.metadata.labels.matches (tlsCertificateLabels gateway.metadata.key tlsPolicy.key))
        Effect.forEach certList fun cert =>
          if decide (cert.metadata.key ∈ expected.map (·.metadata.key)) = true then pure ()
          else Api.ignoreNotFound (Api.delete certificatesPart cert.metadata.key)) := by
  unfold deleteUnexpectedGatewayCertificates
  simp only [decide_eq_true_eq]

theorem triple_deleteUnexpected_altered :
    Api.Triple (fun s => s = certs) (deleteUnexpectedGatewayCertificates expected gateway tlsPolicy)
      (fun _ => Api.Altered certificatesPart (fun _ => certificateKind.deleteIf
        (isUnexpectedCertificate tlsPolicy.key ⟨gateway.metadata.key, expected⟩)) certs)
      (fun _ _ => True) := by
  rw [deleteUnexpected_eq]
  exact Api.triple_list_delete (fun _ _ => Api.triple_ignoreNotFound_delete) certs

theorem triple_reconcileGatewayCertificates_altered :
    Api.Triple (fun s => s = certs) (reconcileGatewayCertificates order gateway tlsPolicy)
      (fun _ => Api.Altered certificatesPart
        (visitAt tlsPolicy.key ⟨gateway.metadata.key, expectedFor order tlsPolicy gateway⟩) certs)
      (fun _ _ => True) := by
  unfold reconcileGatewayCertificates expectedFor
  cases hexpected : expectedCertificatesForGateway order gateway tlsPolicy with
  | error err => exact Effect.Spec.fail fun _ _ => trivial
  | ok expected =>
      refine triple_deleteUnexpected_altered.bind (fun _ _ _ => trivial) fun _ => ?_
      refine Effect.Spec.of_state fun s hs => ?_
      have hrounds := Api.triple_forEach_altered (fun desired hdesired s₀ =>
        @triple_reconcileCertificate_altered s₀ desired (live_of_expected hexpected desired hdesired)) s
      exact hrounds.mono (fun _ h => h) (fun _ s' hs' => hs.trans hs') fun _ _ h => h

/-- What a call that returns nil has done. -/
theorem triple_reconcileCertificates {orders : ObjectKey → MapOrder} {diff : GatewayDiff} :
    Api.Triple (fun s => s = certs) (reconcileCertificates orders tlsPolicy diff)
      (fun _ => Api.Altered certificatesPart
        (callAt tlsPolicy.key (visitsOf orders tlsPolicy diff)) certs) (fun _ _ => True) := by
  have hinvalid := @Api.triple_forEach_altered _ _ certificateKind certificatesPart _ _ _
    diff.gatewaysWithInvalidPolicyRef
    (fun gw _ s₀ => @triple_deleteUnexpected_altered gw tlsPolicy [] s₀) certs
  refine hinvalid.bind (fun _ _ _ => trivial) fun _ => ?_
  refine Effect.Spec.of_state fun s hs => ?_
  have hreferred := @Api.triple_forEach_altered _ _ certificateKind certificatesPart _ _ _
    diff.referred (fun gw _ s₀ =>
      @triple_reconcileGatewayCertificates_altered gw tlsPolicy (orders gw.metadata.key) s₀) s
  refine hreferred.mono (fun _ h => h) (fun _ s' hs' => ?_) fun _ _ h => h
  refine (hs.trans hs').congr fun k => ?_
  simp only [callAt, visitsOf, List.foldl_append, List.foldl_map]
  rfl

/-! ## One key -/

/-- The certificate carries the labels of the policy and one of the Gateways. -/
def carriesAny (apKey : ObjectKey) (gateways : List ObjectKey) (cert : Certificate) : Bool :=
  gateways.any (fun gwKey => cert.metadata.labels.matches (tlsCertificateLabels gwKey apKey))

theorem carriesAny_iff {gateways : List ObjectKey} :
    carriesAny apKey gateways cert = true ↔ ∃ gwKey ∈ gateways, Carries gwKey apKey cert := by
  simp [carriesAny, Carries]

/-- What is under the key has that key. -/
def Keyed (k : ObjectKey) (o : Option Certificate) : Prop :=
  ∀ cert, o = some cert → cert.metadata.key = k

theorem Keyed.deleteIf {p : Certificate → Bool} (ho : Keyed k o) :
    Keyed k (certificateKind.deleteIf p o) := by
  intro cert hcert
  rcases Kind.eq_or_marked_of_deleteIf hcert with hsame | ⟨old, hold, -, rfl⟩
  · exact ho cert hsame
  · exact ho old hold

theorem Keyed.afterRound (ho : Keyed e.metadata.key o) :
    Keyed e.metadata.key (some (afterRound e o)) := by
  intro cert hcert
  rw [← Option.some.inj hcert]
  cases o with
  | none => rfl
  | some old => exact ho old rfl

theorem visitAt_of_unexpected {v : Visit} (ho : Keyed k o)
    (hk : k ∉ v.expected.map (·.metadata.key)) :
    visitAt apKey v k o = certificateKind.deleteIf (carriesAny apKey [v.gateway]) o := by
  unfold visitAt
  rw [roundsAt_of_notMem hk]
  refine Kind.deleteIf_congr fun cert hcert => ?_
  have hkey : cert.metadata.key ∉ v.expected.map (·.metadata.key) := by rwa [ho cert hcert]
  simp [isUnexpectedCertificate, carriesAny, hkey]

theorem visitAt_of_expected {v : Visit} (hnodup : (v.expected.map (·.metadata.key)).Nodup)
    (he : e ∈ v.expected) (ho : Keyed e.metadata.key o) :
    visitAt apKey v e.metadata.key o = some (afterRound e o) := by
  have hkept : certificateKind.deleteIf (isUnexpectedCertificate apKey v) o = o := by
    cases o with
    | none => rfl
    | some old =>
        apply Kind.deleteIf_of_false
        have hkey : old.metadata.key ∈ v.expected.map (·.metadata.key) := by
          rw [ho old rfl]
          exact List.mem_map_of_mem he
        simp [isUnexpectedCertificate, hkey]
  unfold visitAt
  rw [hkept]
  exact roundsAt_of_mem hnodup he

/-- Visits that do not expect anything under the key. -/
theorem callAt_of_unexpected {visits : List Visit} (ho : Keyed k o)
    (hk : ∀ v ∈ visits, k ∉ v.expected.map (·.metadata.key)) :
    callAt apKey visits k o
      = certificateKind.deleteIf (carriesAny apKey (visits.map (·.gateway))) o := by
  induction visits generalizing o with
  | nil =>
      cases o with
      | none => rfl
      | some old => simp [callAt, carriesAny, Kind.deleteIf]
  | cons v rest ih =>
      have hvisit := @visitAt_of_unexpected k apKey o v ho (hk v List.mem_cons_self)
      have hrest := ih (@Keyed.deleteIf k o (carriesAny apKey [v.gateway]) ho)
        fun u hu => hk u (List.mem_cons_of_mem v hu)
      have hcall : callAt apKey (v :: rest) k o = callAt apKey rest k (visitAt apKey v k o) := rfl
      rw [hcall, hvisit, hrest, Kind.deleteIf_comp]
      refine Kind.deleteIf_congr fun cert _ => ?_
      simp [carriesAny]

/-- The Gateway that expects the certificate is visited between others that expect nothing under
    its key. -/
theorem callAt_of_expected {v : Visit} {before after : List Visit}
    (hnodup : (v.expected.map (·.metadata.key)).Nodup) (he : e ∈ v.expected)
    (hothers : ∀ u ∈ before ++ after, e.metadata.key ∉ u.expected.map (·.metadata.key))
    (ho : Keyed e.metadata.key o) :
    callAt apKey (before ++ v :: after) e.metadata.key o
      = certificateKind.deleteIf (carriesAny apKey (after.map (·.gateway)))
          (some (afterRound e
            (certificateKind.deleteIf (carriesAny apKey (before.map (·.gateway))) o))) := by
  have hcall : callAt apKey (before ++ v :: after) e.metadata.key o
      = callAt apKey after e.metadata.key (visitAt apKey v e.metadata.key
          (callAt apKey before e.metadata.key o)) := by
    simp [callAt]
  have hbefore := @callAt_of_unexpected e.metadata.key apKey o before ho fun u hu =>
    hothers u (List.mem_append_left after hu)
  have hround := @visitAt_of_expected e apKey _ v hnodup he
    (@Keyed.deleteIf _ o (carriesAny apKey (before.map (·.gateway))) ho)
  rw [hcall, hbefore, hround]
  exact callAt_of_unexpected ho.deleteIf.afterRound fun u hu =>
    hothers u (List.mem_append_right before hu)

/-! ## What is settled -/

/-- Under the key of an expected certificate there is one with its spec. If it carries the labels of
    another Gateway, it is being deleted already. -/
def SettledAt (apKey : ObjectKey) (gateways : List ObjectKey) (gwKey : ObjectKey) (e : Certificate)
    (o : Option Certificate) : Prop :=
  ∃ cert, o = some cert ∧ cert.spec = e.spec ∧ ∀ other ∈ gateways, other ≠ gwKey →
    Carries other apKey cert → certificateKind.deleted cert = some cert

/-- A deletion does not look at the spec. -/
theorem deleted_withSpec {old : Certificate} (spec : CertificateSpec)
    (h : certificateKind.deleted old = some old) :
    certificateKind.deleted { old with spec := spec } = some { old with spec := spec } := by
  obtain ⟨hfin, hmark⟩ := Kind.deleted_eq_some.1 h
  refine Kind.deleted_of_marked hfin ?_
  have hmarked : certificateKind.marked old = true := by
    rw [hmark]
    exact certificateKind.marked_mark true old
  exact hmarked

section
variable {before after gateways : List ObjectKey}

/-- What the Gateways before leave to the round is not theirs, or being deleted. -/
theorem deleted_afterRound (hlabels : Carries gwKey apKey e) {other : ObjectKey}
    (hother : other ∈ before) (hne : other ≠ gwKey)
    (hcarries : Carries other apKey
      (afterRound e (certificateKind.deleteIf (carriesAny apKey before) o))) :
    certificateKind.deleted (afterRound e (certificateKind.deleteIf (carriesAny apKey before) o))
      = some (afterRound e (certificateKind.deleteIf (carriesAny apKey before) o)) := by
  have htwice := @Kind.deleteIf_deleteIf _ certificateKind (carriesAny apKey before) o
  cases hleft : certificateKind.deleteIf (carriesAny apKey before) o with
  | none =>
      rw [hleft] at hcarries
      exact absurd (carries_unique hcarries hlabels).1 hne
  | some old =>
      rw [hleft] at hcarries htwice
      have hselected : carriesAny apKey before old = true := carriesAny_iff.2 ⟨other, hother, hcarries⟩
      rw [Kind.deleteIf_of_true hselected] at htwice
      exact deleted_withSpec e.spec htwice

/-- After a call the certificate is settled, unless a later visit has taken it away. -/
theorem none_or_settledAt (hlabels : Carries gwKey apKey e)
    (hgateways : ∀ other ∈ gateways, other ≠ gwKey → other ∈ before ∨ other ∈ after)
    {o' : Option Certificate} (ho' : o' = certificateKind.deleteIf (carriesAny apKey after)
      (some (afterRound e (certificateKind.deleteIf (carriesAny apKey before) o)))) :
    o' = none ∨ SettledAt apKey gateways gwKey e o' := by
  have hbefore := @deleted_afterRound e gwKey apKey o before hlabels
  have hspec : (afterRound e (certificateKind.deleteIf (carriesAny apKey before) o)).spec
      = e.spec := by
    cases certificateKind.deleteIf (carriesAny apKey before) o with
    | none => rfl
    | some old => rfl
  generalize afterRound e (certificateKind.deleteIf (carriesAny apKey before) o) = cert at *
  cases hafter : carriesAny apKey after cert with
  | false =>
      rw [Kind.deleteIf_of_false hafter] at ho'
      refine Or.inr ⟨cert, ho', hspec, fun other hother hne hcarries => ?_⟩
      rcases hgateways other hother hne with hmem | hmem
      · exact hbefore hmem hne hcarries
      · rw [carriesAny_iff.2 ⟨other, hmem, hcarries⟩] at hafter
        cases hafter
  | true =>
      rw [Kind.deleteIf_of_true hafter] at ho'
      cases hdeleted : certificateKind.deleted cert with
      | none => exact Or.inl (ho'.trans hdeleted)
      | some marked =>
          have hmark : marked = certificateKind.mark true cert := (Kind.deleted_eq_some.1 hdeleted).2
          have hstays : certificateKind.deleted marked = some marked := by
            have htwice := @Kind.bind_deleted_bind_deleted _ certificateKind (some cert)
            rw [show (some cert).bind certificateKind.deleted = some marked from hdeleted] at htwice
            exact htwice
          refine Or.inr ⟨marked, ho'.trans hdeleted, ?_, fun _ _ _ _ => hstays⟩
          rw [hmark]
          exact hspec

/-- A call leaves a settled certificate as it is. -/
theorem SettledAt.stays (h : SettledAt apKey gateways gwKey e o)
    (hbefore : ∀ other ∈ before, other ∈ gateways ∧ other ≠ gwKey)
    (hafter : ∀ other ∈ after, other ∈ gateways ∧ other ≠ gwKey) :
    certificateKind.deleteIf (carriesAny apKey after)
      (some (afterRound e (certificateKind.deleteIf (carriesAny apKey before) o))) = o := by
  obtain ⟨cert, rfl, hspec, hothers⟩ := h
  have hkept (visited : List ObjectKey)
      (hvisited : ∀ other ∈ visited, other ∈ gateways ∧ other ≠ gwKey) :
      certificateKind.deleteIf (carriesAny apKey visited) (some cert) = some cert := by
    cases hselected : carriesAny apKey visited cert with
    | false => exact Kind.deleteIf_of_false hselected
    | true =>
        obtain ⟨other, hother, hcarries⟩ := carriesAny_iff.1 hselected
        rw [Kind.deleteIf_of_true hselected]
        exact hothers other (hvisited other hother).1 (hvisited other hother).2 hcarries
  have hround : afterRound e (some cert) = cert := by
    simp [afterRound, ← hspec]
  rw [hkept before hbefore, hround, hkept after hafter]

/-- A certificate that is not there is created, and left. -/
theorem created_stays (hlabels : Carries gwKey apKey e) (hafter : ∀ other ∈ after, other ≠ gwKey) :
    certificateKind.deleteIf (carriesAny apKey after)
      (some (afterRound e (certificateKind.deleteIf (carriesAny apKey before) none))) = some e := by
  have hround : afterRound e (certificateKind.deleteIf (carriesAny apKey before) none) = e := rfl
  rw [hround]
  refine Kind.deleteIf_of_false (Bool.eq_false_iff.2 fun hselected => ?_)
  obtain ⟨other, hother, hcarries⟩ := carriesAny_iff.1 hselected
  exact hafter other hother (carries_unique hcarries hlabels).1

end

/-! ## Gateways with secrets of their own -/

section
variable {orders : ObjectKey → MapOrder} {diff diff' : GatewayDiff}

/-- The Gateways that a call visits, in order. -/
def visited (diff : GatewayDiff) : List ObjectKey :=
  (diff.gatewaysWithInvalidPolicyRef ++ diff.referred).map (·.metadata.key)

/-- The policy refers to the Gateway, which is to have the certificate. -/
def Expects (tlsPolicy : TLSPolicy) (diff : GatewayDiff) (gwKey : ObjectKey) (cert : Certificate) :
    Prop :=
  ∃ gw ∈ diff.referred, gw.metadata.key = gwKey ∧ cert ∈ expectedFor .inserted tlsPolicy gw

/-- No Gateway is there twice, and no two Gateways have a secret in common. -/
structure SecretsApart (tlsPolicy : TLSPolicy) (diff : GatewayDiff) : Prop where
  gateways : (visited diff).Nodup
  secrets : ∀ gwKey gwKey' cert cert', Expects tlsPolicy diff gwKey cert →
    Expects tlsPolicy diff gwKey' cert' → cert.metadata.key = cert'.metadata.key → gwKey = gwKey'

theorem map_gateway_visitsOf : (visitsOf orders tlsPolicy diff).map (·.gateway) = visited diff := by
  simp only [visitsOf, visited, List.map_append, List.map_map]
  rfl

theorem mem_expectedFor (order : MapOrder) :
    cert ∈ expectedFor order tlsPolicy gateway ↔ cert ∈ expectedFor .inserted tlsPolicy gateway := by
  unfold expectedFor expectedCertificatesForGateway
  cases collectHosts gateway.metadata.ns 0 gateway.spec.listeners [] with
  | error err => rfl
  | ok tlsHosts =>
      show cert ∈ (order.visit tlsHosts).map _ ↔ cert ∈ (MapOrder.inserted.visit tlsHosts).map _
      simp only [List.mem_map, (order.perm tlsHosts).mem_iff,
        (MapOrder.inserted.perm tlsHosts).mem_iff]

theorem nodup_expectedFor :
    ((expectedFor order tlsPolicy gateway).map (·.metadata.key)).Nodup := by
  unfold expectedFor
  cases hexpected : expectedCertificatesForGateway order gateway tlsPolicy with
  | error err => exact List.nodup_nil
  | ok expected => exact expected_keys hexpected

theorem carries_buildCertManagerCertificate (secretRef : ObjectKey) (hosts : List String) :
    Carries gwKey tlsPolicy.key (buildCertManagerCertificate gwKey tlsPolicy secretRef hosts) := by
  simp [Carries, Labels.matches, Labels.get?, buildCertManagerCertificate, tlsCertificateLabels,
     tlsPolicyBackRef]

theorem carries_of_expectedFor (h : cert ∈ expectedFor order tlsPolicy gateway) :
    Carries gateway.metadata.key tlsPolicy.key cert := by
  unfold expectedFor at h
  cases hexpected : expectedCertificatesForGateway order gateway tlsPolicy with
  | error err =>
      rw [hexpected] at h
      simp [Except.toOption] at h
  | ok expected =>
      rw [hexpected] at h
      obtain ⟨tlsHosts, -, rfl⟩ := expected_eq hexpected
      obtain ⟨entry, -, rfl⟩ := List.mem_map.1 h
      exact carries_buildCertManagerCertificate entry.1 entry.2

theorem exists_gateway {v : Visit} (hv : v ∈ visitsOf orders tlsPolicy diff) (he : e ∈ v.expected) :
    Expects tlsPolicy diff v.gateway e := by
  rcases List.mem_append.1 hv with hinvalid | hreferred
  · obtain ⟨gw, -, rfl⟩ := List.mem_map.1 hinvalid
    simp at he
  · obtain ⟨gw, hgw, rfl⟩ := List.mem_map.1 hreferred
    exact ⟨gw, hgw, rfl, (mem_expectedFor _).1 he⟩

/-- The visit at which a certificate is expected, and the others. -/
theorem exists_visit (hapart : SecretsApart tlsPolicy diff) (he : Expects tlsPolicy diff gwKey e)
    (orders : ObjectKey → MapOrder) : ∃ before v after,
      visitsOf orders tlsPolicy diff = before ++ v :: after ∧ v.gateway = gwKey ∧
      e ∈ v.expected ∧ (v.expected.map (·.metadata.key)).Nodup ∧
      (∀ u ∈ before ++ after, e.metadata.key ∉ u.expected.map (·.metadata.key)) ∧
      (∀ other ∈ before.map (·.gateway), other ∈ visited diff ∧ other ≠ gwKey) ∧
      (∀ other ∈ after.map (·.gateway), other ∈ visited diff ∧ other ≠ gwKey) ∧
      ∀ other ∈ visited diff, other ≠ gwKey →
        other ∈ before.map (·.gateway) ∨ other ∈ after.map (·.gateway) := by
  obtain ⟨gw, hgw, rfl, hcert⟩ := id he
  let v : Visit := ⟨gw.metadata.key, expectedFor (orders gw.metadata.key) tlsPolicy gw⟩
  have hv : v ∈ visitsOf orders tlsPolicy diff :=
    List.mem_append_right _ (List.mem_map.2 ⟨gw, hgw, rfl⟩)
  obtain ⟨before, after, hvisits⟩ := List.append_of_mem hv
  have hkeys : visited diff = before.map (·.gateway) ++ gw.metadata.key :: after.map (·.gateway) := by
    rw [← @map_gateway_visitsOf tlsPolicy orders, hvisits]
    simp [v]
  have hnodup := hapart.gateways
  rw [hkeys, List.nodup_middle, List.nodup_cons, List.mem_append, not_or] at hnodup
  have hothers : ∀ u ∈ before ++ after, u.gateway ≠ gw.metadata.key := by
    intro u hu hsame
    rcases List.mem_append.1 hu with hbefore | hafter
    · exact hnodup.1.1 (hsame ▸ List.mem_map_of_mem hbefore)
    · exact hnodup.1.2 (hsame ▸ List.mem_map_of_mem hafter)
  refine ⟨before, v, after, hvisits, rfl, (mem_expectedFor _).2 hcert, nodup_expectedFor, ?_, ?_, ?_,
    ?_⟩
  · intro u hu hmem
    obtain ⟨cert, hcert', hkey⟩ := List.mem_map.1 hmem
    have hvisit : u ∈ visitsOf orders tlsPolicy diff := by
      rw [hvisits]
      rcases List.mem_append.1 hu with hbefore | hafter
      · exact List.mem_append_left _ hbefore
      · exact List.mem_append_right _ (List.mem_cons_of_mem v hafter)
    exact hothers u hu (hapart.secrets _ _ _ _ (exists_gateway hvisit hcert') he hkey)
  · intro other hother
    rw [hkeys]
    refine ⟨List.mem_append_left _ hother, ?_⟩
    rintro rfl
    exact hnodup.1.1 hother
  · intro other hother
    rw [hkeys]
    refine ⟨List.mem_append_right _ (List.mem_cons_of_mem _ hother), ?_⟩
    rintro rfl
    exact hnodup.1.2 hother
  · intro other hother hne
    rw [hkeys, List.mem_append, List.mem_cons] at hother
    rcases hother with hbefore | heq | hafter
    · exact Or.inl hbefore
    · exact absurd heq hne
    · exact Or.inr hafter

theorem carries_of_expects (he : Expects tlsPolicy diff gwKey e) : Carries gwKey tlsPolicy.key e := by
  obtain ⟨gw, -, rfl, hcert⟩ := he
  exact carries_of_expectedFor hcert

/-- A call leaves an expected certificate settled, or takes it away. -/
theorem callAt_none_or_settledAt (hapart : SecretsApart tlsPolicy diff)
    (he : Expects tlsPolicy diff gwKey e) (ho : Keyed e.metadata.key o) :
    callAt tlsPolicy.key (visitsOf orders tlsPolicy diff) e.metadata.key o = none ∨
      SettledAt tlsPolicy.key (visited diff) gwKey e
        (callAt tlsPolicy.key (visitsOf orders tlsPolicy diff) e.metadata.key o) := by
  obtain ⟨before, v, after, hvisits, rfl, hv, hnodup, hothers, -, -, hall⟩ :=
    exists_visit hapart he orders
  rw [hvisits]
  exact none_or_settledAt (carries_of_expects he) hall (callAt_of_expected hnodup hv hothers ho)

/-- A later call, with the same expectations and no other Gateways, leaves it settled. -/
theorem SettledAt.callAt {gateways : List ObjectKey} (hapart : SecretsApart tlsPolicy diff)
    (he : Expects tlsPolicy diff gwKey e) (hgateways : visited diff ⊆ gateways)
    (ho : Keyed e.metadata.key o) (h : SettledAt tlsPolicy.key gateways gwKey e o) :
    callAt tlsPolicy.key (visitsOf orders tlsPolicy diff) e.metadata.key o = o := by
  obtain ⟨before, v, after, hvisits, rfl, hv, hnodup, hothers, hbefore, hafter, -⟩ :=
    exists_visit hapart he orders
  rw [hvisits, callAt_of_expected hnodup hv hothers ho]
  refine h.stays (fun other hother => ?_) fun other hother => ?_
  · exact ⟨hgateways (hbefore other hother).1, (hbefore other hother).2⟩
  · exact ⟨hgateways (hafter other hother).1, (hafter other hother).2⟩

/-- A call creates what is not there. -/
theorem callAt_none (hapart : SecretsApart tlsPolicy diff) (he : Expects tlsPolicy diff gwKey e) :
    callAt tlsPolicy.key (visitsOf orders tlsPolicy diff) e.metadata.key none = some e := by
  obtain ⟨before, v, after, hvisits, rfl, hv, hnodup, hothers, -, hafter, -⟩ :=
    exists_visit hapart he orders
  rw [hvisits, callAt_of_expected hnodup hv hothers fun cert hcert => by simp at hcert]
  exact created_stays (carries_of_expects he) fun other hother => (hafter other hother).2

theorem get_of_call {w w' : Served Certificates}
    (h : reconcileCertificates orders tlsPolicy diff w = (.ok (), w')) (k : ObjectKey) :
    w'.state.get k = callAt tlsPolicy.key (visitsOf orders tlsPolicy diff) k (w.state.get k) :=
  (triple_reconcileCertificates.of_ok rfl h).get k

theorem keyed_get (certs : Certificates) (k : ObjectKey) : Keyed k (certs.get k) :=
  fun _ hcert => Objects.key_of_get hcert

/-- Two calls settle an expected certificate, whatever there was. -/
theorem settledAt_of_two_calls {orders' : ObjectKey → MapOrder} (hapart : SecretsApart tlsPolicy diff)
    (hapart' : SecretsApart tlsPolicy diff') (hgateways : visited diff' ⊆ visited diff)
    (he : Expects tlsPolicy diff gwKey e) (he' : Expects tlsPolicy diff' gwKey e)
    {o' : Option Certificate} (ho : Keyed e.metadata.key o) (ho' : Keyed e.metadata.key o')
    (hfirst : o' = callAt tlsPolicy.key (visitsOf orders tlsPolicy diff) e.metadata.key o) :
    SettledAt tlsPolicy.key (visited diff') gwKey e
      (callAt tlsPolicy.key (visitsOf orders' tlsPolicy diff') e.metadata.key o') := by
  have hcalled := @callAt_none_or_settledAt tlsPolicy e gwKey o orders diff hapart he ho
  rw [← hfirst] at hcalled
  rcases hcalled with rfl | hsettled
  · have hagain := @callAt_none_or_settledAt tlsPolicy e gwKey none orders' diff' hapart' he' ho'
    refine hagain.resolve_left ?_
    rw [callAt_none hapart' he']
    simp
  · rw [hsettled.callAt hapart' he' hgateways ho']
    obtain ⟨cert, hcert, hspec, hothers⟩ := hsettled
    exact ⟨cert, hcert, hspec, fun other hother => hothers other (hgateways hother)⟩

/-- Where nothing is expected, the second call finds nothing to delete. -/
theorem deleteIf_carriesAny_again {gateways gateways' : List ObjectKey}
    (hsub : gateways' ⊆ gateways) :
    certificateKind.deleteIf (carriesAny apKey gateways')
        (certificateKind.deleteIf (carriesAny apKey gateways) o)
      = certificateKind.deleteIf (carriesAny apKey gateways) o := by
  have htwice := @Kind.deleteIf_deleteIf _ certificateKind (carriesAny apKey gateways) o
  cases hleft : certificateKind.deleteIf (carriesAny apKey gateways) o with
  | none => rfl
  | some cert =>
      rw [hleft] at htwice
      cases hselected : carriesAny apKey gateways' cert with
      | false => exact Kind.deleteIf_of_false hselected
      | true =>
          obtain ⟨other, hother, hcarries⟩ := carriesAny_iff.1 hselected
          have hall := carriesAny_iff.2 ⟨other, hsub hother, hcarries⟩
          rw [Kind.deleteIf_of_true hselected, ← Kind.deleteIf_of_true hall]
          exact htwice

theorem callAt_of_notExpected (ho : Keyed k o)
    (hk : ∀ gwKey e, Expects tlsPolicy diff gwKey e → e.metadata.key ≠ k) :
    callAt tlsPolicy.key (visitsOf orders tlsPolicy diff) k o
      = certificateKind.deleteIf (carriesAny tlsPolicy.key (visited diff)) o := by
  rw [callAt_of_unexpected ho, map_gateway_visitsOf]
  intro v hv hmem
  obtain ⟨e, he, hkey⟩ := List.mem_map.1 hmem
  exact hk v.gateway e (exists_gateway hv he) hkey

end

/-- Two calls of `reconcileCertificates` that return nil, for Gateways with secrets of their own, with
    any faults in calls that failed before, any certificates there at the start and the map visited
    in any order; the second one may find fewer Gateways to clean up, and in another order. Then under
    the name of every expected certificate there is one with its spec. The other certificates that
    carry the labels of the policy and one of the Gateways are gone or being deleted, those that carry
    no such labels are as they were, and further calls that return nil change nothing. -/
theorem certificates_settle (tlsPolicy : TLSPolicy) (diff diff' : GatewayDiff)
    (orders orders' : ObjectKey → MapOrder) (w w₁ w₂ : Served Certificates)
    (faults : List (Option Fault))
    (hapart : SecretsApart tlsPolicy diff) (hapart' : SecretsApart tlsPolicy diff')
    (hexpects : ∀ gwKey e, Expects tlsPolicy diff' gwKey e ↔ Expects tlsPolicy diff gwKey e)
    (hgateways : visited diff' ⊆ visited diff)
    (hfirst : reconcileCertificates orders tlsPolicy diff w = (.ok (), w₁))
    (hsecond : reconcileCertificates orders' tlsPolicy diff' ⟨w₁.state, faults⟩ = (.ok (), w₂)) :
    (∀ gwKey e, Expects tlsPolicy diff gwKey e → ∃ cert,
      w₂.state.get e.metadata.key = some cert ∧ cert.spec = e.spec) ∧
    (∀ k, (∀ gwKey e, Expects tlsPolicy diff gwKey e → e.metadata.key ≠ k) →
      (∀ cert, w₂.state.get k = some cert →
        (∃ gwKey ∈ visited diff, Carries gwKey tlsPolicy.key cert) →
        cert.metadata.deletionTimestamp = true) ∧
      ∀ cert, (∀ gwKey ∈ visited diff, ¬ Carries gwKey tlsPolicy.key cert) →
        (w₂.state.get k = some cert ↔ w.state.get k = some cert)) ∧
    ∀ orders'' faults' w₃,
      reconcileCertificates orders'' tlsPolicy diff' ⟨w₂.state, faults'⟩ = (.ok (), w₃) →
      ∀ k, w₃.state.get k = w₂.state.get k := by
  have hsettled : ∀ gwKey e, Expects tlsPolicy diff gwKey e →
      SettledAt tlsPolicy.key (visited diff') gwKey e (w₂.state.get e.metadata.key) := by
    intro gwKey e he
    rw [get_of_call hsecond]
    exact settledAt_of_two_calls hapart hapart' hgateways he ((hexpects gwKey e).2 he)
      (keyed_get _ _) (keyed_get _ _) (get_of_call hfirst _)
  -- where nothing is expected, the first call has deleted what the others would delete
  have hother : ∀ k, (∀ gwKey e, Expects tlsPolicy diff gwKey e → e.metadata.key ≠ k) →
      w₂.state.get k = certificateKind.deleteIf (carriesAny tlsPolicy.key (visited diff))
        (w.state.get k) := by
    intro k hk
    rw [get_of_call hsecond, callAt_of_notExpected (keyed_get _ _) fun gwKey e he =>
      hk gwKey e ((hexpects gwKey e).1 he)]
    show certificateKind.deleteIf _ (w₁.state.get k) = _
    rw [get_of_call hfirst, callAt_of_notExpected (keyed_get _ _) hk]
    exact deleteIf_carriesAny_again hgateways
  refine ⟨fun gwKey e he => ?_, fun k hk => ⟨fun cert hcert hcarries => ?_, fun cert hnone => ?_⟩,
    fun orders'' faults' w₃ hthird k => ?_⟩
  · obtain ⟨cert, hcert, hspec, -⟩ := hsettled gwKey e he
    exact ⟨cert, hcert, hspec⟩
  · rw [hother k hk] at hcert
    exact Kind.marked_of_deleteIf hcert (carriesAny_iff.2 hcarries)
  · rw [hother k hk]
    refine Kind.deleteIf_eq_some_iff (fun _ => rfl) (Bool.eq_false_iff.2 fun hselected => ?_)
    obtain ⟨gwKey, hgwKey, hcarries⟩ := carriesAny_iff.1 hselected
    exact hnone gwKey hgwKey hcarries
  · rw [get_of_call hthird]
    show callAt _ _ k (w₂.state.get k) = _
    by_cases hk : ∀ gwKey e, Expects tlsPolicy diff gwKey e → e.metadata.key ≠ k
    · rw [callAt_of_notExpected (keyed_get _ _) fun gwKey e he => hk gwKey e ((hexpects gwKey e).1 he),
        hother k hk]
      exact deleteIf_carriesAny_again hgateways
    · simp only [not_forall, not_not] at hk
      obtain ⟨gwKey, e, he, rfl⟩ := hk
      exact (hsettled gwKey e he).callAt hapart' ((hexpects gwKey e).2 he) (fun _ h => h)
        (keyed_get _ _)

/-! ## A secret that moves -/

/-- The certificates while the Gateway `y` still has the secret `tls`. -/
def certificatesOfY : Certificates :=
  (reconcileGatewayCertificates .inserted (gatewayFor "y" "y.com" "tls") examplePolicy
    ⟨∅, []⟩).2.state

/-- The secret is now that of the Gateway `x`, which is visited first. -/
def movedDiff : GatewayDiff where
  gatewaysWithValidPolicyRef := [gatewayFor "x" "x.com" "tls", gatewayFor "y" "y.com" "other"]

/-- The certificates after a call, and after two. -/
def afterMove (certs : Certificates) : Certificates :=
  (reconcileCertificates (fun _ => .inserted) examplePolicy movedDiff ⟨certs, []⟩).2.state

theorem expects_movedDiff {gwKey : ObjectKey} {e : Certificate}
    (h : Expects examplePolicy movedDiff gwKey e) :
    (gwKey = ⟨"a", "x"⟩ ∧ e.metadata.key = ⟨"a", "tls"⟩) ∨
      (gwKey = ⟨"a", "y"⟩ ∧ e.metadata.key = ⟨"a", "other"⟩) := by
  obtain ⟨gw, hgw, rfl, hcert⟩ := h
  have hreferred : movedDiff.referred
      = [gatewayFor "x" "x.com" "tls", gatewayFor "y" "y.com" "other"] := rfl
  simp only [hreferred, List.mem_cons, List.not_mem_nil, or_false] at hgw
  rcases hgw with rfl | rfl
  · have hx : expectedFor .inserted examplePolicy (gatewayFor "x" "x.com" "tls")
        = [buildCertManagerCertificate ⟨"a", "x"⟩ examplePolicy ⟨"a", "tls"⟩ ["x.com"]] := rfl
    rw [hx, List.mem_singleton] at hcert
    rw [hcert]
    exact Or.inl ⟨rfl, rfl⟩
  · have hy : expectedFor .inserted examplePolicy (gatewayFor "y" "y.com" "other")
        = [buildCertManagerCertificate ⟨"a", "y"⟩ examplePolicy ⟨"a", "other"⟩ ["y.com"]] := rfl
    rw [hy, List.mem_singleton] at hcert
    rw [hcert]
    exact Or.inr ⟨rfl, rfl⟩

theorem secretsApart_movedDiff : SecretsApart examplePolicy movedDiff where
  gateways := by decide
  secrets gwKey gwKey' cert cert' h h' hkey := by
    rcases expects_movedDiff h with ⟨rfl, hcert⟩ | ⟨rfl, hcert⟩
    · rcases expects_movedDiff h' with ⟨rfl, hcert'⟩ | ⟨rfl, hcert'⟩
      · rfl
      · rw [hcert, hcert'] at hkey
        exact absurd hkey (by decide)
    · rcases expects_movedDiff h' with ⟨rfl, hcert'⟩ | ⟨rfl, hcert'⟩
      · rw [hcert, hcert'] at hkey
        exact absurd hkey (by decide)
      · rfl

/-- The call for `x` brings the certificate up to date, the one for `y` deletes it; the second call
    creates it again. -/
theorem certificates_settle_moved :
    (certificatesOfY.get ⟨"a", "tls"⟩).isSome = true ∧
    (afterMove certificatesOfY).get ⟨"a", "tls"⟩ = none ∧
    ∃ cert, (afterMove (afterMove certificatesOfY)).get ⟨"a", "tls"⟩ = some cert ∧
      cert.spec = (buildCertManagerCertificate ⟨"a", "x"⟩ examplePolicy ⟨"a", "tls"⟩ ["x.com"]).spec := by
  have hx : Expects examplePolicy movedDiff ⟨"a", "x"⟩
      (buildCertManagerCertificate ⟨"a", "x"⟩ examplePolicy ⟨"a", "tls"⟩ ["x.com"]) :=
    ⟨gatewayFor "x" "x.com" "tls", List.mem_cons_self, rfl, List.mem_singleton.2 rfl⟩
  have hfirst : (reconcileCertificates (fun _ => .inserted) examplePolicy movedDiff
      ⟨certificatesOfY, []⟩).1 = .ok () := rfl
  have hsecond : (reconcileCertificates (fun _ => .inserted) examplePolicy movedDiff
      ⟨afterMove certificatesOfY, []⟩).1 = .ok () := rfl
  refine ⟨rfl, rfl, ?_⟩
  exact (certificates_settle examplePolicy movedDiff movedDiff (fun _ => .inserted)
    (fun _ => .inserted) ⟨certificatesOfY, []⟩ _ _ [] secretsApart_movedDiff secretsApart_movedDiff
    (fun _ _ => Iff.rfl) (fun _ h => h) (Prod.ext hfirst rfl) (Prod.ext hsecond rfl)).1 _ _ hx

end MultiClusterGateway.TlsPolicy
