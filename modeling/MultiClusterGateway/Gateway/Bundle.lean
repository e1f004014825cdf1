import MultiClusterGateway.Gateway.Reconcile

set_option autoImplicit false

/-! # What is placed on a cluster beside a Gateway

The secrets that the listeners refer to are moved into the namespace of the Gateway on the cluster,
while the references are copied as they are. The bundle is self-contained exactly if no reference
names another namespace than that one, and secrets that lose their namespaces have the same data if
they have the same name.

A reference without a namespace stands for a secret in the namespace of its Gateway, wherever that
is: on the hub the one of the Gateway there, on the cluster the one of its copy, to which the
secrets are moved as well. A reference with a namespace is copied with it, and then points past the
moved secret. `selfContained_iff` says exactly when every reference finds what it stands for on the
hub, and the Gateway at the end has a reference that does not. -/

namespace MultiClusterGateway.GatewayController

open Placement

/-- The secret a reference stands for in a Gateway of the namespace `ns`. -/
def denotes (ns : String) (ref : SecretObjectReference) : ObjectKey :=
  ⟨ref.ns.getD ns, ref.name⟩

/-- Every certificate reference of the Gateway finds a secret in the bundle, with the data of the
    secret it stands for on the hub, and no two secrets of the bundle contradict each other. -/
def SelfContained (hub : Hub) (upstream downstream : GatewayObject) (secrets : List Secret) : Prop :=
  (∀ ref ∈ tlsRefs downstream, ∃ s ∈ secrets,
    s.metadata.key = denotes downstream.metadata.ns ref.2 ∧
    ∃ original, hub.secrets.get (denotes upstream.metadata.ns ref.2) = some original ∧
      s.data = original.data) ∧
  ∀ s ∈ secrets, ∀ s' ∈ secrets, s.metadata.key = s'.metadata.key → s.data = s'.data

/-- The data of the secret that a reference of the Gateway stands for on the hub. -/
def upstreamData (hub : Hub) (gw : GatewayObject) (ref : SecretObjectReference) :
    Option (List (String × String)) :=
  (hub.secrets.get (denotes gw.metadata.ns ref)).map (·.data)

variable {hub : Hub} {ns downstreamNS : String}

/-- A secret of the bundle is the one that the reference stands for, moved. -/
def Moved (hub : Hub) (ns downstreamNS : String) (ref : String × SecretObjectReference) (s : Secret) :
    Prop :=
  ∃ original, hub.secrets.get (denotes ns ref.2) = some original ∧
    s = moveSecret downstreamNS original

/-- The secrets are those that the references stand for. -/
structure Bundled (hub : Hub) (ns downstreamNS : String) (refs : List (String × SecretObjectReference))
    (secrets : List Secret) : Prop where
  covered : ∀ ref ∈ refs, ∃ s ∈ secrets, Moved hub ns downstreamNS ref s
  moved : ∀ s ∈ secrets, ∃ ref ∈ refs, Moved hub ns downstreamNS ref s

theorem Bundled.cons {ref : String × SecretObjectReference}
    {refs : List (String × SecretObjectReference)} {s : Secret} {secrets : List Secret}
    (hs : Moved hub ns downstreamNS ref s) (h : Bundled hub ns downstreamNS refs secrets) :
    Bundled hub ns downstreamNS (ref :: refs) (s :: secrets) where
  covered ref' href' := by
    rcases List.mem_cons.1 href' with rfl | href'
    · exact ⟨s, List.mem_cons_self, hs⟩
    · obtain ⟨s', hs', hmoved⟩ := h.covered ref' href'
      exact ⟨s', List.mem_cons_of_mem _ hs', hmoved⟩
  moved s' hs' := by
    rcases List.mem_cons.1 hs' with rfl | hs'
    · exact ⟨ref, List.mem_cons_self, hs⟩
    · obtain ⟨ref', href', hmoved⟩ := h.moved s' hs'
      exact ⟨ref', List.mem_cons_of_mem _ href', hmoved⟩

/-- Without an error every reference has given a secret. -/
theorem triple_collectSecrets (refs : List (String × SecretObjectReference)) :
    Api.Triple (fun s => s = hub) (collectSecrets ns downstreamNS refs)
      (fun result s => s = hub ∧ (result.2 = none → Bundled hub ns downstreamNS refs result.1))
      (fun _ s => s = hub) := by
  induction refs with
  | nil => exact Effect.Spec.pure fun s hs => ⟨hs, fun _ => ⟨nofun, nofun⟩⟩
  | cons ref rest ih =>
      obtain ⟨listener, ref⟩ := ref
      refine Api.triple_outcome_bind Api.triple_get (fun e s hs => hs.1) (fun secret => ?_) fun e => ?_
      · refine Effect.Spec.mono (P := fun s => s = hub ∧ hub.secrets.get (denotes ns ref) = some secret)
          (Effect.Spec.given fun hget => ?_) ?_ (fun _ _ h => h) fun _ _ h => h
        · exact ih.bind (fun e s hs => hs) fun result => Effect.Spec.pure fun s hs =>
            ⟨hs.1, fun hnone => (hs.2 hnone).cons ⟨secret, hget, rfl⟩⟩
        · rintro s ⟨rfl, hget⟩
          exact ⟨rfl, hget⟩
      · refine Effect.Spec.bind (ih.mono (fun s hs => hs.1) (fun a s hs => hs) fun e s hs => hs)
          (fun e s hs => hs) fun result => Effect.Spec.pure fun s hs => ⟨hs.1, fun hnone => ?_⟩
        cases hnone

/-- The bundle that is placed: the copied references and the moved secrets. -/
theorem bundle_of_prepareBundle {params : Option String} {upstream downstream : GatewayObject}
    {secrets : List Secret} {faults : List (Option Fault)} {w : Served Hub}
    (h : prepareBundle params upstream ⟨hub, faults⟩ = (.ok (.inr (downstream, secrets)), w)) :
    tlsRefs downstream = tlsRefs upstream ∧
      downstream.metadata.ns = downstreamNamespace upstream.metadata.ns ∧
      Bundled hub upstream.metadata.ns (downstreamNamespace upstream.metadata.ns) (tlsRefs upstream)
        secrets := by
  have htriple : Api.Triple (fun s => s = hub) (prepareBundle params upstream)
      (fun result _ => ∀ downstream secrets, result = .inr (downstream, secrets) →
        tlsRefs downstream = tlsRefs upstream ∧
        downstream.metadata.ns = downstreamNamespace upstream.metadata.ns ∧
        Bundled hub upstream.metadata.ns (downstreamNamespace upstream.metadata.ns)
          (tlsRefs upstream) secrets)
      (fun _ _ => True) := by
    unfold prepareBundle
    split
    · exact Effect.Spec.pure fun s hs downstream secrets heq => nomatch heq
    · refine (triple_collectSecrets _).bind (fun _ _ _ => trivial) fun result => ?_
      obtain ⟨secrets, err⟩ := result
      cases err with
      | some e => exact Effect.Spec.pure fun s hs downstream secrets heq => nomatch heq
      | none =>
          refine Effect.Spec.pure fun s hs downstream' secrets' heq => ?_
          cases heq
          cases params with
          | none => exact ⟨rfl, rfl, hs.2 rfl⟩
          | some downstreamClass => exact ⟨rfl, rfl, hs.2 rfl⟩
  exact htriple.of_ok rfl h downstream secrets rfl

theorem Moved.key {ref : String × SecretObjectReference} {s : Secret}
    (h : Moved hub ns downstreamNS ref s) : s.metadata.key = ⟨downstreamNS, ref.2.name⟩ := by
  obtain ⟨original, hget, rfl⟩ := h
  have hname : original.metadata.name = ref.2.name :=
    congrArg ObjectKey.name (Objects.key_of_get hget)
  show (⟨downstreamNS, original.metadata.name⟩ : ObjectKey) = _
  rw [hname]

theorem Moved.data {gw : GatewayObject} {ref : String × SecretObjectReference} {s : Secret}
    (h : Moved hub gw.metadata.ns downstreamNS ref s) :
    upstreamData hub gw ref.2 = some s.data := by
  obtain ⟨original, hget, rfl⟩ := h
  rw [upstreamData, hget]
  rfl

/-- The bundle is self-contained exactly if the references need no namespace. -/
theorem selfContained_iff (hub : Hub) (faults : List (Option Fault)) (params : Option String)
    (upstream downstream : GatewayObject) (secrets : List Secret) (w : Served Hub)
    (h : prepareBundle params upstream ⟨hub, faults⟩ = (.ok (.inr (downstream, secrets)), w)) :
    SelfContained hub upstream downstream secrets ↔
      (∀ ref ∈ tlsRefs upstream,
        ref.2.ns = none ∨ ref.2.ns = some (downstreamNamespace upstream.metadata.ns)) ∧
      ∀ ref ∈ tlsRefs upstream, ∀ ref' ∈ tlsRefs upstream, ref.2.name = ref'.2.name →
        upstreamData hub upstream ref.2 = upstreamData hub upstream ref'.2 := by
  obtain ⟨hrefs, hns, hbundled⟩ := bundle_of_prepareBundle h
  unfold SelfContained
  rw [hrefs, hns]
  constructor
  · rintro ⟨hresolves, hagree⟩
    constructor
    · intro ref href
      -- every secret of the bundle is in the namespace of the Gateway
      obtain ⟨s, hs, hkey, -⟩ := hresolves ref href
      obtain ⟨ref', -, hmoved⟩ := hbundled.moved s hs
      have hsame := congrArg ObjectKey.ns (hmoved.key.symm.trans hkey)
      cases hrefns : ref.2.ns with
      | none => exact Or.inl rfl
      | some ns =>
          rw [denotes, hrefns] at hsame
          exact Or.inr (congrArg some hsame.symm)
    · intro ref href ref' href' hname
      obtain ⟨s, hs, hmoved⟩ := hbundled.covered ref href
      obtain ⟨s', hs', hmoved'⟩ := hbundled.covered ref' href'
      rw [hmoved.data, hmoved'.data, hagree s hs s' hs' (by rw [hmoved.key, hmoved'.key, hname])]
  · rintro ⟨hlocal, hagree⟩
    constructor
    · intro ref href
      obtain ⟨s, hs, hmoved⟩ := hbundled.covered ref href
      refine ⟨s, hs, ?_, ?_⟩
      · rw [hmoved.key, denotes]
        rcases hlocal ref href with hnone | hsome
        · rw [hnone]
          rfl
        · rw [hsome]
          rfl
      · obtain ⟨original, hget, rfl⟩ := hmoved
        exact ⟨original, hget, rfl⟩
    · intro s hs s' hs' hkey
      obtain ⟨ref, href, hmoved⟩ := hbundled.moved s hs
      obtain ⟨ref', href', hmoved'⟩ := hbundled.moved s' hs'
      have hname : ref.2.name = ref'.2.name :=
        congrArg ObjectKey.name (hmoved.key.symm.trans (hkey.trans hmoved'.key))
      have hdata := hagree ref href ref' href' hname
      rw [hmoved.data, hmoved'.data] at hdata
      exact Option.some.inj hdata

/-- A Gateway in namespace `a` with the certificate references of one listener. -/
def gatewayWithRefs (refs : List SecretObjectReference) : GatewayObject where
  metadata := { name := "web", ns := "a" }
  spec := { listeners := [{
    name := "https", hostname := some "web.example.com", tls := some { certificateRefs := refs } }] }

/-- A secret of the Gateway's namespace, and one of the namespace that its works go to. -/
def localSecrets : Hub where
  secrets := ((∅ : Objects secretKind).put
    { metadata := { name := "cert", ns := "a" }, data := [("tls.crt", "one")] }).put
    { metadata := { name := "ca", ns := "kuadrant-a" }, data := [("tls.crt", "two")] }

/-- References without a namespace, and with that of the downstream Gateway. -/
def localRefs : List SecretObjectReference :=
  [{ name := "cert" }, { name := "ca", ns := some "kuadrant-a" }]

theorem selfContained_iff_local :
    SelfContained localSecrets (gatewayWithRefs localRefs) (downstreamOf (gatewayWithRefs localRefs))
      [moveSecret "kuadrant-a"
        { metadata := { name := "cert", ns := "a" }, data := [("tls.crt", "one")] },
      moveSecret "kuadrant-a"
        { metadata := { name := "ca", ns := "kuadrant-a" }, data := [("tls.crt", "two")] }] :=
  (selfContained_iff localSecrets [] none (gatewayWithRefs localRefs) _ _ _ rfl).2
    ⟨by decide, by decide⟩

/-- Secrets with the same name in two namespaces. -/
def twoSecrets : Hub where
  secrets := ((∅ : Objects secretKind).put
    { metadata := { name := "cert", ns := "a" }, data := [("tls.crt", "one")] }).put
    { metadata := { name := "cert", ns := "b" }, data := [("tls.crt", "two")] }

/-- A reference with a namespace finds no secret on the cluster. -/
theorem not_selfContained_namespace :
    let upstream := gatewayWithRefs [{ name := "cert", ns := some "b" }]
    ∃ downstream secrets w,
      prepareBundle none upstream ⟨twoSecrets, []⟩ = (.ok (.inr (downstream, secrets)), w) ∧
      secrets.map (·.metadata.key) = [⟨"kuadrant-a", "cert"⟩] ∧
      (tlsRefs downstream).map (fun ref => denotes downstream.metadata.ns ref.2) = [⟨"b", "cert"⟩] ∧
      ¬ SelfContained twoSecrets upstream downstream secrets := by
  refine ⟨_, _, _, rfl, rfl, rfl, fun hself => ?_⟩
  obtain ⟨s, hs, hkey, -⟩ := hself.1 _ List.mem_cons_self
  rw [List.mem_singleton] at hs
  subst hs
  exact absurd hkey (by decide)

end MultiClusterGateway.GatewayController
