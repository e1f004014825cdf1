import MultiClusterGateway.Api.Deletions
import MultiClusterGateway.Policy.References

set_option autoImplicit false

/-! # The Gateways that the resources of a policy belong to

What a policy controller makes is labelled with the policy and with the Gateway it is made for. A
removal goes by these labels: it deletes what is labelled with the policy and one of the Gateways that
the policy no longer refers to. So it matters which Gateways the live resources of a policy may belong
to.

A `Coverage` says that of a controller: for each set of Gateways, that the live resources belong to
these. A reconcile of the resources widens the set by the Gateways that the policy refers to and, if it
succeeds, narrows it by those that the policy no longer refers to. It is `Noted` that the set has only
Gateways that list the policy, apart from some that are exempt. The steps that come after the resources
are written, which are the same in both controllers, establish it again or leave it. -/

namespace MultiClusterGateway

/-! ## Labels -/

/-- The labels that name a policy, and those that name it together with a Gateway. -/
structure PolicyLabels where
  ofPolicy : Labels
  ofGateway : ObjectKey → Labels

/-- The labels name the policy and none of the Gateways. -/
def PolicyLabels.Uncovered (own : PolicyLabels) (gateways : ObjectKey → Prop) (labels : Labels) :
    Prop :=
  labels.matches own.ofPolicy = true ∧
    ∀ gwKey, gateways gwKey → labels.matches (own.ofGateway gwKey) = false

namespace PolicyLabels

variable {own : PolicyLabels} {gateways gateways' : ObjectKey → Prop} {labels : Labels}

theorem Uncovered.anti (h : own.Uncovered gateways' labels) (hsub : ∀ k, gateways k → gateways' k) :
    own.Uncovered gateways labels :=
  ⟨h.1, fun gwKey hgw => h.2 gwKey (hsub gwKey hgw)⟩

end PolicyLabels

/-! ## Coverage -/

/-- The live resources of a policy belong to some Gateways, as a property of the hub of a controller.
    It does not depend on the Gateways in the hub. -/
structure Coverage (S : Type) where
  gateways : Part S (Objects gatewayKind)
  By : (ObjectKey → Prop) → S → Prop
  mono : ∀ {keys keys' : ObjectKey → Prop} {s : S}, By keys s → (∀ k, keys k → keys' k) → By keys' s
  frame : ∀ {keys : ObjectKey → Prop} {s : S} (objects : Objects gatewayKind),
    By keys s → By keys (gateways.set s objects)

namespace Coverage

/-- The live resources of the policy belong to Gateways that list it, or to exempt ones. -/
def Noted {S : Type} (c : Coverage S) (refs : Labels → List ObjectKey) (apKey : ObjectKey)
    (exempt : ObjectKey → Prop) (s : S) : Prop :=
  c.By (ListedOr refs apKey (c.gateways.get s) exempt) s

section
variable {S R : Type} {c : Coverage S} {refs : Labels → List ObjectKey} {apKey : ObjectKey}
  {exempt targeted : ObjectKey → Prop} {diff : GatewayDiff} {objects : Objects gatewayKind} {s : S}
  {A : Prop} {P M : S → Prop}

end

end Coverage

end MultiClusterGateway
