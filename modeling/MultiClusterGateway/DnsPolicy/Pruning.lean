import MultiClusterGateway.DnsPolicy.SetEndpoints
import MultiClusterGateway.Lib.Support

set_option autoImplicit false

/-! # Pruning

The deletion loops of `setEndpoints` step over the element after each deletion and repeat as often
as a counter says, yet they leave a list that depends on none of this: the greatest part of the
endpoints without a failed probe in which every endpoint has an IP-like target or a child
(`publishEndpoints_eq`).

An endpoint supports those that have its name among their targets. A pass deletes endpoints without
support; that one is skipped after each deletion only delays its own deletion, because the counter
reaches zero only after a pass that has deleted nothing. So the loop ends with a list in which
everything is supported, and nothing that belongs to such a list is ever deleted: it is the greatest
one. Endpoints that point at each other in a circle support each other and stay. -/

namespace MultiClusterGateway

open Support

/-- Some target looks like an IP address, so the children of the endpoint are not counted. -/
def IPLike (e : Endpoint) : Prop := e.targets.any matchesIPPattern = true

/-- `x` is a child of `e`: a target of `e` is the name of `x`. -/
def ChildOf (e x : Endpoint) : Prop := x.dnsName ∈ e.targets

instance (e : Endpoint) : Decidable (IPLike e) :=
  inferInstanceAs (Decidable (e.targets.any matchesIPPattern = true))

instance (e x : Endpoint) : Decidable (ChildOf e x) :=
  inferInstanceAs (Decidable (x.dnsName ∈ e.targets))

theorem mem_findChildren {endpoints : List Endpoint} {parent x : Endpoint} :
    x ∈ findChildren endpoints parent ↔ x ∈ endpoints ∧ ChildOf parent x := by
  simp only [findChildren, ChildOf, List.mem_flatMap, List.mem_map, List.mem_filter, beq_iff_eq]
  constructor
  · rintro ⟨y, hy, a, ⟨ha, rfl⟩, rfl⟩
    exact ⟨hy, ha⟩
  · rintro ⟨hx, hc⟩
    exact ⟨x, hx, x.dnsName, ⟨hc, rfl⟩, rfl⟩

/-- An endpoint is deleted exactly if it has neither an IP-like target nor a child. -/
theorem not_supported_iff {endpoints : List Endpoint} {e : Endpoint} :
    ¬ Supported IPLike ChildOf endpoints e ↔
      ¬ IPLike e ∧ getNumChildrenOfParent endpoints e = 0 := by
  unfold Supported getNumChildrenOfParent
  rw [List.length_eq_zero_iff, List.eq_nil_iff_forall_not_mem]
  simp only [mem_findChildren]
  push Not
  rfl

/-- One pass only deletes. -/
theorem deletes_prunePass (front rest : List Endpoint) :
    Deletes IPLike ChildOf (front ++ rest) (prunePass front rest).1 := by
  fun_induction prunePass front rest with
  | case1 front =>
      rw [List.append_nil]
      exact Deletes.refl front
  | case2 front e rest _ ih => simpa using ih
  | case3 front e hip hchildren =>
      refine Deletes.step (not_supported_iff.2 ⟨hip, hchildren⟩) ?_
      rw [List.append_nil]
      exact Deletes.refl front
  | case4 front e hip e' rest' kept removed heq hchildren ih =>
      rw [heq] at ih
      refine Deletes.step (not_supported_iff.2 ⟨hip, hchildren⟩) ?_
      simpa using ih
  | case5 front e rest _ _ ih => simpa using ih

/-- A pass that deletes nothing has looked at every endpoint. -/
theorem prunePass_eq_self {front rest : List Endpoint} (h : (prunePass front rest).2 = 0) :
    (prunePass front rest).1 = front ++ rest ∧
      ∀ e ∈ rest, Supported IPLike ChildOf (front ++ rest) e := by
  fun_induction prunePass front rest with
  | case1 front => simp
  | case2 front e rest hip ih =>
      obtain ⟨heq, hsup⟩ := ih h
      rw [List.append_assoc] at heq hsup
      refine ⟨heq, ?_⟩
      rw [List.forall_mem_cons]
      exact ⟨Or.inl hip, hsup⟩
  | case3 front e _ _ => simp at h
  | case4 front e _ e' rest' kept removed _ _ _ => simp at h
  | case5 front e rest hip hchildren ih =>
      obtain ⟨heq, hsup⟩ := ih h
      rw [List.append_assoc] at heq hsup
      refine ⟨heq, ?_⟩
      rw [List.forall_mem_cons]
      refine ⟨?_, hsup⟩
      by_contra hns
      exact hchildren (not_supported_iff.1 hns).2

/-- The counter reaches zero only after a pass that deleted nothing. -/
theorem pruneLoop_spec {removedEndpoints : Nat} {l : List Endpoint} (h : removedEndpoints ≠ 0) :
    Deletes IPLike ChildOf l (pruneLoop removedEndpoints l) ∧
      SelfSupporting IPLike ChildOf (pruneLoop removedEndpoints l) := by
  fun_induction pruneLoop removedEndpoints l with
  | case1 l => exact absurd rfl h
  | case2 l removed ih =>
      have hpass := deletes_prunePass [] l
      by_cases hnext : removed + (prunePass [] l).2 = 0
      · have hzero : (prunePass [] l).2 = 0 := by omega
        obtain ⟨heq, hsup⟩ := prunePass_eq_self hzero
        rw [List.nil_append] at heq hsup
        rw [hnext, heq]
        unfold pruneLoop
        exact ⟨Deletes.refl l, hsup⟩
      · obtain ⟨hdel, hself⟩ := ih hnext
        exact ⟨hpass.trans hdel, hself⟩

open Classical in
/-- The loop ends with the part of the list that the largest set of endpoints supporting each other
    forms, whatever the counter starts with. Any other order of deletions that goes on until nothing
    is left to delete ends with the same list. -/
theorem pruneLoop_greatest (removedEndpoints : Nat) (l : List Endpoint)
    (hpos : 1 ≤ removedEndpoints) :
    pruneLoop removedEndpoints l = l.filter (fun e => decide (Kept IPLike ChildOf l e)) ∧
      ClosedOn IPLike ChildOf l (Kept IPLike ChildOf l) ∧
      (∀ P, ClosedOn IPLike ChildOf l P → ∀ e ∈ l, P e → Kept IPLike ChildOf l e) ∧
      ∀ l', Deletes IPLike ChildOf l l' → SelfSupporting IPLike ChildOf l' →
        l' = pruneLoop removedEndpoints l := by
  obtain ⟨hdel, hself⟩ := pruneLoop_spec (l := l) (Nat.one_le_iff_ne_zero.1 hpos)
  have hkept := hdel.eq_filter_kept hself
  refine ⟨hkept, closedOn_kept l, fun P hP e _ he => ⟨P, hP, he⟩, fun l' hdel' hself' => ?_⟩
  rw [hkept]
  exact hdel'.eq_filter_kept hself'

/-- An endpoint with one target. -/
def aliasOf (dnsName target : String) : Endpoint where
  dnsName := dnsName
  targets := [target]
  recordType := .CNAME
  setIdentifier := ""
  recordTTL := 60
  providerSpecific := []

/-- Two endpoints that point at each other stay, one that points at nothing goes. -/
theorem pruneLoop_greatest_cycle :
    pruneLoop 1 [aliasOf "orphan" "gone", aliasOf "a" "b", aliasOf "b" "a"]
      = [aliasOf "a" "b", aliasOf "b" "a"] := by
  classical
  let l := [aliasOf "orphan" "gone", aliasOf "a" "b", aliasOf "b" "a"]
  have hprune := (pruneLoop_greatest 1 l (by decide)).1
  have hclosed := (pruneLoop_greatest 1 l (by decide)).2.1
  have horphan : ¬ Kept IPLike ChildOf l (aliasOf "orphan" "gone") := by
    intro hkept
    rcases hclosed _ List.mem_cons_self hkept with hip | ⟨x, hx, -, hchild⟩
    · exact absurd hip (by decide)
    · revert x
      decide
  have hcycle : ∀ e ∈ [aliasOf "a" "b", aliasOf "b" "a"], Kept IPLike ChildOf l e := by
    intro e he
    refine ⟨fun x => x ∈ [aliasOf "a" "b", aliasOf "b" "a"], ?_, he⟩
    intro x _ hx
    revert x
    decide
  rw [hprune]
  simp only [List.forall_mem_cons, l] at hcycle horphan ⊢
  simp [horphan, hcycle]

theorem removeUnhealthy_eq (failed : Endpoint → Bool) (l : List Endpoint) :
    removeUnhealthy failed l = (l.filter (fun e => !failed e), l.countP failed) := by
  induction l with
  | nil => rfl
  | cons e l ih =>
      simp only [removeUnhealthy, ih]
      cases hf : failed e <;> simp [hf]

/-- Only what the probes say of the endpoints that were built counts. -/
theorem publishEndpoints_congr {failed failed' : Endpoint → Bool} {full : List Endpoint}
    (h : ∀ e ∈ full, failed e = failed' e) :
    publishEndpoints failed full = publishEndpoints failed' full := by
  have hfilter : full.filter (fun e => !failed e) = full.filter (fun e => !failed' e) :=
    List.filter_congr fun e he => congrArg not (h e he)
  have hcount : full.countP failed = full.countP failed' :=
    List.countP_congr fun e he => by rw [h e he]
  simp only [publishEndpoints, removeUnhealthy_eq, hfilter, hcount]

/-- Nothing is removed when no probe has failed. -/
theorem publishEndpoints_of_forall_not_failed {failed : Endpoint → Bool} {full : List Endpoint}
    (h : ∀ e ∈ full, failed e = false) : publishEndpoints failed full = full := by
  have hfilter : full.filter (fun e => !failed e) = full := by
    rw [List.filter_eq_self]
    intro e he
    simp [h e he]
  have hcount : full.countP failed = 0 := by
    rw [List.countP_eq_zero]
    intro e he
    simp [h e he]
  simp only [publishEndpoints, removeUnhealthy_eq, hfilter, hcount, pruneLoop]
  split
  · rfl
  · rfl

/-- `e` is an endpoint without a failed probe that survives the pruning. -/
def Survives (failed : Endpoint → Bool) (full : List Endpoint) (e : Endpoint) : Prop :=
  failed e = false ∧ Kept IPLike ChildOf (full.filter (fun e => !failed e)) e

open Classical in
/-- When some probe has failed, the survivors are published, unless there are none. -/
theorem publishEndpoints_eq {failed : Endpoint → Bool} {full : List Endpoint}
    (h : ∃ e ∈ full, failed e = true) :
    ((∃ e ∈ full, Survives failed full e) →
      publishEndpoints failed full = full.filter (fun e => decide (Survives failed full e))) ∧
    ((¬ ∃ e ∈ full, Survives failed full e) → publishEndpoints failed full = full) := by
  have hcount : full.countP failed ≠ 0 := by
    obtain ⟨e, he, hf⟩ := h
    exact (List.countP_pos_iff.2 ⟨e, he, hf⟩).ne'
  obtain ⟨hdel, hself⟩ := pruneLoop_spec (l := full.filter (fun e => !failed e)) hcount
  have hkept := hdel.eq_filter_kept hself
  have hsurvive : (full.filter (fun e => !failed e)).filter
      (fun e => decide (Kept IPLike ChildOf (full.filter (fun e => !failed e)) e))
      = full.filter (fun e => decide (Survives failed full e)) := by
    rw [List.filter_filter]
    apply List.filter_congr
    intro e _
    cases hf : failed e <;> simp [Survives, hf]
  rw [hsurvive] at hkept
  simp only [publishEndpoints, removeUnhealthy_eq, hkept]
  constructor
  · rintro ⟨e, he, hs⟩
    rw [if_neg (List.ne_nil_of_mem (List.mem_filter.2 ⟨he, decide_eq_true hs⟩))]
  · intro hnone
    have hnil : full.filter (fun e => decide (Survives failed full e)) = [] := by
      rw [List.filter_eq_nil_iff]
      intro e he hs
      exact hnone ⟨e, he, of_decide_eq_true hs⟩
    rw [if_pos hnil]

/-- Only endpoints that were built are published. -/
theorem publishEndpoints_sublist {failed : Endpoint → Bool} {full : List Endpoint} :
    (publishEndpoints failed full).Sublist full := by
  classical
  by_cases hfailed : ∃ e ∈ full, failed e = true
  · by_cases hsurvive : ∃ e ∈ full, Survives failed full e
    · rw [(publishEndpoints_eq hfailed).1 hsurvive]
      exact List.filter_sublist
    · rw [(publishEndpoints_eq hfailed).2 hsurvive]
  · have hnone : ∀ e ∈ full, failed e = false := by simpa using hfailed
    rw [publishEndpoints_of_forall_not_failed hnone]

theorem publishEndpoints_subset {failed : Endpoint → Bool} {full : List Endpoint} :
    publishEndpoints failed full ⊆ full :=
  publishEndpoints_sublist.subset

/-- Two endpoints with the same targets are published both or neither. -/
theorem mem_publishEndpoints_of_targets_eq {failed : Endpoint → Bool} {full : List Endpoint}
    {e e' : Endpoint} (he' : e' ∈ full) (hfailed : failed e' = failed e)
    (htargets : e'.targets = e.targets) (h : e ∈ publishEndpoints failed full) :
    e' ∈ publishEndpoints failed full := by
  classical
  by_cases hsome : ∃ x ∈ full, failed x = true
  · by_cases hsurvive : ∃ x ∈ full, Survives failed full x
    · rw [(publishEndpoints_eq hsome).1 hsurvive, List.mem_filter, decide_eq_true_eq] at h ⊢
      obtain ⟨he, hhealthy, P, hclosed, hP⟩ := h
      refine ⟨he', hfailed.trans hhealthy, fun x => P x ∨ x = e', fun x hx hPx => ?_, Or.inr rfl⟩
      -- the second endpoint has the support of the first
      have hsupport : IPLike x ∨ ∃ y ∈ full.filter (fun e => !failed e), P y ∧ ChildOf x y := by
        rcases hPx with hPx | rfl
        · exact hclosed x hx hPx
        · unfold IPLike ChildOf
          rw [htargets]
          exact hclosed e (List.mem_filter.2 ⟨he, by simp [hhealthy]⟩) hP
      exact hsupport.imp_right fun ⟨y, hy, hPy, hchild⟩ => ⟨y, hy, Or.inl hPy, hchild⟩
    · rw [(publishEndpoints_eq hsome).2 hsurvive]
      exact he'
  · rw [publishEndpoints_of_forall_not_failed (by simpa using hsome)]
    exact he'

theorem setEndpoints_no_probes (env : Env) (order : MapOrder) (t : MultiClusterGatewayTarget)
    (endpoints : List Endpoint) (listenerName host : String) :
    setEndpoints env order t endpoints [] listenerName host
      = fullEndpoints env order t host endpoints :=
  publishEndpoints_of_forall_not_failed fun _ _ => rfl

end MultiClusterGateway
