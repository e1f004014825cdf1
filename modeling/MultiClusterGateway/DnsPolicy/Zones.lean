import MultiClusterGateway.Api.DnsObjects
import MultiClusterGateway.DnsPolicy.BuiltEndpoints
import MultiClusterGateway.DnsPolicy.Pruning
import MultiClusterGateway.Lib.Domain

set_option autoImplicit false

/-! # The managed zone of a host

`findMatchingManagedZone` goes from a listener's host to its parents, label by label, up to the first
that is the domain of a zone, and gives up at a public suffix. The zone it finds is the most specific
one above the host, and every name that `setEndpoints` generates for the host is below its domain.
The subdomain that comes with the zone is cut out of the host by a textual replacement, which need
not hit the end of the host. -/

namespace MultiClusterGateway

open Domain (Below parent?)

/-- `publicsuffix.PublicSuffix`. A name of one label is its own public suffix. -/
structure SuffixList where
  publicSuffix : String → String
  single_label : ∀ d, Text.DotFree d → publicSuffix d = d

/-- Why no zone is found for a host. -/
inductive ZoneError where
  /-- `ErrNoManagedZoneForHost`. -/
  | noManagedZoneForHost (host : String)
  | noValidZone (originalHost : String)
deriving DecidableEq, Repr

/-- The text of the error. -/
def ZoneError.message : ZoneError → String
  | .noManagedZoneForHost host => "no managed zone for host : " ++ host
  | .noValidZone originalHost => "no valid zone found for host: " ++ originalHost

section
variable (fold : Text.CaseFold) (suffixes : SuffixList)

/-- The zone's domain as it is compared with hosts. -/
def ManagedZoneObject.domain (zone : ManagedZoneObject) : String :=
  Text.toLower fold zone.spec.domainName

/-- The first zone of the list for a domain. -/
def zoneFor (zones : List ManagedZoneObject) (domain : String) : Option ManagedZoneObject :=
  zones.find? (fun zone => zone.domain fold == domain)

/-- The zone of a host and the host's name in it. -/
def findMatchingManagedZone (originalHost host : String) (zones : List ManagedZoneObject) :
    Except ZoneError (ManagedZoneObject × String) :=
  if zones = [] then .error (.noManagedZoneForHost host)
  else if Text.toLower fold host = suffixes.publicSuffix (Text.toLower fold host) then
    .error (.noValidZone originalHost)
  else
    match _hparent : parent? (Text.toLower fold host) with
    | none => .error (.noValidZone originalHost)
    | some parentDomain =>
      -- records for apex domains are not supported: go on with the parent
      if Text.toLower fold host = originalHost then
        findMatchingManagedZone originalHost parentDomain zones
      else
        match zoneFor fold zones (Text.toLower fold host) with
        | some zone =>
          .ok (zone, Text.removeFirst (Text.toLower fold originalHost) ("." ++ zone.domain fold))
        | none => findMatchingManagedZone originalHost parentDomain zones
termination_by host.length
decreasing_by
  all_goals
    have := (Domain.below_of_parent? _hparent).length_lt
    rwa [Text.length_toLower] at this

/-- `zone` is the first one of the list for the most specific domain above the host, and from there
    down to the host no parent is a public suffix. -/
structure MostSpecific (zones : List ManagedZoneObject) (host domain : String)
    (zone : ManagedZoneObject) : Prop where
  parent : Below domain host
  first : zoneFor fold zones domain = some zone
  longest : ∀ d, Below d host → (∃ z ∈ zones, z.domain fold = d) → d.length ≤ domain.length
  no_suffix : ∀ d, Below d host → domain.length ≤ d.length → suffixes.publicSuffix d ≠ d

end

section
variable {fold : Text.CaseFold} {suffixes : SuffixList}

theorem zoneFor_eq_some {zones : List ManagedZoneObject} {domain : String}
    {zone : ManagedZoneObject} (h : zoneFor fold zones domain = some zone) :
    zone ∈ zones ∧ zone.domain fold = domain := by
  unfold zoneFor at h
  exact ⟨List.mem_of_find?_eq_some h, by simpa using List.find?_some h⟩

theorem zoneFor_eq_none {zones : List ManagedZoneObject} {domain : String} :
    zoneFor fold zones domain = none ↔ ¬ ∃ z ∈ zones, z.domain fold = domain := by
  unfold zoneFor
  rw [List.find?_eq_none]
  simp

/-- What follows a label of a lower-case name is lower-case. -/
theorem toLower_parent {host p : String} (h : parent? host = some p)
    (hlower : Text.toLower fold host = host) : Text.toLower fold p = p := by
  obtain ⟨label, -, rfl⟩ := Domain.parent?_eq_some.1 h
  rw [Text.toLower_append] at hlower
  have hlists := congrArg String.toList hlower
  rw [String.toList_append, String.toList_append] at hlists
  exact String.toList_inj.1 (List.append_inj hlists (by simp)).2

/-! ## One step of the search -/

section
variable {originalHost host p : String} {zones : List ManagedZoneObject}
  (hlower : Text.toLower fold host = host)
include hlower

theorem findMatchingManagedZone_suffix (hsuffix : suffixes.publicSuffix host = host) :
    ∀ r, findMatchingManagedZone fold suffixes originalHost host zones ≠ .ok r := by
  intro r
  rw [findMatchingManagedZone, hlower]
  by_cases hz : zones = []
  · simp [hz]
  · simp [hz, hsuffix]

theorem findMatchingManagedZone_host (hz : zones ≠ []) (hsuffix : suffixes.publicSuffix host ≠ host)
    (hp : parent? host = some p) :
    findMatchingManagedZone fold suffixes host host zones
      = findMatchingManagedZone fold suffixes host p zones := by
  rw [findMatchingManagedZone, hlower, if_neg hz, if_neg (Ne.symm hsuffix)]
  split
  · rename_i hnone
    rw [hp] at hnone
    cases hnone
  · rename_i q hq
    rw [hp] at hq
    cases hq
    rw [if_pos rfl]

theorem findMatchingManagedZone_parent (hz : zones ≠ [])
    (hsuffix : suffixes.publicSuffix host ≠ host) (hp : parent? host = some p)
    (hne : host ≠ originalHost) :
    findMatchingManagedZone fold suffixes originalHost host zones
      = match zoneFor fold zones host with
        | some zone =>
          .ok (zone, Text.removeFirst (Text.toLower fold originalHost) ("." ++ zone.domain fold))
        | none => findMatchingManagedZone fold suffixes originalHost p zones := by
  rw [findMatchingManagedZone, hlower, if_neg hz, if_neg (Ne.symm hsuffix)]
  split
  · rename_i hnone
    rw [hp] at hnone
    cases hnone
  · rename_i q hq
    rw [hp] at hq
    cases hq
    rw [if_neg hne]

end

/-! ## The whole search -/

theorem MostSpecific.zones_ne_nil {zones : List ManagedZoneObject} {host domain : String}
    {zone : ManagedZoneObject} (h : MostSpecific fold suffixes zones host domain zone) :
    zones ≠ [] :=
  List.ne_nil_of_mem (zoneFor_eq_some h.first).1

theorem MostSpecific.parent_no_suffix {zones : List ManagedZoneObject} {host p domain : String}
    {zone : ManagedZoneObject} (h : MostSpecific fold suffixes zones host domain zone)
    (hp : parent? host = some p) : suffixes.publicSuffix p ≠ p := by
  apply h.no_suffix p (Domain.below_of_parent? hp)
  rcases (Domain.below_iff hp).1 h.parent with rfl | hbelow
  · exact Nat.le_refl _
  · exact hbelow.length_lt.le

/-- If the parent has a zone, that is the most specific one. -/
theorem mostSpecific_of_parent {zones : List ManagedZoneObject} {host p : String}
    {zone : ManagedZoneObject} (hp : parent? host = some p)
    (hsuffix : suffixes.publicSuffix p ≠ p) (hzone : zoneFor fold zones p = some zone)
    (z : ManagedZoneObject) :
    (∃ domain, MostSpecific fold suffixes zones host domain z) ↔ z = zone := by
  constructor
  · rintro ⟨domain, h⟩
    have hlen := h.longest p (Domain.below_of_parent? hp) ⟨zone, zoneFor_eq_some hzone⟩
    rcases (Domain.below_iff hp).1 h.parent with rfl | hbelow
    · exact Option.some.inj (h.first.symm.trans hzone)
    · exact absurd hbelow.length_lt (by omega)
  · rintro rfl
    refine ⟨p, Domain.below_of_parent? hp, hzone, fun d hd _ => ?_, fun d hd hlen => ?_⟩
    · rcases (Domain.below_iff hp).1 hd with rfl | hbelow
      · exact Nat.le_refl _
      · exact hbelow.length_lt.le
    · rcases (Domain.below_iff hp).1 hd with rfl | hbelow
      · exact hsuffix
      · exact absurd hbelow.length_lt (by omega)

/-- Otherwise it is that of the parent. -/
theorem mostSpecific_parent_iff {zones : List ManagedZoneObject} {host p domain : String}
    {zone : ManagedZoneObject} (hp : parent? host = some p)
    (hsuffix : suffixes.publicSuffix p ≠ p) (hnone : zoneFor fold zones p = none) :
    MostSpecific fold suffixes zones host domain zone
      ↔ MostSpecific fold suffixes zones p domain zone := by
  have hbelow (d : String) : Below d p → Below d host := fun h => (Domain.below_iff hp).2 (Or.inr h)
  constructor
  · intro h
    refine ⟨?_, h.first, fun d hd => h.longest d (hbelow d hd), fun d hd => h.no_suffix d (hbelow d hd)⟩
    rcases (Domain.below_iff hp).1 h.parent with rfl | hparent
    · have := h.first
      rw [hnone] at this
      cases this
    · exact hparent
  · intro h
    refine ⟨hbelow _ h.parent, h.first, fun d hd hmem => ?_, fun d hd hlen => ?_⟩
    · rcases (Domain.below_iff hp).1 hd with rfl | hd
      · exact absurd hmem (zoneFor_eq_none.1 hnone)
      · exact h.longest d hd hmem
    · rcases (Domain.below_iff hp).1 hd with rfl | hd
      · exact hsuffix
      · exact h.no_suffix d hd hlen

/-- From a parent of the host on, the search finds the most specific zone above that parent's own
    child. -/
theorem findMatchingManagedZone_below {originalHost : String} {zones : List ManagedZoneObject}
    (hz : zones ≠ []) (n : Nat) :
    ∀ child p, p.length < n → parent? child = some p → Text.toLower fold p = p →
      p.length < originalHost.length → ∀ z s,
      findMatchingManagedZone fold suffixes originalHost p zones = .ok (z, s) ↔
        (∃ domain, MostSpecific fold suffixes zones child domain z) ∧
          s = Text.removeFirst (Text.toLower fold originalHost) ("." ++ z.domain fold) := by
  induction n with
  | zero => intro child p hlen; exact absurd hlen (Nat.not_lt_zero _)
  | succ n ih =>
      intro child p hlen hp hlower hshort z s
      by_cases hsuffix : suffixes.publicSuffix p = p
      · constructor
        · intro h
          exact absurd h (findMatchingManagedZone_suffix hlower hsuffix _)
        · rintro ⟨⟨domain, h⟩, -⟩
          exact absurd hsuffix (h.parent_no_suffix hp)
      cases hpp : parent? p with
      | none => exact absurd (suffixes.single_label p (Domain.parent?_eq_none.1 hpp)) hsuffix
      | some q =>
          have hne : p ≠ originalHost := by
            rintro rfl
            exact Nat.lt_irrefl _ hshort
          have hq := (Domain.below_of_parent? hpp).length_lt
          rw [findMatchingManagedZone_parent hlower hz hsuffix hpp hne]
          cases hzone : zoneFor fold zones p with
          | some zone =>
              rw [mostSpecific_of_parent hp hsuffix hzone]
              simp only [Except.ok.injEq, Prod.mk.injEq]
              constructor
              · rintro ⟨rfl, rfl⟩
                exact ⟨rfl, rfl⟩
              · rintro ⟨rfl, rfl⟩
                exact ⟨rfl, rfl⟩
          | none =>
              have hrec := ih p q (by omega) hpp (toLower_parent hpp hlower) (by omega) z s
              refine hrec.trans (and_congr_left' (exists_congr fun domain => ?_))
              exact (mostSpecific_parent_iff hp hsuffix hzone).symm

/-- What is returned for a lower-case host. -/
theorem findMatchingManagedZone_eq_ok {host : String} (hlower : Text.toLower fold host = host)
    (zones : List ManagedZoneObject) (z : ManagedZoneObject) (s : String) :
    findMatchingManagedZone fold suffixes host host zones = .ok (z, s) ↔
      (suffixes.publicSuffix host ≠ host ∧
        ∃ domain, MostSpecific fold suffixes zones host domain z) ∧
      s = Text.removeFirst host ("." ++ z.domain fold) := by
  by_cases hsuffix : suffixes.publicSuffix host = host
  · constructor
    · intro h
      exact absurd h (findMatchingManagedZone_suffix hlower hsuffix _)
    · rintro ⟨⟨h, -⟩, -⟩
      exact absurd hsuffix h
  cases hp : parent? host with
  | none => exact absurd (suffixes.single_label host (Domain.parent?_eq_none.1 hp)) hsuffix
  | some p =>
      by_cases hz : zones = []
      · subst hz
        rw [findMatchingManagedZone]
        constructor
        · intro h
          simp at h
        · rintro ⟨⟨-, domain, h⟩, -⟩
          exact absurd rfl h.zones_ne_nil
      · have hlen := (Domain.below_of_parent? hp).length_lt
        have hrec := @findMatchingManagedZone_below fold suffixes host zones hz (p.length + 1) host p
          (by omega) hp (toLower_parent hp hlower) hlen z s
        rw [findMatchingManagedZone_host hlower hz hsuffix hp, hrec, hlower]
        simp [hsuffix]

/-- The most specific zone wins. -/
theorem findMatchingManagedZone_mostSpecific (fold : Text.CaseFold) (suffixes : SuffixList)
    (host : String) (zones : List ManagedZoneObject) (hlower : Text.toLower fold host = host) :
    (∀ z, (∃ s, findMatchingManagedZone fold suffixes host host zones = .ok (z, s)) ↔
      suffixes.publicSuffix host ≠ host ∧
        ∃ domain, MostSpecific fold suffixes zones host domain z) ∧
    ∀ z s, findMatchingManagedZone fold suffixes host host zones = .ok (z, s) →
      z.domain fold ≠ host ∧ Below (z.domain fold) host ∧
        suffixes.publicSuffix (z.domain fold) ≠ z.domain fold := by
  constructor
  · intro z
    constructor
    · rintro ⟨s, h⟩
      exact ((findMatchingManagedZone_eq_ok hlower zones z s).1 h).1
    · intro h
      exact ⟨_, (findMatchingManagedZone_eq_ok hlower zones z _).2 ⟨h, rfl⟩⟩
  · intro z s h
    obtain ⟨⟨-, domain, hbest⟩, -⟩ := (findMatchingManagedZone_eq_ok hlower zones z s).1 h
    obtain rfl := (zoneFor_eq_some hbest.first).2
    refine ⟨?_, hbest.parent, hbest.no_suffix _ hbest.parent (Nat.le_refl _)⟩
    intro heq
    have hlen := hbest.parent.length_lt
    rw [heq] at hlen
    exact Nat.lt_irrefl _ hlen

end

/-! ## The default rule of the list -/

namespace SuffixList

/-- What follows the last dot. -/
def lastLabel (l : List Char) : List Char := (l.reverse.takeWhile (· ≠ '.')).reverse

theorem lastLabel_eq_self {l : List Char} (h : '.' ∉ l) : lastLabel l = l := by
  unfold lastLabel
  rw [List.takeWhile_eq_self_iff.2, List.reverse_reverse]
  intro c hc
  simp only [ne_eq, decide_eq_true_eq]
  rintro rfl
  exact h (List.mem_reverse.1 hc)

/-- The list without any rule but the default one: a public suffix is a single label. -/
def topLevel : SuffixList where
  publicSuffix d := String.ofList (lastLabel d.toList)
  single_label d hd := by
    rw [lastLabel_eq_self hd, String.ofList_toList]

end SuffixList

/-- A zone as the tests have it. -/
def ManagedZoneObject.ofDomain (name domainName : String) : ManagedZoneObject where
  metadata := { name := name, ns := "test" }
  spec := { domainName := domainName }

/-- Of the zones for `example.com` and `dev.example.com` the second is taken. -/
theorem findMatchingManagedZone_dev :
    (∃ s, findMatchingManagedZone .ascii .topLevel "test.dev.example.com" "test.dev.example.com"
      [.ofDomain "example" "example.com", .ofDomain "dev" "Dev.example.com"]
        = .ok (.ofDomain "dev" "Dev.example.com", s)) ∧
    SuffixList.topLevel.publicSuffix "test.dev.example.com" ≠ "test.dev.example.com" ∧
      ∃ domain, MostSpecific .ascii .topLevel
        [.ofDomain "example" "example.com", .ofDomain "dev" "Dev.example.com"]
        "test.dev.example.com" domain (.ofDomain "dev" "Dev.example.com") := by
  have hhost := @findMatchingManagedZone_host .ascii .topLevel "test.dev.example.com"
    "dev.example.com" [.ofDomain "example" "example.com", .ofDomain "dev" "Dev.example.com"]
    (by decide) (by simp) (by decide) (by decide)
  have hparent := @findMatchingManagedZone_parent .ascii .topLevel "test.dev.example.com"
    "dev.example.com" "example.com"
    [.ofDomain "example" "example.com", .ofDomain "dev" "Dev.example.com"]
    (by decide) (by simp) (by decide) (by decide) (by decide)
  have hok := hhost.trans hparent
  refine ⟨⟨_, hok⟩, ?_⟩
  exact ((findMatchingManagedZone_mostSpecific .ascii .topLevel "test.dev.example.com" _
    (by decide)).1 _).1 ⟨_, hok⟩

/-! ## The subdomain -/

/-- `s` is `before`, `text` and `after`, and `text` does not occur earlier in it. -/
structure FirstOccurrence (text s before after : String) : Prop where
  split : s = before ++ text ++ after
  first : ∀ before' after', s = before' ++ text ++ after' → before.length ≤ before'.length

/-- What `strings.Replace(s, text, "", 1)` leaves. -/
theorem exists_firstOccurrence {text s : String} (htext : text ≠ "")
    (h : ∃ before after, s = before ++ text ++ after) :
    ∃ before after, FirstOccurrence text s before after ∧
      Text.removeFirst s text = before ++ after := by
  obtain ⟨p₀, q₀, h₀⟩ := h
  have hinfix : text.toList <:+: s.toList := ⟨p₀.toList, q₀.toList, by simp [h₀]⟩
  have hne : text.toList ≠ [] := by
    intro hnil
    exact htext (String.toList_inj.1 (by simpa using hnil))
  obtain ⟨p, q, hs, hdrop, hleast⟩ := Text.dropFirst_eq hinfix hne
  refine ⟨String.ofList p, String.ofList q, ⟨String.toList_inj.1 (by simpa using hs), ?_⟩, ?_⟩
  · intro p' q' hs'
    have := hleast p'.toList q'.toList (by simp [hs'])
    rwa [← String.length_toList, ← String.length_toList, String.toList_ofList]
  · apply String.toList_inj.1
    simp [Text.removeFirst, hdrop]

theorem FirstOccurrence.unique {text s p q p' q' : String} (h : FirstOccurrence text s p q)
    (h' : FirstOccurrence text s p' q') : p = p' ∧ q = q' := by
  have hlen : p.length = p'.length :=
    Nat.le_antisymm (h.first _ _ h'.split) (h'.first _ _ h.split)
  have hlists := congrArg String.toList (h.split.symm.trans h'.split)
  simp only [String.toList_append, List.append_assoc] at hlists
  have hp := List.append_inj hlists (by rw [String.length_toList, String.length_toList, hlen])
  exact ⟨String.toList_inj.1 hp.1, String.toList_inj.1 (List.append_cancel_left hp.2)⟩

/-- The host is the subdomain and the zone's domain. -/
def SplitsHost (host subdomain domain : String) : Prop :=
  subdomain ≠ "" ∧ subdomain ++ "." ++ domain = host

/-- The subdomain splits the host exactly if there is something in front of the domain and, from
    the first occurrence of the domain's text on, the host reads the same with that text at its
    end. -/
theorem subdomain_splits_iff (fold : Text.CaseFold) (suffixes : SuffixList) (host : String)
    (zones : List ManagedZoneObject) (zone : ManagedZoneObject) (subdomain : String)
    (hlower : Text.toLower fold host = host)
    (hok : findMatchingManagedZone fold suffixes host host zones = .ok (zone, subdomain)) :
    SplitsHost host subdomain (zone.domain fold) ↔
      host ≠ "." ++ zone.domain fold ∧
        ∃ before after, FirstOccurrence ("." ++ zone.domain fold) host before after ∧
          after ++ ("." ++ zone.domain fold) = "." ++ zone.domain fold ++ after := by
  obtain ⟨⟨-, domain, hbest⟩, hsub⟩ := (findMatchingManagedZone_eq_ok hlower zones zone subdomain).1 hok
  obtain rfl := (zoneFor_eq_some hbest.first).2
  obtain ⟨labels, hlabels⟩ := hbest.parent
  have hne : "." ++ zone.domain fold ≠ "" := by
    intro h
    have := congrArg String.length h
    simp at this
  have hoccurs : host = labels ++ ("." ++ zone.domain fold) ++ "" := by
    rw [String.append_empty, ← String.append_assoc, ← hlabels]
  obtain ⟨p, q, hocc, hremove⟩ := exists_firstOccurrence hne ⟨labels, "", hoccurs⟩
  rw [hremove] at hsub
  subst hsub
  unfold SplitsHost
  constructor
  · rintro ⟨hpq, hsplit⟩
    refine ⟨?_, p, q, hocc, ?_⟩
    · intro heq
      rw [heq, String.append_assoc] at hsplit
      exact hpq (by simpa using hsplit)
    · have hsplit' := hsplit.trans hocc.split
      rw [String.append_assoc, String.append_assoc, String.append_assoc] at hsplit'
      exact (String.append_right_inj _).1 hsplit'
  · rintro ⟨hhost, p', q', hocc', hcomm⟩
    obtain ⟨rfl, rfl⟩ := hocc.unique hocc'
    have hsplit : p ++ q ++ "." ++ zone.domain fold = host := by
      rw [String.append_assoc, String.append_assoc, hcomm, ← String.append_assoc, ← hocc.split]
    refine ⟨?_, hsplit⟩
    intro hempty
    rw [hempty] at hsplit
    exact hhost (by simpa using hsplit.symm)

/-- A host with one label in front of the zone's domain. -/
theorem subdomain_splits_iff_test :
    SplitsHost "test.example.com" "test" "example.com" ∧
      (SplitsHost "test.example.com" "test" "example.com" ↔
        "test.example.com" ≠ "." ++ "example.com" ∧
          ∃ before after, FirstOccurrence ("." ++ "example.com") "test.example.com" before after ∧
            after ++ ("." ++ "example.com") = "." ++ "example.com" ++ after) := by
  have hhost := @findMatchingManagedZone_host .ascii .topLevel "test.example.com" "example.com"
    [.ofDomain "example" "example.com"] (by decide) (by simp) (by decide) (by decide)
  have hparent := @findMatchingManagedZone_parent .ascii .topLevel "test.example.com" "example.com"
    "com" [.ofDomain "example" "example.com"] (by decide) (by simp) (by decide) (by decide)
    (by decide)
  exact ⟨⟨by decide, by decide⟩,
    subdomain_splits_iff .ascii .topLevel "test.example.com" [.ofDomain "example" "example.com"]
      (.ofDomain "example" "example.com") "test" (by decide) (hhost.trans hparent)⟩

/-- The domain's text also stands across two labels of the host. -/
theorem subdomain_community :
    findMatchingManagedZone .ascii .topLevel "x.example.community.example.com"
        "x.example.community.example.com" [.ofDomain "example" "example.com"]
      = .ok (.ofDomain "example" "example.com", "xmunity.example.com") ∧
    ¬ SplitsHost "x.example.community.example.com" "xmunity.example.com" "example.com" := by
  have hhost := @findMatchingManagedZone_host .ascii .topLevel "x.example.community.example.com"
    "example.community.example.com" [.ofDomain "example" "example.com"]
    (by decide) (by simp) (by decide) (by decide)
  have hfirst := @findMatchingManagedZone_parent .ascii .topLevel "x.example.community.example.com"
    "example.community.example.com" "community.example.com" [.ofDomain "example" "example.com"]
    (by decide) (by simp) (by decide) (by decide) (by decide)
  have hsecond := @findMatchingManagedZone_parent .ascii .topLevel "x.example.community.example.com"
    "community.example.com" "example.com" [.ofDomain "example" "example.com"]
    (by decide) (by simp) (by decide) (by decide) (by decide)
  have hthird := @findMatchingManagedZone_parent .ascii .topLevel "x.example.community.example.com"
    "example.com" "com" [.ofDomain "example" "example.com"]
    (by decide) (by simp) (by decide) (by decide) (by decide)
  refine ⟨(hhost.trans hfirst).trans (hsecond.trans hthird), ?_⟩
  rintro ⟨-, h⟩
  exact absurd h (by decide)

/-! ## The generated names -/

/-- A hostname as the Gateway API admits it: in lower case, with a wildcard only as the whole of its
    first label. -/
structure ListenerHost (fold : Text.CaseFold) (host : String) : Prop where
  lower : Text.toLower fold host = host
  wildcard : isWildCardListener host = false ∨ ∃ rest, host = "*." ++ rest ∧ '*' ∉ rest.toList

theorem removePairs_eq_self {a b : Char} {l : List Char} (h : a ∉ l) :
    Text.removePairs a b l = l := by
  fun_induction Text.removePairs a b l with
  | case1 x y rest hxy ih => exact absurd (hxy.1 ▸ List.mem_cons_self) h
  | case2 x y rest _ ih => rw [ih (fun hm => h (List.mem_cons_of_mem _ hm))]
  | case3 => rfl

theorem cnameHost_wildcard {rest : String} (h : '*' ∉ rest.toList) :
    cnameHost ("*." ++ rest) = rest := by
  have hwild : isWildCardListener ("*." ++ rest) = true := by
    simp [isWildCardListener, Text.hasPrefix]
  unfold cnameHost Text.removeAll
  rw [if_pos hwild]
  apply String.toList_inj.1
  simp [Text.removePairs, removePairs_eq_self h]

section
variable {env : Env} {t : MultiClusterGatewayTarget} {host d : String}

/-- A wildcard is dropped from the host, but then a label is put in its place. -/
theorem below_lbName (hhost : ListenerHost env.fold host) (h : Below d host) :
    Below d (lbName env t host) := by
  rw [lbName_eq]
  rcases hhost.wildcard with hplain | ⟨rest, rfl, hrest⟩
  · have hname : cnameHost host = host := by simp [cnameHost, hplain]
    rw [hname, hhost.lower]
    exact h.append _
  · have hparent : parent? ("*." ++ rest) = some rest :=
      Domain.parent?_eq_some.2 ⟨"*", by decide, rfl⟩
    rw [cnameHost_wildcard hrest, toLower_parent hparent hhost.lower]
    rcases (Domain.below_iff hparent).1 h with rfl | hbelow
    · exact ⟨_, rfl⟩
    · exact hbelow.append _

theorem below_dnsName (hhost : ListenerHost env.fold host) (h : Below d host) (n : Node) :
    Below d (n.dnsName env t host) := by
  have hlb := below_lbName (t := t) hhost h
  cases n with
  | address c =>
      show Below d (clusterLbName env (lbName env t host) c)
      rw [clusterLbName_eq]
      exact hlb.append _
  | weighted c hostValue =>
      show Below d (geoLbName env (lbName env t host) c.geo)
      rw [geoLbName_eq]
      exact hlb.append _
  | geo code => exact hlb
  | default code => exact hlb
  | host => exact h

/-- The names are below whatever the host is below. -/
theorem below_of_mem_setEndpoints {order : MapOrder} {endpoints : List Endpoint}
    {probes : List DNSHealthCheckProbe} {listenerName : String} (hhost : ListenerHost env.fold host)
    (h : Below d host) {e : Endpoint}
    (he : e ∈ setEndpoints env order t endpoints probes listenerName host) : Below d e.dnsName := by
  obtain ⟨n, -, hn⟩ := exists_node_of_mem_fullEndpoints (publishEndpoints_subset he)
  rw [hn.dnsName]
  exact below_dnsName hhost h n

end

theorem below_of_findMatchingManagedZone {fold : Text.CaseFold} {suffixes : SuffixList}
    {host subdomain : String} {zones : List ManagedZoneObject} {zone : ManagedZoneObject}
    (hlower : Text.toLower fold host = host)
    (hok : findMatchingManagedZone fold suffixes host host zones = .ok (zone, subdomain)) :
    Below (zone.domain fold) host := by
  obtain ⟨⟨-, domain, hbest⟩, -⟩ := (findMatchingManagedZone_eq_ok hlower zones zone subdomain).1 hok
  obtain rfl := (zoneFor_eq_some hbest.first).2
  exact hbest.parent

/-- Every generated name is below the domain of the host's zone, whatever the record held before. -/
theorem setEndpoints_below_zone (env : Env) (suffixes : SuffixList) (order : MapOrder)
    (t : MultiClusterGatewayTarget) (endpoints : List Endpoint) (probes : List DNSHealthCheckProbe)
    (listenerName host : String) (zones : List ManagedZoneObject) (zone : ManagedZoneObject)
    (subdomain : String) (hhost : ListenerHost env.fold host)
    (hok : findMatchingManagedZone env.fold suffixes host host zones = .ok (zone, subdomain)) :
    ∀ e ∈ setEndpoints env order t endpoints probes listenerName host,
      Below (zone.domain env.fold) e.dnsName := by
  intro e he
  exact below_of_mem_setEndpoints hhost (below_of_findMatchingManagedZone hhost.lower hok) he

/-- The target and the endpoints of a wildcard listener on one cluster. -/
theorem setEndpoints_below_zone_wildcard :
    let t : MultiClusterGatewayTarget :=
      { gateway := { name := "testgw", ns := "testns" }
        clusterGatewayTargets :=
          [{ cluster := { name := "test-cluster-1" }
             gatewayAddresses := [⟨.ipAddress, "1.1.1.1"⟩], geo := "default", weight := 120 }]
        loadBalancing := none }
    (setEndpoints .sample .inserted t [] [] "test" "*.example.com").map (·.dnsName)
        = ["*.example.com", "20qri0.lb-0ecjaw.example.com", "default.lb-0ecjaw.example.com",
            "lb-0ecjaw.example.com"] ∧
      ∀ e ∈ setEndpoints .sample .inserted t [] [] "test" "*.example.com",
        Below "example.com" e.dnsName := by
  intro t
  have hhost := @findMatchingManagedZone_host .ascii .topLevel "*.example.com" "example.com"
    [.ofDomain "example" "example.com"] (by decide) (by simp) (by decide) (by decide)
  have hparent := @findMatchingManagedZone_parent .ascii .topLevel "*.example.com" "example.com"
    "com" [.ofDomain "example" "example.com"] (by decide) (by simp) (by decide) (by decide)
    (by decide)
  constructor
  · rw [setEndpoints_no_probes]
    decide
  · exact setEndpoints_below_zone .sample .topLevel .inserted t [] [] "test" "*.example.com"
      [.ofDomain "example" "example.com"] (.ofDomain "example" "example.com") _
      ⟨by decide, Or.inr ⟨"example.com", by decide, by decide⟩⟩ (hhost.trans hparent)

end MultiClusterGateway
