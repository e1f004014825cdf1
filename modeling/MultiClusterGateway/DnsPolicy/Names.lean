import MultiClusterGateway.Dns.Target

set_option autoImplicit false

/-! # Generated names

The DNS names `setEndpoints` generates below a listener's host, and the names of the objects a
listener has in the API server. What the proofs use of the DNS names is their shape: the geo and
cluster names are one label in front of the lb name, and the listener's host is none of the
generated names, because each of them contains all of its letters and some more.

The functions are those of `dns_helper.go` with the same arguments. The names of endpoints are
lower-cased as a whole, so that what is proved of them has to hold for any rune map with the laws of
`CaseFold`. The parts are joined with dots and dashes, and whether two names are equal is decided by
comparing them from a separator that the parts do not contain. Short codes are hashes of names, of
which no more is assumed than each result says. -/

namespace MultiClusterGateway

/-- `isWildCardListener`. -/
def isWildCardListener (hostname : String) : Bool := Text.hasPrefix hostname "*"

/-- The listener's host with every `*.` removed if it is a wildcard. -/
def cnameHost (gwListenerHost : String) : String :=
  if isWildCardListener gwListenerHost then Text.removeAll '*' '.' gwListenerHost
  else gwListenerHost

section
variable (env : Env)

/-- `lbName`: the name that all clusters of the listener are behind. -/
def lbName (t : MultiClusterGatewayTarget) (gwListenerHost : String) : String :=
  Text.toLower env.fold ("lb-" ++ t.getShortCode env ++ "." ++ cnameHost gwListenerHost)

/-- `geoLbName`: the name that those with a geo code are behind. -/
def geoLbName (lbName : String) (geoCode : GeoCode) : String :=
  Text.toLower env.fold (geoCode ++ "." ++ lbName)

/-- `clusterLbName`: the name of a single cluster. -/
def clusterLbName (lbName : String) (cgwTarget : ClusterGatewayTarget) : String :=
  Text.toLower env.fold (cgwTarget.getShortCode env ++ "." ++ lbName)

end

/-- `dnsRecordName`: the name of a listener's DNSRecord. -/
def dnsRecordName (gatewayName listenerName : String) : String :=
  gatewayName ++ "-" ++ listenerName

/-- `dnsHealthCheckProbeName`: the name of the probe for an address of a listener. -/
def dnsHealthCheckProbeName (address gatewayName listenerName : String) : String :=
  address ++ "-" ++ dnsRecordName gatewayName listenerName

theorem dnsRecordName_inj {gatewayName l l' : String} :
    dnsRecordName gatewayName l = dnsRecordName gatewayName l' ↔ l = l' :=
  String.append_right_inj _

/-! ## Shape of the DNS names -/

section
variable {env : Env}

theorem toLower_hash (s : String) :
    Text.toLower env.fold (env.toBase36hash s) = env.toBase36hash s :=
  Text.toLower_eq_self_of_alnum env.fold (env.hash_alnum s)

theorem dotFree_hash (s : String) : Text.DotFree (env.toBase36hash s) :=
  Text.dotFree_of_alnum (env.hash_alnum s)

theorem toLower_lbName (t : MultiClusterGatewayTarget) (host : String) :
    Text.toLower env.fold (lbName env t host) = lbName env t host :=
  Text.toLower_toLower env.fold _

theorem geoLbName_eq (t : MultiClusterGatewayTarget) (host : String) (geoCode : GeoCode) :
    geoLbName env (lbName env t host) geoCode
      = Text.toLower env.fold geoCode ++ "." ++ lbName env t host := by
  unfold geoLbName
  rw [Text.toLower_append, Text.toLower_append, Text.toLower_dot, toLower_lbName]

theorem clusterLbName_eq (t : MultiClusterGatewayTarget) (host : String)
    (c : ClusterGatewayTarget) :
    clusterLbName env (lbName env t host) c
      = c.getShortCode env ++ "." ++ lbName env t host := by
  unfold clusterLbName
  rw [Text.toLower_append, Text.toLower_append, Text.toLower_dot, toLower_lbName]
  unfold ClusterGatewayTarget.getShortCode
  rw [toLower_hash]

theorem lbName_eq (t : MultiClusterGatewayTarget) (host : String) :
    lbName env t host
      = "lb-" ++ t.getShortCode env ++ "." ++ Text.toLower env.fold (cnameHost host) := by
  have hlb : Text.toLower env.fold "lb-" = "lb-" := by
    apply Text.toLower_eq_self
    intro c hc
    have hc' : c = 'l' ∨ c = 'b' ∨ c = '-' := by simpa using hc
    rcases hc' with rfl | rfl | rfl <;> decide
  unfold lbName
  rw [Text.toLower_append, Text.toLower_append, Text.toLower_append, Text.toLower_dot, hlb]
  unfold MultiClusterGatewayTarget.getShortCode
  rw [toLower_hash]

theorem geoLbName_inj {t : MultiClusterGatewayTarget} {host : String} {g g' : GeoCode} :
    geoLbName env (lbName env t host) g = geoLbName env (lbName env t host) g'
      ↔ Text.toLower env.fold g = Text.toLower env.fold g' := by
  rw [geoLbName_eq, geoLbName_eq, String.append_assoc, String.append_assoc]
  exact String.append_left_inj _

theorem clusterLbName_inj {t : MultiClusterGatewayTarget} {host : String}
    {c c' : ClusterGatewayTarget} :
    clusterLbName env (lbName env t host) c = clusterLbName env (lbName env t host) c'
      ↔ c.getShortCode env = c'.getShortCode env := by
  rw [clusterLbName_eq, clusterLbName_eq, String.append_assoc, String.append_assoc]
  exact String.append_left_inj _

theorem geoLbName_eq_clusterLbName_iff {t : MultiClusterGatewayTarget} {host : String}
    {g : GeoCode} {c : ClusterGatewayTarget} :
    geoLbName env (lbName env t host) g = clusterLbName env (lbName env t host) c
      ↔ Text.toLower env.fold g = c.getShortCode env := by
  rw [geoLbName_eq, clusterLbName_eq, String.append_assoc, String.append_assoc]
  exact String.append_left_inj _

theorem geoLbName_ne_lbName (t : MultiClusterGatewayTarget) (host : String) (g : GeoCode) :
    geoLbName env (lbName env t host) g ≠ lbName env t host := by
  intro h
  have := congrArg String.length h
  simp only [geoLbName_eq, String.length_append, Text.length_toLower] at this
  have hdot : ".".length = 1 := by decide
  omega

theorem clusterLbName_ne_lbName (t : MultiClusterGatewayTarget) (host : String)
    (c : ClusterGatewayTarget) :
    clusterLbName env (lbName env t host) c ≠ lbName env t host := by
  intro h
  have := congrArg String.length h
  simp only [clusterLbName_eq, String.length_append] at this
  have hdot : ".".length = 1 := by decide
  omega

/-! ## The listener's host is not a generated name -/

/-- How many runes of `s` are a `b` when lower-cased. -/
def countB (fold : Text.CaseFold) (s : String) : Nat :=
  s.toList.countP (fun c => fold.lower c == 'b')

theorem countB_append (fold : Text.CaseFold) (s s' : String) :
    countB fold (s ++ s') = countB fold s + countB fold s' := by
  simp [countB]

theorem countB_cnameHost (fold : Text.CaseFold) (host : String) :
    countB fold (cnameHost host) = countB fold host := by
  have hstar : (fold.lower '*' == 'b') = false := by
    rw [fold.lower_ascii '*' (by decide)]
    decide
  have hdot : (fold.lower '.' == 'b') = false := by
    rw [fold.lower_ascii '.' (by decide)]
    decide
  unfold cnameHost
  split
  · simp only [countB, Text.removeAll, String.toList_ofList]
    exact Text.countP_removePairs (fun c => fold.lower c == 'b') hstar hdot _
  · rfl

theorem countB_lt_countB_lbName (t : MultiClusterGatewayTarget) (host : String) :
    countB env.fold host < countB env.fold (lbName env t host) := by
  have hb : 1 ≤ countB env.fold "lb-" := by
    have h : env.fold.lower 'b' = 'b' := by
      rw [env.fold.lower_ascii 'b' (by decide)]
      decide
    have : 0 < countB env.fold "lb-" := List.countP_pos_iff.2 ⟨'b', by decide, by simp [h]⟩
    exact this
  have hcname := countB_cnameHost env.fold host
  have hlower : countB env.fold (Text.toLower env.fold (cnameHost host))
      = countB env.fold (cnameHost host) := Text.countP_toLower env.fold 'b' _
  rw [lbName_eq, countB_append, countB_append, countB_append, hlower, hcname]
  omega

/-- A name that contains the lb name is not the listener's host. -/
theorem host_ne_of_contains_lbName (t : MultiClusterGatewayTarget) (host a b : String) :
    host ≠ a ++ lbName env t host ++ b := by
  intro h
  have hlt := @countB_lt_countB_lbName env t host
  have := congrArg (countB env.fold) h
  rw [countB_append, countB_append] at this
  omega

theorem host_ne_lbName (t : MultiClusterGatewayTarget) (host : String) :
    host ≠ lbName env t host := by
  simpa using @host_ne_of_contains_lbName env t host "" ""

theorem host_ne_geoLbName (t : MultiClusterGatewayTarget) (host : String) (g : GeoCode) :
    host ≠ geoLbName env (lbName env t host) g := by
  rw [geoLbName_eq]
  simpa using @host_ne_of_contains_lbName env t host (Text.toLower env.fold g ++ ".") ""

theorem host_ne_clusterLbName (t : MultiClusterGatewayTarget) (host : String)
    (c : ClusterGatewayTarget) : host ≠ clusterLbName env (lbName env t host) c := by
  rw [clusterLbName_eq]
  simpa using @host_ne_of_contains_lbName env t host (c.getShortCode env ++ ".") ""

end

end MultiClusterGateway
