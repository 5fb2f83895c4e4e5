import Mathlib.Data.List.Infix
import HdfsOperator.Core.Printf
import HdfsOperator.Models.XmlConfiguration

/-!
# Names, addresses and properties by replica count

The loops that write one entry for each ordinal of a stateful set. Pod names and network
addresses are concatenated; property names and values are rendered from format templates,
so a percent sign in a name becomes part of the format.
-/

namespace HdfsOperator

open Printf

/-- The address of the shared edit log. -/
def createJournalUrl (jnSvcs : List String) (instanceName : String) : String :=
  "qjournal://" ++ ";".intercalate jnSvcs ++ "/" ++ instanceName

/-- The host and port of a service. -/
def createDnsDomain (svcName nameSpace clusterDomain : String) (port : Nat) : String :=
  svcName ++ "." ++ nameSpace ++ ".svc." ++ clusterDomain ++ ":" ++ toString port

/-- The host and port of a pod behind a service. -/
def createNetworkUrl (podName svcName nameSpace clusterDomain : String) (port : Nat) : String :=
  podName ++ "." ++ createDnsDomain svcName nameSpace clusterDomain port

/-- The addresses of the pods of a stateful set. -/
def createNetworksByReplicates (replicates : Int32)
    (statefulResourceName svcName nameSpace clusterDomain : String) (port : Nat) :
    Go (List String) := do
  checkSize replicates
  return (ordinals replicates).map fun i =>
    createNetworkUrl (ordinalName statefulResourceName i) svcName nameSpace clusterDomain port

/-- The names of the pods of a stateful set. -/
def createPodNamesByReplicas (replicas : Int32) (statefulResourceName : String) :
    Go (List String) := do
  checkSize replicas
  return (ordinals replicas).map (ordinalName statefulResourceName)

/-- A value template is rendered only when it has a place for the ordinal. -/
def renderValue (valueTemplate : String) (i : Nat) : String :=
  if "%d".toList <:+: valueTemplate.toList then sprintf valueTemplate i else valueTemplate

/-- A rendered key and value for each ordinal. -/
def createKvContentByReplicas (replicas : Int32) (keyTemplate valueTemplate : String) :
    List (String × String) :=
  (ordinals replicas).map fun i => (sprintf keyTemplate i, renderValue valueTemplate i)

/-- A rendered property for each ordinal. -/
def createXmlContentByReplicas (replicas : Int32) (keyTemplate valueTemplate : String) :
    Go (List XmlNameValuePair) := do
  checkSize replicas
  return (createKvContentByReplicas replicas keyTemplate valueTemplate).map fun kv => ⟨kv.1, kv.2⟩

/-- Room can be made for a count that is not negative. -/
theorem checkSize_of_nonneg {n : Int32} (h : 0 ≤ n.toInt) : checkSize n = .ok () :=
  if_neg (Int.not_lt.mpr h)

/-- If room was made, the count is not negative. -/
theorem nonneg_of_checkSize {n : Int32} {u : Unit} (h : checkSize n = .ok u) : 0 ≤ n.toInt := by
  unfold checkSize at h
  split at h
  · cases h
  · omega

/-- The pod names of a stateful set, when the replica count is not negative. -/
theorem createPodNamesByReplicas_eq_ok {n : Int32} {sts : String} {pods : List String} :
    createPodNamesByReplicas n sts = .ok pods ↔
      0 ≤ n.toInt ∧ pods = (ordinals n).map (ordinalName sts) := by
  constructor
  · intro h
    obtain ⟨u, hu, hpods⟩ := Go.bind_eq_ok.mp h
    exact ⟨nonneg_of_checkSize hu, (Except.ok.inj hpods).symm⟩
  · rintro ⟨hn, rfl⟩
    simp only [createPodNamesByReplicas, checkSize_of_nonneg hn, Go.ok_bind]
    rfl

/-- The properties by replica count, when that is not negative. -/
theorem createXmlContentByReplicas_eq_ok {n : Int32} {k v : String}
    {ps : List XmlNameValuePair} :
    createXmlContentByReplicas n k v = .ok ps ↔
      0 ≤ n.toInt ∧ ps = (ordinals n).map fun i => ⟨sprintf k i, renderValue v i⟩ := by
  have hmap : (createKvContentByReplicas n k v).map
      (fun kv => (⟨kv.1, kv.2⟩ : XmlNameValuePair)) =
        (ordinals n).map fun i => ⟨sprintf k i, renderValue v i⟩ := by
    rw [createKvContentByReplicas, List.map_map]
    rfl
  constructor
  · intro h
    obtain ⟨u, hu, hps⟩ := Go.bind_eq_ok.mp h
    exact ⟨nonneg_of_checkSize hu, (Except.ok.inj hps).symm.trans hmap⟩
  · rintro ⟨hn, rfl⟩
    simp only [createXmlContentByReplicas, checkSize_of_nonneg hn, Go.ok_bind, hmap]
    rfl

/-- A key template that ends in the ordinal and has no other percent sign. -/
theorem sprintf_ordinal {p : String} (hp : '%' ∉ p.toList) (i : Nat) :
    sprintf (p ++ "-%d") i = ordinalName p i := by
  have hdash : '%' ∉ (p ++ "-").toList := by
    rw [String.toList_append, List.mem_append, not_or]
    exact ⟨hp, by decide⟩
  have htemplate : p ++ "-%d" = p ++ "-" ++ "%d" ++ "" := by
    simp only [String.append_assoc, String.append_empty]
    rfl
  rw [htemplate, sprintf_decimal hdash (by decide), ordinalName, String.append_empty]

end HdfsOperator
