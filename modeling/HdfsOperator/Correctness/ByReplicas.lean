import HdfsOperator.Core.FixedFormats
import HdfsOperator.Correctness.SiteConsistency
import HdfsOperator.Models.ReplicaLoops

/-!
# Entries by replica count

Every loop over a replica count writes one entry for each ordinal below it. The loops that
append treat a negative count as zero. Those that make room for the count beforehand panic on it.

The addresses of the NameNodes are rendered from a template that holds the cluster domain, so
a percent sign in the domain is read as a directive. The same addresses are written directly
elsewhere, and the two agree exactly when there is no such sign.
-/

namespace HdfsOperator

open Printf NameNodeHdfsSiteXmlGenerator

/-- A call returns as many entries as there are replicas, and the entry at index `i` is that of
ordinal `i`. -/
def PerOrdinal {α : Type} (replicas : Int32) (entry : Nat → α) (result : Go (List α)) : Prop :=
  ∃ entries, result = .ok entries ∧ (entries.length : Int) = max 0 replicas.toInt ∧
    ∀ i (h : i < entries.length), entries[i] = entry i

/-- A loop that appends. -/
theorem perOrdinal_ordinals {α : Type} (replicas : Int32) (entry : Nat → α) :
    PerOrdinal replicas entry (.ok ((ordinals replicas).map entry)) := by
  refine ⟨_, rfl, ?_, ?_⟩
  · rw [List.length_map, length_ordinals]
    omega
  · intro i h
    simp [ordinals]

/-- A loop that makes room beforehand. -/
theorem perOrdinal_checkSize_iff {α : Type} (replicas : Int32) (entry : Nat → α) :
    PerOrdinal replicas entry
        (checkSize replicas >>= fun _ => .ok ((ordinals replicas).map entry)) ↔
      0 ≤ replicas.toInt := by
  constructor
  · rintro ⟨entries, hok, -⟩
    obtain ⟨u, hsize, -⟩ := Go.bind_eq_ok.mp hok
    exact nonneg_of_checkSize hsize
  · intro h
    rw [checkSize_of_nonneg h]
    exact perOrdinal_ordinals replicas entry

/-- The function makes room for the count beforehand. -/
theorem createXmlContentByReplicas_eq_checkSize (replicas : Int32)
    (keyTemplate valueTemplate : String) :
    createXmlContentByReplicas replicas keyTemplate valueTemplate =
      checkSize replicas >>= fun _ => .ok ((ordinals replicas).map fun i =>
        ⟨sprintf keyTemplate i, renderValue valueTemplate i⟩) := by
  rw [createXmlContentByReplicas, createKvContentByReplicas, List.map_map]
  rfl

/-- The pods of a cluster with one NameNode group. -/
theorem getPodNames_singleGroup (instanceName groupName : String) (replicas : Int32)
    (o : RangeOrder) :
    getPodNames instanceName (.ofList [(groupName, { replicas := some replicas })]) o =
      (ordinals replicas).map (ordinalName (instanceName ++ "-namenode-" ++ groupName)) := by
  have hrange : GoMap.range (.ofList [(groupName, { replicas := some replicas })]) o =
      [(groupName, ({ replicas := some replicas } : RoleGroupSpec))] :=
    GoMap.range_of_keys_eq_singleton rfl (GoMap.lookup_ofList_of_mem (by simp) (by simp)) o
  rw [getPodNames, hrange]
  exact List.append_nil _

/-- The discovery ConfigMap has an entry for each replica whatever the count is. The other loops
have one exactly when the count is not negative. -/
theorem byReplicas_perOrdinal_iff (replicas : Int32)
    (statefulResourceName svcName nameSpace clusterDomain : String) (port : Nat)
    (keyTemplate valueTemplate instanceName groupName : String) (o : RangeOrder) :
    PerOrdinal replicas (ordinalName (instanceName ++ "-namenode-" ++ groupName))
      (Loops.getPodNames instanceName (.ofList [(groupName, { replicas := some replicas })]) o) ∧
    (PerOrdinal replicas (ordinalName statefulResourceName)
        (Loops.createPodNamesByReplicas replicas statefulResourceName) ∧
      PerOrdinal replicas (fun i => createNetworkUrl (ordinalName statefulResourceName i) svcName
          nameSpace clusterDomain port)
        (Loops.createNetworksByReplicates replicas statefulResourceName svcName nameSpace
          clusterDomain port) ∧
      PerOrdinal replicas (fun i => ⟨sprintf keyTemplate i, renderValue valueTemplate i⟩)
        (Loops.createXmlContentByReplicas replicas keyTemplate valueTemplate) ↔
      0 ≤ replicas.toInt) := by
  refine ⟨?_, ?_⟩
  · rw [Loops.getPodNames_eq, getPodNames_singleGroup]
    exact perOrdinal_ordinals replicas _
  · rw [Loops.createPodNamesByReplicas_eq, Loops.createNetworksByReplicates_eq,
      Loops.createXmlContentByReplicas_eq, createXmlContentByReplicas_eq_checkSize]
    constructor
    · rintro ⟨hpods, -, -⟩
      exact (perOrdinal_checkSize_iff replicas _).mp hpods
    · intro h
      exact ⟨(perOrdinal_checkSize_iff replicas _).mpr h,
        (perOrdinal_checkSize_iff replicas _).mpr h,
        (perOrdinal_checkSize_iff replicas _).mpr h⟩

/-- A negative count: the discovery ConfigMap has no pods, and the other loops panic. -/
theorem byReplicas_negative_panics :
    Loops.getPodNames "hdfs" (.ofList [("default", { replicas := some (-1) })]) .stored = .ok [] ∧
      Loops.createPodNamesByReplicas (-1) "hdfs-namenode-default" = .error (.panic .makeSlice) ∧
      ¬ PerOrdinal (-1) (ordinalName "hdfs-namenode-default")
        (Loops.createPodNamesByReplicas (-1) "hdfs-namenode-default") := by
  have hpanic : Loops.createPodNamesByReplicas (-1) "hdfs-namenode-default" =
      .error (.panic .makeSlice) := rfl
  refine ⟨?_, hpanic, ?_⟩
  · rw [Loops.getPodNames_eq]
    rfl
  · rintro ⟨entries, hok, -⟩
    rw [hpanic] at hok
    cases hok

/-- The template of an address, as the generator splices it together. -/
def addressTemplate (statefulSetName svc nameSpace clusterDomain : String) (port : Nat) : String :=
  statefulSetName ++ "-%d." ++ createDnsDomain svc nameSpace clusterDomain port

section Template

variable {statefulSetName svc nameSpace : String} (hsts : '%' ∉ statefulSetName.toList)
  (hsvc : '%' ∉ svc.toList) (hns : '%' ∉ nameSpace.toList)

include hsvc hns in
/-- The part after the ordinal has a percent sign only where the domain has one. -/
theorem percent_mem_dnsDomain (clusterDomain : String) (port : Nat) :
    '%' ∈ ("." ++ createDnsDomain svc nameSpace clusterDomain port).toList ↔
      '%' ∈ clusterDomain.toList := by
  have hport : '%' ∉ (toString port).toList := (dnsText_decimal port).notMem (by decide)
  simp only [createDnsDomain, String.toList_append, List.mem_append, hsvc, hns, hport]
  simp

/-- An address ends in its port. -/
theorem getLast?_dnsDomain (svc nameSpace clusterDomain : String) (port : Nat) :
    ("." ++ createDnsDomain svc nameSpace clusterDomain port).toList.getLast? ≠ some ')' := by
  have hport : (toString port).toList ≠ [] := by
    rw [Nat.toString_eq_repr, Nat.toList_repr]
    exact Nat.toDigits_ne_nil
  obtain ⟨ch, hlast⟩ := Option.ne_none_iff_exists'.mp (mt List.getLast?_eq_none_iff.mp hport)
  have hdigit := isDigit_of_mem_decimal (List.mem_of_getLast? hlast)
  simp only [createDnsDomain, String.toList_append, List.getLast?_append, hlast, Option.some_or]
  rintro ⟨rfl⟩
  revert hdigit
  decide

/-- The template around its directive. -/
theorem addressTemplate_eq (statefulSetName svc nameSpace clusterDomain : String) (port : Nat) :
    addressTemplate statefulSetName svc nameSpace clusterDomain port =
      statefulSetName ++ "-" ++ "%d" ++
        ("." ++ createDnsDomain svc nameSpace clusterDomain port) := by
  simp only [addressTemplate, String.append_assoc]
  rfl

/-- The address as it is written directly. -/
theorem createNetworkUrl_eq (statefulSetName svc nameSpace clusterDomain : String) (port i : Nat) :
    createNetworkUrl (ordinalName statefulSetName i) svc nameSpace clusterDomain port =
      statefulSetName ++ "-" ++ toString i ++
        ("." ++ createDnsDomain svc nameSpace clusterDomain port) := by
  simp only [createNetworkUrl, ordinalName, String.append_assoc]

/-- A template of an address has a place for the ordinal. -/
theorem renderValue_addressTemplate (statefulSetName svc nameSpace clusterDomain : String)
    (port i : Nat) :
    renderValue (addressTemplate statefulSetName svc nameSpace clusterDomain port) i =
      sprintf (addressTemplate statefulSetName svc nameSpace clusterDomain port) i := by
  refine if_pos ?_
  rw [addressTemplate_eq]
  simp only [String.toList_append]
  exact List.infix_append _ _ _

include hsts in
theorem percent_notMem_dash : '%' ∉ (statefulSetName ++ "-").toList := by
  rw [String.toList_append, List.mem_append, not_or]
  exact ⟨hsts, by decide⟩

include hsts hsvc hns

/-- Without a percent sign in the domain every ordinal gets the address that is written
directly. -/
theorem renderValue_eq_createNetworkUrl {clusterDomain : String}
    (hdomain : '%' ∉ clusterDomain.toList) (port i : Nat) :
    renderValue (addressTemplate statefulSetName svc nameSpace clusterDomain port) i =
      createNetworkUrl (ordinalName statefulSetName i) svc nameSpace clusterDomain port := by
  have hafter := mt (percent_mem_dnsDomain hsvc hns clusterDomain port).mp hdomain
  rw [renderValue_addressTemplate, addressTemplate_eq, createNetworkUrl_eq,
    sprintf_decimal (percent_notMem_dash hsts) hafter]

/-- Ordinal zero gets another address if the domain has a percent sign. -/
theorem percent_notMem_of_renderValue {clusterDomain : String} {port : Nat}
    (h : renderValue (addressTemplate statefulSetName svc nameSpace clusterDomain port) 0 =
      createNetworkUrl (ordinalName statefulSetName 0) svc nameSpace clusterDomain port) :
    '%' ∉ clusterDomain.toList := by
  rw [renderValue_addressTemplate, addressTemplate_eq, createNetworkUrl_eq,
    sprintf_decimal_zero_iff (percent_notMem_dash hsts)
      (getLast?_dnsDomain svc nameSpace clusterDomain port)] at h
  exact mt (percent_mem_dnsDomain hsvc hns clusterDomain port).mpr h

/-- The rendered properties have the addresses that are written directly as their values. -/
theorem map_value_eq_networks_iff {replicas : Int32} (hsize : 0 ≤ replicas.toInt)
    (keyTemplate clusterDomain : String) (port : Nat) :
    (∃ ps, createXmlContentByReplicas replicas keyTemplate
        (addressTemplate statefulSetName svc nameSpace clusterDomain port) = .ok ps ∧
      createNetworksByReplicates replicas statefulSetName svc nameSpace clusterDomain port =
        .ok (ps.map XmlNameValuePair.value)) ↔
      '%' ∉ clusterDomain.toList ∨ replicas = 0 := by
  simp only [createXmlContentByReplicas_eq_checkSize, createNetworksByReplicates,
    checkSize_of_nonneg hsize, Go.ok_bind]
  constructor
  · rintro ⟨ps, hps, hvalues⟩
    rw [← Except.ok.inj hps, List.map_map] at hvalues
    have hmap := Except.ok.inj hvalues
    by_cases hzero : replicas = 0
    · exact .inr hzero
    · have hpos : 0 ∈ ordinals replicas := by
        have hne : replicas.toInt ≠ 0 := fun h => hzero (Int32.toInt_inj.mp h)
        rw [ordinals, List.mem_range]
        omega
      exact .inl
        (percent_notMem_of_renderValue hsts hsvc hns (List.map_inj_left.mp hmap 0 hpos).symm)
  · intro h
    refine ⟨_, rfl, ?_⟩
    rw [List.map_map]
    refine congrArg Except.ok (List.map_inj_left.mpr fun i hi => ?_)
    rcases h with hdomain | rfl
    · exact (renderValue_eq_createNetworkUrl hsts hsvc hns hdomain port i).symm
    · exact absurd hi List.not_mem_nil

end Template

namespace NameNodeHdfsSiteXmlGenerator

/-- The values of the rendered RPC and web addresses are those that are written directly for the
stateful set, in the order of the ordinals. -/
def AddressesAgree (g : NameNodeHdfsSiteXmlGenerator) (sts : String) : Prop :=
  (∃ rpc, g.makeNameNodeRpc = .ok rpc ∧
    createNetworksByReplicates g.nameNodeReplicas sts sts g.nameSpace g.clusterDomain 8020 =
      .ok (rpc.map XmlNameValuePair.value)) ∧
  ∃ http, g.makeNameNodeHttp = .ok http ∧
    createNetworksByReplicates g.nameNodeReplicas sts sts g.nameSpace g.clusterDomain
      (if isTlsEnabled g.clusterConfig then nameNodeHttpsPort else nameNodeHttpPort) =
      .ok (http.map XmlNameValuePair.value)

/-- The RPC addresses are rendered from the template. -/
theorem makeNameNodeRpc_eq {g : NameNodeHdfsSiteXmlGenerator} {sts : String}
    (h : g.statefulSetName = .ok sts) :
    g.makeNameNodeRpc = createXmlContentByReplicas g.nameNodeReplicas
      ("dfs.namenode.rpc-address." ++ g.instanceName ++ "." ++ sts ++ "-%d")
      (addressTemplate sts sts g.nameSpace g.clusterDomain nameNodeRpcPort) := by
  simp only [makeNameNodeRpc, h, Go.ok_bind]
  rfl

/-- The web addresses are rendered from the template, with the port of the scheme. -/
theorem makeNameNodeHttp_eq {g : NameNodeHdfsSiteXmlGenerator} {sts : String}
    (h : g.statefulSetName = .ok sts) :
    g.makeNameNodeHttp = createXmlContentByReplicas g.nameNodeReplicas
      (dfsNameNodeHttpAddressHa g.clusterConfig g.instanceName sts sts g.nameSpace).2
      (addressTemplate sts sts g.nameSpace g.clusterConfig.clusterDomain
        (if isTlsEnabled g.clusterConfig then nameNodeHttpsPort else nameNodeHttpPort)) := by
  simp only [makeNameNodeHttp, h, Go.ok_bind, dfsNameNodeHttpAddressHa]
  cases isTlsEnabled g.clusterConfig <;> rfl

end NameNodeHdfsSiteXmlGenerator

/-- The rendered addresses are those that are written directly exactly when the domain has no
percent sign, or there are no replicas. -/
theorem addressesAgree_iff {instanceName groupName nameSpace : String}
    {replicas hdfsReplication : Int32} {clusterConfig : ClusterConfigSpec}
    {info : ClusterComponentsInfo} {i : ComponentInfo} (hsize : 0 ≤ replicas.toInt)
    (hgroup : info.nameNode.lookup groupName = some i)
    (hfull : DnsText i.roleGroupInfo.getFullName) (hns : DnsText nameSpace) :
    (newNameNodeHdfsSiteXmlGenerator instanceName groupName replicas nameSpace clusterConfig
        clusterConfig.clusterDomain hdfsReplication info).AddressesAgree
        i.roleGroupInfo.getFullName ↔
      '%' ∉ clusterConfig.clusterDomain.toList ∨ replicas = 0 := by
  have hsts : (newNameNodeHdfsSiteXmlGenerator instanceName groupName replicas nameSpace
      clusterConfig clusterConfig.clusterDomain hdfsReplication info).statefulSetName =
        .ok i.roleGroupInfo.getFullName := by
    simp only [statefulSetName, newNameNodeHdfsSiteXmlGenerator, hgroup, deref_some, Go.ok_bind]
    rfl
  have hpercent := hfull.notMem (c := '%') (by decide)
  have hnsPercent := hns.notMem (c := '%') (by decide)
  rw [AddressesAgree, makeNameNodeRpc_eq hsts, makeNameNodeHttp_eq hsts]
  have hagree (keyTemplate : String) (port : Nat) :=
    map_value_eq_networks_iff hpercent hpercent hnsPercent hsize keyTemplate
      clusterConfig.clusterDomain port
  exact (and_congr (hagree _ _) (hagree _ _)).trans (and_self_iff)

/-- A generator for one NameNode in a cluster with the given domain. -/
def generatorWithDomain (clusterDomain : String) : NameNodeHdfsSiteXmlGenerator :=
  newNameNodeHdfsSiteXmlGenerator "hdfs" "default" 1 "default" { clusterDomain } clusterDomain 1
    (smallRegistry [])

/-- The default domain. -/
theorem addressesAgree_defaultDomain :
    (generatorWithDomain "cluster.local").AddressesAgree "hdfs-namenode-default" :=
  (addressesAgree_iff (by decide) (smallRegistry_lookup []) (by decide) (by decide)).mpr
    (.inl (by decide))

/-- A percent sign in the domain is read as a directive. -/
theorem addressesAgree_percentDomain :
    (generatorWithDomain "cluster%local").makeNameNodeRpc =
      .ok [⟨"dfs.namenode.rpc-address.hdfs.hdfs-namenode-default-0",
        "hdfs-namenode-default-0.hdfs-namenode-default.default.svc.cluster%!l(MISSING)ocal:8020"⟩] ∧
    createNetworksByReplicates 1 "hdfs-namenode-default" "hdfs-namenode-default" "default"
        "cluster%local" 8020 =
      .ok ["hdfs-namenode-default-0.hdfs-namenode-default.default.svc.cluster%local:8020"] ∧
    ¬ (generatorWithDomain "cluster%local").AddressesAgree "hdfs-namenode-default" := by
  have hrpc : (generatorWithDomain "cluster%local").makeNameNodeRpc =
      .ok [⟨"dfs.namenode.rpc-address.hdfs.hdfs-namenode-default-0",
      "hdfs-namenode-default-0.hdfs-namenode-default.default.svc.cluster%!l(MISSING)ocal:8020"⟩] :=
    rfl
  have hdirect : createNetworksByReplicates 1 "hdfs-namenode-default" "hdfs-namenode-default"
      "default" "cluster%local" 8020 =
      .ok ["hdfs-namenode-default-0.hdfs-namenode-default.default.svc.cluster%local:8020"] :=
    rfl
  refine ⟨hrpc, hdirect, ?_⟩
  rintro ⟨⟨rpc, hok, hvalues⟩, -⟩
  rw [hrpc] at hok
  rw [← Except.ok.inj hok] at hvalues
  have hsame := Except.ok.inj (hdirect.symm.trans hvalues)
  revert hsame
  decide

end HdfsOperator
